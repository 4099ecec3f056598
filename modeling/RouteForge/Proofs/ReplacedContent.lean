import RouteForge.Proofs.Locality

/-!
What a replaced file held decides nothing but whether it can be put back. Two disks that differ only
in what some files hold give every operation the same answer, and a file that is replaced no longer
differs. The old content is read before it is replaced, so one that is no text ends the writing.
-/

namespace RouteForge

namespace Disk

def AlikeFiles (first second : Option Node) : Prop :=
  ∃ old other, first = some (.file old) ∧ second = some (.file other) ∧
    (String.fromUTF8? other).isSome = (String.fromUTF8? old).isSome

/-- Two disks with the same nodes, but for what files hold at some places. -/
structure SameBut (places : Location → Prop) (first second : Disk) : Prop where
  working : second.working = first.working
  nodes : ∀ location, second.node? location = first.node? location ∨
    places location ∧ AlikeFiles (first.node? location) (second.node? location)

namespace SameBut

variable {places : Location → Prop} {first second : Disk} (but : SameBut places first second)
include but

theorem weaken {more : Location → Prop} (subset : ∀ location, places location → more location) :
    SameBut more first second :=
  ⟨but.working, fun location => (but.nodes location).imp_right (And.imp_left (subset location))⟩

theorem place {location : Location} (named : location ≠ []) (node : Node) :
    SameBut (fun here => places here ∧ here ≠ location) (first.place location node)
      (second.place location node) := by
  refine ⟨but.working, ?_⟩
  intro here
  rw [node?_place first location named, node?_place second location named]
  by_cases same : here = location
  · simp [same]
  · simpa [same] using but.nodes here

omit but in
theorem likeness (places : Location → Prop) : Likeness (fun _ => True) (SameBut places) where
  working but := but.working
  kinds but location _ := by
    rw [SameKind]
    rcases but.nodes location with same | ⟨_, _, _, here, there, _⟩
    · simp [same]
    · simp [here, there]
  place but _ named node := (but.place named node).weaken fun _ apart => apart.1

omit but in
theorem covers (disk : Disk) (path : String) : Covers (fun _ => True) disk path :=
  fun _ _ => trivial

theorem readText (path : String) :
    (∃ error, first.readText path = .error error ∧ second.readText path = .error error) ∨
      ∃ old other, first.readText path = .ok old ∧ second.readText path = .ok other := by
  have resolves := (likeness places).resolve but (covers first path)
  simp only [Disk.readText, Disk.readFile, resolves, bind, Except.bind]
  cases first.resolve path with
  | error cause => exact Or.inl ⟨_, rfl, rfl⟩
  | ok location =>
      rcases but.nodes location with same | ⟨_, old, other, here, there, readable⟩
      · simp only [same]
        cases Except.mapError (StoreError.read path) _ with
        | error error => exact Or.inl ⟨error, rfl, rfl⟩
        | ok text => exact Or.inr ⟨text, text, rfl, rfl⟩
      · simp only [here, there]
        cases decoded : String.fromUTF8? old with
        | none =>
            have undecoded : String.fromUTF8? other = none := by simpa [decoded] using readable
            simp only [undecoded]
            exact Or.inl ⟨_, rfl, rfl⟩
        | some text =>
            obtain ⟨otherText, alsoDecoded⟩ : ∃ otherText, String.fromUTF8? other = some otherText := by
              simpa [decoded, Option.isSome_iff_exists] using readable
            simp only [alsoDecoded]
            exact Or.inr ⟨text, otherText, rfl, rfl⟩

end SameBut

end Disk

namespace Artifact

open Disk (SameBut Settled)

variable {places : Disk.Location → Prop} {first second : Disk}

theorem replaced_same (artifact : Artifact) (directory : String) (but : SameBut places first second) :
    (∃ error, artifact.replaced directory first = .error error ∧
        artifact.replaced directory second = .error error) ∨
      ∃ old other, artifact.replaced directory first = .ok old ∧
        artifact.replaced directory second = .ok other := by
  have sameThere := (SameBut.likeness places).exists? but
    (SameBut.covers first (artifact.path directory))
  simp only [replaced, sameThere]
  split
  · rcases but.readText (artifact.path directory) with
      ⟨error, here, there⟩ | ⟨old, other, here, there⟩
    · exact Or.inl ⟨error, by simp [here, Except.map], by simp [there, Except.map]⟩
    · exact Or.inr ⟨some old, some other, by simp [here, Except.map], by simp [there, Except.map]⟩
  · exact Or.inr ⟨none, none, rfl, rfl⟩

def IsReplaced (artifacts : List Artifact) (directory : String) (disk : Disk)
    (location : Disk.Location) : Prop :=
  ∃ artifact ∈ artifacts, artifact.overwrite = .always ∧
    location = disk.destination (artifact.path directory)

theorem IsReplaced.congr {artifacts : List Artifact} {directory : String} {disk after : Disk}
    (working : after.working = disk.working) {location : Disk.Location}
    (replaced : IsReplaced artifacts directory disk location) :
    IsReplaced artifacts directory after location := by
  obtain ⟨artifact, member, always, rfl⟩ := replaced
  exact ⟨artifact, member, always, (Disk.destination_of_working working _).symm⟩

section

variable {artifact : Artifact} {directory : String} {rest : List Artifact}
  (settled : Settled first (artifact.path directory))
  (but : SameBut (IsReplaced (artifact :: rest) directory first) first second)
include settled but

theorem replace_same :
    (∃ error, artifact.replace directory first = (.error error, first) ∧
        artifact.replace directory second = (.error error, second)) ∨
      ∃ result after secondAfter, artifact.replace directory first = (.ok result, after) ∧
        artifact.replace directory second = (.ok result, secondAfter) ∧
        SameBut (IsReplaced rest directory after) after secondAfter := by
  have likeness := SameBut.likeness (IsReplaced (artifact :: rest) directory first)
  have covers := SameBut.covers first (artifact.path directory)
  have wroteFile := likeness.writeFile but covers artifact.content.toByteArray
  simp only [replace, Disk.writeText_settled settled,
    Disk.writeText_settled (likeness.settled but covers settled)]
  generalize second.writeFile (artifact.path directory) artifact.content.toByteArray = other
    at wroteFile ⊢
  cases one : first.writeFile (artifact.path directory) artifact.content.toByteArray with
  | error cause =>
      rw [one] at wroteFile
      cases wroteFile
      exact Or.inl ⟨_, rfl, rfl⟩
  | ok after =>
      have working := (Disk.writeFile_keeps one).working
      rw [one] at wroteFile
      cases wroteFile with
      | placed named =>
          refine Or.inr ⟨_, _, _, rfl, rfl, (but.place named _).weaken ?_⟩
          rintro here ⟨⟨other, member, always, rfl⟩, elsewhere⟩
          rcases List.mem_cons.mp member with rfl | later
          · exact (elsewhere rfl).elim
          · exact ⟨other, later, always, (Disk.destination_of_working working _).symm⟩

theorem write_same :
    (∃ error, artifact.write directory first = (.error error, first) ∧
        artifact.write directory second = (.error error, second)) ∨
      ∃ result after secondAfter, artifact.write directory first = (.ok result, after) ∧
        artifact.write directory second = (.ok result, secondAfter) ∧
        SameBut (IsReplaced rest directory after) after secondAfter := by
  cases rule : artifact.overwrite with
  | always =>
      simp only [write, rule]
      exact replace_same settled but
  | ifMissing =>
      have sameThere := (SameBut.likeness _).exists? but
        (SameBut.covers first (artifact.path directory))
      simp only [write, rule, sameThere]
      split
      · refine Or.inr ⟨_, first, second, rfl, rfl, but.weaken ?_⟩
        rintro here ⟨other, member, always, rfl⟩
        rcases List.mem_cons.mp member with rfl | later
        · simp [rule] at always
        · exact ⟨other, later, always, rfl⟩
      · exact replace_same settled but

end

theorem writeFrom_same {artifacts : List Artifact} {directory : String}
    {undos secondUndos : List Undo}
    (settled : ∀ artifact ∈ artifacts, Settled first (artifact.path directory))
    (but : SameBut (IsReplaced artifacts directory first) first second) :
    (writeFrom directory secondUndos artifacts second).1 =
        (writeFrom directory undos artifacts first).1 ∧
      ∀ results, (writeFrom directory undos artifacts first).1 = .ok results →
        SameBut (fun _ => False) (writeFrom directory undos artifacts first).2
          (writeFrom directory secondUndos artifacts second).2 := by
  -- By induction on the artifacts: the places where the disks still differ are those that the
  -- artifacts left to write replace, so that none is left in the end.
  induction artifacts generalizing first second undos secondUndos with
  | nil =>
      refine ⟨rfl, fun _ _ => but.weaken ?_⟩
      rintro here ⟨_, impossible, _⟩
      simp at impossible
  | cons artifact rest ih =>
      rw [List.forall_mem_cons] at settled
      simp only [writeFrom]
      rcases artifact.replaced_same directory but with
        ⟨error, here, there⟩ | ⟨old, other, here, there⟩
      · simp [here, there]
      · simp only [here, there]
        rcases write_same settled.1 but with
          ⟨error, one, two⟩ | ⟨result, after, secondAfter, one, two, same⟩
        · simp [one, two]
        · have keeps := write_keeps settled.1
          rw [one] at keeps
          obtain ⟨sameResult, sameDisk⟩ := @ih after secondAfter
            (undosOf result old ++ undos) (undosOf result other ++ secondUndos)
            (fun later member => (settled.2 later member).keeps keeps) same
          simp only [one, two]
          cases finished : writeFrom directory (undosOf result old ++ undos) rest after with
          | mk outcome final =>
              cases alsoFinished : writeFrom directory (undosOf result other ++ secondUndos) rest
                  secondAfter with
              | mk secondOutcome secondFinal =>
                  rw [finished, alsoFinished] at sameResult sameDisk
                  obtain rfl : secondOutcome = outcome := sameResult
                  cases secondOutcome with
                  | error error => simp
                  | ok results => exact ⟨rfl, fun _ _ => sameDisk results rfl⟩

theorem writeAll_same (artifacts : List Artifact) (directory : String)
    (but : SameBut (IsReplaced artifacts directory first) first second) :
    (writeAll artifacts directory second).1 = (writeAll artifacts directory first).1 ∧
      ∀ results, (writeAll artifacts directory first).1 = .ok results →
        SameBut (fun _ => False) (writeAll artifacts directory first).2
          (writeAll artifacts directory second).2 := by
  have grows := prepareAll_grows directory artifacts first
  have settled := prepareAll_ok directory artifacts first
  have prepared := prepareAll_alike (SameBut.likeness _) but
    fun (artifact : Artifact) (_ : artifact ∈ artifacts) =>
      SameBut.covers first (artifact.path directory)
  simp only [writeAll]
  generalize prepareAll directory artifacts first = one at grows settled prepared ⊢
  generalize prepareAll directory artifacts second = other at prepared ⊢
  cases prepared with
  | same result butAfter =>
      cases result with
      | error error => simp
      | ok _ =>
          exact writeFrom_same (settled rfl)
            (butAfter.weaken fun _ replaced => replaced.congr grows.working)

/-! What is replaced has been read. -/

theorem text_of_recorded {artifact : Artifact} {directory : String} {disk : Disk}
    {previous : Option String} (recorded : artifact.replaced directory disk = .ok previous)
    (always : artifact.overwrite = .always)
    (there : disk.exists? (artifact.path directory) = true) {content : ByteArray}
    (found : disk.node? (disk.destination (artifact.path directory)) = some (.file content)) :
    (String.fromUTF8? content).isSome = true := by
  obtain ⟨old, wasRead⟩ : ∃ old, disk.readText (artifact.path directory) = .ok old := by
    simp only [replaced, always, there, and_self, ↓reduceIte] at recorded
    cases wasRead : disk.readText (artifact.path directory) with
    | error error => simp [wasRead, Except.map] at recorded
    | ok old => exact ⟨old, rfl⟩
  obtain ⟨read, oldContent, led, present, decoded⟩ :=
    (Disk.readFile_ok_iff disk _ old).mp ((Disk.readText_ok_iff disk _ old).mp wasRead)
  rw [Disk.resolve_destination led, found] at present
  obtain rfl : content = oldContent := by simpa using present
  simp [decoded]

theorem writeFrom_replaced_text {artifacts : List Artifact} {directory : String}
    {undos : List Undo} {disk : Disk} {results : List WriteResult}
    (settled : ∀ artifact ∈ artifacts, Settled disk (artifact.path directory))
    (written : (writeFrom directory undos artifacts disk).1 = .ok results)
    {location : Disk.Location} {content : ByteArray}
    (replaced : IsReplaced artifacts directory disk location)
    (found : disk.node? location = some (.file content)) :
    (String.fromUTF8? content).isSome = true := by
  induction artifacts generalizing undos disk results with
  | nil =>
      obtain ⟨_, impossible, _⟩ := replaced
      simp at impossible
  | cons artifact rest ih =>
      rw [List.forall_mem_cons] at settled
      rcases writeFrom_cons_cases settled.1 undos rest with
        ⟨error, stopped⟩ | ⟨previous, result, after, recorded, wrote, continued⟩
      · simp [stopped] at written
      · have keeps := write_keeps settled.1
        rw [wrote] at keeps
        obtain ⟨laterResults, laterWritten⟩ : ∃ laterResults,
            (writeFrom directory (undosOf result previous ++ undos) rest after).1 =
              .ok laterResults := by
          rw [continued] at written
          cases outcome : (writeFrom directory (undosOf result previous ++ undos) rest after).1 with
          | error error => simp [outcome, Except.map] at written
          | ok laterResults => exact ⟨laterResults, rfl⟩
        have later (stays : after.node? location = some (.file content))
            (goesOn : IsReplaced rest directory disk location) :
            (String.fromUTF8? content).isSome = true :=
          ih (fun other member => (settled.2 other member).keeps keeps) laterWritten
            (goesOn.congr keeps.working) stays
        obtain ⟨target, member, always, leads⟩ := replaced
        rcases write_cases settled.1 with
          ⟨_, failed⟩ | ⟨once, _, skipped⟩ | ⟨_, wroteFile, rule, done⟩
        · simp [failed] at wrote
        · obtain ⟨_, rfl⟩ := Prod.mk.inj (skipped.symm.trans wrote)
          rcases List.mem_cons.mp member with rfl | inRest
          · simp [once] at always
          · exact later found ⟨target, inRest, always, leads⟩
        · obtain ⟨_, rfl⟩ := Prod.mk.inj (done.symm.trans wrote)
          obtain ⟨parent, name, names, _, rfl⟩ := (Disk.writeFile_ok_iff disk _ _ _).mp wroteFile
          have placed := Disk.node?_place disk (parent ++ [name]) (by simp)
            (.file artifact.content.toByteArray)
          by_cases here : location = parent ++ [name]
          · -- The file is read now: a file that is there is only replaced by such an artifact.
            have there : disk.exists? (artifact.path directory) = true :=
              names.exists?_iff.mpr (by simp [← here, found])
            have replaces : artifact.overwrite = .always := by simpa [there] using rule
            rw [here, names.destination] at found
            exact text_of_recorded recorded replaces there found
          · have inRest : target ∈ rest := by
              rcases List.mem_cons.mp member with rfl | inRest
              · exact (here (leads.trans names.destination.symm)).elim
              · exact inRest
            exact later (by simp [placed, here, found]) ⟨target, inRest, always, leads⟩

theorem writeAll_replaced_text {artifacts : List Artifact} {directory : String} {disk : Disk}
    {results : List WriteResult} (written : (writeAll artifacts directory disk).1 = .ok results)
    {location : Disk.Location} {content : ByteArray}
    (replaced : IsReplaced artifacts directory disk location)
    (found : disk.node? location = some (.file content)) :
    (String.fromUTF8? content).isSome = true := by
  have grows := prepareAll_grows directory artifacts disk
  have settled := prepareAll_ok directory artifacts disk
  rw [writeAll] at written
  split at written
  · simp at written
  · next after ready =>
      rw [ready] at grows settled
      exact writeFrom_replaced_text (settled rfl) written (replaced.congr grows.working)
        ((grows.file_iff location id content).mpr found)

/-- Where two disks differ only in what replaced files hold, artifacts are written from both or from
neither if those files are text in both or in neither; and if they are written from both, the same
is there in the end. -/
theorem writeAll_of_replaced_content (artifacts : List Artifact) (directory : String)
    (first second : Disk) (working : second.working = first.working)
    (nodes : ∀ location, second.node? location = first.node? location ∨
      IsReplaced artifacts directory first location ∧
        ∃ old other, first.node? location = some (.file old) ∧
          second.node? location = some (.file other)) :
    ((∀ location old other, IsReplaced artifacts directory first location →
          first.node? location = some (.file old) → second.node? location = some (.file other) →
            ((String.fromUTF8? other).isSome = true ↔ (String.fromUTF8? old).isSome = true)) →
        (writeAll artifacts directory second).1 = (writeAll artifacts directory first).1) ∧
      ∀ results secondResults, (writeAll artifacts directory first).1 = .ok results →
        (writeAll artifacts directory second).1 = .ok secondResults →
          secondResults = results ∧
          (writeAll artifacts directory second).2.working =
            (writeAll artifacts directory first).2.working ∧
          ∀ location, (writeAll artifacts directory second).2.node? location =
            (writeAll artifacts directory first).2.node? location := by
  have alike (readable : ∀ location old other, IsReplaced artifacts directory first location →
      first.node? location = some (.file old) → second.node? location = some (.file other) →
        ((String.fromUTF8? other).isSome = true ↔ (String.fromUTF8? old).isSome = true)) :
      SameBut (IsReplaced artifacts directory first) first second := by
    refine ⟨working, fun location => (nodes location).imp_right ?_⟩
    rintro ⟨replaced, old, other, here, there⟩
    exact ⟨replaced, old, other, here, there,
      Bool.eq_iff_iff.mpr (readable location old other replaced here there)⟩
  refine ⟨fun readable => (writeAll_same artifacts directory (alike readable)).1, ?_⟩
  intro results secondResults written secondWritten
  have but := alike fun location old other replaced here there =>
    iff_of_true (writeAll_replaced_text secondWritten (replaced.congr working) there)
      (writeAll_replaced_text written replaced here)
  obtain ⟨sameResult, sameDisk⟩ := writeAll_same artifacts directory but
  have same := sameDisk results written
  refine ⟨?_, same.working, fun location => (same.nodes location).resolve_right And.left⟩
  exact Except.ok.inj (secondWritten.symm.trans (sameResult.trans written))

theorem writeAll_of_replaced_content_beside_stub :
    let first : Disk :=
      ⟨[([['d']], .directory), ([['d'], ['a']], .file "old".toByteArray),
        ([['d'], ['b']], .file "mine".toByteArray)], []⟩
    let second := first.place [['d'], ['a']] (.file "other".toByteArray)
    let artifacts : List Artifact :=
      [⟨"a", "new", .always⟩, ⟨"b", "stub", .ifMissing⟩, ⟨"./a", "newer", .always⟩]
    (writeAll artifacts "d" first).1 = .ok [.written "d/a", .skipped "d/b", .written "d/./a"] ∧
      (writeAll artifacts "d" second).1 = (writeAll artifacts "d" first).1 ∧
      ∀ location, (writeAll artifacts "d" second).2.node? location =
        (writeAll artifacts "d" first).2.node? location := by
  intro first second artifacts
  have placed := Disk.node?_place first [['d'], ['a']] (by simp) (.file "other".toByteArray)
  have replaced : IsReplaced artifacts "d" first [['d'], ['a']] :=
    ⟨⟨"a", "new", .always⟩, by simp [artifacts], rfl, by rfl⟩
  have writes (disk : Disk) (same : disk = first ∨ disk = second) :
      (writeAll artifacts "d" disk).1 = .ok [.written "d/a", .skipped "d/b", .written "d/./a"] := by
    rcases same with rfl | rfl <;> rfl
  have law := writeAll_of_replaced_content artifacts "d" first second rfl fun location => by
    by_cases here : location = [['d'], ['a']]
    · subst here
      exact Or.inr ⟨replaced, "old".toByteArray, "other".toByteArray, rfl, rfl⟩
    · exact Or.inl (by simp [second, placed, here])
  have one := writes first (Or.inl rfl)
  have other := writes second (Or.inr rfl)
  exact ⟨one, other.trans one.symm, (law.2 _ _ one other).2.2⟩

/-- Bytes that are no text keep a file from being replaced. -/
theorem writeAll_of_unreadable_content :
    let first : Disk := ⟨[([['a']], .file "old".toByteArray)], []⟩
    let second := first.place [['a']] (.file ⟨#[0xff]⟩)
    let artifacts : List Artifact := [⟨"a", "new", .always⟩]
    (∀ location, location ≠ [['a']] → second.node? location = first.node? location) ∧
      IsReplaced artifacts "" first [['a']] ∧
      (writeAll artifacts "" first).1 = .ok [.written "a"] ∧
      (writeAll artifacts "" second).1 = .error (.read "a" .notText) := by
  intro first second artifacts
  have placed := Disk.node?_place first [['a']] (by simp) (.file ⟨#[0xff]⟩)
  refine ⟨fun location elsewhere => by simp [second, placed, elsewhere], ?_, by rfl, by rfl⟩
  exact ⟨⟨"a", "new", .always⟩, by simp [artifacts], rfl, by rfl⟩

end Artifact

end RouteForge
