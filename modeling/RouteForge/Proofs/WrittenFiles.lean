import Mathlib.Data.List.Forall2
import RouteForge.Proofs.ModuleRuns

/-!
What the files hold when artifacts have been written as one. A file that was written has the content
of its artifact, as long as no other artifact leads to the same place; a file that was skipped is
one that is created once, and it is the file that was there before.
-/

namespace RouteForge

open Disk (Settled Keeps Changes)

namespace Disk

theorem fromUTF8?_toByteArray (text : String) :
    String.fromUTF8? text.toByteArray = some text := by
  unfold String.fromUTF8?
  split
  · rfl
  · next invalid => exact (invalid text.isValidUTF8).elim

theorem readFile_writeFile {disk after : Disk} {path text : String}
    (wrote : disk.writeFile path text.toByteArray = .ok after) : after.readFile path = .ok text := by
  have keeps := writeFile_keeps wrote
  obtain ⟨directory, name, names, _, rfl⟩ := (writeFile_ok_iff disk after path _).mp wrote
  have placed := node?_place disk (directory ++ [name]) (by simp) (.file text.toByteArray)
  refine (readFile_ok_iff _ path text).mpr ⟨directory ++ [name], text.toByteArray, ?_,
    by simp [placed], fromUTF8?_toByteArray text⟩
  exact ((keeps.names names).resolve_ok_iff _).mpr ⟨rfl, by simp [placed], by simp⟩

theorem Changes.readFile {before after : Disk} {made written : Location → Prop}
    (changes : Changes before after made written) {path text : String}
    (wasRead : before.readFile path = .ok text) (notWritten : ¬written (before.destination path)) :
    after.readFile path = .ok text := by
  obtain ⟨location, content, led, found, decoded⟩ := (readFile_ok_iff before path text).mp wasRead
  rw [← resolve_destination led] at notWritten
  refine (readFile_ok_iff after path text).mpr ⟨location, content, changes.keeps.resolve led, ?_,
    decoded⟩
  exact (changes.file_iff location notWritten content).mpr found

theorem enter_of_directories {before after : Disk}
    (directories : ∀ location, after.node? location = some .directory →
      before.node? location = some .directory)
    {location final : Location} {pieces : List Path.Piece}
    (entered : after.enter location pieces = .ok final) :
    before.enter location pieces = .ok final := by
  have passed := enter_trail entered
  induction pieces generalizing location with
  | nil =>
      rw [enter_ok_iff] at entered ⊢
      exact ⟨entered.1, directories final entered.2⟩
  | cons piece rest ih =>
      rw [trailFrom, List.forall_mem_cons] at passed
      rw [enter_cons] at entered ⊢
      cases stepped : after.step location piece with
      | error cause => simp [stepped, Except.bind] at entered
      | ok next =>
          obtain ⟨here, rfl, short⟩ := (step_ok_iff after location next piece).mp stepped
          have there : before.node? (Disk.passed location piece) = some .directory :=
            directories _ (passed.2 _ ((mem_trailFrom_iff _ _ _).mpr ⟨[], List.nil_prefix, rfl⟩))
          have steppedBefore : before.step location piece = .ok (Disk.passed location piece) :=
            (step_ok_iff before location _ piece).mpr
              ⟨directories location here, rfl, fun named => ⟨(short named).1, by simp [there]⟩⟩
          rw [stepped] at entered
          rw [steppedBefore]
          exact ih entered passed.2

theorem isDirectory_of_directories {before after : Disk} (working : after.working = before.working)
    (directories : ∀ location, after.node? location = some .directory →
      before.node? location = some .directory)
    {path : String} (there : after.isDirectory path = true) : before.isDirectory path = true := by
  obtain ⟨location, led, found⟩ := (isDirectory_iff after path).mp there
  have checked := ((resolve_ok_iff after path location).mp led).1
  obtain ⟨final, entered⟩ := (isDirectory_iff_enter after checked).mp there
  have same : after.origin path.toList = before.origin path.toList := by simp [origin, working]
  rw [same] at entered
  exact (isDirectory_iff_enter before checked).mpr
    ⟨final, enter_of_directories directories entered⟩

theorem Changes.directories {before after : Disk} {written : Location → Prop}
    (changes : Changes before after (fun _ => False) written) (location : Location)
    (found : after.node? location = some .directory) : before.node? location = some .directory := by
  rcases changes.nodes location with same | ⟨_, _, impossible⟩ | ⟨_, _, content, isFile⟩
  · exact same ▸ found
  · exact impossible.elim
  · simp [isFile] at found

theorem file_of_exists {disk : Disk} {path : String} {before : List Path.Piece} {name : Path.Piece}
    (ends : Path.EndsIn path before name) (there : disk.exists? path = true)
    (notDirectory : disk.isDirectory path = false) :
    ∃ content, disk.resolve path = .ok (disk.destination path) ∧
      disk.node? (disk.destination path) = some (.file content) := by
  obtain ⟨location, led⟩ := (exists?_iff disk path).mp there
  obtain rfl := resolve_destination led
  have followed := ((resolve_ok_iff disk path _).mp led).2
  rw [ends.pieces, follow_append_ok_iff] at followed
  obtain ⟨middle, _, last⟩ := followed
  obtain ⟨next, stepped, stays⟩ := (follow_cons_ok_iff disk middle _ name []).mp last
  obtain rfl := (follow_nil_ok_iff disk next _).mp stays
  have present := (((step_ok_iff disk middle _ name).mp stepped).2.2 ends.named).2
  cases found : disk.node? (disk.destination path) with
  | none => exact (present found).elim
  | some node =>
      cases node with
      | file content => exact ⟨content, led, rfl⟩
      | directory =>
          have isThere := (isDirectory_iff disk path).mpr ⟨_, led, found⟩
          simp [notDirectory] at isThere

theorem Changes.file_of_exists {before after : Disk} {written : Location → Prop}
    (changes : Changes before after (fun _ => False) written) {path : String}
    {parts : List Path.Piece} {name : Path.Piece} (ends : Path.EndsIn path parts name)
    (there : after.exists? path = true) (free : before.isDirectory path = false) :
    ∃ content, after.resolve path = .ok (after.destination path) ∧
      after.node? (after.destination path) = some (.file content) := by
  refine Disk.file_of_exists ends there ?_
  rw [Bool.eq_false_iff]
  intro isThere
  simp [isDirectory_of_directories changes.working changes.directories isThere] at free

end Disk

namespace Artifact

/-- What a result tells of an artifact's file, written between two disks. -/
inductive Placed (artifact : Artifact) (directory : String) (before after : Disk) :
    WriteResult → Prop
  | written (holds : after.readFile (artifact.path directory) = .ok artifact.content) :
      Placed artifact directory before after (.written (artifact.path directory))
  | skipped (once : artifact.overwrite = .ifMissing)
      (there : after.exists? (artifact.path directory) = true)
      (same : after.node? (before.destination (artifact.path directory)) =
        before.node? (before.destination (artifact.path directory))) :
      Placed artifact directory before after (.skipped (artifact.path directory))

theorem write_placed {artifact : Artifact} {directory : String} {disk after : Disk}
    {result : WriteResult} (settled : Settled disk (artifact.path directory))
    (wrote : artifact.write directory disk = (.ok result, after)) :
    Placed artifact directory disk after result := by
  rcases write_cases settled with ⟨_, failed⟩ | ⟨once, there, skipped⟩ | ⟨_, wroteFile, _, written⟩
  · simp [failed] at wrote
  · rw [skipped] at wrote
    obtain ⟨rfl, rfl⟩ : WriteResult.skipped (artifact.path directory) = result ∧ disk = after := by
      simpa using wrote
    exact .skipped once there rfl
  · rw [written] at wrote
    obtain ⟨rfl, rfl⟩ : WriteResult.written (artifact.path directory) = result ∧ _ = after := by
      simpa using wrote
    exact .written (Disk.readFile_writeFile wroteFile)

section

variable {artifact : Artifact} {directory : String} {result : WriteResult} {before middle after : Disk}
  {written : Disk.Location → Prop}

theorem Placed.later (placed : Placed artifact directory before middle result)
    (changes : Changes middle after (fun _ => False) written)
    (working : middle.working = before.working)
    (untouched : ¬written (before.destination (artifact.path directory))) :
    Placed artifact directory before after result := by
  cases placed with
  | written holds =>
      rw [← Disk.destination_of_working working] at untouched
      exact .written (changes.readFile holds untouched)
  | skipped once there same =>
      obtain ⟨location, led⟩ := (Disk.exists?_iff middle _).mp there
      refine .skipped once ((Disk.exists?_iff after _).mpr ⟨location, changes.keeps.resolve led⟩) ?_
      rcases changes.nodes (before.destination (artifact.path directory)) with
        kept | ⟨_, _, impossible⟩ | ⟨_, touched, _⟩
      · exact kept.trans same
      · exact impossible.elim
      · exact (untouched touched).elim

theorem Placed.earlier (placed : Placed artifact directory middle after result)
    (changes : Changes before middle (fun _ => False) written)
    (untouched : ¬written (before.destination (artifact.path directory))) :
    Placed artifact directory before after result := by
  cases placed with
  | written holds => exact .written holds
  | skipped once there same =>
      rw [Disk.destination_of_working changes.working] at same
      refine .skipped once there (same.trans ?_)
      rcases changes.nodes (before.destination (artifact.path directory)) with
        kept | ⟨_, _, impossible⟩ | ⟨_, touched, _⟩
      · exact kept
      · exact impossible.elim
      · exact (untouched touched).elim

end

/-- Artifacts that lead to different places do not get in one another's way. -/
theorem writeFrom_placed {directory : String} {undos : List Undo} {artifacts : List Artifact}
    {disk : Disk} {results : List WriteResult}
    (settled : ∀ artifact ∈ artifacts, Settled disk (artifact.path directory))
    (apart : (artifacts.map fun artifact => disk.destination (artifact.path directory)).Nodup)
    (written : (writeFrom directory undos artifacts disk).1 = .ok results) :
    List.Forall₂ (fun artifact => Placed artifact directory disk
      (writeFrom directory undos artifacts disk).2) artifacts results := by
  induction artifacts generalizing undos disk results with
  | nil =>
      obtain rfl : [] = results := by simpa [writeFrom] using written
      exact .nil
  | cons artifact rest ih =>
      rw [List.forall_mem_cons] at settled
      rw [List.map_cons, List.nodup_cons, List.mem_map] at apart
      rcases writeFrom_cons_cases settled.1 undos rest with
        ⟨_, stopped⟩ | ⟨previous, result, after, _, wrote, continued⟩
      · simp [stopped] at written
      · have first := write_changes settled.1
        rw [wrote] at first
        rw [continued] at written ⊢
        have settledAfter (other : Artifact) (member : other ∈ rest) :
            Settled after (other.path directory) := (settled.2 other member).keeps first.keeps
        obtain ⟨others, done, rfl⟩ : ∃ others,
            (writeFrom directory (undosOf result previous ++ undos) rest after).1 = .ok others ∧
              result :: others = results := by
          cases outcome : (writeFrom directory (undosOf result previous ++ undos) rest after).1 <;>
            simp_all [Except.map]
        have later := writeFrom_changes settledAfter done
        have samePlace := Disk.destination_of_working first.working
        have placed := ih settledAfter (by simpa only [samePlace] using apart.2) done
        refine .cons ((write_placed settled.1 wrote).later later first.working ?_) ?_
        · rintro ⟨other, member, led⟩
          refine apart.1 ⟨other, member, ?_⟩
          rw [Disk.resolve_destination led, Disk.destination_of_working later.working, samePlace]
        · have untouched : ∀ other ∈ rest, ¬after.resolve (artifact.path directory) =
              .ok (disk.destination (other.path directory)) := by
            intro other member led
            refine apart.1 ⟨other, member, ?_⟩
            rw [Disk.resolve_destination led, samePlace]
          refine ((List.forall₂_and_left _ _).mpr ⟨untouched, placed⟩).imp ?_
          exact fun other result apart => apart.2.earlier first apart.1

/-! Files directly in one directory: what is prepared for the first is prepared for all. -/

theorem settled_sibling {disk : Disk} {directory first second : String}
    (firstNamed : Disk.isName first.toList = true) (firstWhole : '/' ∉ first.toList)
    (secondNamed : Disk.isName second.toList = true) (secondWhole : '/' ∉ second.toList)
    (settled : Settled disk (Path.join directory first)) :
    Settled disk (Path.join directory second) := by
  obtain ⟨before, endsIn⟩ := Path.endsIn_join_name directory
  intro parent found
  refine settled parent ?_
  rw [← found]
  exact (endsIn first firstNamed firstWhole).parent?_congr (endsIn second secondNamed secondWhole)

theorem prepareAll_settled {directory : String} {artifacts : List Artifact} {disk : Disk}
    (settled : ∀ artifact ∈ artifacts, Settled disk (artifact.path directory))
    (ok : (prepareAll directory artifacts disk).1 = .ok ()) :
    (prepareAll directory artifacts disk).2 = disk ∧
      ∀ artifact ∈ artifacts, disk.isDirectory (artifact.path directory) = false := by
  induction artifacts with
  | nil =>
      rw [prepareAll_nil]
      exact ⟨rfl, by simp⟩
  | cons artifact rest ih =>
      rw [List.forall_mem_cons] at settled ⊢
      rw [prepareAll_cons] at ok ⊢
      cases there : disk.isDirectory (artifact.path directory) with
      | true => simp [prepare, there] at ok
      | false =>
          have prepared : artifact.prepare directory disk = (.ok (), disk) := by
            simp [prepare, there, settled.1.ensureParent]
          rw [prepared] at ok ⊢
          obtain ⟨same, free⟩ := ih settled.2 ok
          exact ⟨same, rfl, free⟩

theorem prepareAll_free {directory : String} {artifact : Artifact} {rest : List Artifact}
    {disk : Disk}
    (named : ∀ sibling ∈ artifact :: rest,
      Disk.isName sibling.name.toList = true ∧ '/' ∉ sibling.name.toList)
    (ok : (prepareAll directory (artifact :: rest) disk).1 = .ok ()) :
    ∀ sibling ∈ rest,
      (prepareAll directory (artifact :: rest) disk).2.isDirectory (sibling.path directory) =
        false := by
  have settled := prepare_ok artifact directory disk
  rw [prepareAll_cons] at ok ⊢
  cases prepared : artifact.prepare directory disk with
  | mk result middle =>
      rw [prepared] at ok settled
      cases result with
      | error error => simp at ok
      | ok _ =>
          rw [List.forall_mem_cons] at named
          have settledRest (sibling : Artifact) (member : sibling ∈ rest) :
              Settled middle (sibling.path directory) :=
            settled_sibling named.1.1 named.1.2 (named.2 sibling member).1
              (named.2 sibling member).2 (settled rfl)
          obtain ⟨same, free⟩ := prepareAll_settled settledRest ok
          simp only [same]
          exact free

theorem writeAll_placed {artifacts : List Artifact} {directory : String} {disk after : Disk}
    {results : List WriteResult}
    (apart : (artifacts.map fun artifact => disk.destination (artifact.path directory)).Nodup)
    (wrote : writeAll artifacts directory disk = (.ok results, after)) :
    ∃ prepared, prepareAll directory artifacts disk = (.ok (), prepared) ∧
      Changes prepared after (fun _ => False) (Targeted artifacts directory after) ∧
      List.Forall₂ (fun artifact => Placed artifact directory prepared after) artifacts results := by
  have settled := prepareAll_ok directory artifacts disk
  have kept := (prepareAll_grows directory artifacts disk).working
  rw [writeAll] at wrote
  cases ready : prepareAll directory artifacts disk with
  | mk result prepared =>
      rw [ready] at settled kept wrote
      cases result with
      | error error => simp at wrote
      | ok _ =>
          have done : (writeFrom directory [] artifacts prepared).1 = .ok results := by
            rw [show writeFrom directory [] artifacts prepared = (.ok results, after) from wrote]
          have changes := writeFrom_changes (settled rfl) done
          have placed := writeFrom_placed (settled rfl)
            (by simpa only [Disk.destination_of_working kept] using apart) done
          rw [show writeFrom directory [] artifacts prepared = (.ok results, after) from wrote]
            at changes placed
          exact ⟨prepared, rfl, changes, placed⟩

end Artifact

end RouteForge
