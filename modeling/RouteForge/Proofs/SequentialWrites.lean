import RouteForge.Proofs.MissingDirectories
import RouteForge.Proofs.RepeatedFailures

/-!
Writing artifacts as one beside writing them one after the other. The one makes all directories
first, the other each when it is needed, so that on the way the second lacks some of them. What is
written is the same as long as no directory comes to stand where an artifact belongs that is created
once.
-/

namespace RouteForge

open Disk (Settled Keeps Changes Grows IsTree)

namespace Artifact

/-- Writes artifacts in turn, each with its directory, up to the first that fails. -/
def writeEach (directory : String) :
    List Artifact → Disk → Except StoreError (List WriteResult) × Disk
  | [], disk => (.ok [], disk)
  | artifact :: rest, disk =>
      match artifact.write directory disk with
      | (.error error, after) => (.error error, after)
      | (.ok result, after) =>
          match writeEach directory rest after with
          | (.error error, final) => (.error error, final)
          | (.ok results, final) => (.ok (result :: results), final)

theorem writeEach_cons_ok_iff (directory : String) (artifact : Artifact) (rest : List Artifact)
    (disk after : Disk) (results : List WriteResult) :
    writeEach directory (artifact :: rest) disk = (.ok results, after) ↔
      ∃ result others middle, artifact.write directory disk = (.ok result, middle) ∧
        writeEach directory rest middle = (.ok others, after) ∧ results = result :: others := by
  rw [writeEach]
  cases wrote : artifact.write directory disk with
  | mk outcome middle =>
      cases outcome with
      | error error => simp
      | ok result =>
          cases continued : writeEach directory rest middle with
          | mk later final => cases later <;> grind

theorem write_keeps_all (artifact : Artifact) (directory : String) (disk : Disk) :
    Keeps disk (artifact.write directory disk).2 := by
  have replaces := (artifact.replace_spares directory disk).keeps
  simp only [write]
  split
  · exact replaces
  · split
    · exact Keeps.refl disk
    · exact replaces

theorem writeEach_keeps (directory : String) (artifacts : List Artifact) (disk : Disk) :
    Keeps disk (writeEach directory artifacts disk).2 := by
  fun_induction writeEach directory artifacts disk with
  | case1 disk => exact Keeps.refl disk
  | case2 artifact rest disk error after wrote =>
      have first := artifact.write_keeps_all directory disk
      rwa [wrote] at first
  | case3 artifact rest disk result after wrote error final continued ih
  | case4 artifact rest disk result after wrote results final continued ih =>
      have first := artifact.write_keeps_all directory disk
      rw [wrote] at first
      rw [continued] at ih
      exact first.trans ih

/-! Both ways of writing, taken apart. -/

section

variable {directory : String} {artifact : Artifact} {rest : List Artifact} {disk after : Disk}

theorem prepareAll_cons_ok {done : Disk}
    (prepared : prepareAll directory (artifact :: rest) disk = (.ok (), done)) :
    ∃ next, artifact.prepare directory disk = (.ok (), next) ∧
      prepareAll directory rest next = (.ok (), done) := by
  rw [prepareAll_cons] at prepared
  split at prepared
  · simp at prepared
  · next next first => exact ⟨next, first, prepared⟩

theorem writeFrom_cons_ok {undos : List Undo} {results : List WriteResult}
    (settled : Settled disk (artifact.path directory))
    (written : writeFrom directory undos (artifact :: rest) disk = (.ok results, after)) :
    ∃ result others middle previous, artifact.write directory disk = (.ok result, middle) ∧
      writeFrom directory (undosOf result previous ++ undos) rest middle = (.ok others, after) ∧
      results = result :: others := by
  rcases writeFrom_cons_cases settled undos rest with
    ⟨_, stopped⟩ | ⟨previous, result, middle, _, wrote, continued⟩
  · simp [stopped] at written
  · refine ⟨result, ?_⟩
    rw [continued] at written
    obtain ⟨outcome, rfl⟩ := Prod.mk.inj written
    cases later : (writeFrom directory (undosOf result previous ++ undos) rest middle).1 with
    | error error => simp [later, Except.map] at outcome
    | ok others =>
        refine ⟨others, middle, previous, wrote, Prod.ext later rfl, ?_⟩
        simpa [later, Except.map, eq_comm] using outcome

end

/-! Where the loop stands, beside the artifacts that are written as one. -/

/-- The loop is behind the other way by directories that are still to be made, and has made none
that is not ready by then. -/
structure Lags (ready behind ahead : Disk) : Prop where
  tree : behind.IsTree
  readyTree : ready.IsTree
  working : ready.working = behind.working
  grows : Grows behind ahead fun _ => True
  directories : ∀ location, behind.node? location = some .directory →
    ready.node? location = some .directory

section

variable {directory : String} {artifact : Artifact} {ready next behind ahead after : Disk}
  {result : WriteResult} (lags : Lags ready behind ahead)
  (level : Path.Component.parent ∉ Path.components (artifact.path directory))
  (settled : Settled ahead (artifact.path directory))
  (prepares : artifact.prepare directory ready = (.ok (), next))
include lags

theorem Lags.exists_ahead {path : String} (there : behind.exists? path = true) :
    ahead.exists? path = true := by
  obtain ⟨location, led⟩ := (Disk.exists?_iff behind path).mp there
  exact (Disk.exists?_iff ahead path).mpr ⟨location, lags.grows.keeps.resolve led⟩

theorem Lags.isDirectory_behind {path : String} (there : behind.exists? path = true)
    (isDirectory : ahead.isDirectory path = true) : behind.isDirectory path = true := by
  obtain ⟨location, led⟩ := (Disk.exists?_iff behind path).mp there
  obtain ⟨same, ledAhead, found⟩ := (Disk.isDirectory_iff ahead path).mp isDirectory
  obtain rfl : location = same := Except.ok.inj ((lags.grows.keeps.resolve led).symm.trans ledAhead)
  refine (Disk.isDirectory_iff behind path).mpr ⟨location, led, ?_⟩
  rcases lags.grows.nodes location with same | ⟨missing, _⟩ | ⟨_, impossible, _⟩
  · exact same ▸ found
  · exact (lags.tree.present led missing).elim
  · exact impossible.elim

include prepares

theorem Lags.prepare : next.IsTree ∧ Keeps ready next ∧ Settled next (artifact.path directory) ∧
    ready.isDirectory (artifact.path directory) = false := by
  have tree := prepare_tree lags.readyTree artifact directory
  have keeps := (prepare_grows artifact directory ready).keeps
  have settled := prepare_ok artifact directory ready
  rw [prepares] at tree keeps settled
  refine ⟨tree, keeps, settled rfl, ?_⟩
  rw [Bool.eq_false_iff]
  intro there
  simp [Artifact.prepare, there] at prepares

include settled

theorem Lags.free {later : Disk} (wrote : artifact.write directory ahead = (.ok result, after))
    (each : artifact.write directory behind = (.ok result, later)) :
    ahead.isDirectory (artifact.path directory) = false := by
  obtain ⟨_, _, _, notReady⟩ := lags.prepare prepares
  rw [Bool.eq_false_iff]
  intro there
  rcases write_cases settled with
    ⟨_, failed⟩ | ⟨once, _, skipped⟩ | ⟨written, wroteFile, _, _⟩
  · simp [failed] at wrote
  · obtain ⟨rfl, rfl⟩ : WriteResult.skipped (artifact.path directory) = result ∧ ahead = after := by
      simpa [skipped] using wrote
    cases present : behind.exists? (artifact.path directory) with
    | true =>
        have was := Disk.isDirectory_of_directories lags.working.symm lags.directories
          (lags.isDirectory_behind present there)
        simp [notReady] at was
    | false =>
        simp only [Artifact.write, once, present, replace, Bool.false_eq_true, ↓reduceIte] at each
        split at each <;> simp at each
  · obtain ⟨parent, name, names, notDirectory, _⟩ :=
      (Disk.writeFile_ok_iff ahead written _ _).mp wroteFile
    rw [names.destination] at notDirectory
    exact notDirectory (names.isDirectory_iff.mp there)

include level

theorem Lags.write (free : ahead.isDirectory (artifact.path directory) = false)
    (wrote : artifact.write directory ahead = (.ok result, after)) :
    ∃ later, artifact.write directory behind = (.ok result, later) ∧ Lags next later after := by
  obtain ⟨nextTree, nextKeeps, nextSettled, _⟩ := lags.prepare prepares
  have nextWorking : next.working = behind.working := nextKeeps.working.trans lags.working
  rcases write_cases settled with
    ⟨_, failed⟩ | ⟨once, there, skipped⟩ | ⟨written, wroteFile, rule, done⟩
  · simp [failed] at wrote
  · obtain ⟨rfl, rfl⟩ : WriteResult.skipped (artifact.path directory) = result ∧ ahead = after := by
      simpa [skipped] using wrote
    obtain ⟨location, led⟩ := (Disk.exists?_iff ahead _).mp there
    have ledBehind := Disk.resolve_behind lags.tree lags.grows level led
      (Disk.ne_directory_of_resolve led free)
    have present := (Disk.exists?_iff behind _).mpr ⟨location, ledBehind⟩
    refine ⟨behind, by simp [Artifact.write, once, present], lags.tree, nextTree, nextWorking,
      lags.grows, fun location found => ?_⟩
    exact nextKeeps.directory location (lags.directories location found)
  · obtain ⟨rfl, rfl⟩ : WriteResult.written (artifact.path directory) = result ∧ written = after := by
      simpa [done] using wrote
    obtain ⟨made, later, ensured, wroteLater, grows⟩ :=
      Disk.writeFile_behind lags.tree lags.grows settled wroteFile
    have madeTree := Disk.ensureParent_tree lags.tree (artifact.path directory)
    have madeDirectories := @Disk.ensureParent_made behind next nextWorking _ nextSettled
    have madeWorking := (Disk.ensureParent_grows behind (artifact.path directory)).working
    rw [ensured] at madeTree madeDirectories madeWorking
    have changes := Disk.writeFile_changes wroteLater
    have ruleBehind : artifact.overwrite = .always ∨
        behind.exists? (artifact.path directory) = false := by
      refine rule.imp_right fun missing => ?_
      rw [Bool.eq_false_iff]
      intro there
      simp [lags.exists_ahead there] at missing
    have writes : artifact.write directory behind =
        (.ok (.written (artifact.path directory)), later) := by
      rw [write_eq_replace ruleBehind]
      simp [replace, Disk.writeText, ensured, wroteLater]
    refine ⟨later, writes, Disk.writeFile_tree madeTree wroteLater, nextTree, ?_,
      grows, fun location found => ?_⟩
    · rw [changes.working, madeWorking, nextWorking]
    · rcases madeDirectories (changes.directories location found) with was | is
      · exact nextKeeps.directory location (lags.directories location was)
      · exact is

end

section

variable {directory : String} {artifacts : List Artifact} {undos : List Undo}
  {ready done behind ahead after : Disk} {results : List WriteResult}
  (lags : Lags ready behind ahead)
  (level : ∀ artifact ∈ artifacts,
    Path.Component.parent ∉ Path.components (artifact.path directory))
  (settled : ∀ artifact ∈ artifacts, Settled ahead (artifact.path directory))
  (prepared : prepareAll directory artifacts ready = (.ok (), done))
  (written : writeFrom directory undos artifacts ahead = (.ok results, after))
include lags level settled prepared written

theorem writeEach_lags
    (free : ∀ artifact ∈ artifacts, after.isDirectory (artifact.path directory) = false) :
    ∃ final, writeEach directory artifacts behind = (.ok results, final) ∧
      Lags done final after := by
  -- By induction on the artifacts: where no directory is in the way in the end, none is on the way,
  -- and the loop goes on as far behind.
  induction artifacts generalizing undos ready behind ahead results with
  | nil =>
      obtain ⟨rfl, rfl⟩ : [] = results ∧ ahead = after := by simpa [writeFrom] using written
      obtain rfl : ready = done := by simpa [prepareAll_nil] using prepared
      exact ⟨behind, rfl, lags⟩
  | cons artifact rest ih =>
      have changes := writeFrom_changes settled (congrArg Prod.fst written)
      rw [written] at changes
      rw [List.forall_mem_cons] at level settled free
      obtain ⟨next, prepares, preparedRest⟩ := prepareAll_cons_ok prepared
      obtain ⟨result, others, middle, previous, wrote, continued, rfl⟩ :=
        writeFrom_cons_ok settled.1 written
      have freeHere : ahead.isDirectory (artifact.path directory) = false := by
        rw [Bool.eq_false_iff]
        intro there
        simp [changes.keeps.isDirectory there] at free
      obtain ⟨later, wroteLater, goesOn⟩ := lags.write level.1 settled.1 prepares freeHere wrote
      have keeps := write_keeps settled.1
      rw [wrote] at keeps
      obtain ⟨final, wroteRest, ends⟩ := ih goesOn level.2
        (fun other member => (settled.2 other member).keeps keeps) preparedRest continued free.2
      exact ⟨final, (writeEach_cons_ok_iff ..).mpr
        ⟨result, others, later, wroteLater, wroteRest, rfl⟩, ends⟩

theorem free_of_writeEach {final : Disk}
    (each : writeEach directory artifacts behind = (.ok results, final)) :
    ∀ artifact ∈ artifacts, after.isDirectory (artifact.path directory) = false := by
  -- By induction on the artifacts: a directory in the way of one of them is skipped, while the loop
  -- has not made it yet.
  induction artifacts generalizing undos ready behind ahead results with
  | nil => simp
  | cons artifact rest ih =>
      have changes := writeFrom_changes settled (congrArg Prod.fst written)
      rw [written] at changes
      rw [List.forall_mem_cons] at level settled ⊢
      obtain ⟨next, prepares, preparedRest⟩ := prepareAll_cons_ok prepared
      obtain ⟨result, others, middle, previous, wrote, continued, rfl⟩ :=
        writeFrom_cons_ok settled.1 written
      obtain ⟨sameResult, sameOthers, later, wroteEach, continuedEach, same⟩ :=
        (writeEach_cons_ok_iff ..).mp each
      obtain ⟨rfl, rfl⟩ := List.cons.inj same
      have freeHere := lags.free settled.1 prepares wrote wroteEach
      obtain ⟨reached, wroteLater, goesOn⟩ := lags.write level.1 settled.1 prepares freeHere wrote
      obtain ⟨_, rfl⟩ := Prod.mk.inj (wroteEach.symm.trans wroteLater)
      have keeps := write_keeps settled.1
      rw [wrote] at keeps
      refine ⟨?_, ih goesOn level.2 (fun other member => (settled.2 other member).keeps keeps)
        preparedRest continued continuedEach⟩
      rw [Bool.eq_false_iff]
      intro there
      have was := Disk.isDirectory_of_directories changes.working changes.directories there
      simp [freeHere] at was

end

/-! What is there in the end. -/

theorem writeFrom_exists {directory : String} {artifacts : List Artifact} {undos : List Undo}
    {disk after : Disk} {results : List WriteResult}
    (settled : ∀ artifact ∈ artifacts, Settled disk (artifact.path directory))
    (written : writeFrom directory undos artifacts disk = (.ok results, after)) :
    ∀ artifact ∈ artifacts, after.exists? (artifact.path directory) = true := by
  induction artifacts generalizing undos disk results with
  | nil => simp
  | cons artifact rest ih =>
      rw [List.forall_mem_cons] at settled ⊢
      obtain ⟨result, others, middle, previous, wrote, continued, rfl⟩ :=
        writeFrom_cons_ok settled.1 written
      have keeps := write_keeps settled.1
      rw [wrote] at keeps
      have settledRest (other : Artifact) (member : other ∈ rest) :
          Settled middle (other.path directory) := (settled.2 other member).keeps keeps
      have later := (writeFrom_changes settledRest (congrArg Prod.fst continued)).keeps
      rw [continued] at later
      refine ⟨?_, ih settledRest continued⟩
      have there : ∃ location, middle.resolve (artifact.path directory) = .ok location := by
        cases write_placed settled.1 wrote with
        | written holds =>
            obtain ⟨location, _, led, _⟩ := (Disk.readFile_ok_iff _ _ _).mp holds
            exact ⟨location, led⟩
        | skipped _ there _ => exact (Disk.exists?_iff _ _).mp there
      obtain ⟨location, led⟩ := there
      exact (Disk.exists?_iff after _).mpr ⟨location, later.resolve led⟩

section

variable {directory : String} {artifacts : List Artifact} {undos : List Undo}
  {disk done final after : Disk} {results : List WriteResult}
  (level : ∀ artifact ∈ artifacts,
    Path.Component.parent ∉ Path.components (artifact.path directory))
  (settled : ∀ artifact ∈ artifacts, Settled done (artifact.path directory))
  (written : writeFrom directory undos artifacts done = (.ok results, after))
  (free : ∀ artifact ∈ artifacts, after.isDirectory (artifact.path directory) = false)
include level settled written free

theorem writeFrom_file {artifact : Artifact} (member : artifact ∈ artifacts) :
    ∃ content, after.node? (after.destination (artifact.path directory)) = some (.file content) := by
  have there := writeFrom_exists settled written artifact member
  obtain ⟨location, led⟩ := (Disk.exists?_iff after _).mp there
  obtain ⟨before, name, ends⟩ := Disk.endsIn_of_resolve (level artifact member) led
    (Disk.ne_directory_of_resolve led (free artifact member))
  obtain ⟨content, _, found⟩ := Disk.file_of_exists ends there (free artifact member)
  exact ⟨content, found⟩

theorem Lags.nodes (lags : Lags done final after) (keeps : Keeps disk final)
    (prepared : prepareAll directory artifacts disk = (.ok (), done)) (location : Disk.Location) :
    final.node? location = after.node? location := by
  have behind (here : Disk.Location) (notDirectory : after.node? here ≠ some .directory) :
      final.node? here = after.node? here := by
    rcases lags.grows.nodes here with same | ⟨_, isDirectory, _⟩ | ⟨_, impossible, _⟩
    · exact same.symm
    · exact (notDirectory isDirectory).elim
    · exact impossible.elim
  by_cases isDirectory : after.node? location = some .directory
  · have changes := writeFrom_changes settled (congrArg Prod.fst written)
    rw [written] at changes
    have grows := prepareAll_grows directory artifacts disk
    rw [prepared] at grows
    rw [isDirectory]
    rcases grows.nodes location with same | ⟨_, _, artifact, member, led⟩ | ⟨_, impossible, _⟩
    · exact keeps.directory location (same ▸ changes.directories location isDirectory)
    · obtain ⟨content, found⟩ := writeFrom_file level settled written free member
      have samePlace := Disk.destination_of_working lags.grows.working (artifact.path directory)
      rw [samePlace] at found
      refine (led.weaken (List.dropLast_prefix _)).directory_above (level artifact member) lags.tree
        lags.working ?_ ?_
      · rw [behind _ (by simp [found]), found]
        simp
      · rintro rfl
        simp [found] at isDirectory
    · exact impossible.elim
  · exact behind location isDirectory

end

/-! Which of several artifacts a place keeps. -/

def leadingTo (artifacts : List Artifact) (directory : String) (disk : Disk)
    (location : Disk.Location) : List Artifact :=
  artifacts.filter fun artifact => disk.destination (artifact.path directory) = location

def node (artifact : Artifact) : Node :=
  .file artifact.content.toByteArray

def leaves (artifact : Artifact) (old : Option Node) : Option Node :=
  match artifact.overwrite with
  | .always => some artifact.node
  | .ifMissing => old.or (some artifact.node)

/-- What stands where several have been written: the last that replaces what is there, or what was
there before, or else the first. -/
def kept (artifacts : List Artifact) (old : Option Node) : Option Node :=
  match (artifacts.filter fun artifact => artifact.overwrite = .always).getLast? with
  | some last => some last.node
  | none => old.or (artifacts.head?.map node)

theorem kept_cons (artifact : Artifact) (rest : List Artifact) (old : Option Node) :
    kept (artifact :: rest) old = kept rest (artifact.leaves old) := by
  cases rule : artifact.overwrite with
  | always =>
      simp only [kept, leaves, rule, List.filter_cons, decide_true, ↓reduceIte, List.getLast?_cons]
      cases (rest.filter fun artifact => artifact.overwrite = .always).getLast? <;> simp
  | ifMissing =>
      have passedOver : decide (artifact.overwrite = .always) = false := by simp [rule]
      simp only [kept, leaves, rule, List.filter_cons, reduceCtorEq, decide_false,
        Bool.false_eq_true, ↓reduceIte]
      cases (rest.filter fun artifact => artifact.overwrite = .always).getLast? <;>
        cases old <;> simp

theorem write_leaves {artifact : Artifact} {directory : String} {disk after : Disk}
    {result : WriteResult} (tree : disk.IsTree) (settled : Settled disk (artifact.path directory))
    (wrote : artifact.write directory disk = (.ok result, after)) (location : Disk.Location) :
    after.node? location =
      if disk.destination (artifact.path directory) = location then
        artifact.leaves (disk.node? location)
      else disk.node? location := by
  rcases write_cases settled with
    ⟨_, failed⟩ | ⟨once, there, skipped⟩ | ⟨written, wroteFile, rule, done⟩
  · simp [failed] at wrote
  · obtain ⟨_, rfl⟩ := Prod.mk.inj (wrote.symm.trans skipped)
    obtain ⟨reached, led⟩ := (Disk.exists?_iff after _).mp there
    have present := tree.present led
    rw [Disk.resolve_destination led] at present
    split
    · next same =>
        rw [same] at present
        cases found : after.node? location with
        | none => exact (present found).elim
        | some old => simp [leaves, once]
    · rfl
  · obtain ⟨_, rfl⟩ := Prod.mk.inj (wrote.symm.trans done)
    obtain ⟨parent, name, names, _, rfl⟩ := (Disk.writeFile_ok_iff disk after _ _).mp wroteFile
    rw [Disk.node?_place disk _ (by simp), ← names.destination]
    simp only [eq_comm (a := location)]
    split
    · next same =>
        rcases rule with always | missing
        · simp [leaves, always, node]
        · have free : disk.node? location = none := by
            cases found : disk.node? location with
            | none => rfl
            | some old =>
                rw [Bool.eq_false_iff] at missing
                exact (missing (names.exists?_iff.mpr (by simp [same, found]))).elim
          cases overwrite : artifact.overwrite <;> simp [leaves, overwrite, free, node]
    · rfl

theorem writeFrom_kept {directory : String} {artifacts : List Artifact} {undos : List Undo}
    {disk after : Disk} {results : List WriteResult} (tree : disk.IsTree)
    (settled : ∀ artifact ∈ artifacts, Settled disk (artifact.path directory))
    (written : writeFrom directory undos artifacts disk = (.ok results, after))
    (location : Disk.Location) :
    after.node? location =
      kept (leadingTo artifacts directory disk location) (disk.node? location) := by
  induction artifacts generalizing undos disk results with
  | nil =>
      obtain ⟨_, rfl⟩ : [] = results ∧ disk = after := by simpa [writeFrom] using written
      simp [leadingTo, kept]
  | cons artifact rest ih =>
      rw [List.forall_mem_cons] at settled
      obtain ⟨result, others, middle, previous, wrote, continued, rfl⟩ :=
        writeFrom_cons_ok settled.1 written
      have changes := write_changes settled.1
      have middleTree := write_tree tree settled.1
      rw [wrote] at changes middleTree
      have later := ih middleTree (fun other member => (settled.2 other member).keeps changes.keeps)
        continued
      have sameLeading : leadingTo rest directory middle location =
          leadingTo rest directory disk location := by
        simp only [leadingTo, Disk.destination_of_working changes.working]
      rw [later, sameLeading, write_leaves tree settled.1 wrote location]
      by_cases leads : disk.destination (artifact.path directory) = location
      · simp [leadingTo, leads, kept_cons]
      · simp [leadingTo, leads]

theorem kept_of_replaced {artifacts : List Artifact} {old : Node}
    (replaced : kept artifacts (some old) ≠ some old) (other : Option Node) :
    kept artifacts other = kept artifacts (some old) := by
  simp only [kept] at replaced ⊢
  split
  · rfl
  · next nothing => simp [nothing] at replaced

theorem kept_ne_directory {artifacts : List Artifact} {artifact : Artifact}
    (member : artifact ∈ artifacts) (always : artifact.overwrite = .always) (old : Option Node) :
    kept artifacts old ≠ some .directory := by
  rw [kept]
  split
  · simp [node]
  · next nothing =>
      rw [List.getLast?_eq_none_iff, List.filter_eq_nil_iff] at nothing
      exact (nothing artifact member (by simpa using always)).elim

section

variable {directory : String} {artifacts : List Artifact} {disk after : Disk}
  {results : List WriteResult} (tree : disk.IsTree)
  (wrote : writeAll artifacts directory disk = (.ok results, after))
include tree wrote

theorem writeAll_ok : ∃ done, prepareAll directory artifacts disk = (.ok (), done) ∧ done.IsTree ∧
    (∀ artifact ∈ artifacts, Settled done (artifact.path directory)) ∧
    writeFrom directory [] artifacts done = (.ok results, after) := by
  have settled := prepareAll_ok directory artifacts disk
  have doneTree := prepareAll_tree tree artifacts directory
  rw [writeAll] at wrote
  split at wrote
  · simp at wrote
  · next done prepared =>
      rw [prepared] at settled doneTree
      exact ⟨done, prepared, doneTree, settled rfl, wrote⟩

theorem writeAll_kept (location : Disk.Location) :
    after.node? location = kept (leadingTo artifacts directory disk location) (disk.node? location) ∨
      disk.node? location = none ∧
        after.node? location =
          kept (leadingTo artifacts directory disk location) (some .directory) := by
  obtain ⟨done, prepared, doneTree, settled, written⟩ := writeAll_ok tree wrote
  have grows := prepareAll_grows directory artifacts disk
  rw [prepared] at grows
  have leading : leadingTo artifacts directory done location =
      leadingTo artifacts directory disk location := by
    simp only [leadingTo, Disk.destination_of_working grows.working]
  have place := writeFrom_kept doneTree settled written location
  rw [leading] at place
  rcases grows.nodes location with same | ⟨missing, made, _⟩ | ⟨_, impossible, _⟩
  · exact Or.inl (same ▸ place)
  · exact Or.inr ⟨missing, made ▸ place⟩
  · exact impossible.elim

theorem writeAll_directory_in_the_way {artifact : Artifact} (member : artifact ∈ artifacts)
    (there : after.isDirectory (artifact.path directory) = true) :
    artifact.overwrite = .ifMissing ∧ disk.isDirectory (artifact.path directory) = false := by
  obtain ⟨done, prepared, _⟩ := writeAll_ok tree wrote
  refine ⟨?_, prepareAll_ok_free (by rw [prepared]) artifact member⟩
  cases rule : artifact.overwrite with
  | ifMissing => rfl
  | always =>
      have working := (writeAll_changes artifacts directory disk).working
      rw [wrote] at working
      obtain ⟨location, led, found⟩ := (Disk.isDirectory_iff after _).mp there
      have place := Disk.resolve_destination led
      rw [Disk.destination_of_working working] at place
      have inside : artifact ∈ leadingTo artifacts directory disk location :=
        List.mem_filter.mpr ⟨member, by simp [place]⟩
      have noDirectory := kept_ne_directory inside rule
      rcases writeAll_kept tree wrote location with same | ⟨_, same⟩
      · exact (noDirectory _ (same.symm.trans found)).elim
      · exact (noDirectory _ (same.symm.trans found)).elim

end

/-- Artifacts that are written as one could have been written one after the other, with the same
results and the same tree, exactly if none of them is a directory in the end. A directory can only be
in the way of an artifact that is created once, and it was not there before. Each place keeps the last
artifact that replaces what is there, or else what was there, or else the first; files that no
artifact leads to are as they were. -/
theorem writeAll_eq_writeEach_iff (artifacts : List Artifact) (directory : String)
    (disk after : Disk) (results : List WriteResult) (tree : disk.IsTree)
    (level : ∀ artifact ∈ artifacts,
      Path.Component.parent ∉ Path.components (artifact.path directory))
    (wrote : writeAll artifacts directory disk = (.ok results, after)) :
    ((∃ final, writeEach directory artifacts disk = (.ok results, final) ∧
          final.working = after.working ∧
          ∀ location, final.node? location = after.node? location) ↔
        ∀ artifact ∈ artifacts, after.isDirectory (artifact.path directory) = false) ∧
      (∀ artifact ∈ artifacts, after.isDirectory (artifact.path directory) = true →
        artifact.overwrite = .ifMissing ∧ disk.isDirectory (artifact.path directory) = false) ∧
      (∀ location, after.node? location ≠ some .directory →
        after.node? location =
          kept (leadingTo artifacts directory disk location) (disk.node? location)) ∧
      ∀ location, leadingTo artifacts directory disk location = [] → ∀ content,
        after.node? location = some (.file content) ↔
          disk.node? location = some (.file content) := by
  obtain ⟨done, prepared, _, settled, written⟩ := writeAll_ok tree wrote
  have grows := prepareAll_grows directory artifacts disk
  rw [prepared] at grows
  have start : Lags disk disk done :=
    ⟨tree, tree, rfl, grows.weaken fun _ _ => trivial, fun _ => id⟩
  refine ⟨⟨?_, fun free => ?_⟩, fun artifact => writeAll_directory_in_the_way tree wrote,
    fun location isFile => ?_, fun location spared content => ?_⟩
  · rintro ⟨final, each, _, _⟩
    exact free_of_writeEach start level settled prepared written each
  · obtain ⟨final, each, lags⟩ := writeEach_lags start level settled prepared written free
    have keeps := writeEach_keeps directory artifacts disk
    rw [each] at keeps
    exact ⟨final, each, lags.grows.working.symm,
      lags.nodes level settled written free keeps prepared⟩
  · rcases writeAll_kept tree wrote location with same | ⟨missing, same⟩
    · exact same
    · rw [same] at isFile ⊢
      exact (kept_of_replaced isFile _).symm
  · rcases writeAll_kept tree wrote location with same | ⟨missing, same⟩
    · simp [same, spared, kept]
    · simp [same, spared, kept, missing]

theorem writeAll_eq_writeEach_of_repeated_targets :
    let disk : Disk := ⟨[([['d']], .directory), ([['d'], ['b']], .file "mine".toByteArray)], []⟩
    let artifacts : List Artifact :=
      [⟨"a", "first", .always⟩, ⟨"b", "stub", .ifMissing⟩, ⟨"./a", "second", .always⟩,
        ⟨"u/v/c", "new", .ifMissing⟩, ⟨"u/e", "other", .always⟩, ⟨"u//v/c", "newer", .ifMissing⟩]
    let results : List WriteResult :=
      [.written "d/a", .skipped "d/b", .written "d/./a", .written "d/u/v/c", .written "d/u/e",
        .skipped "d/u//v/c"]
    let after := (writeAll artifacts "d" disk).2
    (∃ final, writeEach "d" artifacts disk = (.ok results, final) ∧
        final.working = after.working ∧
        ∀ location, final.node? location = after.node? location) ∧
      after.node? [['d'], ['a']] = some (.file "second".toByteArray) ∧
      after.node? [['d'], ['b']] = some (.file "mine".toByteArray) ∧
      after.node? [['d'], ['u'], ['v'], ['c']] = some (.file "new".toByteArray) := by
  intro disk artifacts results after
  have tree : disk.IsTree := Disk.isTree_of_entries rfl (by decide)
  have result : (writeAll artifacts "d" disk).1 = .ok results := by decide +kernel
  have wrote : writeAll artifacts "d" disk = (.ok results, after) := by rw [← result]
  obtain ⟨agree, _, places, _⟩ :=
    writeAll_eq_writeEach_iff artifacts "d" disk after results tree (by decide) wrote
  have free : ∀ artifact ∈ artifacts, after.isDirectory (artifact.path "d") = false := by
    decide +kernel
  have first := places [['d'], ['a']] (by decide +kernel)
  have second := places [['d'], ['b']] (by decide +kernel)
  have third := places [['d'], ['u'], ['v'], ['c']] (by decide +kernel)
  exact ⟨agree.mpr free, first.trans (by decide +kernel), second.trans (by decide +kernel),
    third.trans (by decide +kernel)⟩

/-- A directory that is made for a later artifact takes the place of an earlier one, which counts as
skipped. Written by itself the earlier one keeps the directory from being made. -/
theorem writeAll_skips_made_directory :
    let artifacts : List Artifact := [⟨"x", "kept", .ifMissing⟩, ⟨"x/y.js", "new", .always⟩]
    Disk.empty.IsTree ∧
      (∀ artifact ∈ artifacts, Path.Component.parent ∉ Path.components (artifact.path "")) ∧
      (writeAll artifacts "" .empty).1 = .ok [.skipped "x", .written "x/y.js"] ∧
      (writeEach "" artifacts .empty).1 = .error (.makeDirectory "x" .alreadyExists) := by
  exact ⟨Disk.isTree_of_entries rfl (by simp [Disk.empty]), by decide, by rfl, by rfl⟩

end Artifact

end RouteForge
