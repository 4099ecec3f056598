import RouteForge.Proofs.SettledWrites

/-!
Writing the same places again. A set of artifacts that was written leaves its places ready, and one
that failed leaves them doomed; in either state the outcome of the next attempt is settled, and a
doomed attempt changes nothing.
-/

namespace RouteForge

open Disk (Settled Keeps Changes Blocked IsTree)

namespace Target

/-- A file is there, and it can be read if it is to be replaced. -/
structure Filled (disk : Disk) (target : Target) : Prop where
  checked : Disk.checkPath target.path.toList = .ok ()
  file : ∃ content, disk.node? (disk.destination target.path) = some (.file content) ∧
    (target.overwrite = .always → (String.fromUTF8? content).isSome = true)

theorem Filled.writable {disk : Disk} {target : Target} (filled : target.Filled disk) :
    target.Writable disk := by
  obtain ⟨content, found, readable⟩ := filled.file
  refine ⟨filled.checked, by simp [found], fun always other there => ?_⟩
  obtain rfl : content = other := by simpa [found] using there
  exact readable always

def Ready (targets : List Target) (disk : Disk) : Prop :=
  ∀ target ∈ targets, Settled disk target.path ∧ target.Filled disk

/-- Either one of the places cannot be prepared, where those before it need no preparing, or all are
prepared and one cannot be written on. -/
inductive Doomed (targets : List Target) (disk : Disk) : Prop
  | unprepared {earlier later : List Target} {target : Target}
      (split : targets = earlier ++ target :: later)
      (settled : ∀ other ∈ earlier, Settled disk other.path)
      (inTheWay : disk.isDirectory target.path = true ∨
        ∃ parent, Path.parent? target.path = some parent ∧ Blocked disk parent)
  | unwritable (settled : ∀ target ∈ targets, Settled disk target.path) {target : Target}
      (member : target ∈ targets) (unwritable : ¬target.Writable disk)

section

variable {targets : List Target} {before after : Disk} {made written : Disk.Location → Prop}
  (changes : Changes before after made written)
  (still : ∀ target ∈ targets, ∀ content,
    before.node? (before.destination target.path) = some (.file content) →
      after.node? (before.destination target.path) = some (.file content))
include changes still

theorem Ready.persists (ready : Ready targets before) : Ready targets after := by
  intro target member
  obtain ⟨settled, filled⟩ := ready target member
  obtain ⟨content, found, readable⟩ := filled.file
  refine ⟨settled.keeps changes.keeps, filled.checked, content, ?_, readable⟩
  rw [Disk.destination_of_working changes.working]
  exact still target member content found

theorem Doomed.persists (doomed : Doomed targets before) : Doomed targets after := by
  cases doomed with
  | unprepared split settled inTheWay =>
      refine .unprepared split (fun other member => (settled other member).keeps changes.keeps) ?_
      rcases inTheWay with there | ⟨parent, found, blocked⟩
      · exact Or.inl (changes.keeps.isDirectory there)
      · exact Or.inr ⟨parent, found, blocked.persists changes⟩
  | @unwritable settled target member unwritable =>
      refine .unwritable (fun other inside => (settled other inside).keeps changes.keeps) member ?_
      intro writable
      have samePlace := Disk.destination_of_working changes.working target.path
      refine unwritable ⟨writable.checked, fun found => ?_, fun always content found => ?_⟩
      · apply writable.free
        rw [samePlace]
        exact changes.keeps.directory _ found
      · refine writable.readable always content ?_
        rw [samePlace]
        exact still target member content found

end

end Target

namespace Artifact

open Target (Ready Doomed)

def rewritten (artifact : Artifact) (directory : String) : WriteResult :=
  match artifact.overwrite with
  | .always => .written (artifact.path directory)
  | .ifMissing => .skipped (artifact.path directory)

theorem prepare_tree {disk : Disk} (tree : disk.IsTree) (artifact : Artifact) (directory : String) :
    (artifact.prepare directory disk).2.IsTree := by
  refine (prepare_grows artifact directory disk).tree tree ?_
  rintro location (⟨path, _, led⟩ | impossible)
  · exact ⟨path, led⟩
  · exact impossible.elim

theorem prepareAll_tree {disk : Disk} (tree : disk.IsTree) (artifacts : List Artifact)
    (directory : String) : (prepareAll directory artifacts disk).2.IsTree := by
  refine (prepareAll_grows directory artifacts disk).tree tree ?_
  rintro location (⟨artifact, _, path, _, led⟩ | impossible)
  · exact ⟨path, led⟩
  · exact impossible.elim

theorem trimmed_parent {target : Target} (named : target.IsNamed) {parent : String}
    (found : Path.parent? target.path = some parent) : Path.Trimmed parent := by
  obtain ⟨before, name, ends, _⟩ := named
  obtain ⟨other, foundOther, _, _, trimmed⟩ :=
    Path.parent_of_move ends.pieces (Path.isMove_of_isName ends.named)
  obtain rfl : other = parent := by simpa [found] using foundOther.symm
  exact trimmed

section

variable {artifact : Artifact} {directory : String} {disk : Disk} (tree : disk.IsTree)
  (named : (artifact.target directory).IsNamed)
include tree named

theorem prepare_stopped {after : Disk} {error : StoreError}
    (failed : artifact.prepare directory disk = (.error error, after)) :
    after.isDirectory (artifact.path directory) = true ∨
      ∃ parent, Path.parent? (artifact.path directory) = some parent ∧ Blocked after parent := by
  simp only [prepare] at failed
  split at failed
  · next there =>
      obtain ⟨_, rfl⟩ := Prod.mk.inj failed
      exact Or.inl there
  · right
    cases found : Path.parent? (artifact.path directory) with
    | none => simp [Disk.ensureParent, found] at failed
    | some parent =>
        have trimmed := trimmed_parent named found
        rw [Disk.ensureParent, found] at failed
        have blocked := Disk.ensureDirectory_blocked tree trimmed (congrArg Prod.fst failed)
        rw [show disk.ensureDirectory parent = _ from failed] at blocked
        exact ⟨parent, rfl, blocked⟩

theorem prepare_of_stopped
    (inTheWay : disk.isDirectory (artifact.path directory) = true ∨
      ∃ parent, Path.parent? (artifact.path directory) = some parent ∧ Blocked disk parent) :
    ∃ error, artifact.prepare directory disk = (.error error, disk) := by
  rw [prepare]
  cases there : disk.isDirectory (artifact.path directory) with
  | true => exact ⟨_, rfl⟩
  | false =>
      obtain ⟨parent, found, blocked⟩ := inTheWay.resolve_left (by simp [there])
      obtain ⟨error, failed⟩ := blocked.ensureDirectory tree (trimmed_parent named found)
      have ensured : disk.ensureParent (artifact.path directory) = (.error error, disk) := by
        rw [Disk.ensureParent, found]
        exact failed
      exact ⟨error, by simp [ensured]⟩

end

theorem prepareAll_doomed {directory : String} {artifacts : List Artifact} {disk : Disk}
    (tree : disk.IsTree) (named : ∀ artifact ∈ artifacts, (artifact.target directory).IsNamed)
    {error : StoreError} (failed : (prepareAll directory artifacts disk).1 = .error error) :
    Doomed (targets artifacts directory) (prepareAll directory artifacts disk).2 := by
  induction artifacts generalizing disk with
  | nil => simp [prepareAll_nil] at failed
  | cons artifact rest ih =>
      rw [List.forall_mem_cons] at named
      have settled := prepare_ok artifact directory disk
      have treeAfter := prepare_tree tree artifact directory
      rw [prepareAll_cons] at failed ⊢
      cases prepared : artifact.prepare directory disk with
      | mk outcome after =>
          rw [prepared] at failed settled treeAfter
          cases outcome with
          | error reason =>
              exact @Doomed.unprepared _ _ [] (targets rest directory) (artifact.target directory) rfl
                (by simp) (prepare_stopped tree named.1 prepared)
          | ok _ =>
              have grows := prepareAll_grows directory rest after
              have settledFinal := (settled rfl).keeps grows.keeps
              cases ih treeAfter named.2 failed with
              | @unprepared earlier later target split settledEarlier inTheWay =>
                  refine @Doomed.unprepared _ _ (artifact.target directory :: earlier) later target
                    (by rw [targets, List.map_cons, ← targets, split]; rfl) ?_ inTheWay
                  rw [List.forall_mem_cons]
                  exact ⟨settledFinal, settledEarlier⟩
              | unwritable settledRest member unwritable =>
                  refine .unwritable ?_ (List.mem_cons_of_mem _ member) unwritable
                  rw [targets, List.map_cons, List.forall_mem_cons]
                  exact ⟨settledFinal, settledRest⟩

theorem prepareAll_of_doomed {directory : String} {artifacts : List Artifact} {disk : Disk}
    (tree : disk.IsTree) (named : ∀ artifact ∈ artifacts, (artifact.target directory).IsNamed)
    {earlier later : List Target} {target : Target}
    (split : targets artifacts directory = earlier ++ target :: later)
    (settled : ∀ other ∈ earlier, Settled disk other.path)
    (inTheWay : disk.isDirectory target.path = true ∨
      ∃ parent, Path.parent? target.path = some parent ∧ Blocked disk parent) :
    ∃ error, prepareAll directory artifacts disk = (.error error, disk) := by
  induction earlier generalizing artifacts with
  | nil =>
      cases artifacts with
      | nil => simp [targets] at split
      | cons artifact rest =>
          obtain ⟨rfl, _⟩ := List.cons.inj split
          obtain ⟨error, stopped⟩ := prepare_of_stopped tree (named artifact (by simp)) inTheWay
          exact ⟨error, by rw [prepareAll_cons, stopped]⟩
  | cons first others ih =>
      cases artifacts with
      | nil => simp [targets] at split
      | cons artifact rest =>
          obtain ⟨rfl, goesOn⟩ := List.cons.inj split
          rw [List.forall_mem_cons] at named settled
          rw [prepareAll_cons, prepare]
          cases there : disk.isDirectory (artifact.path directory) with
          | true => exact ⟨_, rfl⟩
          | false =>
              have ensured : disk.ensureParent (artifact.path directory) = (.ok (), disk) :=
                settled.1.ensureParent
              simp only [ensured, Bool.false_eq_true, ↓reduceIte]
              exact ih named.2 goesOn settled.2

theorem writeAll_ready {directory : String} {artifacts : List Artifact} {disk after : Disk}
    {results : List WriteResult}
    (named : ∀ artifact ∈ artifacts, (artifact.target directory).IsNamed)
    (apart : (artifacts.map fun artifact => disk.destination (artifact.path directory)).Nodup)
    (free : ∀ prepared, prepareAll directory artifacts disk = (.ok (), prepared) →
      ∀ artifact ∈ artifacts, artifact.overwrite = .ifMissing →
        prepared.isDirectory (artifact.path directory) = false)
    (wrote : writeAll artifacts directory disk = (.ok results, after)) :
    Ready (targets artifacts directory) after := by
  have settled := prepareAll_ok directory artifacts disk
  obtain ⟨prepared, ready, changes, placed⟩ := writeAll_placed apart wrote
  rw [ready] at settled
  rw [Ready, targets, List.forall_mem_map]
  intro artifact member
  refine ⟨(settled rfl artifact member).keeps changes.keeps, ?_⟩
  obtain ⟨result, _, isPlaced⟩ := exists_placed placed member
  cases isPlaced with
  | written holds =>
      obtain ⟨location, content, led, found, decoded⟩ := (Disk.readFile_ok_iff _ _ _).mp holds
      rw [Disk.resolve_destination led] at found
      exact ⟨((Disk.resolve_ok_iff _ _ location).mp led).1, content, found, fun _ => by simp [decoded]⟩
  | skipped once there _ =>
      obtain ⟨before, name, ends, _⟩ := named artifact member
      obtain ⟨content, _, found⟩ := changes.file_of_exists ends there
        (free prepared ready artifact member once)
      exact ⟨Disk.checkPath_of_exists there, content, found, fun always => by simp [target, once] at always⟩

theorem writeAll_content {directory : String} {artifacts : List Artifact} {disk after : Disk}
    {results : List WriteResult}
    (apart : (artifacts.map fun artifact => disk.destination (artifact.path directory)).Nodup)
    (wrote : writeAll artifacts directory disk = (.ok results, after)) {artifact : Artifact}
    (member : artifact ∈ artifacts) (always : artifact.overwrite = .always) :
    after.node? (disk.destination (artifact.path directory)) =
      some (.file artifact.content.toByteArray) := by
  have working := (writeAll_changes artifacts directory disk).working
  rw [wrote] at working
  obtain ⟨prepared, _, _, placed⟩ := writeAll_placed apart wrote
  obtain ⟨result, _, isPlaced⟩ := exists_placed placed member
  cases isPlaced with
  | written holds =>
      obtain ⟨location, content, led, found, decoded⟩ := (Disk.readFile_ok_iff _ _ _).mp holds
      rw [Disk.resolve_destination led, Disk.destination_of_working working] at found
      rw [found, Disk.toByteArray_of_fromUTF8? decoded]
  | skipped once _ _ => simp [always] at once

theorem writeFrom_rewritten {directory : String} {undos : List Undo} {artifacts : List Artifact}
    {disk : Disk} {results : List WriteResult}
    (settled : ∀ artifact ∈ artifacts, Settled disk (artifact.path directory))
    (there : ∀ artifact ∈ artifacts, disk.exists? (artifact.path directory) = true)
    (written : (writeFrom directory undos artifacts disk).1 = .ok results) :
    results = artifacts.map fun artifact => artifact.rewritten directory := by
  induction artifacts generalizing undos disk results with
  | nil => simpa [writeFrom, eq_comm] using written
  | cons artifact rest ih =>
      rw [List.forall_mem_cons] at settled there
      rcases writeFrom_cons_cases settled.1 undos rest with
        ⟨_, stopped⟩ | ⟨previous, result, after, _, wrote, continued⟩
      · simp [stopped] at written
      · have keeps := write_keeps settled.1
        rw [wrote] at keeps
        rw [continued] at written
        have first : result = artifact.rewritten directory := by
          rcases write_cases settled.1 with ⟨_, failed⟩ | ⟨once, _, skipped⟩ | ⟨_, _, rule, done⟩
          · simp [failed] at wrote
          · obtain ⟨same, _⟩ := Prod.mk.inj (wrote.symm.trans skipped)
            simpa [rewritten, once] using same
          · obtain ⟨same, _⟩ := Prod.mk.inj (wrote.symm.trans done)
            have always : artifact.overwrite = .always := by simpa [there.1] using rule
            simpa [rewritten, always] using same
        cases outcome : (writeFrom directory (undosOf result previous ++ undos) rest after).1 with
        | error error => simp [outcome, Except.map] at written
        | ok others =>
            have later := ih (fun other member => (settled.2 other member).keeps keeps)
              (fun other member => by
                obtain ⟨location, led⟩ := (Disk.exists?_iff disk _).mp (there.2 other member)
                exact (Disk.exists?_iff after _).mpr ⟨location, keeps.resolve led⟩) outcome
            rw [outcome] at written
            obtain rfl : result :: others = results := by simpa [Except.map] using written
            rw [first, later, List.map_cons]

section

variable {directory : String} {artifacts : List Artifact} {disk : Disk} (tree : disk.IsTree)
  (named : ∀ artifact ∈ artifacts, (artifact.target directory).IsNamed)
  (apart : (artifacts.map fun artifact => disk.destination (artifact.path directory)).Nodup)
include tree named apart

theorem writeAll_of_doomed (doomed : Doomed (targets artifacts directory) disk) :
    ∃ error, writeAll artifacts directory disk = (.error error, disk) := by
  cases doomed with
  | unprepared split settled inTheWay =>
      obtain ⟨error, failed⟩ := prepareAll_of_doomed tree named split settled inTheWay
      exact ⟨error, by rw [writeAll, failed]⟩
  | @unwritable settled target member unwritable =>
      obtain ⟨artifact, inside, rfl⟩ := List.mem_map.mp member
      rw [targets, List.forall_mem_map] at settled
      exact writeAll_of_unwritable tree named settled inside unwritable apart

theorem writeAll_doomed {error : StoreError}
    (failed : (writeAll artifacts directory disk).1 = .error error) :
    Doomed (targets artifacts directory) (writeAll artifacts directory disk).2 := by
  have doomed := @prepareAll_doomed directory artifacts disk tree named
  have settled := prepareAll_ok directory artifacts disk
  have treePrepared := prepareAll_tree tree artifacts directory
  have working := (prepareAll_grows directory artifacts disk).working
  have same := writeAll_error failed
  rw [same]
  cases outcome : (prepareAll directory artifacts disk).1 with
  | error reason => exact doomed outcome
  | ok _ =>
      have settledAll := settled outcome
      by_contra fine
      have writable (artifact : Artifact) (member : artifact ∈ artifacts) :
          (artifact.target directory).Writable (prepareAll directory artifacts disk).2 := by
        by_contra unwritable
        refine fine (.unwritable ?_ (List.mem_map_of_mem member) unwritable)
        rw [targets, List.forall_mem_map]
        exact settledAll
      obtain ⟨results, written⟩ := @writeFrom_ok directory [] artifacts _ treePrepared named settledAll
        writable (by simpa only [Disk.destination_of_working working] using apart)
      have ready : prepareAll directory artifacts disk =
          (.ok (), (prepareAll directory artifacts disk).2) := Prod.ext outcome rfl
      rw [writeAll, ready] at failed
      simp [written] at failed

/-- Where all is ready, what is replaced is written once more, and the rest is skipped. -/
theorem writeAll_of_ready (ready : Ready (targets artifacts directory) disk) :
    ∃ after, writeAll artifacts directory disk =
        (.ok (artifacts.map fun artifact => artifact.rewritten directory), after) ∧
      ∀ location, ¬IsReplaced artifacts directory disk location →
        after.node? location = disk.node? location := by
  rw [Ready, targets, List.forall_mem_map] at ready
  have settled (artifact : Artifact) (member : artifact ∈ artifacts) :
      Settled disk (artifact.path directory) := (ready artifact member).1
  have writable (artifact : Artifact) (member : artifact ∈ artifacts) :=
    (ready artifact member).2.writable
  have present (artifact : Artifact) (member : artifact ∈ artifacts) :
      disk.node? (disk.destination (artifact.path directory)) ≠ none := by
    obtain ⟨_, content, found, _⟩ := (ready artifact member).2
    exact fun missing => Option.some_ne_none _ (found.symm.trans missing)
  have there (artifact : Artifact) (member : artifact ∈ artifacts) :
      disk.exists? (artifact.path directory) = true := by
    obtain ⟨parent, name, (names : Disk.Names disk (artifact.path directory) parent name false)⟩ :=
      Disk.Settled.names tree (named artifact member) (ready artifact member).2.checked
        (settled artifact member)
    rw [names.exists?_iff, names.destination]
    exact present artifact member
  obtain ⟨results, wrote⟩ := writeAll_of_writable tree named settled writable apart
  have wroteAll : writeAll artifacts directory disk =
      (.ok results, (writeAll artifacts directory disk).2) := Prod.ext wrote rfl
  obtain ⟨prepared, prepares, changes, _⟩ := writeAll_placed apart wroteAll
  have prepared_eq := prepareAll_of_writable tree named settled writable
  obtain rfl : prepared = disk := by simpa [prepared_eq] using prepares.symm
  rw [writeAll, prepared_eq] at wrote
  refine ⟨_, by rw [← writeFrom_rewritten settled there wrote]; exact wroteAll, ?_⟩
  intro location spared
  rcases changes.nodes location with same | ⟨_, _, impossible⟩ | ⟨_, ⟨artifact, member, led⟩, _⟩
  · exact same
  · exact impossible.elim
  · -- Only a file that is created once is left, and it is there.
    refine (writeAll_spares artifacts directory prepared).nodes location spared ?_
    rw [Disk.resolve_destination led, Disk.destination_of_working changes.working]
    exact present artifact member

end

end Artifact

end RouteForge
