import RouteForge.Proofs.BlockedDirectories
import RouteForge.Proofs.SparedFiles

/-!
Writing where every directory has been made. Artifacts that lead to different places are written if
and only if each place can be written on, and if one cannot nothing is changed. What decides this are
the places alone, not what is written there.
-/

namespace RouteForge

open Disk (Settled Keeps Changes Blocked IsTree)

/-- Where something is to be written, and by which rule. -/
structure Target where
  path : String
  overwrite : Overwrite

namespace Target

structure Writable (disk : Disk) (target : Target) : Prop where
  checked : Disk.checkPath target.path.toList = .ok ()
  free : disk.node? (disk.destination target.path) ≠ some .directory
  readable : target.overwrite = .always → ∀ content,
    disk.node? (disk.destination target.path) = some (.file content) →
      (String.fromUTF8? content).isSome = true

def IsNamed (target : Target) : Prop :=
  ∃ before name, Path.EndsIn target.path before name ∧ Disk.checkName name = .ok ()

end Target

namespace Disk

theorem lastStep_of_entered {disk : Disk} {path : String} {before : List Path.Piece}
    {name : Path.Piece} {directory : Location} (ends : Path.EndsIn path before name)
    (checked : checkPath path.toList = .ok ())
    (entered : disk.enter (disk.origin path.toList) before = .ok directory) :
    disk.lastStep path = .ok ⟨directory, some name, false⟩ := by
  have nonblank : name ≠ [] := by
    rintro rfl
    simpa [isName] using ends.named
  obtain ⟨led, found⟩ := (enter_ok_iff disk _ directory before).mp entered
  refine (lastStep_ok_iff disk path _).mpr ⟨checked, by simp [ends.pieces, nonblank], ?_⟩
  simp [ends.pieces, nonblank, led, found, ends.named]

/-- Where the directory of a path has been made the path names a place. -/
theorem Settled.names {disk : Disk} (tree : disk.IsTree) {target : Target} (named : target.IsNamed)
    (checked : checkPath target.path.toList = .ok ()) (settled : Settled disk target.path) :
    ∃ directory name, Names disk target.path directory name false := by
  obtain ⟨before, name, ends, short⟩ := named
  obtain ⟨parent, found, _, moves, _⟩ := ends.parent
  have entered : ∃ directory, disk.enter (disk.origin target.path.toList) before = .ok directory := by
    rw [← enter_filter, ← moves]
    rcases settled parent found with rfl | there
    · exact ⟨_, enter_origin tree target.path.toList⟩
    · obtain ⟨location, led, _⟩ := (isDirectory_iff disk parent).mp there
      have parentChecked := ((resolve_ok_iff disk parent location).mp led).1
      rw [← origin_parent disk found]
      exact (isDirectory_iff_enter disk parentChecked).mp there
  obtain ⟨directory, entered⟩ := entered
  exact ⟨directory, name, lastStep_of_entered ends checked entered, short⟩

theorem Names.isDirectory_iff {disk : Disk} {path : String} {directory : Location}
    {name : Path.Piece} (names : Names disk path directory name false) :
    disk.isDirectory path = true ↔ disk.node? (disk.destination path) = some .directory := by
  rw [Disk.isDirectory_iff, ← names.destination]
  constructor
  · rintro ⟨location, led, found⟩
    rwa [((names.resolve_ok_iff location).mp led).1] at found
  · intro found
    exact ⟨_, (names.resolve_ok_iff _).mpr ⟨rfl, by simp [found], by simp⟩, found⟩

theorem checkPath_of_exists {disk : Disk} {path : String} (there : disk.exists? path = true) :
    checkPath path.toList = .ok () := by
  obtain ⟨location, led⟩ := (exists?_iff disk path).mp there
  exact ((resolve_ok_iff disk path location).mp led).1

end Disk

namespace Artifact

def target (artifact : Artifact) (directory : String) : Target :=
  ⟨artifact.path directory, artifact.overwrite⟩

def targets (artifacts : List Artifact) (directory : String) : List Target :=
  artifacts.map fun artifact => artifact.target directory

section

variable {artifact : Artifact} {directory : String} {disk : Disk}

theorem replaced_ok (tree : disk.IsTree) (named : (artifact.target directory).IsNamed)
    (settled : Settled disk (artifact.path directory))
    (writable : (artifact.target directory).Writable disk) :
    ∃ previous, artifact.replaced directory disk = .ok previous := by
  obtain ⟨parent, name, (names : Disk.Names disk (artifact.path directory) parent name false)⟩ :=
    Disk.Settled.names tree named writable.checked settled
  by_cases read : artifact.overwrite = .always ∧ disk.exists? (artifact.path directory) = true
  · have present := names.exists?_iff.mp read.2
    rw [names.destination] at present
    cases found : disk.node? (disk.destination (artifact.path directory)) with
    | none => exact (present found).elim
    | some node =>
        cases node with
        | directory => exact (writable.free found).elim
        | file content =>
            obtain ⟨text, decoded⟩ :=
              Option.isSome_iff_exists.mp (writable.readable read.1 content found)
            have led := (names.resolve_ok_iff (disk.destination (artifact.path directory))).mpr
              ⟨names.destination.symm, present, by simp⟩
            have wasRead := (Disk.readText_ok_iff disk _ text).mpr
              ((Disk.readFile_ok_iff disk _ text).mpr ⟨_, content, led, found, decoded⟩)
            exact ⟨some text, by simp [replaced, read, wasRead, Except.map]⟩
  · exact ⟨none, by simp [replaced, read]⟩

theorem write_ok (tree : disk.IsTree) (named : (artifact.target directory).IsNamed)
    (settled : Settled disk (artifact.path directory))
    (writable : (artifact.target directory).Writable disk) :
    ∃ result after, artifact.write directory disk = (.ok result, after) := by
  obtain ⟨parent, name, (names : Disk.Names disk (artifact.path directory) parent name false)⟩ :=
    Disk.Settled.names tree named writable.checked settled
  have wrote := (Disk.writeFile_ok_iff disk _ _ artifact.content.toByteArray).mpr
    ⟨parent, name, names, by rw [names.destination]; exact writable.free, rfl⟩
  have replaces : ∃ result after, artifact.replace directory disk = (.ok result, after) := by
    simp only [replace, Disk.writeText_settled settled, wrote]
    exact ⟨_, _, rfl⟩
  simp only [write]
  split
  · exact replaces
  · split
    · exact ⟨_, _, rfl⟩
    · exact replaces

end

theorem write_tree {artifact : Artifact} {directory : String} {disk : Disk} (tree : disk.IsTree)
    (settled : Settled disk (artifact.path directory)) :
    (artifact.write directory disk).2.IsTree := by
  refine (write_changes settled).tree tree ?_
  rintro location (impossible | led)
  · exact impossible.elim
  · exact ⟨_, led⟩

theorem writable_after_write {artifact other : Artifact} {directory : String} {disk : Disk}
    (settled : Settled disk (artifact.path directory))
    (apart : disk.destination (other.path directory) ≠ disk.destination (artifact.path directory))
    (writable : (other.target directory).Writable disk) :
    (other.target directory).Writable (artifact.write directory disk).2 := by
  have changes := write_changes settled
  have samePlace := Disk.destination_of_working changes.working
  have untouched : (artifact.write directory disk).2.node?
      (disk.destination (other.path directory)) =
        disk.node? (disk.destination (other.path directory)) := by
    rcases changes.nodes (disk.destination (other.path directory)) with
      same | ⟨_, _, impossible⟩ | ⟨_, led, _⟩
    · exact same
    · exact impossible.elim
    · exact (apart (by rw [Disk.resolve_destination led, samePlace])).elim
  refine ⟨writable.checked, ?_, ?_⟩
  · rw [target, samePlace, untouched]
    exact writable.free
  · rw [target, samePlace, untouched]
    exact writable.readable

theorem writeFrom_ok {directory : String} {undos : List Undo} {artifacts : List Artifact}
    {disk : Disk} (tree : disk.IsTree)
    (named : ∀ artifact ∈ artifacts, (artifact.target directory).IsNamed)
    (settled : ∀ artifact ∈ artifacts, Settled disk (artifact.path directory))
    (writable : ∀ artifact ∈ artifacts, (artifact.target directory).Writable disk)
    (apart : (artifacts.map fun artifact => disk.destination (artifact.path directory)).Nodup) :
    ∃ results, (writeFrom directory undos artifacts disk).1 = .ok results := by
  -- By induction on the artifacts, which lead to different places.
  induction artifacts generalizing undos disk with
  | nil => exact ⟨[], rfl⟩
  | cons artifact rest ih =>
      rw [List.forall_mem_cons] at named settled writable
      rw [List.map_cons, List.nodup_cons, List.mem_map] at apart
      obtain ⟨previous, recorded⟩ := replaced_ok tree named.1 settled.1 writable.1
      obtain ⟨result, after, wrote⟩ := write_ok tree named.1 settled.1 writable.1
      have changes := write_changes settled.1
      have treeAfter := write_tree tree settled.1
      have writableAfter (other : Artifact) (member : other ∈ rest) :=
        writable_after_write settled.1 (fun same => apart.1 ⟨other, member, same⟩)
          (writable.2 other member)
      rw [wrote] at changes treeAfter writableAfter
      obtain ⟨results, later⟩ := @ih (undosOf result previous ++ undos) after treeAfter named.2
        (fun other member => (settled.2 other member).keeps changes.keeps) writableAfter
        (by simpa only [Disk.destination_of_working changes.working] using apart.2)
      simp only [writeFrom, recorded, wrote]
      cases finished : writeFrom directory (undosOf result previous ++ undos) rest after with
      | mk outcome final =>
          obtain rfl : outcome = .ok results := by simpa [finished] using later
          exact ⟨result :: results, rfl⟩

theorem prepareAll_of_settled {directory : String} {artifacts : List Artifact} {disk : Disk}
    (settled : ∀ artifact ∈ artifacts, Settled disk (artifact.path directory)) :
    (prepareAll directory artifacts disk).2 = disk ∧
      ((∀ artifact ∈ artifacts, disk.isDirectory (artifact.path directory) = false) →
        (prepareAll directory artifacts disk).1 = .ok ()) := by
  induction artifacts with
  | nil =>
      rw [prepareAll_nil]
      exact ⟨rfl, fun _ => rfl⟩
  | cons artifact rest ih =>
      rw [List.forall_mem_cons] at settled
      simp only [List.forall_mem_cons]
      rw [prepareAll_cons, prepare]
      cases there : disk.isDirectory (artifact.path directory) with
      | true => simp
      | false =>
          simp only [Bool.false_eq_true, ↓reduceIte, settled.1.ensureParent, true_and]
          exact ih settled.2

theorem exists_placed {artifacts : List Artifact} {results : List WriteResult} {directory : String}
    {before after : Disk} (placed : List.Forall₂
      (fun artifact => Placed artifact directory before after) artifacts results)
    {artifact : Artifact} (member : artifact ∈ artifacts) :
    ∃ result ∈ results, Placed artifact directory before after result := by
  obtain ⟨index, bound, rfl⟩ := List.getElem_of_mem member
  have sameLength := placed.length_eq
  exact ⟨results[index], List.getElem_mem _, placed.get bound (sameLength ▸ bound)⟩

section

variable {directory : String} {artifacts : List Artifact} {disk : Disk} (tree : disk.IsTree)
  (named : ∀ artifact ∈ artifacts, (artifact.target directory).IsNamed)
  (settled : ∀ artifact ∈ artifacts, Settled disk (artifact.path directory))
include tree named settled

theorem prepareAll_of_writable
    (writable : ∀ artifact ∈ artifacts, (artifact.target directory).Writable disk) :
    prepareAll directory artifacts disk = (.ok (), disk) := by
  obtain ⟨same, free⟩ := prepareAll_of_settled settled
  have notThere (artifact : Artifact) (member : artifact ∈ artifacts) :
      disk.isDirectory (artifact.path directory) = false := by
    have fits := writable artifact member
    obtain ⟨parent, name, names⟩ :=
      Disk.Settled.names tree (named artifact member) fits.checked (settled artifact member)
    rw [Bool.eq_false_iff, Ne, show artifact.path directory = (artifact.target directory).path from rfl,
      names.isDirectory_iff]
    exact fits.free
  exact Prod.ext (free notThere) same

theorem writeAll_of_writable
    (writable : ∀ artifact ∈ artifacts, (artifact.target directory).Writable disk)
    (apart : (artifacts.map fun artifact => disk.destination (artifact.path directory)).Nodup) :
    ∃ results, (writeAll artifacts directory disk).1 = .ok results := by
  rw [writeAll, prepareAll_of_writable tree named settled writable]
  exact writeFrom_ok tree named settled writable apart

/-- One place that cannot be written on keeps all from being written. -/
theorem writeAll_of_unwritable {artifact : Artifact} (member : artifact ∈ artifacts)
    (unwritable : ¬(artifact.target directory).Writable disk)
    (apart : (artifacts.map fun artifact => disk.destination (artifact.path directory)).Nodup) :
    ∃ error, writeAll artifacts directory disk = (.error error, disk) := by
  have same := (prepareAll_of_settled settled).1
  cases outcome : (writeAll artifacts directory disk).1 with
  | error error => exact ⟨error, Prod.ext outcome ((writeAll_error outcome).trans same)⟩
  | ok results =>
      refine (unwritable ?_).elim
      obtain ⟨prepared, ready, changes, placed⟩ :=
        writeAll_placed apart
          (Prod.ext outcome rfl : writeAll artifacts directory disk = (.ok results, _))
      obtain rfl : prepared = disk := by simpa [ready] using same
      have free := (prepareAll_settled settled (by rw [ready])).2 artifact member
      obtain ⟨result, _, isPlaced⟩ := exists_placed placed member
      have checked : Disk.checkPath (artifact.path directory).toList = .ok () := by
        cases isPlaced with
        | written holds =>
            obtain ⟨location, _, led, _⟩ := (Disk.readFile_ok_iff _ _ _).mp holds
            exact ((Disk.resolve_ok_iff _ _ location).mp led).1
        | skipped _ there _ => exact Disk.checkPath_of_exists there
      obtain ⟨parent, name, names⟩ := Disk.Settled.names tree (named artifact member) checked
        (settled artifact member)
      refine ⟨checked, ?_, fun always content found => ?_⟩
      · rw [Ne, ← names.isDirectory_iff]
        simpa [target] using free
      · exact writeAll_replaced_text outcome ⟨artifact, member, always, rfl⟩ found

end

end Artifact

end RouteForge
