import RouteForge.Proofs.PreviewAgreement
import RouteForge.Proofs.ReplacedContent
import RouteForge.Proofs.ValidationGate

/-!
What is left alone. Only an artifact that replaces what is there changes something that is there, and
only where its path leads; one that is created once, a directory that is made and a set of artifacts
that fails do not. A run thus spares every place that bears the name of the stub.
-/

namespace RouteForge

open Disk (Settled Keeps Changes)

namespace Disk

/-- Nothing was lost, and what was there at the spared locations is unchanged. -/
structure Spares (spared : Location → Prop) (before after : Disk) : Prop where
  keeps : Keeps before after
  nodes : ∀ location, spared location → before.node? location ≠ none →
    after.node? location = before.node? location

theorem Spares.refl (spared : Location → Prop) (disk : Disk) : Spares spared disk disk :=
  ⟨Keeps.refl disk, fun _ _ _ => rfl⟩

theorem Spares.trans {spared : Location → Prop} {first second third : Disk}
    (earlier : Spares spared first second) (later : Spares spared second third) :
    Spares spared first third := by
  refine ⟨earlier.keeps.trans later.keeps, fun location inside present => ?_⟩
  rw [later.nodes location inside (earlier.keeps.present location present),
    earlier.nodes location inside present]

theorem Spares.weaken {spared fewer : Location → Prop} {before after : Disk}
    (spares : Spares spared before after)
    (subset : ∀ location, fewer location → spared location) : Spares fewer before after :=
  ⟨spares.keeps, fun location inside => spares.nodes location (subset location inside)⟩

theorem Changes.spares {before after : Disk} {made written : Location → Prop}
    (changes : Changes before after made written) :
    Spares (fun location => ¬written location) before after := by
  refine ⟨changes.keeps, fun location notWritten present => ?_⟩
  rcases changes.nodes location with same | ⟨missing, _⟩ | ⟨_, isWritten, _⟩
  · exact same
  · exact (present missing).elim
  · exact (notWritten isWritten).elim

theorem Grows.spares {before after : Disk} {made : Location → Prop} (grows : Grows before after made)
    (spared : Location → Prop) : Spares spared before after :=
  (Changes.spares grows).weaken fun _ _ => id

theorem writeFile_spares {disk after : Disk} {path : String} {content : ByteArray}
    (wrote : disk.writeFile path content = .ok after) :
    Spares (fun location => location ≠ disk.destination path) disk after := by
  refine ⟨writeFile_keeps wrote, fun location elsewhere _ => ?_⟩
  obtain ⟨parent, name, names, _, rfl⟩ := (writeFile_ok_iff disk after path content).mp wrote
  rw [← names.destination] at elsewhere
  simp [node?_place disk (parent ++ [name]) (by simp), elsewhere]

end Disk

namespace Artifact

open Disk (Spares)

theorem replace_spares (artifact : Artifact) (directory : String) (disk : Disk) :
    Spares (fun location => location ≠ disk.destination (artifact.path directory)) disk
      (artifact.replace directory disk).2 := by
  have grows := Disk.ensureParent_grows disk (artifact.path directory)
  simp only [replace, Disk.writeText]
  cases ensured : disk.ensureParent (artifact.path directory) with
  | mk outcome made =>
      rw [ensured] at grows
      have parents := Disk.Grows.spares grows
      cases outcome with
      | error error => exact parents _
      | ok _ =>
          simp only
          cases wrote : made.writeFile (artifact.path directory) artifact.content.toByteArray with
          | error cause => exact parents _
          | ok after =>
              have last := Disk.writeFile_spares wrote
              rw [Disk.destination_of_working grows.working] at last
              exact (parents _).trans last

theorem write_spares {artifact : Artifact} {directory : String} {disk : Disk}
    (settled : Settled disk (artifact.path directory)) (rest : List Artifact) :
    Spares (fun location => ¬IsReplaced (artifact :: rest) directory disk location) disk
      (artifact.write directory disk).2 := by
  rcases write_cases settled with ⟨_, failed⟩ | ⟨_, _, skipped⟩ | ⟨after, wrote, rule, written⟩
  · rw [failed]
    exact Spares.refl _ disk
  · rw [skipped]
    exact Spares.refl _ disk
  · rw [written]
    refine ⟨Disk.writeFile_keeps wrote, fun location spared present => ?_⟩
    refine (Disk.writeFile_spares wrote).nodes location (fun leads => ?_) present
    rcases rule with always | missing
    · exact spared ⟨artifact, by simp, always, leads⟩
    · obtain ⟨_, _, names, _, _⟩ := (Disk.writeFile_ok_iff disk after _ _).mp wrote
      rw [leads, ← names.destination] at present
      simp [names.exists?_iff.mpr present] at missing

theorem writeFrom_spares {directory : String} {undos : List Undo} {artifacts : List Artifact}
    {disk : Disk} {results : List WriteResult}
    (settled : ∀ artifact ∈ artifacts, Settled disk (artifact.path directory))
    (written : (writeFrom directory undos artifacts disk).1 = .ok results) :
    Spares (fun location => ¬IsReplaced artifacts directory disk location) disk
      (writeFrom directory undos artifacts disk).2 := by
  induction artifacts generalizing undos disk results with
  | nil => exact Spares.refl _ disk
  | cons artifact rest ih =>
      rw [List.forall_mem_cons] at settled
      rcases writeFrom_cons_cases settled.1 undos rest with
        ⟨_, stopped⟩ | ⟨previous, result, after, _, wrote, continued⟩
      · simp [stopped] at written
      · have first := write_spares settled.1 rest
        rw [wrote] at first
        rw [continued] at written ⊢
        cases outcome : (writeFrom directory (undosOf result previous ++ undos) rest after).1 with
        | error error => simp [outcome, Except.map] at written
        | ok later =>
            have others := ih (fun other member => (settled.2 other member).keeps first.keeps) outcome
            refine first.trans (others.weaken ?_)
            rintro location spared ⟨other, member, always, leads⟩
            rw [Disk.destination_of_working first.keeps.working] at leads
            exact spared ⟨other, by simp [member], always, leads⟩

theorem writeAll_spares (artifacts : List Artifact) (directory : String) (disk : Disk) :
    Spares (fun location => ¬IsReplaced artifacts directory disk location) disk
      (writeAll artifacts directory disk).2 := by
  have grows := prepareAll_grows directory artifacts disk
  cases outcome : (writeAll artifacts directory disk).1 with
  | error error =>
      rw [writeAll_error outcome]
      exact Disk.Grows.spares grows _
  | ok results =>
      have settled := prepareAll_ok directory artifacts disk
      rw [writeAll] at outcome ⊢
      split at outcome
      · simp at outcome
      · next prepared ready =>
          rw [ready] at grows settled
          refine (Disk.Grows.spares grows _).trans ((writeFrom_spares (settled rfl) outcome).weaken ?_)
          exact fun location spared replaced => spared (replaced.congr grows.working.symm)

end Artifact

/-! Places that bear the name of the stub. -/

def IsStubPlace (location : Disk.Location) : Prop :=
  location.getLast? = some Artifact.requestStubName.toList

theorem getLast?_destination_join (disk : Disk) (directory : String) {name : String}
    {names : List Path.Piece} (down : Path.Downward name names) :
    (disk.destination (Path.join directory name)).getLast? = names.getLast? := by
  rw [Disk.destination_join disk directory down]
  cases names.eq_nil_or_concat with
  | inl empty => exact (down.nonempty empty).elim
  | inr ended =>
      obtain ⟨front, last, rfl⟩ := ended
      simp [← List.append_assoc]

theorem Module.stub_not_replaced {manifest : Manifest} {variant : Variant} {module : Module}
    {artifacts : List Artifact} (made : module.artifacts manifest variant = .ok artifacts)
    (base : String) (disk : Disk) {location : Disk.Location} (stub : IsStubPlace location) :
    ¬Artifact.IsReplaced artifacts (module.directory base) disk location := by
  rintro ⟨artifact, member, always, rfl⟩
  have own : artifact.name ∈ fileNames variant :=
    names_of_artifacts made ▸ List.mem_map_of_mem member
  have last := getLast?_destination_join disk (module.directory base) (downward_own own)
  rw [IsStubPlace, Artifact.path, last] at stub
  obtain ⟨table, rfl⟩ := artifacts_cases made
  simp only [List.mem_cons, List.not_mem_nil, or_false] at member
  rcases member with rfl | rfl | rfl
  · exact absurd stub (by decide : ¬(Path.pieces RouteTable.fileName.toList).getLast? = some _)
  · exact absurd stub (by decide : ¬(Path.pieces Artifact.entryPointName.toList).getLast? = some _)
  · cases variant with
    | nested =>
        exact absurd stub (by decide : ¬(Path.pieces Artifact.requestModuleName.toList).getLast? = some _)
    | flat => simp [Artifact.requestFile, Artifact.requestStub] at always

namespace Manifest

open Disk (Spares)

theorem generate_spares_stubs (manifest : Manifest) (variant : Variant) (base : String)
    (module : Module) (disk : Disk) :
    Spares IsStubPlace disk (module.generate manifest variant base disk).2 := by
  simp only [Module.generate]
  cases made : module.artifacts manifest variant with
  | error error => exact Spares.refl _ disk
  | ok artifacts =>
      have spares := (Artifact.writeAll_spares artifacts (module.directory base) disk).weaken
        fun _ => Module.stub_not_replaced made base disk
      simp only
      cases written : Artifact.writeAll artifacts (module.directory base) disk with
      | mk outcome after =>
          rw [written] at spares
          cases outcome <;> exact spares

theorem generateFrom_spares_stubs (manifest : Manifest) (variant : Variant) (base : String)
    (modules : List Module) (disk : Disk) :
    Spares IsStubPlace disk (manifest.generateFrom variant base modules disk).2 := by
  induction modules generalizing disk with
  | nil => exact Spares.refl _ disk
  | cons module rest ih =>
      rw [generateFrom_cons]
      exact (generate_spares_stubs manifest variant base module disk).trans (ih _)

theorem runBundle_spares_stubs (manifest : Manifest) (options : RunOptions) (disk : Disk) :
    Spares IsStubPlace disk (manifest.runBundle options disk).2 := by
  have down : Path.Downward Bundle.fileName [Bundle.fileName.toList] :=
    Path.downward_name (by decide) (by decide)
  have elsewhere (bundle : Bundle) (location : Disk.Location) (stub : IsStubPlace location) :
      location ≠ disk.destination (bundle.artifact.path options.base) := by
    rintro rfl
    rw [IsStubPlace, Artifact.path,
      show bundle.artifact.name = Bundle.fileName from rfl,
      getLast?_destination_join disk options.base down] at stub
    exact absurd stub (by decide)
  simp only [runBundle]
  split
  · cases Bundle.forRun manifest options disk with
    | error error => exact Spares.refl _ disk
    | ok bundle =>
        have spares := (bundle.artifact.replace_spares options.base disk).weaken (elsewhere bundle)
        simp only [Artifact.write, show bundle.artifact.overwrite = .always from rfl]
        split
        · exact Spares.refl _ disk
        · cases written : bundle.artifact.replace options.base disk with
          | mk outcome after =>
              rw [written] at spares
              cases outcome <;> exact spares
  · exact Spares.refl _ disk

/-- Whatever a run comes to, the stubs that were there are as they were. -/
theorem run_spares_stubs (manifest : Manifest) (options : RunOptions) (disk : Disk) :
    Spares IsStubPlace disk (manifest.run options disk).2 := by
  cases valid : manifest.validate (options.variant.getD manifest.effectiveVariant) with
  | error failure =>
      rw [run_of_invalid valid]
      exact Spares.refl _ disk
  | ok findings =>
      rw [(run_of_valid valid disk).1]
      refine Spares.trans ?_ (runBundle_spares_stubs manifest options _)
      rw [runModules]
      split
      · exact Spares.refl _ disk
      · exact generateFrom_spares_stubs manifest _ options.base manifest.modules disk

end Manifest

end RouteForge
