import RouteForge.Proofs.PreviewAgreement

/-!
The paths at which a module's files are made. A module that is written or shown is reported with these
paths, in this order; and as long as no two entries have one name, no two files of a run have one place.
-/

namespace RouteForge

namespace Outcome

def paths (outcome : Outcome) : List String :=
  match outcome.status with
  | .written results => results.map WriteResult.path
  | .previewed files => files.map PreviewFile.path
  | .failed _ => []

end Outcome

theorem Artifact.Placed.path_eq {artifact : Artifact} {directory : String} {before after : Disk}
    {result : WriteResult} (placed : artifact.Placed directory before after result) :
    result.path = artifact.path directory := by
  cases placed <;> rfl

namespace Module

/-- The paths at which a module's files are made; there are none if its table cannot be made. -/
def targets (manifest : Manifest) (variant : Variant) (base : String) (module : Module) :
    List String :=
  match module.artifacts manifest variant with
  | .error _ => []
  | .ok artifacts => artifacts.map fun artifact => artifact.path (module.directory base)

section

variable {manifest : Manifest} {variant : Variant} {base : String} {module : Module}

theorem targets_of_artifacts {artifacts : List Artifact}
    (made : module.artifacts manifest variant = .ok artifacts) :
    module.targets manifest variant base =
      artifacts.map fun artifact => artifact.path (module.directory base) := by
  rw [targets, made]

theorem placed_of_written {disk : Disk} {results : List WriteResult}
    (wrote : (module.generate manifest variant base disk).1.status = .written results) :
    ∃ artifacts prepared after, module.artifacts manifest variant = .ok artifacts ∧
      List.Forall₂ (fun artifact => Artifact.Placed artifact (module.directory base) prepared after)
        artifacts results := by
  rw [generate] at wrote
  cases made : module.artifacts manifest variant with
  | error error => simp [made] at wrote
  | ok artifacts =>
      cases writing : Artifact.writeAll artifacts (module.directory base) disk with
      | mk result after =>
          simp only [made, writing] at wrote
          cases result with
          | error error => cases wrote
          | ok found =>
              obtain rfl := ModuleStatus.written.inj wrote
              obtain ⟨prepared, _, _, placed⟩ :=
                Artifact.writeAll_placed (destinations_apart made disk) writing
              exact ⟨artifacts, prepared, after, rfl, placed⟩

theorem paths_generate {disk : Disk}
    (made : (module.generate manifest variant base disk).1.isFailed = false) :
    (module.generate manifest variant base disk).1.paths = module.targets manifest variant base := by
  rw [Outcome.paths]
  cases reported : (module.generate manifest variant base disk).1.status with
  | written results =>
      obtain ⟨artifacts, prepared, after, assembled, placed⟩ := placed_of_written reported
      rw [targets_of_artifacts assembled]
      exact (map_eq_map_of_related placed fun _ _ own => own.path_eq.symm).symm
  | previewed files =>
      rw [generate] at reported
      split at reported
      · cases reported
      · split at reported <;> cases reported
  | failed failure => simp [Outcome.isFailed, reported] at made

theorem paths_preview (made : (module.preview manifest variant base).isFailed = false) :
    (module.preview manifest variant base).paths = module.targets manifest variant base := by
  cases assembled : module.artifacts manifest variant with
  | error error => simp [preview, assembled, Outcome.isFailed] at made
  | ok artifacts =>
      simp [preview, assembled, targets, Outcome.paths, Artifact.preview]

theorem destination_target (disk : Disk) {path : String}
    (member : path ∈ module.targets manifest variant base) :
    ∃ more, more ≠ [] ∧
      disk.destination path = disk.destination (module.directory base) ++ more := by
  cases made : module.artifacts manifest variant with
  | error error => simp [targets, made] at member
  | ok artifacts =>
      rw [targets_of_artifacts made] at member
      obtain ⟨artifact, own, rfl⟩ := List.mem_map.mp member
      exact ⟨_, Path.pieces_ne_nil _, destination_own made disk own⟩

theorem targets_apart (disk : Disk) :
    ((module.targets manifest variant base).map disk.destination).Nodup := by
  cases made : module.artifacts manifest variant with
  | error error => simp [targets, made]
  | ok artifacts =>
      rw [targets_of_artifacts made, List.map_map]
      exact destinations_apart made disk

end

end Module

namespace Manifest

def targets (manifest : Manifest) (variant : Variant) (base : String) : List String :=
  Path.join base Bundle.fileName ::
    manifest.modules.flatMap fun module => module.targets manifest variant base

theorem runModules_paths (manifest : Manifest) (variant : Variant) (options : RunOptions)
    (disk : Disk) :
    List.Forall₂
      (fun module outcome => outcome.isFailed = false →
        outcome.paths = module.targets manifest variant options.base)
      manifest.modules (manifest.runModules variant options disk).1 := by
  rw [runModules]
  cases options.isDry with
  | true =>
      simp only [↓reduceIte, preview, List.forall₂_map_right_iff, List.forall₂_same]
      exact fun module _ => Module.paths_preview
  | false =>
      refine (generateFrom_outcomes manifest variant options.base disk).imp ?_
      rintro module outcome ⟨before, rfl⟩
      exact Module.paths_generate

section

variable {manifest : Manifest} (variant : Variant) (base : String)
  (faultless : ∀ module ∈ manifest.modules, DocumentPlace.nameFault? module.name = none)
  (distinct : (manifest.modules.map Module.name).Nodup)
include faultless distinct

theorem targets_apart (disk : Disk) :
    ((manifest.targets variant base).map disk.destination).Nodup := by
  rw [targets, List.map_cons, List.map_flatMap, List.nodup_cons, List.nodup_flatMap]
  refine ⟨?_, fun module _ => Module.targets_apart disk, ?_⟩
  · rw [List.mem_flatMap]
    rintro ⟨module, member, found⟩
    obtain ⟨path, own, same⟩ := List.mem_map.mp found
    obtain ⟨more, nonempty, placed⟩ := Module.destination_target disk own
    rw [placed, Module.destination_directory disk base (faultless module member),
      Disk.destination_join disk base (Path.downward_name (by decide) (by decide)),
      List.append_assoc, List.append_cancel_left_eq] at same
    simp [nonempty] at same
  · rw [List.nodup_iff_pairwise_ne, List.pairwise_map] at distinct
    refine distinct.imp_of_mem ?_
    rintro module neighbour member neighbourMember different place first second
    obtain ⟨path, own, rfl⟩ := List.mem_map.mp first
    obtain ⟨other, neighbourOwn, same⟩ := List.mem_map.mp second
    obtain ⟨more, _, placed⟩ := Module.destination_target disk own
    obtain ⟨otherMore, _, otherPlaced⟩ := Module.destination_target disk neighbourOwn
    refine Module.directories_apart (Ne.symm different) (faultless module member)
      (faultless neighbour neighbourMember) (placed ▸ List.prefix_append _ _) ?_
    rw [← same, otherPlaced]
    exact List.prefix_append _ _

/-- No two files of a run have one path, however paths are spelled. -/
theorem targets_distinct : ((manifest.targets variant base).map Path.components).Nodup := by
  have apart := targets_apart variant base faultless distinct .empty
  rw [List.nodup_iff_pairwise_ne, List.pairwise_map] at apart ⊢
  exact apart.imp fun different same => different (Disk.destination_congr _ same)

end

end Manifest

end RouteForge
