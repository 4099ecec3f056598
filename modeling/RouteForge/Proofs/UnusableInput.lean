import RouteForge.Proofs.Confinement
import RouteForge.Proofs.ValidationGate

/-!
Runs that end because an input cannot be used. A manifest that does not validate is refused before
anything is generated. The user's layer is read when the modules have been generated: if it cannot
be used, the run ends with the disk that the modules left.
-/

namespace RouteForge

def Disk.FilesKept (before after : Disk) : Prop :=
  ∀ location content,
    after.node? location = some (.file content) ↔ before.node? location = some (.file content)

theorem Disk.FilesKept.refl (disk : Disk) : disk.FilesKept disk :=
  fun _ _ => Iff.rfl

/-- The errors of a run that are about its inputs. -/
inductive RunError.IsUnusableInput : RunError → Prop
  | validation (failure : ValidationFailure) : IsUnusableInput (.validation failure)
  | userLayer (error : UserLayerError) : IsUnusableInput (.userLayer error)

namespace Manifest

theorem runBundle_userLayer {manifest : Manifest} {options : RunOptions} {disk : Disk}
    {error : UserLayerError}
    (failed : (manifest.runBundle options disk).1 = .error (.userLayer error)) :
    (manifest.runBundle options disk).2 = disk := by
  rw [runBundle] at failed ⊢
  split
  · next wanted =>
      simp only [wanted, ↓reduceIte] at failed
      split
      · rfl
      · next made =>
          simp only [made] at failed
          split at failed
          · simp at failed
          · split at failed <;> simp at failed
  · rfl

theorem run_userLayer {manifest : Manifest} {options : RunOptions} {disk : Disk}
    {error : UserLayerError} (failed : (manifest.run options disk).1 = .error (.userLayer error)) :
    (manifest.run options disk).2 = (manifest.runModules
      (options.variant.getD manifest.effectiveVariant) options disk).2 := by
  cases checked : manifest.validate (options.variant.getD manifest.effectiveVariant) with
  | error failure =>
      rw [run_of_invalid checked] at failed
      simp at failed
  | ok findings =>
      obtain ⟨after, errors⟩ := run_of_valid checked disk
      rw [after, runBundle_userLayer ((errors _).mp failed)]

/-- When a run ends because an input cannot be used, the files are those from before it if the
manifest did not validate, if the run was a dry one, or if generating the modules changes no file;
in the one other case, a user's layer that cannot be used, the files that differ are those of
modules that were written. -/
theorem run_unusable_input (source : Source) (manifest : Manifest)
    (accepted : ofSource source = .ok manifest) (options : RunOptions) (disk : Disk)
    (error : RunError) (failed : (manifest.run options disk).1 = .error error)
    (unusable : error.IsUnusableInput) :
    let generated := manifest.generate (options.variant.getD manifest.effectiveVariant)
      options.base disk
    (disk.FilesKept (manifest.run options disk).2 ↔
        (∃ failure, error = .validation failure) ∨ options.isDry = true ∨
          disk.FilesKept generated.2) ∧
      ∀ location content,
        ¬IsWrittenFile (options.variant.getD manifest.effectiveVariant) options.base
            manifest.modules generated.1 generated.2 location →
          ((manifest.run options disk).2.node? location = some (.file content) ↔
            disk.node? location = some (.file content)) := by
  intro generated
  cases unusable with
  | validation failure =>
      have invalid := (run_validation_iff manifest options disk failure).mp failed
      rw [run_of_invalid invalid]
      exact ⟨⟨fun _ => Or.inl ⟨failure, rfl⟩, fun _ => Disk.FilesKept.refl disk⟩,
        fun _ _ _ => Iff.rfl⟩
  | userLayer error =>
      rw [run_userLayer failed, runModules]
      cases dry : options.isDry with
      | true => exact ⟨by simp [Disk.FilesKept.refl], fun _ _ _ => Iff.rfl⟩
      | false =>
          refine ⟨by simp [generated], fun location content notWritten => ?_⟩
          have changes := generateFrom_changes manifest
            (options.variant.getD manifest.effectiveVariant) options.base
            (nameFault?_of_accepted accepted) disk
          exact changes.file_iff location notWritten content

theorem run_unusable_input_of_dry_run :
    let document := "\x7b\"module_path\": \"/m\", \"module_name\": \"sys\", \"sub_modules\": [" ++
      "\x7b\"module\": \"demo\", \"mtype\": \"demo\"\x7d]\x7d"
    let options : RunOptions := ⟨"", some .flat, true, true, some "missing.json"⟩
    ∃ manifest, ofSource ⟨document, fileName⟩ = .ok manifest ∧
      (manifest.run options .empty).1 =
        .error (.userLayer (.unreadable (.read "missing.json" .notFound))) ∧
      Disk.empty.FilesKept (manifest.run options .empty).2 := by
  intro document options
  obtain ⟨manifest, accepted, checked⟩ := exists_ok_of_passes (ofSource ⟨document, fileName⟩)
    (fun manifest => fails
      (fun error => error = .userLayer (.unreadable (.read "missing.json" .notFound)))
      (manifest.run options .empty).1)
    (by decide +kernel)
  obtain ⟨error, failed, isMissing⟩ := exists_error_of_fails _ _ checked
  rw [of_decide_eq_true isMissing] at failed
  have kept := (run_unusable_input _ manifest accepted options .empty _ failed (.userLayer _)).1
  exact ⟨manifest, accepted, failed, kept.mpr (Or.inr (Or.inl rfl))⟩

theorem run_missing_userLayer_writes :
    let document := "\x7b\"module_path\": \"/m\", \"module_name\": \"sys\", \"sub_modules\": [" ++
      "\x7b\"module\": \"demo\", \"mtype\": \"demo\"\x7d]\x7d"
    let options : RunOptions := ⟨"", some .flat, false, true, some "missing.json"⟩
    ∃ manifest, ofSource ⟨document, fileName⟩ = .ok manifest ∧
      (manifest.run options .empty).1 =
        .error (.userLayer (.unreadable (.read "missing.json" .notFound))) ∧
      ¬Disk.empty.FilesKept (manifest.run options .empty).2 := by
  intro document options
  let place : Disk.Location := ["demo".toList, ".config.js".toList]
  obtain ⟨manifest, accepted, checked⟩ := exists_ok_of_passes (ofSource ⟨document, fileName⟩)
    (fun manifest =>
      fails (fun error => error = .userLayer (.unreadable (.read "missing.json" .notFound)))
          (manifest.run options .empty).1 &&
        decide ((manifest.run options .empty).2.node? place ≠ none ∧
          (manifest.run options .empty).2.node? place ≠ some .directory))
    (by decide +kernel)
  obtain ⟨failing, present⟩ := Bool.and_eq_true_iff.mp checked
  obtain ⟨error, failed, isMissing⟩ := exists_error_of_fails _ _ failing
  rw [of_decide_eq_true isMissing] at failed
  obtain ⟨there, notDirectory⟩ := of_decide_eq_true present
  refine ⟨manifest, accepted, failed, fun kept => ?_⟩
  cases found : (manifest.run options .empty).2.node? place with
  | none => exact there found
  | some node =>
      cases node with
      | directory => exact notDirectory found
      | file content =>
          have was := (kept place content).mp found
          simp [Disk.empty, Disk.node?, place] at was

end Manifest

end RouteForge
