import RouteForge.Disk.Basic
import RouteForge.Manifest.Validation

/-!
What is known of a manifest once its document was accepted.
-/

namespace RouteForge

def passes {ε α : Type} (check : α → Bool) : Except ε α → Bool
  | .ok value => check value
  | .error _ => false

theorem exists_ok_of_passes {ε α : Type} (result : Except ε α) (check : α → Bool)
    (passed : passes check result = true) : ∃ value, result = .ok value ∧ check value = true := by
  cases result with
  | error error => simp [passes] at passed
  | ok value => exact ⟨value, rfl, passed⟩

def fails {ε α : Type} (check : ε → Bool) : Except ε α → Bool
  | .ok _ => false
  | .error error => check error

theorem exists_error_of_fails {ε α : Type} (result : Except ε α) (check : ε → Bool)
    (failed : fails check result = true) : ∃ error, result = .error error ∧ check error = true := by
  cases result with
  | error error => exact ⟨error, rfl, failed⟩
  | ok value => simp [fails] at failed

theorem exists_of_bind_ok {ε α β : Type} {first : Except ε α} {next : α → Except ε β}
    {result : β} (done : first >>= next = .ok result) :
    ∃ value, first = .ok value ∧ next value = .ok result := by
  cases first with
  | error error => simp [bind, Except.bind] at done
  | ok value => exact ⟨value, rfl, done⟩

theorem value_of_ok {ε α β : Type} {value other : α} {left rest : β}
    (done : (Except.ok (value, left) : Except ε (α × β)) = .ok (other, rest)) : value = other :=
  (Prod.mk.inj (Except.ok.inj done)).1

theorem ok_of_mapError {ε δ α : Type} {result : Except ε α} {change : ε → δ} {value : α}
    (done : result.mapError change = .ok value) : result = .ok value := by
  cases result with
  | error error => cases done
  | ok other => exact congrArg Except.ok (Except.ok.inj done)

/-! Names of modules. -/

theorem isName_of_nameFault? {name : String} (faultless : DocumentPlace.nameFault? name = none) :
    Disk.isName name.toList = true ∧ '/' ∉ name.toList ∧ '\\' ∉ name.toList := by
  simp only [DocumentPlace.nameFault?] at faultless
  split at faultless
  · simp at faultless
  · next notBlank =>
      split at faultless
      · simp at faultless
      · next notRelative =>
          split at faultless
          · simp at faultless
          · next notSeparated =>
              have notEmpty : name.toList ≠ [] := by
                intro empty
                simp [Text.isBlankText, empty] at notBlank
              have notDot : name.toList ≠ ['.'] := by
                intro same
                exact notRelative (Or.inl (String.toList_inj.mp same))
              have notDots : name.toList ≠ ['.', '.'] := by
                intro same
                exact notRelative (Or.inr (String.toList_inj.mp same))
              simp only [List.any_eq_true, Bool.or_eq_true, decide_eq_true_eq, not_exists,
                not_and] at notSeparated
              refine ⟨by simp [Disk.isName, notEmpty, notDot, notDots], ?_, ?_⟩
              · exact fun member => notSeparated '/' member (Or.inl rfl)
              · exact fun member => notSeparated '\\' member (Or.inr rfl)

theorem nameFault?_of_checkModules {place : DocumentPlace} {index : Nat} {modules : List Module}
    (checked : Manifest.checkModules place index modules = .ok ()) :
    ∀ module ∈ modules, DocumentPlace.nameFault? module.name = none := by
  induction modules generalizing index with
  | nil => simp
  | cons module rest ih =>
      rw [List.forall_mem_cons]
      simp only [Manifest.checkModules, bind, Except.bind, DocumentPlace.checkModuleName] at checked
      cases fault : DocumentPlace.nameFault? module.name with
      | some fault' => simp [fault] at checked
      | none =>
          simp only [fault] at checked
          exact ⟨rfl, ih checked⟩

theorem nameFault?_of_accepted {source : Source} {manifest : Manifest}
    (accepted : Manifest.ofSource source = .ok manifest) :
    ∀ module ∈ manifest.modules, DocumentPlace.nameFault? module.name = none := by
  obtain ⟨read, _, accepted⟩ := exists_of_bind_ok accepted
  obtain ⟨_, checked, accepted⟩ := exists_of_bind_ok accepted
  obtain rfl := Except.ok.inj accepted
  obtain ⟨_, _, checked⟩ := exists_of_bind_ok checked
  exact nameFault?_of_checkModules checked

end RouteForge
