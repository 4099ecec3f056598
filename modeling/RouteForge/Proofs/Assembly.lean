import RouteForge.Artifact.RouteTable

/-!
When a route table can be made, and which one it is then.
-/

namespace RouteForge

namespace Script

theorem nameError?_eq_none_iff (name : String) :
    nameError? name = none ↔
      (∃ first rest, name.toList = first :: rest ∧ startsName first = true ∧
        ∀ char ∈ rest, continuesName char = true) ∧
      name ∉ reservedWords ∧ name ∉ restrictedNames ∧ name ∉ exportedNames := by
  rw [nameError?]
  cases letters : name.toList with
  | nil => simp
  | cons first rest =>
      have shape : (∃ head tail, first :: rest = head :: tail ∧ startsName head = true ∧
          ∀ char ∈ tail, continuesName char = true) ↔
            startsName first = true ∧ rest.all continuesName = true := by
        simp [List.cons.injEq, and_assoc]
      rw [shape]
      by_cases starts : startsName first = true <;>
        by_cases continues : rest.all continuesName = true <;>
        by_cases reserved : name ∈ reservedWords <;>
        by_cases restricted : name ∈ restrictedNames <;>
        simp [starts, continues, isReserved, reserved, restricted]

end Script

namespace Component

theorem repeatedNames_isEmpty_iff (components : List Component) :
    (repeatedNames components).isEmpty ↔ (components.map Component.name).Nodup := by
  simp only [repeatedNames, List.isEmpty_iff, List.filter_eq_nil_iff, List.mem_eraseDups,
    decide_eq_true_eq, Nat.not_lt, List.nodup_iff_count]
  constructor
  · intro single name
    by_cases present : name ∈ components.map Component.name
    · exact single name present
    · rw [List.count_eq_zero_of_not_mem present]
      exact Nat.zero_le 1
  · exact fun single name _ => single name

end Component

namespace RouteTable

theorem firstBadName?_eq_none_iff (components : List Component) :
    firstBadName? components = none ↔
      ∀ component ∈ components, Script.nameError? component.name = none := by
  induction components with
  | nil => simp [firstBadName?]
  | cons component rest ih =>
      cases error : Script.nameError? component.name <;> simp [firstBadName?, error, ih]

def Importable (components : List Component) : Prop :=
  (∀ component ∈ components, Script.nameError? component.name = none) ∧
    (components.map Component.name).Nodup

theorem checkNames_ok_iff (module : String) (components : List Component) :
    checkNames module components = .ok () ↔ Importable components := by
  rw [Importable, ← firstBadName?_eq_none_iff, ← Component.repeatedNames_isEmpty_iff]
  cases bad : firstBadName? components with
  | some found => simp [checkNames, bad]
  | none => simp [checkNames, bad]

theorem assemble_ok_iff (manifest : Manifest) (variant : Variant) (module : Module)
    (table : RouteTable) :
    assemble manifest variant module = .ok table ↔
      Importable (componentsOf variant module.routes) ∧
        table = {
          module := module.name
          mtype := module.mtype
          mountPath := manifest.mountPath module.name
          components := componentsOf variant module.routes
          routes := routeObjects (frameOf manifest module variant) module.routes } := by
  rw [← checkNames_ok_iff module.name]
  simp only [assemble, bind, Except.bind, pure, Except.pure]
  cases checkNames module.name (componentsOf variant module.routes) with
  | error error => simp
  | ok _ => simp [frameOf, eq_comm]

end RouteTable

end RouteForge
