import Mathlib.Data.List.Induction
import Mathlib.Data.List.Sort
import RouteForge.Proofs.ComponentReferences

/-!
Of which modules a table cannot be made, and why. A verdict is about the names that are imported and
nothing else: the first of them that no import may bind, or else all those that stand in the module
more than once.
-/

namespace RouteForge

/-! Elements in the order in which they first came. -/

def InOrderOf (source shown : List String) : Prop :=
  shown.Pairwise fun first second => source.idxOf first < source.idxOf second

theorem eraseDups_concat (source : List String) (last : String) :
    (source ++ [last]).eraseDups =
      if last ∈ source then source.eraseDups else source.eraseDups ++ [last] := by
  have single : [last].eraseDups = [last] := by simp [List.eraseDups_cons]
  rw [List.eraseDups_append]
  by_cases known : last ∈ source <;> simp [known, List.removeAll, single]

theorem inOrderOf_eraseDups (source : List String) : InOrderOf source source.eraseDups := by
  induction source using List.reverseRecOn with
  | nil => exact .nil
  | append_singleton source last ih =>
      have earlier : InOrderOf (source ++ [last]) source.eraseDups := by
        refine List.Pairwise.imp_of_mem ?_ ih
        intro first second firstSeen secondSeen before
        rw [List.mem_eraseDups] at firstSeen secondSeen
        rwa [List.idxOf_append_of_mem firstSeen, List.idxOf_append_of_mem secondSeen]
      rw [eraseDups_concat]
      split
      · exact earlier
      · next fresh =>
          refine List.pairwise_append.mpr ⟨earlier, List.pairwise_singleton _ _, ?_⟩
          intro first seen second new
          obtain rfl := List.mem_singleton.mp new
          rw [List.mem_eraseDups] at seen
          have position := List.idxOf_lt_length_of_mem seen
          rw [List.idxOf_append_of_mem seen, List.idxOf_append_of_notMem fresh]
          omega

theorem InOrderOf.eq {source shown others : List String} (ordered : InOrderOf source shown)
    (orderedOthers : InOrderOf source others) (same : ∀ name, name ∈ shown ↔ name ∈ others) :
    shown = others := by
  have : Std.Irrefl fun first second => source.idxOf first < source.idxOf second :=
    ⟨fun _ => Nat.lt_irrefl _⟩
  have : Std.Antisymm fun first second => source.idxOf first < source.idxOf second :=
    ⟨fun _ _ before after => absurd after (Nat.lt_asymm before)⟩
  exact List.Subset.antisymm_of_pairwise ordered orderedOthers (fun name => (same name).mp)
    fun name => (same name).mpr

namespace RouteTable

def importedNames (variant : Variant) (routes : List Route) : List String :=
  ((shown variant routes).filter fun route => !route.isLayout).map Route.name

theorem names_componentsOf (variant : Variant) (routes : List Route) :
    (componentsOf variant routes).map Component.name = importedNames variant routes := by
  rw [componentsOf_eq, Component.names_ofRoutes, importedNames]

/-- Why a module with these names imported has no table. -/
inductive IsRefusal (module : String) (names : List String) : TableError → Prop
  | badName {before after : List String} {name : String} {error : Script.NameError}
      (split : names = before ++ name :: after)
      (valid : ∀ earlier ∈ before, Script.nameError? earlier = none)
      (bad : Script.nameError? name = some error) :
      IsRefusal module names (.badName module name error)
  | repeatedNames {repeated : List String} (valid : ∀ name ∈ names, Script.nameError? name = none)
      (some : repeated ≠ []) (twice : ∀ name, name ∈ repeated ↔ 2 ≤ names.count name)
      (ordered : InOrderOf names repeated) :
      IsRefusal module names (.repeatedNames module repeated)

theorem firstBadName?_eq_some_iff (components : List Component) (name : String)
    (error : Script.NameError) :
    firstBadName? components = some (name, error) ↔
      ∃ before after, components.map Component.name = before ++ name :: after ∧
        (∀ earlier ∈ before, Script.nameError? earlier = none) ∧
          Script.nameError? name = some error := by
  induction components with
  | nil => simp [firstBadName?]
  | cons component rest ih =>
      rw [firstBadName?, List.map_cons]
      cases verdict : Script.nameError? component.name with
      | some found =>
          constructor
          · intro same
            obtain ⟨rfl, rfl⟩ := Prod.mk.inj (Option.some.inj same)
            exact ⟨[], rest.map Component.name, rfl, by simp, verdict⟩
          · rintro ⟨before, after, split, valid, bad⟩
            cases before with
            | nil =>
                obtain ⟨rfl, _⟩ := List.cons.inj split
                rw [verdict, Option.some.injEq] at bad
                simp [bad]
            | cons first others =>
                obtain ⟨rfl, _⟩ := List.cons.inj split
                simp [verdict] at valid
      | none =>
          rw [ih]
          constructor
          · rintro ⟨before, after, split, valid, bad⟩
            refine ⟨component.name :: before, after, by rw [split]; rfl, ?_, bad⟩
            exact List.forall_mem_cons.mpr ⟨verdict, valid⟩
          · rintro ⟨before, after, split, valid, bad⟩
            cases before with
            | nil =>
                obtain ⟨rfl, _⟩ := List.cons.inj split
                simp [verdict] at bad
            | cons first others =>
                obtain ⟨_, split⟩ := List.cons.inj split
                exact ⟨others, after, split, (List.forall_mem_cons.mp valid).2, bad⟩

theorem mem_repeatedNames_iff (components : List Component) (name : String) :
    name ∈ Component.repeatedNames components ↔ 2 ≤ (components.map Component.name).count name := by
  simp only [Component.repeatedNames, List.mem_filter, List.mem_eraseDups, decide_eq_true_eq]
  constructor
  · exact fun both => both.2
  · exact fun twice => ⟨List.count_pos_iff.mp (by omega), twice⟩

theorem inOrderOf_repeatedNames (components : List Component) :
    InOrderOf (components.map Component.name) (Component.repeatedNames components) :=
  (inOrderOf_eraseDups _).filter _

theorem checkNames_error_iff (module : String) (components : List Component) (error : TableError) :
    checkNames module components = .error error ↔
      IsRefusal module (components.map Component.name) error := by
  rw [checkNames]
  cases bad : firstBadName? components with
  | some found =>
      obtain ⟨name, reason⟩ := found
      have first := (firstBadName?_eq_some_iff components name reason).mp bad
      constructor
      · intro same
        obtain rfl := Except.error.inj same
        obtain ⟨before, after, split, valid, bad⟩ := first
        exact .badName split valid bad
      · intro refused
        cases refused with
        | badName split valid wrong =>
            have again := (firstBadName?_eq_some_iff components _ _).mpr ⟨_, _, split, valid, wrong⟩
            rw [bad] at again
            obtain ⟨rfl, rfl⟩ := Prod.mk.inj (Option.some.inj again)
            rfl
        | repeatedNames valid =>
            obtain ⟨before, after, split, _, wrong⟩ := first
            rw [valid name (by simp [split])] at wrong
            simp at wrong
  | none =>
      have valid : ∀ name ∈ components.map Component.name, Script.nameError? name = none := by
        simpa using (firstBadName?_eq_none_iff components).mp bad
      have listed := mem_repeatedNames_iff components
      have ordered := inOrderOf_repeatedNames components
      constructor
      · intro same
        simp only at same
        split at same
        · simp at same
        · next some =>
            obtain rfl := Except.error.inj same
            exact .repeatedNames valid (by simpa using some) listed ordered
      · intro refused
        cases refused with
        | badName split _ wrong =>
            rw [valid _ (by simp [split])] at wrong
            simp at wrong
        | repeatedNames _ some twice inOrder =>
            have same := inOrder.eq ordered fun name => (twice name).trans (listed name).symm
            subst same
            simp [some]

theorem assemble_error_iff (manifest : Manifest) (variant : Variant) (module : Module)
    (error : TableError) :
    assemble manifest variant module = .error error ↔
      IsRefusal module.name (importedNames variant module.routes) error := by
  rw [← names_componentsOf, ← checkNames_error_iff, assemble]
  cases checkNames module.name (componentsOf variant module.routes) with
  | error other => simp [bind, Except.bind]
  | ok _ => simp [bind, Except.bind, pure, Except.pure]

theorem importable_iff (variant : Variant) (routes : List Route) :
    Importable (componentsOf variant routes) ↔
      (∀ name ∈ importedNames variant routes, Script.nameError? name = none) ∧
        (importedNames variant routes).Nodup := by
  rw [Importable, ← names_componentsOf, List.forall_mem_map]

/-! Names that are not imported. -/

/-- Forests of one shape, as far down as the variant looks, in which all but the layouts go by the
same names. -/
inductive NamedAlike (variant : Variant) : List Route → List Route → Prop
  | nil : NamedAlike variant [] []
  | cons {first second : Route} {rest others : List Route}
      (layout : first.isLayout = second.isLayout)
      (name : first.isLayout = false → first.name = second.name)
      (below : variant = .nested → NamedAlike variant first.children second.children)
      (next : NamedAlike variant rest others) :
      NamedAlike variant (first :: rest) (second :: others)

def namesBelow (variant : Variant) (routes : List Route) : List String :=
  if variant = .nested then importedNames variant routes else []

theorem importedNames_cons (variant : Variant) (route : Route) (rest : List Route) :
    importedNames variant (route :: rest) =
      ownReference route ++ namesBelow variant route.children ++ importedNames variant rest := by
  have own (tail : List Route) :
      ((route :: tail).filter fun route => !route.isLayout).map Route.name =
        ownReference route ++ (tail.filter fun route => !route.isLayout).map Route.name := by
    cases layout : route.isLayout <;> simp [ownReference, layout]
  cases variant with
  | nested =>
      simp only [importedNames, shown, Route.preorderAll, Route.preorder_eq, List.cons_append]
      rw [own, List.filter_append, List.map_append, ← List.append_assoc]
      rfl
  | flat =>
      simp only [importedNames, shown]
      rw [own, namesBelow, if_neg (by decide), List.append_nil]

theorem NamedAlike.importedNames {variant : Variant} {routes others : List Route}
    (alike : NamedAlike variant routes others) :
    importedNames variant routes = RouteTable.importedNames variant others := by
  induction alike with
  | nil => rfl
  | @cons first second rest others layout name _ _ inner later =>
      have own : ownReference first = ownReference second := by
        rw [ownReference, ownReference, layout]
        split
        · rfl
        · next imported => rw [name (by rw [layout]; simpa using imported)]
      have below : namesBelow variant first.children = namesBelow variant second.children := by
        rw [namesBelow, namesBelow]
        split
        · next nested => exact inner nested
        · rfl
      rw [importedNames_cons, importedNames_cons, own, below, later]

/-- A table is made exactly if all imported names are valid and distinct. The first invalid name is
the verdict, even where names are repeated, and else the repeated ones; what layouts are called, and
anything below the top level of a flat table, has no part in it. -/
theorem assemble_verdict :
    (∀ (manifest : Manifest) (variant : Variant) (module : Module),
      let names := importedNames variant module.routes
      ((∃ table, assemble manifest variant module = .ok table) ↔
        (∀ name ∈ names, Script.nameError? name = none) ∧ names.Nodup) ∧
      ∀ error, assemble manifest variant module = .error error ↔
        IsRefusal module.name names error) ∧
    ∀ (variant : Variant) (routes others : List Route), NamedAlike variant routes others →
      ∀ (manifest changed : Manifest) (name mtype otherMtype : String) (error : TableError),
        assemble manifest variant ⟨name, mtype, routes⟩ = .error error ↔
          assemble changed variant ⟨name, otherMtype, others⟩ = .error error := by
  refine ⟨?_, ?_⟩
  · intro manifest variant module names
    refine ⟨?_, assemble_error_iff manifest variant module⟩
    rw [← importable_iff]
    constructor
    · rintro ⟨table, assembled⟩
      exact ((assemble_ok_iff manifest variant module table).mp assembled).1
    · intro importable
      exact ⟨_, (assemble_ok_iff manifest variant module _).mpr ⟨importable, rfl⟩⟩
  · intro variant routes others alike manifest changed name mtype otherMtype error
    rw [assemble_error_iff, assemble_error_iff, alike.importedNames]

theorem assemble_verdict_of_renamed_layouts :
    let leaf (name : String) : Route :=
      ⟨name, name, "views/" ++ name, none, none, none, none, [], none⟩
    let group (name : String) (children : List Route) : Route :=
      ⟨name, name, "Layout", none, none, none, none, children, none⟩
    let routes := [group "C" [leaf "B", leaf "A"], leaf "C", group "A" [leaf "A", leaf "B"]]
    let others := [group "" [leaf "B", leaf "A"], leaf "C", group "class" [leaf "A", leaf "B"]]
    let manifest : Manifest := ⟨"/app", "app", "/", none, []⟩
    NamedAlike .nested routes others ∧
      assemble manifest .nested ⟨"users", "user", routes⟩ =
        .error (.repeatedNames "users" ["B", "A"]) ∧
      assemble manifest .nested ⟨"users", "user", others⟩ =
        .error (.repeatedNames "users" ["B", "A"]) := by
  intro leaf group routes others manifest
  have same (route : Route) (childless : route.children = []) {rest more : List Route}
      (next : NamedAlike .nested rest more) : NamedAlike .nested (route :: rest) (route :: more) :=
    .cons rfl (fun _ => rfl) (fun _ => by rw [childless]; exact .nil) next
  have alike : NamedAlike .nested routes others :=
    .cons rfl nofun (fun _ => same (leaf "B") rfl (same (leaf "A") rfl .nil))
      (same (leaf "C") rfl
        (.cons rfl nofun (fun _ => same (leaf "A") rfl (same (leaf "B") rfl .nil)) .nil))
  obtain ⟨error, refused, known⟩ := exists_error_of_fails
    (assemble manifest .nested ⟨"users", "user", routes⟩)
    (fun error => error = .repeatedNames "users" ["B", "A"]) (by decide +kernel)
  obtain rfl := of_decide_eq_true known
  exact ⟨alike, refused,
    (assemble_verdict.2 .nested routes others alike manifest manifest _ _ _ _).mp refused⟩

end RouteTable

end RouteForge
