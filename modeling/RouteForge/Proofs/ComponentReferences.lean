import RouteForge.Proofs.AcceptedManifests
import RouteForge.Proofs.Assembly
import RouteForge.Proofs.RouteWalks

/-!
The names that the routes of a table refer to are the names that the table imports.
-/

namespace RouteForge

namespace Script

mutual
/-- The code that a property refers to, as the value of `component` or inside of `children`. -/
def Term.references (key : String) : Term → List String
  | .raw code => if key = "component" then [code] else []
  | .list items => if key = "children" then itemReferences items else []
  | .string _ => []
  | .json _ => []

def Object.references : Object → List String
  | .mk _ properties => propertyReferences properties

def propertyReferences : List (String × Term) → List String
  | [] => []
  | (key, term) :: rest => term.references key ++ propertyReferences rest

def itemReferences : List Object → List String
  | [] => []
  | item :: rest => item.references ++ itemReferences rest
end

theorem propertyReferences_append (first second : List (String × Term)) :
    propertyReferences (first ++ second) =
      propertyReferences first ++ propertyReferences second := by
  induction first with
  | nil => simp [propertyReferences]
  | cons property rest ih =>
      obtain ⟨key, term⟩ := property
      simp [propertyReferences, ih]

theorem itemReferences_map {α : Type} (render : α → Object) (values : List α) :
    itemReferences (values.map render) = values.flatMap fun value => (render value).references := by
  induction values with
  | nil => simp [itemReferences]
  | cons value rest ih => simp [itemReferences, ih]

def Import.bound (statement : Import) : List String :=
  statement.defaultName.toList ++ statement.names

namespace Object

variable (object : Object) (key : String)

theorem references_add (term : Term) :
    (object.add key term).references = object.references ++ term.references key := by
  obtain ⟨style, properties⟩ := object
  simp [add, references, propertyReferences_append, propertyReferences]

@[simp]
theorem references_empty (style : KeyStyle) : (empty style).references = [] := by
  simp [empty, references, propertyReferences]

@[simp]
theorem references_string (text : String) :
    (object.string key text).references = object.references := by
  simp [string, references_add, Term.references]

@[simp]
theorem references_json (value : Json.Value) :
    (object.json key value).references = object.references := by
  simp [json, references_add, Term.references]

theorem references_raw (code : String) :
    (object.raw key code).references =
      object.references ++ if key = "component" then [code] else [] := by
  simp [raw, references_add, Term.references]

theorem references_listIf (condition : Bool) (items : List Object) :
    (object.listIf condition key items).references =
      object.references ++
        if condition ∧ key = "children" then itemReferences items else [] := by
  cases condition
  · simp [listIf]
  · simp [listIf, list, references_add, Term.references]

variable {key} (plain : key ≠ "component")
include plain

theorem references_bool (flag : Bool) :
    (object.bool key flag).references = object.references := by
  simp [bool, references_raw, plain]

theorem references_boolIfGiven (flag : Option Bool) :
    (object.boolIfGiven key flag).references = object.references := by
  cases flag with
  | none => rfl
  | some flag => exact references_bool object plain flag

end Object

end Script

namespace RouteTable

open Script (Object itemReferences)

def ownReference (route : Route) : List String :=
  if route.isLayout then [] else [route.name]

theorem flatMap_ownReference (routes : List Route) :
    routes.flatMap ownReference = (Component.ofRoutes routes).map Component.name := by
  induction routes with
  | nil => rfl
  | cons route rest ih =>
      rw [List.flatMap_cons, ih]
      cases layout : route.isLayout <;> simp [ownReference, Component.ofRoutes, Component.ofRoute, layout]

theorem references_addComponent (object : Object) (route : Route) :
    (addComponent object route.name route.component).references =
      object.references ++ ownReference route := by
  by_cases layout : route.component = Route.layoutComponent
  · simp [addComponent, ownReference, Route.isLayout, layout]
  · simp [addComponent, ownReference, Route.isLayout, layout, Script.Object.references_raw]

theorem references_flatRoute (frame : Frame) (route : Route) :
    (flatRoute frame route).references = ownReference route := by
  simp [flatRoute, Script.Object.references_bool, references_addComponent]

theorem nestedRoute_eq (frame : Frame) (depth : Nat) (route : Route) :
    nestedRoute frame depth route =
      (addComponent
        ((Object.empty .quoted)
          |>.string "name" (frame.routeName route.name)
          |>.string "path" (frame.routePath route.path depth)
          |>.bool "hidden" route.isHidden
          |>.string "redirect" route.effectiveRedirect)
        route.name route.component
        |>.boolIfGiven "alwaysShow" route.alwaysShow
        |>.json "meta" (.object (route.attributes.getD []))
        |>.listIf route.hasChildren "children" (nestedRoutes frame (depth + 1) route.children)) := by
  cases route
  simp [nestedRoute]

/-- A route that has no children writes no list of them, and has nothing to refer to below it. -/
theorem references_nestedRoute_of_children {frame : Frame} {depth : Nat} {route : Route}
    (below : itemReferences (nestedRoutes frame (depth + 1) route.children) =
      (Route.preorderAll route.children).flatMap ownReference) :
    (nestedRoute frame depth route).references = route.preorder.flatMap ownReference := by
  rw [nestedRoute_eq, Script.Object.references_listIf, Route.preorder_eq, List.flatMap_cons]
  have own : ownReference route ++ (if route.hasChildren = true then
      itemReferences (nestedRoutes frame (depth + 1) route.children) else []) =
        ownReference route ++ (Route.preorderAll route.children).flatMap ownReference := by
    by_cases childless : route.children = []
    · simp [Route.hasChildren, childless, Route.preorderAll]
    · simp [Route.hasChildren, childless, below]
  rw [← own]
  simp [Script.Object.references_boolIfGiven, Script.Object.references_bool, references_addComponent]

mutual
theorem references_nestedRoute (frame : Frame) (depth : Nat) : (route : Route) →
    (nestedRoute frame depth route).references = route.preorder.flatMap ownReference
  | ⟨_, _, _, _, _, _, _, children, _⟩ =>
      references_nestedRoute_of_children (references_nestedRoutes frame (depth + 1) children)

theorem references_nestedRoutes (frame : Frame) (depth : Nat) : (routes : List Route) →
    itemReferences (nestedRoutes frame depth routes) =
      (Route.preorderAll routes).flatMap ownReference
  | [] => by simp [nestedRoutes, itemReferences, Route.preorderAll]
  | route :: rest => by
      simp [nestedRoutes, itemReferences, Route.preorderAll, references_nestedRoute frame depth route,
        references_nestedRoutes frame depth rest]
end

/-- The routes that a table shows: whole trees in a nested table, the top level in a flat one. -/
def shown (variant : Variant) (routes : List Route) : List Route :=
  match variant with
  | .nested => Route.preorderAll routes
  | .flat => routes

theorem componentsOf_eq (variant : Variant) (routes : List Route) :
    componentsOf variant routes = Component.ofRoutes (shown variant routes) := by
  cases variant with
  | nested => exact Component.ofForest_eq routes
  | flat => rfl

theorem references_routeObjects (frame : Frame) (routes : List Route) :
    itemReferences (routeObjects frame routes) =
      (componentsOf frame.variant routes).map Component.name := by
  rw [componentsOf_eq, ← flatMap_ownReference]
  cases shape : frame.variant with
  | nested => simp [routeObjects, shape, shown, references_nestedRoutes]
  | flat =>
      simp [routeObjects, shape, shown, Script.itemReferences_map, references_flatRoute]

theorem imports_eq (table : RouteTable) :
    table.script.imports = table.components.map importOf := by
  simp [script, Script.SourceFile.withNode, Script.SourceFile.withImports,
    Script.SourceFile.withHeader, Script.SourceFile.empty]

theorem bound_importOf (component : Component) : (importOf component).bound = [component.name] :=
  rfl

theorem bound_imports (table : RouteTable) :
    table.script.imports.flatMap Script.Import.bound = table.components.map Component.name := by
  rw [imports_eq, List.flatMap_map]
  induction table.components with
  | nil => rfl
  | cons component rest ih =>
      rw [List.flatMap_cons, ih, bound_importOf]
      rfl

theorem references_of_assembled {manifest : Manifest} {variant : Variant} {module : Module}
    {table : RouteTable} (assembled : assemble manifest variant module = .ok table) :
    itemReferences table.routes = table.components.map Component.name ∧
      Importable table.components := by
  obtain ⟨importable, rfl⟩ := (assemble_ok_iff manifest variant module table).mp assembled
  exact ⟨references_routeObjects (frameOf manifest module variant) module.routes, importable⟩

/-- The names that routes refer to are those of the components, in one order, and in a table that
could be made every reference has its import, every import its reference, and no import takes a
name that the table exports. -/
theorem references_match_imports :
    (∀ (frame : Frame) (routes : List Route),
      itemReferences (routeObjects frame routes) =
          (componentsOf frame.variant routes).map Component.name ∧
        itemReferences (routeObjects frame routes) =
          ((shown frame.variant routes).filter fun route => !route.isLayout).map Route.name) ∧
    ∀ (manifest : Manifest) (variant : Variant) (module : Module) (table : RouteTable),
      assemble manifest variant module = .ok table →
        table.script.imports.flatMap Script.Import.bound = itemReferences table.routes ∧
        (∀ name ∈ itemReferences table.routes,
          (table.script.imports.flatMap Script.Import.bound).count name = 1) ∧
        ∀ statement ∈ table.script.imports, ∃ name,
          statement.bound = [name] ∧ (itemReferences table.routes).count name = 1 ∧
            name ∉ ["mtype", "routes", "moduleInfo"] := by
  refine ⟨?_, ?_⟩
  · intro frame routes
    refine ⟨references_routeObjects frame routes, ?_⟩
    rw [references_routeObjects, componentsOf_eq, Component.names_ofRoutes]
  · intro manifest variant module table assembled
    obtain ⟨references, valid, distinct⟩ := references_of_assembled assembled
    have once : ∀ name ∈ table.components.map Component.name,
        (table.components.map Component.name).count name = 1 := by
      intro name member
      rw [List.Nodup.count distinct, if_pos member]
    rw [bound_imports, references]
    refine ⟨rfl, once, ?_⟩
    intro statement member
    rw [imports_eq] at member
    obtain ⟨component, needed, rfl⟩ := List.mem_map.mp member
    have referenced : component.name ∈ table.components.map Component.name :=
      List.mem_map_of_mem needed
    have untaken := ((Script.nameError?_eq_none_iff component.name).mp (valid component needed)).2.2.2
    exact ⟨component.name, bound_importOf component, once _ referenced, untaken⟩

theorem references_match_imports_below_layouts :
    let leaf (name : String) : Route :=
      ⟨name, name, "views/" ++ name, none, none, none, none, [], none⟩
    let group (name : String) (children : List Route) : Route :=
      ⟨name, name, "Layout", none, none, none, none, children, none⟩
    let module : Module := ⟨"users", "user", [group "Users" [group "Lists" [leaf "All"], leaf "One"]]⟩
    let manifest : Manifest := ⟨"/app", "app", "/", none, [module]⟩
    ∃ table, assemble manifest .nested module = .ok table ∧
      itemReferences table.routes = ["All", "One"] ∧
      ∀ name ∈ itemReferences table.routes,
        (table.script.imports.flatMap Script.Import.bound).count name = 1 := by
  intro leaf group module manifest
  obtain ⟨table, assembled, passed⟩ := exists_ok_of_passes (assemble manifest .nested module)
    (fun table => table.components.map Component.name = ["All", "One"]) (by decide +kernel)
  have names := of_decide_eq_true passed
  obtain ⟨same, once, _⟩ := references_match_imports.2 manifest .nested module table assembled
  rw [bound_imports, names] at same
  exact ⟨table, assembled, same.symm, once⟩

end RouteTable

end RouteForge
