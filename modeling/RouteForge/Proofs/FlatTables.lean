import RouteForge.Lint.Rules
import RouteForge.Proofs.ComponentReferences

/-!
What a flat table leaves out. Routes and the objects that show them are compared place by place: an
address tells which tree of a forest a node is in, and which child is taken at each level. A flat table
has nothing below its top level, and each route that loses something there is reported.
-/

namespace RouteForge

def nodeAt? {α : Type} (children : α → List α) : List Nat → List α → Option α
  | [], _ => none
  | [index], nodes => nodes[index]?
  | index :: next :: below, nodes =>
      nodes[index]?.bind fun node => nodeAt? children (next :: below) (children node)

section

variable {α β : Type} {children : α → List α} {childrenOf : β → List β}

theorem nodeAt?_below {index : Nat} {below : List Nat} (strict : below ≠ []) (nodes : List α) :
    nodeAt? children (index :: below) nodes =
      nodes[index]?.bind fun node => nodeAt? children below (children node) := by
  obtain ⟨next, below, rfl⟩ := List.exists_cons_of_ne_nil strict
  rw [nodeAt?]

theorem nodeAt?_nil (address : List Nat) : nodeAt? children address [] = none := by
  match address with
  | [] | [_] | _ :: _ :: _ => rfl

theorem nodeAt?_map {show? : Nat → α → β}
    (shows : ∀ depth node, childrenOf (show? depth node) = (children node).map (show? (depth + 1)))
    (address : List Nat) (depth : Nat) (nodes : List α) :
    nodeAt? childrenOf address (nodes.map (show? depth)) =
      (nodeAt? children address nodes).map (show? (depth + (address.length - 1))) := by
  fun_induction nodeAt? children address nodes generalizing depth with
  | case1 => rfl
  | case2 index nodes => simp [nodeAt?]
  | case3 index next below nodes ih =>
      rw [nodeAt?, List.getElem?_map]
      cases nodes[index]? with
      | none => rfl
      | some node =>
          have deeper := ih node (depth + 1)
          rw [← shows] at deeper
          simpa [Nat.add_assoc, Nat.add_comm 1] using deeper

end

namespace Script

def Term.items : Term → List Object
  | .list items => items
  | _ => []

namespace Object

def values (key : String) : Object → List Term
  | .mk _ properties => (properties.filter fun property => property.1 = key).map Prod.snd

def children (object : Object) : List Object :=
  (object.values "children").flatMap Term.items

variable (object : Object) (name key : String)

@[simp]
theorem values_empty (style : KeyStyle) : (empty style).values key = [] := by
  simp [empty, values]

@[simp]
theorem values_add (term : Term) :
    (object.add name term).values key =
      object.values key ++ if name = key then [term] else [] := by
  obtain ⟨style, properties⟩ := object
  by_cases same : name = key <;> simp [add, values, same]

@[simp]
theorem values_string (text : String) :
    (object.string name text).values key =
      object.values key ++ if name = key then [.string text] else [] :=
  values_add object name key _

@[simp]
theorem values_raw (code : String) :
    (object.raw name code).values key =
      object.values key ++ if name = key then [.raw code] else [] :=
  values_add object name key _

@[simp]
theorem values_bool (flag : Bool) :
    (object.bool name flag).values key =
      object.values key ++ if name = key then [.raw (Json.boolText flag)] else [] :=
  values_raw object name key _

@[simp]
theorem values_json (value : Json.Value) :
    (object.json name value).values key =
      object.values key ++ if name = key then [.json value] else [] :=
  values_add object name key _

@[simp]
theorem values_boolIfGiven (flag : Option Bool) :
    (object.boolIfGiven name flag).values key =
      object.values key ++
        if name = key then flag.toList.map fun flag => .raw (Json.boolText flag) else [] := by
  cases flag <;> simp [boolIfGiven]

@[simp]
theorem values_listIf (condition : Bool) (items : List Object) :
    (object.listIf condition name items).values key =
      object.values key ++ if condition ∧ name = key then [.list items] else [] := by
  cases condition <;> simp [listIf, list]

end Object

end Script

namespace RouteTable

open Script (Object Term)

/-- An object that shows a route of a module, at its depth below the top level. -/
structure Shows (manifest : Manifest) (module : Module) (depth : Nat) (route : Route)
    (object : Object) : Prop where
  name : object.values "name" = [.string (manifest.moduleName ++ "_" ++ route.name)]
  path : object.values "path" = [.string
    (if depth = 0 then manifest.mountPath module.name ++ "/" ++ route.path else route.path)]
  component : object.values "component" =
    [if route.component = "Layout" then .string "Layout" else .raw route.name]

/-- The objects of the table that a module has in a variant. -/
def tableOf (manifest : Manifest) (variant : Variant) (module : Module) : List Object :=
  routeObjects (frameOf manifest module variant) module.routes

/-- The table has an object that shows the route, and at the address of the route. -/
def IsShown (manifest : Manifest) (variant : Variant) (module : Module) (address : List Nat)
    (route : Route) : Prop :=
  ∃ object, nodeAt? Object.children address (tableOf manifest variant module) = some object ∧
    Shows manifest module (address.length - 1) route object

@[simp]
theorem values_addComponent (object : Object) (name component key : String) :
    (addComponent object name component).values key =
      object.values key ++ if "component" = key then
        [if component = "Layout" then .string "Layout" else .raw name] else [] := by
  by_cases layout : component = "Layout" <;> simp [addComponent, Route.layoutComponent, layout]

theorem shows_flatRoute (manifest : Manifest) (module : Module) (route : Route) :
    Shows manifest module 0 route (flatRoute (frameOf manifest module .flat) route) := by
  constructor <;> simp [flatRoute, frameOf, Frame.routeName, Frame.routePath, Manifest.routePath]

theorem children_flatRoute (frame : Frame) (route : Route) :
    (flatRoute frame route).children = [] := by
  simp [flatRoute, Object.children]

theorem shows_nestedRoute (manifest : Manifest) (module : Module) (depth : Nat) (route : Route) :
    Shows manifest module depth route
      (nestedRoute (frameOf manifest module .nested) depth route) := by
  rw [nestedRoute_eq]
  constructor
  · simp [frameOf, Frame.routeName]
  · cases depth <;> simp [frameOf, Frame.routePath, Manifest.routePath]
  · simp

theorem nestedRoutes_eq_map (frame : Frame) (depth : Nat) (routes : List Route) :
    nestedRoutes frame depth routes = routes.map (nestedRoute frame depth) := by
  induction routes with
  | nil => simp [nestedRoutes]
  | cons route rest ih => simp [nestedRoutes, ih]

theorem children_nestedRoute (frame : Frame) (depth : Nat) (route : Route) :
    (nestedRoute frame depth route).children =
      route.children.map (nestedRoute frame (depth + 1)) := by
  rw [nestedRoute_eq, nestedRoutes_eq_map]
  cases childless : route.children <;>
    simp [Object.children, Route.hasChildren, childless, Term.items]

theorem tableOf_nested (manifest : Manifest) (module : Module) (address : List Nat) :
    nodeAt? Object.children address (tableOf manifest .nested module) =
      (nodeAt? Route.children address module.routes).map
        (nestedRoute (frameOf manifest module .nested) (address.length - 1)) := by
  have whole := nodeAt?_map (children_nestedRoute (frameOf manifest module .nested)) address 0
    module.routes
  simpa [tableOf, routeObjects, frameOf, nestedRoutes_eq_map] using whole

theorem tableOf_flat_top (manifest : Manifest) (module : Module) (index : Nat) :
    nodeAt? Object.children [index] (tableOf manifest .flat module) =
      module.routes[index]?.map (flatRoute (frameOf manifest module .flat)) := by
  simp [nodeAt?, tableOf, routeObjects, frameOf]

theorem tableOf_flat_below (manifest : Manifest) (module : Module) (index : Nat) {below : List Nat}
    (strict : below ≠ []) :
    nodeAt? Object.children (index :: below) (tableOf manifest .flat module) = none := by
  rw [nodeAt?_below strict, Option.bind_eq_none_iff]
  intro object found
  simp only [tableOf, routeObjects, frameOf, List.getElem?_map, Option.map_eq_some_iff] at found
  obtain ⟨route, _, rfl⟩ := found
  rw [children_flatRoute, nodeAt?_nil]

theorem shows_of_tableOf {manifest : Manifest} {variant : Variant} {module : Module}
    {address : List Nat} {object : Object}
    (found : nodeAt? Object.children address (tableOf manifest variant module) = some object) :
    ∃ route, nodeAt? Route.children address module.routes = some route ∧
      Shows manifest module (address.length - 1) route object := by
  cases variant with
  | nested =>
      rw [tableOf_nested, Option.map_eq_some_iff] at found
      obtain ⟨route, here, rfl⟩ := found
      exact ⟨route, here, shows_nestedRoute manifest module _ route⟩
  | flat =>
      match address with
      | [] => simp [nodeAt?] at found
      | [index] =>
          rw [tableOf_flat_top, Option.map_eq_some_iff] at found
          obtain ⟨route, here, rfl⟩ := found
          exact ⟨route, here, shows_flatRoute manifest module route⟩
      | index :: next :: below =>
          rw [tableOf_flat_below manifest module index (List.cons_ne_nil next below)] at found
          simp at found

theorem isShown_nested (manifest : Manifest) {module : Module} {address : List Nat} {route : Route}
    (here : nodeAt? Route.children address module.routes = some route) :
    IsShown manifest .nested module address route :=
  ⟨_, by rw [tableOf_nested, here, Option.map_some], shows_nestedRoute manifest module _ route⟩

theorem not_isShown_flat_below (manifest : Manifest) (module : Module) (index : Nat)
    {below : List Nat} (strict : below ≠ []) (route : Route) :
    ¬IsShown manifest .flat module (index :: below) route := by
  rintro ⟨object, found, _⟩
  simp [tableOf_flat_below manifest module index strict] at found

end RouteTable

/-! Reports. -/

theorem mem_ignoredChildren_iff (module : Module) (finding : Finding) :
    finding ∈ Rule.ignoredChildren module ↔
      ∃ route ∈ module.routes, route.children ≠ [] ∧
        finding = .ignoredChildren module.name route.name := by
  simp only [Rule.ignoredChildren, List.mem_map, List.mem_filter, Route.hasChildren]
  constructor
  · rintro ⟨route, ⟨member, more⟩, rfl⟩
    exact ⟨route, member, by simpa using more, rfl⟩
  · rintro ⟨route, member, more, rfl⟩
    exact ⟨route, ⟨member, by simpa using more⟩, rfl⟩

theorem Route.preorderAll_of_childless {routes : List Route}
    (childless : ∀ route ∈ routes, route.children = []) : preorderAll routes = routes := by
  induction routes with
  | nil => simp [preorderAll]
  | cons route rest ih =>
      obtain ⟨first, others⟩ := List.forall_mem_cons.mp childless
      rw [preorderAll, preorder_eq, first, ih others]
      simp [preorderAll]

namespace RouteTable

open Script (Object)

theorem componentsOf_of_silent {module : Module} (silent : Rule.ignoredChildren module = []) :
    componentsOf .flat module.routes = componentsOf .nested module.routes ∧
      componentsOf .flat module.routes =
        (module.routes.filter fun route => route.component ≠ "Layout").map fun route =>
          ⟨route.name, route.component⟩ := by
  have childless : ∀ route ∈ module.routes, route.children = [] := by
    intro route member
    refine Decidable.byContradiction fun more => ?_
    have reported := (mem_ignoredChildren_iff module _).mpr ⟨route, member, more, rfl⟩
    simp [silent] at reported
  rw [componentsOf_eq, componentsOf_eq, shown, shown, Route.preorderAll_of_childless childless]
  refine ⟨rfl, ?_⟩
  simp only [Component.ofRoutes, Route.isLayout, Route.layoutComponent, decide_not]
  rfl

/-- A flat table leaves out what stands below a route that is reported, the rule reports nothing else,
and a nested table leaves out nothing. What a table has shows the route that stands there. -/
theorem left_out_iff_reported (manifest : Manifest) :
    (∀ variant module address object,
      nodeAt? Object.children address (tableOf manifest variant module) = some object →
        ∃ route, nodeAt? Route.children address module.routes = some route ∧
          Shows manifest module (address.length - 1) route object) ∧
    (∀ module ∈ manifest.modules, ∀ address route,
      nodeAt? Route.children address module.routes = some route →
        (¬IsShown manifest .flat module address route ↔
          ∃ index below top, address = index :: below ∧ below ≠ [] ∧
            module.routes[index]? = some top ∧
            .ignoredChildren module.name top.name ∈ Rule.flatChildren.findings manifest .flat)) ∧
    (∀ finding ∈ Rule.flatChildren.findings manifest .flat,
      ∃ module ∈ manifest.modules, ∃ index top, module.routes[index]? = some top ∧
        finding = .ignoredChildren module.name top.name ∧
        finding.diagnostic = ⟨.warning, "validate",
          "route '" ++ top.name ++ "' in module '" ++ module.name ++
            "' has children, which the flat variant ignores",
          some ("sub_modules." ++ module.name ++ "." ++ top.name)⟩ ∧
        ∃ below route, below ≠ [] ∧
          nodeAt? Route.children (index :: below) module.routes = some route ∧
          ¬IsShown manifest .flat module (index :: below) route) ∧
    (∀ module ∈ manifest.modules, Rule.ignoredChildren module = [] →
      componentsOf .flat module.routes = componentsOf .nested module.routes ∧
        componentsOf .flat module.routes =
          (module.routes.filter fun route => route.component ≠ "Layout").map fun route =>
            ⟨route.name, route.component⟩) ∧
    Rule.flatChildren.findings manifest .nested = [] ∧
    ∀ module ∈ manifest.modules, ∀ address route,
      nodeAt? Route.children address module.routes = some route →
        IsShown manifest .nested module address route := by
  have findings : Rule.flatChildren.findings manifest .flat =
      manifest.modules.flatMap Rule.ignoredChildren := rfl
  refine ⟨fun _ _ _ _ found => shows_of_tableOf found, ?_, ?_,
    fun _ _ silent => componentsOf_of_silent silent, rfl,
    fun _ _ _ _ here => isShown_nested manifest here⟩
  · intro module member address route here
    constructor
    · intro missing
      match address with
      | [] => simp [nodeAt?] at here
      | [index] =>
          have atIndex : module.routes[index]? = some route := here
          refine absurd ⟨_, ?_, shows_flatRoute manifest module route⟩ missing
          rw [tableOf_flat_top, atIndex, Option.map_some]
      | index :: next :: below =>
          rw [nodeAt?, Option.bind_eq_some_iff] at here
          obtain ⟨top, atIndex, inside⟩ := here
          refine ⟨index, next :: below, top, rfl, by simp, atIndex, ?_⟩
          have more : top.children ≠ [] := by
            intro childless
            rw [childless, nodeAt?_nil] at inside
            simp at inside
          rw [findings, List.mem_flatMap]
          exact ⟨module, member, (mem_ignoredChildren_iff module _).mpr
            ⟨top, List.mem_of_getElem? atIndex, more, rfl⟩⟩
    · rintro ⟨index, below, top, rfl, strict, _, _⟩
      exact not_isShown_flat_below manifest module index strict route
  · intro finding reported
    rw [findings, List.mem_flatMap] at reported
    obtain ⟨module, member, reported⟩ := reported
    obtain ⟨top, isTop, more, rfl⟩ := (mem_ignoredChildren_iff module finding).mp reported
    obtain ⟨index, atIndex⟩ := List.getElem?_of_mem isTop
    obtain ⟨child, others, children⟩ := List.exists_cons_of_ne_nil more
    refine ⟨module, member, index, top, atIndex, rfl, rfl, [0], child, by simp, ?_,
      not_isShown_flat_below manifest module index (by simp) child⟩
    simp [nodeAt?, atIndex, children]

theorem left_out_iff_reported_below_layout :
    let leaf (name : String) : Route :=
      ⟨name, name, "views/" ++ name, none, none, none, none, [], none⟩
    let group (name : String) (children : List Route) : Route :=
      ⟨name, name, "Layout", none, none, none, none, children, none⟩
    let module : Module :=
      ⟨"users", "user", [leaf "Home", group "Users" [leaf "One", group "Lists" [leaf "All"]]]⟩
    let manifest : Manifest := ⟨"/app", "app", "/", none, [module]⟩
    nodeAt? Route.children [1, 1, 0] module.routes = some (leaf "All") ∧
      ¬IsShown manifest .flat module [1, 1, 0] (leaf "All") ∧
      .ignoredChildren "users" "Users" ∈ Rule.flatChildren.findings manifest .flat ∧
      (∃ object, nodeAt? Object.children [1] (tableOf manifest .flat module) = some object ∧
        object.values "name" = [.string "app_Users"] ∧
        object.values "path" = [.string "/app/users/Users"] ∧
        object.values "component" = [.string "Layout"]) ∧
      ∃ object, nodeAt? Object.children [1, 1, 0] (tableOf manifest .nested module) = some object ∧
        object.values "name" = [.string "app_All"] ∧ object.values "path" = [.string "All"] ∧
        object.values "component" = [.raw "All"] := by
  intro leaf group module manifest
  have here : nodeAt? Route.children [1, 1, 0] module.routes = some (leaf "All") := rfl
  have reported : .ignoredChildren "users" "Users" ∈ Rule.flatChildren.findings manifest .flat := by
    decide
  have member : module ∈ manifest.modules := by simp [manifest]
  have mounted : manifest.mountPath "users" = "/app/users" := by decide +kernel
  obtain ⟨shows, leftOut, _, _, _, kept⟩ := left_out_iff_reported manifest
  obtain ⟨object, found, shown⟩ := kept module member _ _ here
  have below := (leftOut module member _ _ here).mpr ⟨1, [1, 0], _, rfl, by simp, rfl, reported⟩
  refine ⟨here, below, reported, ⟨_, rfl, ?_⟩, object, found, shown.name, shown.path,
    shown.component⟩
  obtain ⟨route, isTop, top⟩ := shows .flat module [1] _ rfl
  obtain rfl : group "Users" [leaf "One", group "Lists" [leaf "All"]] = route :=
    Option.some.inj isTop
  have path := top.path
  rw [show module.name = "users" from rfl, mounted] at path
  exact ⟨top.name, path, top.component⟩

end RouteTable

end RouteForge
