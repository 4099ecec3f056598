import RouteForge.Proofs.ComponentReferences
import RouteForge.Proofs.ObjectReading
import RouteForge.Proofs.StatementReading

/-!
The script of a route table reads as the declared routes.
-/

namespace RouteForge

namespace RouteTable

open Script (Data Object Statement Writes WritesAll Means SectionsMean)
open Script.Lexicon (generated)

/-! What a module declares. -/

def declaredComponent (name component : String) : Data :=
  if component = "Layout" then .text "Layout" else .reference name

def declaredRedirect (redirect : Option String) : Data :=
  .text (if redirect.getD "" = "" then "noRedirect" else redirect.getD "")

mutual
def declaredTree (moduleName mountPath : String) (depth : Nat) : Route → Data
  | ⟨name, path, component, redirect, hidden, alwaysShow, attributes, children, _⟩ =>
      .record ([
        ("name", .text (moduleName ++ "_" ++ name)),
        ("path", .text (if depth = 0 then mountPath ++ "/" ++ path else path)),
        ("hidden", .flag (hidden.getD false)),
        ("redirect", declaredRedirect redirect),
        ("component", declaredComponent name component)] ++
        (alwaysShow.toList.map fun flag => ("alwaysShow", .flag flag)) ++
        [("meta", .record (Data.ofMembers (attributes.getD [])))] ++
        if children = [] then []
        else [("children", .list (declaredTrees moduleName mountPath (depth + 1) children))])

def declaredTrees (moduleName mountPath : String) (depth : Nat) : List Route → List Data
  | [] => []
  | route :: rest =>
      declaredTree moduleName mountPath depth route ::
        declaredTrees moduleName mountPath depth rest
end

/-- A route of a flat table, which shows nothing below it. -/
def declaredEntry (moduleName mountPath : String) (route : Route) : Data :=
  .record [
    ("path", .text (mountPath ++ "/" ++ route.path)),
    ("name", .text (moduleName ++ "_" ++ route.name)),
    ("component", declaredComponent route.name route.component),
    ("entry", .flag (route.entry.getD false))]

def declaredRoutes (variant : Variant) (moduleName mountPath : String) (routes : List Route) :
    List Data :=
  match variant with
  | .nested => declaredTrees moduleName mountPath 0 routes
  | .flat => routes.map (declaredEntry moduleName mountPath)

def declaredImports (variant : Variant) (routes : List Route) : List Statement :=
  ((shown variant routes).filter fun route => !route.isLayout).map fun route =>
    .importDefault route.name (Script.importSpecifier route.component)

def declaredInfo (module mountPath : String) : Data :=
  .record [
    ("name", .text module), ("path", .text mountPath),
    ("mtype", .reference "mtype"), ("routes", .reference "routes")]

/-! Routes. -/

/-- A route whose component, if it has one, goes by a name that an import may bind. -/
def Named (route : Route) : Prop :=
  route.isLayout = false → Script.nameError? route.name = none

theorem writes_addComponent {style : Script.KeyStyle} {object : Object}
    {members : List (String × Data)} (writes : Writes generated style object members)
    (spelled : generated.Spells (Script.keyScalar style "component")) {route : Route}
    (named : Named route) :
    Writes generated style (addComponent object route.name route.component)
      (members ++ [("component", declaredComponent route.name route.component)]) := by
  by_cases layout : route.component = "Layout"
  · have same : route.component = Route.layoutComponent := layout
    rw [addComponent, declaredComponent, if_pos same, if_pos layout]
    exact writes.string spelled "Layout"
  · have other : route.component ≠ Route.layoutComponent := layout
    rw [addComponent, declaredComponent, if_neg other, if_neg layout]
    have importable := named (by simp [Route.isLayout, other])
    exact writes.reference spelled (Script.isName_of_nameError? importable)
      (Script.isReserved_of_nameError? importable)

theorem writes_flatRoute {frame : Frame} (flat : frame.variant = .flat) {route : Route}
    (named : Named route) :
    ∃ members, Writes generated .bare (flatRoute frame route) members ∧
      declaredEntry frame.stem frame.mountPath route = .record members := by
  have keys : ∀ key ∈ ["path", "name", "component", "entry"], generated.IsName key.toList := by
    decide +kernel
  have start := ((Script.writes_empty .bare).string (keys "path" (by simp))
    (frame.routePath route.path 0)).string (keys "name" (by simp)) (frame.routeName route.name)
  have whole := (writes_addComponent start (keys "component" (by simp)) named).bool
    (keys "entry" (by simp)) route.isEntry
  refine ⟨_, whole, ?_⟩
  simp [declaredEntry, Frame.routePath, Manifest.routePath, flat, Frame.routeName, Route.isEntry]

theorem declaredTree_eq (moduleName mountPath : String) (depth : Nat) (route : Route) :
    declaredTree moduleName mountPath depth route =
      .record ([
        ("name", .text (moduleName ++ "_" ++ route.name)),
        ("path", .text (if depth = 0 then mountPath ++ "/" ++ route.path else route.path)),
        ("hidden", .flag (route.hidden.getD false)),
        ("redirect", declaredRedirect route.redirect),
        ("component", declaredComponent route.name route.component)] ++
        (route.alwaysShow.toList.map fun flag => ("alwaysShow", .flag flag)) ++
        [("meta", .record (Data.ofMembers (route.attributes.getD [])))] ++
        if route.children = [] then []
        else [("children", .list (declaredTrees moduleName mountPath (depth + 1) route.children))]) := by
  cases route
  simp only [declaredTree]

theorem effectiveRedirect_eq (route : Route) :
    Data.text route.effectiveRedirect = declaredRedirect route.redirect := by
  rw [Route.effectiveRedirect, declaredRedirect]
  cases route.redirect with
  | none => rfl
  | some target => simp [Route.missingRedirect]

theorem routePath_nested {frame : Frame} (nested : frame.variant = .nested) (path : String)
    (depth : Nat) :
    frame.routePath path depth = if depth = 0 then frame.mountPath ++ "/" ++ path else path := by
  cases depth <;> simp [Frame.routePath, Manifest.routePath, nested]

theorem writes_nestedRoute_of_children {frame : Frame} (nested : frame.variant = .nested)
    {depth : Nat} {route : Route} (named : Named route)
    (below : WritesAll generated (nestedRoutes frame (depth + 1) route.children)
      (declaredTrees frame.stem frame.mountPath (depth + 1) route.children)) :
    ∃ members, Writes generated .quoted (nestedRoute frame depth route) members ∧
      declaredTree frame.stem frame.mountPath depth route = .record members := by
  have key (key : String) : generated.Spells (Script.keyScalar .quoted key) := trivial
  have start := ((((Script.writes_empty .quoted).string (key "name")
    (frame.routeName route.name)).string (key "path") (frame.routePath route.path depth)).bool
      (key "hidden") route.isHidden).string (key "redirect") route.effectiveRedirect
  have component := writes_addComponent start (key "component") named
  have whole := ((component.boolIfGiven route.alwaysShow fun _ => key "alwaysShow").json (key "meta")
    (.object (route.attributes.getD []))).listIf route.hasChildren (fun _ => key "children")
      fun _ => below
  rw [← nestedRoute_eq] at whole
  refine ⟨_, whole, ?_⟩
  rw [declaredTree_eq, effectiveRedirect_eq, routePath_nested nested]
  simp [Frame.routeName, Route.isHidden, Route.hasChildren, Data.ofJson]

mutual
theorem writes_nestedRoute {frame : Frame} (nested : frame.variant = .nested) (depth : Nat) :
    (route : Route) → (∀ below ∈ route.preorder, Named below) →
      ∃ members, Writes generated .quoted (nestedRoute frame depth route) members ∧
        declaredTree frame.stem frame.mountPath depth route = .record members
  | ⟨_, _, _, _, _, _, _, children, _⟩, named => by
      rw [Route.preorder_eq, List.forall_mem_cons] at named
      exact writes_nestedRoute_of_children nested named.1
        (writes_nestedRoutes nested (depth + 1) children named.2)

theorem writes_nestedRoutes {frame : Frame} (nested : frame.variant = .nested) (depth : Nat) :
    (routes : List Route) → (∀ route ∈ Route.preorderAll routes, Named route) →
      WritesAll generated (nestedRoutes frame depth routes)
        (declaredTrees frame.stem frame.mountPath depth routes)
  | [], _ => .nil
  | route :: rest, named => by
      rw [Route.preorderAll, List.forall_mem_append] at named
      obtain ⟨members, writes, declared⟩ := writes_nestedRoute nested depth route named.1
      rw [nestedRoutes, declaredTrees, declared]
      exact .cons writes (writes_nestedRoutes nested depth rest named.2)
end

theorem writes_flatRoutes {frame : Frame} (flat : frame.variant = .flat) {routes : List Route}
    (named : ∀ route ∈ routes, Named route) :
    WritesAll generated (routes.map (flatRoute frame))
      (routes.map (declaredEntry frame.stem frame.mountPath)) := by
  induction routes with
  | nil => exact .nil
  | cons route rest ih =>
      rw [List.forall_mem_cons] at named
      obtain ⟨members, writes, declared⟩ := writes_flatRoute flat named.1
      rw [List.map_cons, List.map_cons, declared]
      exact .cons writes (ih named.2)

theorem writes_routeObjects (frame : Frame) {routes : List Route}
    (named : ∀ route ∈ shown frame.variant routes, Named route) :
    WritesAll generated (routeObjects frame routes)
      (declaredRoutes frame.variant frame.stem frame.mountPath routes) := by
  cases shape : frame.variant with
  | nested =>
      rw [shape] at named
      rw [routeObjects, shape]
      exact writes_nestedRoutes shape 0 routes named
  | flat =>
      rw [shape] at named
      rw [routeObjects, shape]
      exact writes_flatRoutes shape named

theorem named_of_importable {variant : Variant} {routes : List Route}
    (importable : Importable (componentsOf variant routes)) :
    ∀ route ∈ shown variant routes, Named route := by
  intro route member notLayout
  rw [componentsOf_eq] at importable
  refine importable.1 (Component.ofRoute route) (List.mem_map_of_mem ?_)
  exact List.mem_filter.mpr ⟨member, by simp [notLayout]⟩

/-! The script. -/

def importStatement (component : Component) : Statement :=
  .importDefault component.name (Script.importSpecifier component.path)

theorem means_imports {components : List Component} (importable : Importable components) :
    Means ((components.map importOf).flatMap Script.Import.fragments)
      (components.map importStatement) := by
  have valid := importable.1
  clear importable
  induction components with
  | nil => exact Script.means_nothing Script.page_empty
  | cons component rest ih =>
      rw [List.forall_mem_cons] at valid
      have first := Script.means_import (Script.isName_of_nameError? valid.1)
        (Script.isReserved_of_nameError? valid.1) (Script.importSpecifier component.path)
      exact first.append (ih valid.2)

theorem declaredImports_eq (variant : Variant) (routes : List Route) :
    declaredImports variant routes = (componentsOf variant routes).map importStatement := by
  rw [componentsOf_eq, declaredImports, Component.ofRoutes, List.map_map]
  rfl

theorem exportedNames_free : ∀ name ∈ Script.exportedNames,
    generated.IsName name.toList ∧ Script.isReserved name = false := by
  decide +kernel

theorem means_exported {name : String} (known : name ∈ Script.exportedNames) {block : Script.Block}
    (valid : block.Valid generated) :
    Means (exported name (Script.joinLines block.lines)).fragments [.constant name block.data] :=
  Script.means_constant (exportedNames_free name known).1 (exportedNames_free name known).2 valid

theorem means_term {name : String} (known : name ∈ Script.exportedNames) {term : Script.Term}
    {value : Data} (written : term.Writes generated value) :
    Means (exported name term.text).fragments [.constant name value] := by
  have means := means_exported known written.valid
  rw [← term.lines_eq, written.data] at means
  exact means

theorem means_object {name : String} (known : name ∈ Script.exportedNames)
    {style : Script.KeyStyle} {object : Object} {members : List (String × Data)}
    (writes : Writes generated style object members) :
    Means (exported name object.text).fragments [.constant name (.record members)] := by
  have means := means_exported known writes.valid
  rw [← object.lines_eq, writes.data] at means
  exact means

theorem writes_info (table : RouteTable) :
    Writes generated .quoted table.info [
      ("name", .text table.module), ("path", .text table.mountPath),
      ("mtype", .reference "mtype"), ("routes", .reference "routes")] := by
  have key (key : String) : generated.Spells (Script.keyScalar .quoted key) := trivial
  have mtype := exportedNames_free "mtype" (by decide)
  have routes := exportedNames_free "routes" (by decide)
  have named := ((Script.writes_empty .quoted).string (key "name") table.module).string (key "path")
    table.mountPath
  exact (named.reference (key "mtype") mtype.1 mtype.2).reference (key "routes") routes.1 routes.2

theorem means_info (table : RouteTable) :
    Means (exported "moduleInfo" table.info.text).fragments
      [.constant "moduleInfo" (declaredInfo table.module table.mountPath)] :=
  means_object (by decide) (writes_info table)

theorem sections_script (table : RouteTable) :
    table.script.sections =
      Script.SourceFile.sectionIf true ([Artifact.generatedHeader].map Code.Fragment.comment) ++
        Script.SourceFile.sectionIf (!(table.components.map importOf).isEmpty)
          ((table.components.map importOf).flatMap Script.Import.fragments) ++
        [(exported "mtype" (Script.stringLiteral table.mtype)).fragments,
          (exported "routes" (Script.Term.list table.routes).text).fragments,
          (exported "moduleInfo" table.info.text).fragments] := by
  simp [Script.SourceFile.sections, script, Script.SourceFile.withNode,
    Script.SourceFile.withImports, Script.SourceFile.withHeader, Script.SourceFile.empty,
    Script.SourceFile.sectionIf]

theorem read_script {table : RouteTable} (importable : Importable table.components)
    {values : List Data} (written : WritesAll generated table.routes values) :
    Script.read table.script.render = some (table.components.map importStatement ++ [
      .constant "mtype" (.text table.mtype),
      .constant "routes" (.list values),
      .constant "moduleInfo" (declaredInfo table.module table.mountPath)]) := by
  have header : Means ([Artifact.generatedHeader].map Code.Fragment.comment) [] :=
    Script.means_comments (by decide)
  have unneeded : (!(table.components.map importOf).isEmpty) = false →
      table.components.map importStatement = [] := by
    intro empty
    simpa using empty
  have mtype := means_term (show "mtype" ∈ Script.exportedNames by decide)
    (Script.writes_string table.mtype)
  rw [Script.text_string] at mtype
  have routes := means_term (show "routes" ∈ Script.exportedNames by decide) written.list
  have body := (SectionsMean.single mtype).append
    ((SectionsMean.single routes).append (.single (means_info table)))
  have whole := ((SectionsMean.single header).append
    (.sectionIf (means_imports importable) unneeded)).append body
  refine Script.read_of_means ?_
  rw [sections_script]
  exact whole.separated

def declaredStatements (manifest : Manifest) (variant : Variant) (module : Module) :
    List Statement :=
  let mountPath := manifest.mountPath module.name
  declaredImports variant module.routes ++ [
    .constant "mtype" (.text module.mtype),
    .constant "routes"
      (.list (declaredRoutes variant manifest.moduleName mountPath module.routes)),
    .constant "moduleInfo" (declaredInfo module.name mountPath)]

/-- The text of a table reads as its imports in preorder, its discriminator, its routes, each in
the place where it was declared, and the module's own record. -/
theorem script_reads_as_declared (manifest : Manifest) (variant : Variant) (module : Module)
    (table : RouteTable) (assembled : assemble manifest variant module = .ok table) :
    Script.read table.script.render = some (declaredStatements manifest variant module) := by
  obtain ⟨importable, rfl⟩ := (assemble_ok_iff manifest variant module table).mp assembled
  have written := writes_routeObjects (frameOf manifest module variant)
    (named_of_importable importable)
  rw [read_script importable written, declaredStatements, declaredImports_eq]
  rfl

theorem script_reads_as_declared_below_layout :
    let list : Route :=
      ⟨"All", "all", "views/All", some "/all", none, none,
        some [("title", .string "\"All\""), ("order", .array [.null, .bool true])], [], none⟩
    let group : Route := ⟨"Users", "users", "Layout", some "", some true, some false, none, [list], none⟩
    let module : Module := ⟨"users", "user", [group]⟩
    let manifest : Manifest := ⟨"/app/", "app", "/", none, [module]⟩
    ∃ table, assemble manifest .nested module = .ok table ∧
      Script.read table.script.render = some [
        .importDefault "All" "./views/All",
        .constant "mtype" (.text "user"),
        .constant "routes" (.list [.record [
          ("name", .text "app_Users"), ("path", .text "/app/users/users"), ("hidden", .flag true),
          ("redirect", .text "noRedirect"), ("component", .text "Layout"),
          ("alwaysShow", .flag false), ("meta", .record []),
          ("children", .list [.record [
            ("name", .text "app_All"), ("path", .text "all"), ("hidden", .flag false),
            ("redirect", .text "/all"), ("component", .reference "All"),
            ("meta", .record [
              ("title", .text "\"All\""), ("order", .list [.null, .flag true])])]])]]),
        .constant "moduleInfo" (.record [
          ("name", .text "users"), ("path", .text "/app/users"),
          ("mtype", .reference "mtype"), ("routes", .reference "routes")])] := by
  intro list group module manifest
  obtain ⟨table, assembled, _⟩ := exists_ok_of_passes (assemble manifest .nested module)
    (fun _ => true) (by decide +kernel)
  refine ⟨table, assembled, ?_⟩
  have mounted : manifest.mountPath "users" = "/app/users" := by decide +kernel
  have imported : Script.importSpecifier "views/All" = "./views/All" := by decide +kernel
  have shape : shown .nested [group] = [group, list] := rfl
  rw [script_reads_as_declared manifest .nested module table assembled, declaredStatements, mounted]
  simp [declaredImports, shape, module, manifest, group, list, Route.isLayout,
    Route.layoutComponent, imported, declaredRoutes, declaredTrees, declaredTree, declaredRedirect,
    declaredComponent, declaredInfo, Data.ofMembers, Data.ofJson, Data.ofItems]

end RouteTable

end RouteForge
