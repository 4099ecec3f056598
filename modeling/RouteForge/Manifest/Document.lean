import RouteForge.Manifest.Route
import RouteForge.Manifest.Variant

/-!
The manifest: the modules of a front end with their route trees, and its reader. Keys of a route
are in camel case; optional keys may be absent, or null where no other default is given.
-/

namespace RouteForge

structure Module where
  name : String
  mtype : String
  routes : List Route

def Module.walk (module : Module) : List Route :=
  Route.walkAll module.routes

structure Manifest where
  modulePath : String
  moduleName : String
  publicPath : String
  variant : Option Variant
  modules : List Module

namespace Manifest

def fileName : String := "module-config.json"

def defaultPublicPath : String := "/"

def effectiveVariant (manifest : Manifest) : Variant :=
  manifest.variant.getD Variant.default

def module? (manifest : Manifest) (name : String) : Option Module :=
  manifest.modules.find? (·.name = name)

def trimmedPath (manifest : Manifest) : String :=
  String.ofList (manifest.modulePath.toList.reverse.dropWhile (· = '/')).reverse

def mountPath (manifest : Manifest) (module : String) : String :=
  manifest.trimmedPath ++ "/" ++ module

/-- The path of a route in the table: below the mount path, but for routes below the top level of
a nested table. -/
def routePath (mountPath : String) (variant : Variant) (path : String) (depth : Nat) : String :=
  if variant = .nested ∧ 0 < depth then path else mountPath ++ "/" ++ path

end Manifest

/-! Reading. -/

structure RouteDraft where
  name : Option String
  path : Option String
  component : Option String
  redirect : Option (Option String)
  hidden : Option (Option Bool)
  alwaysShow : Option (Option Bool)
  attributes : Option (Option Json.Members)
  children : Option (List Route)
  entry : Option (Option Bool)

def RouteDraft.blank : RouteDraft :=
  ⟨none, none, none, none, none, none, none, none, none⟩

def required {α : Type} (name : String) (value : Option α) : Except String α :=
  match value with
  | some value => .ok value
  | none => .error name

def RouteDraft.finish (draft : RouteDraft) : Except String Route := do
  let name ← required "name" draft.name
  let path ← required "path" draft.path
  let component ← required "component" draft.component
  return {
    name, path, component
    redirect := draft.redirect.getD none
    hidden := draft.hidden.getD none
    alwaysShow := draft.alwaysShow.getD none
    attributes := draft.attributes.getD none
    children := draft.children.getD []
    entry := draft.entry.getD none }

def Route.shape (budget : Nat) (children : Json.Reader (List Route)) :
    Json.Shape RouteDraft Route where
  title := "struct RouteNode"
  blank := .blank
  finish := RouteDraft.finish
  fields := [
    .of "name" false (·.name) (fun draft value => { draft with name := some value }) Json.text,
    .of "path" false (·.path) (fun draft value => { draft with path := some value }) Json.text,
    .of "component" false (·.component)
      (fun draft value => { draft with component := some value }) Json.text,
    .of "redirect" true (·.redirect)
      (fun draft value => { draft with redirect := some value }) (Json.optional Json.text),
    .of "hidden" true (·.hidden)
      (fun draft value => { draft with hidden := some value }) (Json.optional Json.boolean),
    .of "alwaysShow" true (·.alwaysShow)
      (fun draft value => { draft with alwaysShow := some value }) (Json.optional Json.boolean),
    .of "meta" true (·.attributes)
      (fun draft value => { draft with attributes := some value })
      (Json.optional (Json.object budget)),
    .of "children" true (·.children)
      (fun draft value => { draft with children := some value }) children,
    .of "entry" true (·.entry)
      (fun draft value => { draft with entry := some value }) (Json.optional Json.boolean)]

/-- Reads a route where `budget` brackets may be opened; one is the route's own, and one is that of
the list of its children. -/
def Route.read : Nat → Json.Reader Route
  | 0 => Json.record 0 (Route.shape 0 (Json.list 0 fun input => .error (Json.tooDeep input)))
  | 1 => Json.record 1 (Route.shape 0 (Json.list 0 fun input => .error (Json.tooDeep input)))
  | budget + 2 =>
      Json.record (budget + 2)
        (Route.shape (budget + 1) (Json.list (budget + 1) (Route.read budget)))

def Route.readList (budget : Nat) : Json.Reader (List Route) :=
  Json.list budget (Route.read (budget - 1))

def Route.listOfText (document : String) : Except Json.Error (List Route) :=
  Json.readDocument (Route.readList Json.bracketBudget) document

structure ModuleDraft where
  name : Option String
  mtype : Option String
  routes : Option (List Route)

def ModuleDraft.finish (draft : ModuleDraft) : Except String Module := do
  let name ← required "module" draft.name
  let mtype ← required "mtype" draft.mtype
  return { name, mtype, routes := draft.routes.getD [] }

def Module.shape (budget : Nat) : Json.Shape ModuleDraft Module where
  title := "struct ModuleEntry"
  blank := ⟨none, none, none⟩
  finish := ModuleDraft.finish
  fields := [
    .of "module" false (·.name) (fun draft value => { draft with name := some value }) Json.text,
    .of "mtype" false (·.mtype) (fun draft value => { draft with mtype := some value }) Json.text,
    .of "module_routes" true (·.routes)
      (fun draft value => { draft with routes := some value }) (Route.readList budget)]

def Module.read (budget : Nat) : Json.Reader Module :=
  Json.record budget (Module.shape (budget - 1))

structure ManifestDraft where
  modulePath : Option String
  moduleName : Option String
  publicPath : Option String
  variant : Option (Option Variant)
  modules : Option (List Module)

def ManifestDraft.finish (draft : ManifestDraft) : Except String Manifest := do
  let modulePath ← required "module_path" draft.modulePath
  let moduleName ← required "module_name" draft.moduleName
  let modules ← required "sub_modules" draft.modules
  return {
    modulePath, moduleName, modules
    publicPath := draft.publicPath.getD Manifest.defaultPublicPath
    variant := draft.variant.getD none }

def Manifest.shape (budget : Nat) : Json.Shape ManifestDraft Manifest where
  title := "struct ModuleConfig"
  blank := ⟨none, none, none, none, none⟩
  finish := ManifestDraft.finish
  fields := [
    .of "module_path" false (·.modulePath)
      (fun draft value => { draft with modulePath := some value }) Json.text,
    .of "module_name" false (·.moduleName)
      (fun draft value => { draft with moduleName := some value }) Json.text,
    .of "public_path" true (·.publicPath)
      (fun draft value => { draft with publicPath := some value }) Json.text,
    .of "variant" true (·.variant)
      (fun draft value => { draft with variant := some value })
      (Json.optional (Variant.read budget)),
    .of "sub_modules" false (·.modules)
      (fun draft value => { draft with modules := some value })
      (Json.list budget (Module.read (budget - 1)))]

def Manifest.read (budget : Nat) : Json.Reader Manifest :=
  Json.record budget (Manifest.shape (budget - 1))

end RouteForge
