import RouteForge.Artifact.Basic
import RouteForge.Manifest.Document
import RouteForge.Script.Name
import RouteForge.Script.SourceFile

/-!
The route table of a module: the components it imports, its discriminator, its routes and its
mount path. A table can only be made when every component has a name that an import may bind, and
no two have the same.
-/

namespace RouteForge

open Script (Object)

inductive TableError where
  | repeatedNames (module : String) (names : List String)
  | badName (module name : String) (error : Script.NameError)
  deriving DecidableEq, Repr

def TableError.message : TableError → String
  | .repeatedNames module names =>
      "module '" ++ module ++ "' binds " ++
        (if names.length = 1 then "a route name" else "route names") ++
        " more than once: " ++ ", ".intercalate names
  | .badName module name error =>
      "route '" ++ name ++ "' in module '" ++ module ++ "' is not a valid import binding: " ++
        error.reason

structure RouteTable where
  module : String
  mtype : String
  mountPath : String
  components : List Component
  routes : List Object

namespace RouteTable

structure Frame where
  mountPath : String
  variant : Variant
  stem : String

def Frame.routeName (frame : Frame) (name : String) : String :=
  frame.stem ++ "_" ++ name

def Frame.routePath (frame : Frame) (path : String) (depth : Nat) : String :=
  Manifest.routePath frame.mountPath frame.variant path depth

def addComponent (object : Object) (name component : String) : Object :=
  if component = Route.layoutComponent then object.string "component" Route.layoutComponent
  else object.raw "component" name

mutual
def nestedRoute (frame : Frame) (depth : Nat) : Route → Object
  | ⟨name, path, component, redirect, hidden, alwaysShow, attributes, children, entry⟩ =>
      let route : Route :=
        ⟨name, path, component, redirect, hidden, alwaysShow, attributes, children, entry⟩
      let start := (Object.empty .quoted)
        |>.string "name" (frame.routeName name)
        |>.string "path" (frame.routePath path depth)
        |>.bool "hidden" route.isHidden
        |>.string "redirect" route.effectiveRedirect
      (addComponent start name component)
        |>.boolIfGiven "alwaysShow" alwaysShow
        |>.json "meta" (.object (attributes.getD []))
        |>.listIf route.hasChildren "children" (nestedRoutes frame (depth + 1) children)

def nestedRoutes (frame : Frame) (depth : Nat) : List Route → List Object
  | [] => []
  | route :: rest => nestedRoute frame depth route :: nestedRoutes frame depth rest
end

def flatRoute (frame : Frame) (route : Route) : Object :=
  let start := (Object.empty .bare)
    |>.string "path" (frame.routePath route.path 0)
    |>.string "name" (frame.routeName route.name)
  (addComponent start route.name route.component).bool "entry" route.isEntry

def routeObjects (frame : Frame) (routes : List Route) : List Object :=
  match frame.variant with
  | .nested => nestedRoutes frame 0 routes
  | .flat => routes.map (flatRoute frame)

/-- A nested table imports the components of whole trees, a flat one those of the top level. -/
def componentsOf (variant : Variant) (routes : List Route) : List Component :=
  match variant with
  | .nested => Component.ofForest routes
  | .flat => Component.ofRoutes routes

def firstBadName? : List Component → Option (String × Script.NameError)
  | [] => none
  | component :: rest =>
      match Script.nameError? component.name with
      | some error => some (component.name, error)
      | none => firstBadName? rest

def checkNames (module : String) (components : List Component) : Except TableError Unit :=
  match firstBadName? components with
  | some (name, error) => .error (.badName module name error)
  | none =>
      let repeated := Component.repeatedNames components
      if repeated.isEmpty then .ok () else .error (.repeatedNames module repeated)

def frameOf (manifest : Manifest) (module : Module) (variant : Variant) : Frame :=
  ⟨manifest.mountPath module.name, variant, manifest.moduleName⟩

def assemble (manifest : Manifest) (variant : Variant) (module : Module) :
    Except TableError RouteTable := do
  let components := componentsOf variant module.routes
  checkNames module.name components
  let frame := frameOf manifest module variant
  return {
    module := module.name
    mtype := module.mtype
    mountPath := frame.mountPath
    components
    routes := routeObjects frame module.routes }

def importOf (component : Component) : Script.Import :=
  .ofDefault (Script.importSpecifier component.path) component.name

def info (table : RouteTable) : Object :=
  (Object.empty .quoted)
    |>.string "name" table.module
    |>.string "path" table.mountPath
    |>.raw "mtype" "mtype"
    |>.raw "routes" "routes"

def exported (name value : String) : Script.Constant :=
  ⟨name, value, true⟩

def script (table : RouteTable) : Script.SourceFile :=
  Script.SourceFile.empty
    |>.withHeader [Artifact.generatedHeader]
    |>.withImports (table.components.map importOf)
    |>.withNode (exported "mtype" (Script.stringLiteral table.mtype)).fragments
    |>.withNode (exported "routes" (Script.Term.list table.routes).text).fragments
    |>.withNode (exported "moduleInfo" table.info.text).fragments

def fileName : String := ".config.js"

def artifact (table : RouteTable) : Artifact :=
  ⟨fileName, table.script.render, .always⟩

end RouteTable

end RouteForge
