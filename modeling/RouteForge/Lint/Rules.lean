import RouteForge.Lint.Finding

/-!
The rules that a manifest is checked by, each a list of findings in order of declaration, and the
verdict: a manifest passes when no finding is an error.
-/

namespace RouteForge

inductive Rule where
  | duplicateMtype
  | duplicateModule
  | emptyRoutes
  | layoutLeaf
  | flatChildren
  deriving DecidableEq, Repr

namespace Rule

def all : List Rule :=
  [.duplicateMtype, .duplicateModule, .emptyRoutes, .layoutLeaf, .flatChildren]

def name : Rule → String
  | .duplicateMtype => "duplicate-mtype"
  | .duplicateModule => "duplicate-module"
  | .emptyRoutes => "empty-routes"
  | .layoutLeaf => "layout-leaf"
  | .flatChildren => "flat-children"

def ofName? (text : String) : Option Rule :=
  all.find? (·.name = text)

/-- `firstUsers` holds, for each discriminator seen, the module that used it first. -/
def repeatedMtypes (firstUsers : List (String × String)) : List Module → List Finding
  | [] => []
  | module :: rest =>
      match firstUsers.lookup module.mtype with
      | some firstUser =>
          .repeatedMtype module.mtype module.name firstUser :: repeatedMtypes firstUsers rest
      | none => repeatedMtypes ((module.mtype, module.name) :: firstUsers) rest

def repeatedModules (seen : List String) : List Module → List Finding
  | [] => []
  | module :: rest =>
      if seen.contains module.name then
        .repeatedModule module.name :: repeatedModules seen rest
      else
        repeatedModules (module.name :: seen) rest

def modulesWithoutRoutes (modules : List Module) : List Finding :=
  (modules.filter fun module => module.routes.isEmpty).map fun module => .noRoutes module.name

def emptyLayouts (module : Module) : List Finding :=
  (module.walk.filter fun route => route.isLayout && !route.hasChildren).map fun route =>
    .emptyLayout module.name route.name

def ignoredChildren (module : Module) : List Finding :=
  (module.routes.filter Route.hasChildren).map fun route =>
    .ignoredChildren module.name route.name

def findings (rule : Rule) (manifest : Manifest) (variant : Variant) : List Finding :=
  match rule with
  | .duplicateMtype => repeatedMtypes [] manifest.modules
  | .duplicateModule => repeatedModules [] manifest.modules
  | .emptyRoutes => modulesWithoutRoutes manifest.modules
  | .layoutLeaf => manifest.modules.flatMap emptyLayouts
  | .flatChildren =>
      if variant.allowsChildren then [] else manifest.modules.flatMap ignoredChildren

end Rule

structure ValidationFailure where
  messages : List String
  deriving DecidableEq, Repr

def ValidationFailure.message (failure : ValidationFailure) : String :=
  "validation failed with " ++ toString failure.messages.length ++ " error(s): " ++
    "; ".intercalate failure.messages

namespace Manifest

def findings (manifest : Manifest) (variant : Variant) : List Finding :=
  Rule.all.flatMap fun rule => rule.findings manifest variant

def verdict (findings : List Finding) : Except ValidationFailure (List Finding) :=
  let errors := findings.filter Finding.isError
  if errors.isEmpty then .ok findings else .error ⟨errors.map Finding.message⟩

def validate (manifest : Manifest) (variant : Variant) :
    Except ValidationFailure (List Finding) :=
  verdict (manifest.findings variant)

end Manifest

end RouteForge
