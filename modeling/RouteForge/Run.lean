import RouteForge.Artifact.Bundle
import RouteForge.Lint.Rules
import RouteForge.Manifest.Validation
import RouteForge.Report

/-!
A run over a manifest: it is validated, its modules are generated or previewed, and then, if asked
for, the bundle configuration is made with the user's layer. A manifest that does not validate ends
the run before anything is written; the user's layer is read after the modules are done.
-/

namespace RouteForge

inductive UserLayerError where
  | unreadable (error : StoreError)
  | malformed (path : String) (error : Json.Error)
  | notObject (path : String)
  deriving DecidableEq, Repr

def UserLayerError.chain : UserLayerError → List String
  | .unreadable error => error.chain
  | .malformed path error => ["invalid JSON in '" ++ path ++ "'", error.message]
  | .notObject path => ["user build config '" ++ path ++ "' must be a JSON object"]

inductive RunError where
  | validation (failure : ValidationFailure)
  | userLayer (error : UserLayerError)
  | bundle (error : StoreError)
  deriving DecidableEq, Repr

def RunError.chain : RunError → List String
  | .validation failure => ["Validation failed", failure.message]
  | .userLayer error => error.chain
  | .bundle error => "Failed to write build configuration" :: error.chain

structure RunOptions where
  base : String
  variant : Option Variant
  isDry : Bool
  withBundle : Bool
  userLayer : Option String
  deriving DecidableEq, Repr

def RunOptions.paths (options : RunOptions) (modules : List Module) : List String :=
  let names := [RouteTable.fileName, Artifact.entryPointName, Artifact.requestModuleName,
    Artifact.requestStubName]
  let ofModules := modules.flatMap fun module =>
    names.map fun name => Path.join (module.directory options.base) name
  options.userLayer.toList ++ Path.join options.base Bundle.fileName :: ofModules

namespace Bundle

def loadUserLayer (disk : Disk) (path : String) : Except UserLayerError Json.Value := do
  let text ← (disk.readText path).mapError .unreadable
  let value ← (Json.Value.ofText text).mapError (.malformed path)
  if value.isObject then return value else throw (.notObject path)

def forRun (manifest : Manifest) (options : RunOptions) (disk : Disk) :
    Except UserLayerError Bundle := do
  let bundle := ofManifest options.base manifest
  match options.userLayer with
  | none => return bundle
  | some path =>
      let user ← loadUserLayer disk path
      return bundle.withUser user

end Bundle

namespace Manifest

def runBundle (manifest : Manifest) (options : RunOptions) (disk : Disk) :
    Except RunError (Option ReportedBundle) × Disk :=
  if options.withBundle then
    match Bundle.forRun manifest options disk with
    | .error error => (.error (.userLayer error), disk)
    | .ok bundle =>
        if options.isDry then
          (.ok (some (.previewed (bundle.artifact.preview options.base))), disk)
        else
          match bundle.artifact.write options.base disk with
          | (.error error, after) => (.error (.bundle error), after)
          | (.ok result, after) => (.ok (some (.written result)), after)
  else
    (.ok none, disk)

def runModules (manifest : Manifest) (variant : Variant) (options : RunOptions) (disk : Disk) :
    List Outcome × Disk :=
  if options.isDry then (manifest.preview variant options.base, disk)
  else manifest.generate variant options.base disk

def run (manifest : Manifest) (options : RunOptions) (disk : Disk) :
    Except RunError Report × Disk :=
  let variant := options.variant.getD manifest.effectiveVariant
  match manifest.validate variant with
  | .error failure => (.error (.validation failure), disk)
  | .ok findings =>
      let (outcomes, afterModules) := manifest.runModules variant options disk
      match manifest.runBundle options afterModules with
      | (.error error, after) => (.error error, after)
      | (.ok bundle, after) =>
          (.ok {
            base := options.base
            variant
            warnings := (findings.filter fun finding => !finding.isError).map Finding.message
            modules := outcomes.map Outcome.reported
            bundle }, after)

def ofFile (disk : Disk) (path : String) : Except ManifestError Manifest := do
  let text ← (disk.readFile path).mapError (.unreadable path)
  ofSource ⟨text, path⟩

def pathBelow (base : String) : String :=
  Path.join base fileName

def discover (disk : Disk) (base : String) : Except ManifestError Manifest :=
  ofFile disk (pathBelow base)

end Manifest

end RouteForge
