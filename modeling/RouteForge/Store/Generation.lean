import RouteForge.Artifact.RouteTable
import RouteForge.Artifact.Support
import RouteForge.Store.WriteAll

/-!
Generating the modules of a manifest, each into its own directory below a base. A module whose
table cannot be made or whose files cannot be written fails; the others go on.
-/

namespace RouteForge

inductive ModuleFailure where
  | table (error : TableError)
  | store (error : StoreError)
  deriving DecidableEq, Repr

def ModuleFailure.chain : ModuleFailure → List String
  | .table error => [error.message]
  | .store error => error.chain

inductive ModuleStatus where
  | written (results : List WriteResult)
  | previewed (files : List PreviewFile)
  | failed (failure : ModuleFailure)
  deriving DecidableEq, Repr

structure Outcome where
  module : String
  directory : String
  status : ModuleStatus
  deriving DecidableEq, Repr

def Outcome.isFailed (outcome : Outcome) : Bool :=
  match outcome.status with
  | .failed _ => true
  | _ => false

namespace Module

def directory (base : String) (module : Module) : String :=
  Path.join base module.name

def artifacts (manifest : Manifest) (variant : Variant) (module : Module) :
    Except TableError (List Artifact) := do
  let table ← RouteTable.assemble manifest variant module
  return [table.artifact, Artifact.entryPoint variant, Artifact.requestFile variant]

def generate (manifest : Manifest) (variant : Variant) (base : String) (module : Module)
    (disk : Disk) : Outcome × Disk :=
  let directory := module.directory base
  match module.artifacts manifest variant with
  | .error error => (⟨module.name, directory, .failed (.table error)⟩, disk)
  | .ok artifacts =>
      match Artifact.writeAll artifacts directory disk with
      | (.error error, after) => (⟨module.name, directory, .failed (.store error)⟩, after)
      | (.ok results, after) => (⟨module.name, directory, .written results⟩, after)

def preview (manifest : Manifest) (variant : Variant) (base : String) (module : Module) :
    Outcome :=
  let directory := module.directory base
  match module.artifacts manifest variant with
  | .error error => ⟨module.name, directory, .failed (.table error)⟩
  | .ok artifacts =>
      ⟨module.name, directory, .previewed (artifacts.map fun artifact =>
        artifact.preview directory)⟩

end Module

namespace Manifest

def generateFrom (manifest : Manifest) (variant : Variant) (base : String) :
    List Module → Disk → List Outcome × Disk
  | [], disk => ([], disk)
  | module :: rest, disk =>
      let (outcome, after) := module.generate manifest variant base disk
      let (outcomes, final) := generateFrom manifest variant base rest after
      (outcome :: outcomes, final)

def generate (manifest : Manifest) (variant : Variant) (base : String) (disk : Disk) :
    List Outcome × Disk :=
  manifest.generateFrom variant base manifest.modules disk

def preview (manifest : Manifest) (variant : Variant) (base : String) : List Outcome :=
  manifest.modules.map fun module => module.preview manifest variant base

end Manifest

end RouteForge
