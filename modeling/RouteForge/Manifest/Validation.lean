import RouteForge.Manifest.Document
import RouteForge.Manifest.Error

/-!
Reading a manifest from a text, and the checks that belong to it: the module name of the document
is not blank, and every module can be a directory below the base path. The first failure is the
answer.
-/

namespace RouteForge

structure DocumentPlace where
  source : Source
  segments : List String

namespace DocumentPlace

def root (source : Source) : DocumentPlace := ⟨source, []⟩

def push (place : DocumentPlace) (segment : String) : DocumentPlace :=
  { place with segments := place.segments ++ [segment] }

def path (place : DocumentPlace) : String :=
  ".".intercalate place.segments

def describe (place : DocumentPlace) (kind : String) : String :=
  if place.segments.isEmpty then kind else kind ++ " in '" ++ place.path ++ "'"

def findPair (place : DocumentPlace) (key value : String) : Option Span :=
  Span.ofPair place.source.text.toList key value

def nameFault? (name : String) : Option NameFault :=
  if Text.isBlankText name then some .empty
  else if name = "." ∨ name = ".." then some .relative
  else if name.toList.any (fun char => char = '/' || char = '\\') then some .separated
  else none

def checkModuleName (place : DocumentPlace) (name : String) : Except ManifestError Unit :=
  match nameFault? name with
  | none => .ok ()
  | some fault =>
      .error (.moduleName place.source (place.findPair "module" name) name
        (place.describe "module") fault)

def checkNotBlank (place : DocumentPlace) (key value : String) : Except ManifestError Unit :=
  if Text.isBlankText value then
    .error (.invalid place.source (place.findPair key value)
      ("'" ++ key ++ "' cannot be empty"))
  else
    .ok ()

end DocumentPlace

namespace Manifest

def checkModules (place : DocumentPlace) : Nat → List Module → Except ManifestError Unit
  | _, [] => .ok ()
  | index, module :: rest => do
      let here := place.push ("sub_modules[" ++ toString index ++ "]")
      here.checkModuleName module.name
      checkModules place (index + 1) rest

def check (source : Source) (manifest : Manifest) : Except ManifestError Unit := do
  let place := DocumentPlace.root source
  place.checkNotBlank "module_name" manifest.moduleName
  checkModules place 0 manifest.modules

def ofSource (source : Source) : Except ManifestError Manifest := do
  let manifest ← (Json.readDocument (read Json.bracketBudget) source.text).mapError
    source.malformed
  check source manifest
  return manifest

def ofText (text : String) : Except ManifestError Manifest :=
  ofSource ⟨text, fileName⟩

end Manifest

end RouteForge
