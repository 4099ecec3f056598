import RouteForge.Store.Files

/-!
Writing a set of artifacts as one. Every target is checked and its directory made before the first
is written. When a write fails, the files written so far are put back, the last first: to the
content they had, or away if they are new.
-/

namespace RouteForge

namespace Artifact

def prepare (artifact : Artifact) (directory : String) (disk : Disk) :
    Except StoreError Unit × Disk :=
  let path := artifact.path directory
  if disk.isDirectory path then (.error (.directoryInTheWay path), disk)
  else disk.ensureParent path

def prepareAll (directory : String) : List Artifact → Disk → Except StoreError Unit × Disk
  | [], disk => (.ok (), disk)
  | artifact :: rest, disk =>
      match artifact.prepare directory disk with
      | (.error error, after) => (.error error, after)
      | (.ok _, after) => prepareAll directory rest after

def replaced (artifact : Artifact) (directory : String) (disk : Disk) :
    Except StoreError (Option String) :=
  let path := artifact.path directory
  if artifact.overwrite = .always ∧ disk.exists? path = true then
    (disk.readText path).map some
  else
    .ok none

/-- A written path with the content to put back there. -/
structure Undo where
  path : String
  previous : Option String
  deriving DecidableEq, Repr

def Undo.restore (undo : Undo) (disk : Disk) : Disk :=
  match undo.previous with
  | some content => (disk.writeText undo.path content).2
  | none =>
      match disk.removeText undo.path with
      | .ok after => after
      | .error _ => disk

def rollBack (undos : List Undo) (disk : Disk) : Disk :=
  undos.foldl (fun disk undo => undo.restore disk) disk

def undosOf (result : WriteResult) (previous : Option String) : List Undo :=
  if result.isWritten then [⟨result.path, previous⟩] else []

/-- Writes artifacts in turn; `undos` tells how to undo what was written so far, last first. -/
def writeFrom (directory : String) :
    List Undo → List Artifact → Disk → Except StoreError (List WriteResult) × Disk
  | _, [], disk => (.ok [], disk)
  | undos, artifact :: rest, disk =>
      match artifact.replaced directory disk with
      | .error error => (.error error, rollBack undos disk)
      | .ok previous =>
          match artifact.write directory disk with
          | (.error error, after) => (.error error, rollBack undos after)
          | (.ok result, after) =>
              match writeFrom directory (undosOf result previous ++ undos) rest after with
              | (.error error, final) => (.error error, final)
              | (.ok results, final) => (.ok (result :: results), final)

def writeAll (artifacts : List Artifact) (directory : String) (disk : Disk) :
    Except StoreError (List WriteResult) × Disk :=
  match prepareAll directory artifacts disk with
  | (.error error, after) => (.error error, after)
  | (.ok _, after) => writeFrom directory [] artifacts after

end Artifact

end RouteForge
