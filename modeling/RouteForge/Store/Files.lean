import RouteForge.Artifact.Basic
import RouteForge.Disk.Operations

/-!
Files as the generator uses them: texts, written with their directories, and artifacts, written by
their rule for a file that is already there.
-/

namespace RouteForge

inductive StoreError where
  | makeDirectory (path : String) (cause : Disk.Cause)
  | read (path : String) (cause : Disk.Cause)
  | write (path : String) (cause : Disk.Cause)
  | remove (path : String) (cause : Disk.Cause)
  | directoryInTheWay (path : String)
  deriving DecidableEq, Repr

def StoreError.chain : StoreError → List String
  | .makeDirectory path cause => ["failed to create directory '" ++ path ++ "'", cause.message]
  | .read path cause => ["failed to read '" ++ path ++ "'", cause.message]
  | .write path cause => ["failed to write '" ++ path ++ "'", cause.message]
  | .remove path cause => ["failed to remove '" ++ path ++ "'", cause.message]
  | .directoryInTheWay path => ["cannot write '" ++ path ++ "': a directory is in the way"]

def chainText (chain : List String) : String :=
  ": ".intercalate chain

namespace Disk

def ensureDirectory (disk : Disk) (path : String) : Except StoreError Unit × Disk :=
  if disk.isDirectory path then
    (.ok (), disk)
  else
    match disk.makeDirectories path with
    | (.ok _, after) => (.ok (), after)
    | (.error cause, after) => (.error (.makeDirectory path cause), after)

def ensureParent (disk : Disk) (path : String) : Except StoreError Unit × Disk :=
  match Path.parent? path with
  | none => (.ok (), disk)
  | some parent => disk.ensureDirectory parent

def readText (disk : Disk) (path : String) : Except StoreError String :=
  (disk.readFile path).mapError (StoreError.read path)

def writeText (disk : Disk) (path text : String) : Except StoreError Unit × Disk :=
  match disk.ensureParent path with
  | (.error error, after) => (.error error, after)
  | (.ok _, after) =>
      match after.writeFile path text.toByteArray with
      | .ok written => (.ok (), written)
      | .error cause => (.error (.write path cause), after)

def removeText (disk : Disk) (path : String) : Except StoreError Disk :=
  (disk.removeFile path).mapError (StoreError.remove path)

end Disk

inductive WriteResult where
  | written (path : String)
  | skipped (path : String)
  deriving DecidableEq, Repr

namespace WriteResult

def path : WriteResult → String
  | .written path => path
  | .skipped path => path

def isWritten : WriteResult → Bool
  | .written _ => true
  | .skipped _ => false

end WriteResult

structure PreviewFile where
  path : String
  content : String
  deriving DecidableEq, Repr

namespace Artifact

def preview (artifact : Artifact) (directory : String) : PreviewFile :=
  ⟨artifact.path directory, artifact.content⟩

def replace (artifact : Artifact) (directory : String) (disk : Disk) :
    Except StoreError WriteResult × Disk :=
  let path := artifact.path directory
  match disk.writeText path artifact.content with
  | (.ok _, after) => (.ok (.written path), after)
  | (.error error, after) => (.error error, after)

def write (artifact : Artifact) (directory : String) (disk : Disk) :
    Except StoreError WriteResult × Disk :=
  match artifact.overwrite with
  | .always => artifact.replace directory disk
  | .ifMissing =>
      let path := artifact.path directory
      if disk.exists? path then (.ok (.skipped path), disk)
      else artifact.replace directory disk

end Artifact

end RouteForge
