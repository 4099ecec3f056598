import RouteForge.Disk.Path
import RouteForge.Text.Lines
import RouteForge.Disk.Cause

/-!
A disk: files and directories by their location, the names from the root down, and the directory
in which work goes on. The root is always a directory. A path leads to a location step by step,
and every step but the last has to end in a directory.

There are no links, no permissions and no limit on what a disk holds, and nobody else changes it
while work goes on. Names differ if their bytes do.
-/

namespace RouteForge

abbrev Disk.Location := List Path.Piece

inductive Node where
  | file (content : ByteArray)
  | directory

/-- Files are compared by their bytes. -/
instance : DecidableEq Node
  | .directory, .directory => .isTrue rfl
  | .directory, .file _ => .isFalse nofun
  | .file _, .directory => .isFalse nofun
  | .file first, .file second =>
      if same : first.data = second.data then
        .isTrue (congrArg Node.file (ByteArray.ext same))
      else
        .isFalse fun equal => same (congrArg ByteArray.data (Node.file.inj equal))

structure Disk where
  entries : List (Disk.Location × Node)
  working : Disk.Location

namespace Disk

def empty : Disk := ⟨[], []⟩

def node? (disk : Disk) (location : Location) : Option Node :=
  if location = [] then some .directory else disk.entries.lookup location

def placeIn (location : Location) (node : Node) :
    List (Location × Node) → List (Location × Node)
  | [] => [(location, node)]
  | (here, old) :: rest =>
      if here = location then (location, node) :: rest
      else (here, old) :: placeIn location node rest

def place (disk : Disk) (location : Location) (node : Node) : Disk :=
  { disk with entries := placeIn location node disk.entries }

def erase (disk : Disk) (location : Location) : Disk :=
  { disk with entries := disk.entries.filter fun entry => decide (entry.1 ≠ location) }

def eraseBelow (disk : Disk) (location : Location) : Disk :=
  { disk with entries := disk.entries.filter fun entry => !location.isPrefixOf entry.1 }

def longestName : Nat := 255

def pathLimit : Nat := 4096

def checkName (name : Path.Piece) : Except Cause Unit :=
  if longestName < Text.byteCount name then .error .nameTooLong else .ok ()

def checkPath (path : List Char) : Except Cause Unit :=
  if path.contains '\x00' then .error .nulCharacter
  else if path.isEmpty then .error .notFound
  else if pathLimit ≤ Text.byteCount path then .error .nameTooLong
  else .ok ()

def checkDirectory (disk : Disk) (location : Location) : Except Cause Unit :=
  match disk.node? location with
  | some .directory => .ok ()
  | some (.file _) => .error .notDirectory
  | none => .error .notFound

/-- One step from a directory. Above the root there is only the root. -/
def step (disk : Disk) (location : Location) (piece : Path.Piece) : Except Cause Location := do
  disk.checkDirectory location
  if piece.isEmpty || piece = ['.'] then
    return location
  else if piece = ['.', '.'] then
    return location.dropLast
  else
    checkName piece
    let next := location ++ [piece]
    match disk.node? next with
    | none => throw .notFound
    | some _ => return next

def follow (disk : Disk) : Location → List Path.Piece → Except Cause Location
  | location, [] => .ok location
  | location, piece :: rest => do
      let next ← disk.step location piece
      disk.follow next rest

def origin (disk : Disk) (path : List Char) : Location :=
  if Path.isAbsolute path then [] else disk.working

def resolve (disk : Disk) (path : String) : Except Cause Location := do
  checkPath path.toList
  disk.follow (disk.origin path.toList) (Path.pieces path.toList)

/-- The last step of a path: the directory it is taken from, the name it ends in unless that is no
name, and whether slashes follow. -/
structure LastStep where
  directory : Location
  name : Option Path.Piece
  slashed : Bool

def isName (piece : Path.Piece) : Bool :=
  !piece.isEmpty && decide (piece ≠ ['.']) && decide (piece ≠ ['.', '.'])

def lastStep (disk : Disk) (path : String) : Except Cause LastStep := do
  checkPath path.toList
  let reversed := (Path.pieces path.toList).reverse
  let slashed := reversed.headD [] = []
  match reversed.dropWhile List.isEmpty with
  | [] => return ⟨[], none, slashed⟩
  | piece :: before =>
      let directory ← disk.follow (disk.origin path.toList) before.reverse
      disk.checkDirectory directory
      return ⟨directory, if isName piece then some piece else none, slashed⟩

end Disk

end RouteForge
