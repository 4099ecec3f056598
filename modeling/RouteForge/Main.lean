import RouteForge.CommandLine
import RouteForge.Disk.Footprint

/-!
The program. It looks up the part of the disk that a run is about, lets the command line act on it,
and carries out the changes.
-/

namespace RouteForge

def lookUp (location : Disk.Location) : IO (Option Node) := do
  try
    return some (.file (← IO.FS.readBinFile location.text))
  catch
    | .noFileOrDirectory .. => return none
    | .inappropriateType .. => return some .directory
    | failure => throw failure

/-- Looks up a location unless it is known or nothing can be there. -/
def explore (disk : Disk) (location : Disk.Location) : IO Disk := do
  if (disk.node? location).isSome || disk.node? location.dropLast != some .directory then
    return disk
  match ← lookUp location with
  | some node => return disk.place location node
  | none => return disk

def explorePath (disk : Disk) (path : String) : IO Disk :=
  (disk.trail path).foldlM explore disk

def workingDisk : IO Disk := do
  let here := toString (← IO.currentDir)
  explorePath ⟨[], (Path.pieces here.toList).filter Disk.isName⟩ here

def surroundings (command : CommandLine.Command) : IO Disk := do
  let options := command.options
  let disk ← explorePath (← workingDisk) (Manifest.pathBelow options.base)
  match Manifest.discover disk options.base with
  | .error _ => return disk
  | .ok manifest => (options.paths manifest.modules).foldlM explorePath disk

def carryOut (change : Disk.Location × Node) : IO Unit :=
  match change.2 with
  | .directory => IO.FS.createDir change.1.text
  | .file content => IO.FS.writeBinFile change.1.text content

def present (result : CommandLine.Result) : IO UInt32 := do
  IO.print result.shown.output
  IO.eprint result.shown.errors
  return result.exitCode.toUInt32

def runProgram (arguments : List String) : IO UInt32 := do
  match CommandLine.parse arguments with
  | .error stop => present (CommandLine.stopped stop)
  | .ok command =>
      let disk ← surroundings command
      let (result, after) := CommandLine.execute command disk
      (after.changesSince disk).forM carryOut
      present result

end RouteForge

def main (arguments : List String) : IO UInt32 :=
  RouteForge.runProgram arguments
