import RouteForge.Disk.Basic

/-!
What an operation on a disk comes by: the locations that a path passes on its way, and the entries
in which one disk differs from another. With them a part of a disk stands for the whole, as long as
every path in use has been looked up.
-/

namespace RouteForge.Disk

def passed (location : Location) (piece : Path.Piece) : Location :=
  if piece = ['.', '.'] then location.dropLast
  else if isName piece then location ++ [piece]
  else location

def trailFrom : Location → List Path.Piece → List Location
  | location, [] => [location]
  | location, piece :: rest => location :: trailFrom (passed location piece) rest

/-- The locations that a path passes, from its origin on. -/
def trail (disk : Disk) (path : String) : List Location :=
  trailFrom (disk.origin path.toList) (Path.pieces path.toList)

def changesSince (disk before : Disk) : List (Location × Node) :=
  disk.entries.filter fun entry => decide (before.node? entry.1 ≠ some entry.2)

def Location.text (location : Location) : String :=
  String.ofList ('/' :: Path.ofPieces location)

end RouteForge.Disk
