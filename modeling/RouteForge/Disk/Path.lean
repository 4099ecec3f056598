/-!
Paths as they are written. A path is cut at its slashes into pieces; an empty piece and an inner
`.` are no components, while a `.` at the start of a relative path is one. Nothing is normalized:
what is left of a path when pieces are dropped from its ends is shown as it was written.
-/

namespace RouteForge.Path

abbrev Piece := List Char

def pieces : List Char → List Piece
  | [] => [[]]
  | char :: rest =>
      if char = '/' then
        [] :: pieces rest
      else
        match pieces rest with
        | [] => [[char]]
        | piece :: others => (char :: piece) :: others

def ofPieces : List Piece → List Char
  | [] => []
  | piece :: [] => piece
  | piece :: rest => piece ++ '/' :: ofPieces rest

def isAbsolute (path : List Char) : Bool :=
  path.head? = some '/'

def endsInSlash (path : List Char) : Bool :=
  path.getLast? = some '/'

/-- An absolute child replaces the base; otherwise one slash stands between them, but for a base
that is empty or ends in one. -/
def join (base child : String) : String :=
  if isAbsolute child.toList then
    child
  else if base.isEmpty || endsInSlash base.toList then
    base ++ child
  else
    base ++ "/" ++ child

inductive Component where
  | root
  | current
  | parent
  | name (piece : Piece)
  deriving DecidableEq, Repr

def innerComponent? (piece : Piece) : Option Component :=
  if piece.isEmpty || piece = ['.'] then none
  else if piece = ['.', '.'] then some .parent
  else some (.name piece)

/-- Of the first piece of a path an empty one is the root if anything follows it. -/
def firstComponent? (piece : Piece) (rest : List Piece) : Option Component :=
  if piece.isEmpty && !rest.isEmpty then some .root
  else if piece = ['.'] then some .current
  else innerComponent? piece

def components (path : String) : List Component :=
  match pieces path.toList with
  | [] => []
  | piece :: rest => (firstComponent? piece rest).toList ++ rest.filterMap innerComponent?

def dropTrailing (pieces : List Piece) : List Piece :=
  (pieces.reverse.dropWhile fun piece => (innerComponent? piece).isNone).reverse

def trimEnd : List Piece → List Piece
  | [] => []
  | piece :: rest =>
      let kept := dropTrailing rest
      if kept.isEmpty && (firstComponent? piece rest).isNone then [] else piece :: kept

def written (pieces : List Piece) : String :=
  if pieces = [[]] then "/" else String.ofList (ofPieces pieces)

/-- The path without its last component; the root and the empty path have no parent. -/
def parent? (path : String) : Option String :=
  match pieces path.toList with
  | [] => none
  | first :: rest =>
      match (dropTrailing rest).reverse with
      | [] => if first.isEmpty then none else some ""
      | _ :: others => some (written (first :: dropTrailing others.reverse))

def dropComponents : List Component → List Piece → Option (List Piece)
  | [], pieces => some pieces
  | _ :: _, [] => none
  | component :: rest, piece :: pieces =>
      match innerComponent? piece with
      | none => dropComponents (component :: rest) pieces
      | some met => if met = component then dropComponents rest pieces else none

def below? (base path : String) : Option String :=
  let all := pieces path.toList
  match components base with
  | [] => some (written (trimEnd all))
  | component :: rest =>
      match all with
      | [] => none
      | piece :: others =>
          match firstComponent? piece others with
          | none => none
          | some met =>
              if met = component then
                (dropComponents rest others).map fun left =>
                  let trimmed := left.dropWhile fun piece => (innerComponent? piece).isNone
                  String.ofList (ofPieces (dropTrailing trimmed))
              else
                none

def shownBelow (base path : String) : String :=
  (below? base path).getD path

end RouteForge.Path
