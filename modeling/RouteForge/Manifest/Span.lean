import RouteForge.Json.Printer
import RouteForge.Text.Blank
import RouteForge.Text.Lines

/-!
Places in a document, in bytes: from a line and a column, and by searching for a key with a given
string value. The search looks at the text only, at every quoted key in turn, so it may find a
pair that stands elsewhere in the document.
-/

namespace RouteForge

structure Span where
  offset : Nat
  length : Nat
  deriving DecidableEq, Repr

namespace Span

/-- Offsets, lines and columns are machine words. -/
def wordSize : Nat := Nat.pow 2 64

def lineStart (text : List Char) (line : Nat) : Nat :=
  Text.byteCount ((Text.segments text).take (line - 1)).flatten

/-- The offset of a line and a column that both count from one; column zero is column one. A line
or column past the text is at its end, and line zero is nowhere. The column is added before it is
compared with the end of the text, and the sum wraps around at the size of a word. -/
def offsetOf (text : List Char) (line column : Nat) : Option Nat :=
  if line = 0 then
    none
  else if line ≤ (Text.segments text).length then
    some (min ((lineStart text line + (column - 1)) % wordSize) (Text.byteCount text))
  else
    some (Text.byteCount text)

def ofPosition (text : List Char) (line column : Nat) : Option Span :=
  (offsetOf text line column).map fun offset =>
    ⟨offset, if offset < Text.byteCount text then 1 else 0⟩

def valueAfter? (literal rest : List Char) : Option (List Char) :=
  match Text.trimStart rest with
  | ':' :: afterColon =>
      let value := Text.trimStart afterColon
      if literal.isPrefixOf value then some value else none
  | _ => none

/-- Stops at the first place of the key that has the literal for its value. No place overlaps the
one before: `skip` characters are passed over first. -/
def findPair (key literal : List Char) : Nat → List Char → Option (List Char)
  | _, [] => none
  | skip + 1, _ :: rest => findPair key literal skip rest
  | 0, char :: rest =>
      if key.isPrefixOf (char :: rest) then
        match valueAfter? literal ((char :: rest).drop key.length) with
        | some value => some value
        | none => findPair key literal (key.length - 1) rest
      else
        findPair key literal 0 rest

def ofPair (text : List Char) (key value : String) : Option Span :=
  let literal := Json.literalChars value.toList
  (findPair ('"' :: key.toList ++ ['"']) literal 0 text).map fun rest =>
    ⟨Text.byteCount text - Text.byteCount rest + 1, Text.byteCount literal - 2⟩

end Span

end RouteForge
