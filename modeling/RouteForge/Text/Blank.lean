import RouteForge.Text.Ranges

/-!
White space in the sense of the Unicode property White_Space: 25 characters, and with them the
trimming of texts and the test for a blank text.
-/

namespace RouteForge.Text

def blankRanges : List (Nat × Nat) := [
  (0x9, 0xD), (0x20, 0x20), (0x85, 0x85), (0xA0, 0xA0), (0x1680, 0x1680), (0x2000, 0x200A),
  (0x2028, 0x2029), (0x202F, 0x202F), (0x205F, 0x205F), (0x3000, 0x3000)]

def isBlank (char : Char) : Bool :=
  inRanges blankRanges char

def trimStart (text : List Char) : List Char :=
  text.dropWhile isBlank

def isBlankText (text : String) : Bool :=
  text.toList.all isBlank

end RouteForge.Text
