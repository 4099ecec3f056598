/-!
Texts cut at line feeds. A segment keeps its line feed, so the segments of a text concatenate to
it; a line drops the line feed and one carriage return before it. A text that ends in a line feed
has no empty last line, and a carriage return alone does not end a line.
-/

namespace RouteForge.Text

def segments : List Char → List (List Char)
  | [] => []
  | '\n' :: rest => ['\n'] :: segments rest
  | char :: rest =>
      match segments rest with
      | [] => [[char]]
      | segment :: others => (char :: segment) :: others

def withoutEnding (segment : List Char) : List Char :=
  if segment.getLast? = some '\n' then
    let line := segment.dropLast
    if line.getLast? = some '\r' then line.dropLast else line
  else
    segment

def lines (text : String) : List String :=
  (segments text.toList).map fun segment => String.ofList (withoutEnding segment)

def byteCount : List Char → Nat
  | [] => 0
  | char :: rest => char.utf8Size + byteCount rest

theorem segments_flatten (text : List Char) : (segments text).flatten = text := by
  fun_induction segments text with
  | case1 => rfl
  | case2 rest ih => simp [ih]
  | case3 char rest _ none ih => simp [none] at ih; simp [ih]
  | case4 char rest _ segment others some ih => simp [some] at ih; simp [ih]

theorem byteCount_append (first second : List Char) :
    byteCount (first ++ second) = byteCount first + byteCount second := by
  induction first with
  | nil => simp [byteCount]
  | cons char rest ih => simp [byteCount, ih, Nat.add_assoc]

end RouteForge.Text
