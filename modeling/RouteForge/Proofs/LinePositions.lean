import Mathlib.Algebra.Ring.Nat
import Mathlib.Data.List.TakeWhile
import RouteForge.Manifest.Error
import RouteForge.Proofs.TextLines

/-!
Lines and columns against bytes. The line of a byte is found by counting the line feeds before it, and
its column by counting back to the last of them; looking that line and column up leads to the byte
again. Any other line or column leads to some place in the text or to its end.
-/

namespace RouteForge

namespace Text

def bytes (text : List Char) : List UInt8 :=
  text.flatMap String.utf8EncodeChar

def lineFeed : UInt8 := 10

def lineAt (text : List Char) (index : Nat) : Nat :=
  1 + ((bytes text).take index).count lineFeed

/-- How many bytes stand between the start of the line and a byte. -/
def sinceLineStart (text : List Char) (index : Nat) : Nat :=
  (((bytes text).take index).reverse.takeWhile (· != lineFeed)).length

theorem bytes_append (first second : List Char) :
    bytes (first ++ second) = bytes first ++ bytes second := by
  simp [bytes]

theorem length_bytes (text : List Char) : (bytes text).length = byteCount text := by
  induction text with
  | nil => rfl
  | cons char rest ih =>
      have split : bytes (char :: rest) = String.utf8EncodeChar char ++ bytes rest := by simp [bytes]
      rw [split, List.length_append, ih, String.length_utf8EncodeChar, byteCount]

theorem lineFeed_notMem_encoded {char : Char} (other : char ≠ '\n') :
    lineFeed ∉ String.utf8EncodeChar char := by
  have large (value : Nat) (above : 128 ≤ value) (below : value < 256) :
      lineFeed ≠ UInt8.ofNat value := by
    intro same
    have sameValue := congrArg UInt8.toNat same
    rw [UInt8.toNat_ofNat'] at sameValue
    have : lineFeed.toNat = 10 := rfl
    omega
  simp only [String.utf8EncodeChar.eq_def]
  split
  · next small =>
      rw [List.mem_singleton]
      intro same
      have sameValue := congrArg UInt8.toNat same
      rw [UInt8.toNat_ofNat'] at sameValue
      refine other (Char.ext (UInt32.toNat_inj.mp ?_))
      have feed : lineFeed.toNat = 10 := rfl
      have code : '\n'.val.toNat = 10 := rfl
      omega
  · split
    · grind
    · split <;> grind

theorem lineFeed_notMem_bytes {line : List Char} (noFeed : '\n' ∉ line) : lineFeed ∉ bytes line := by
  rw [bytes, List.mem_flatMap]
  rintro ⟨char, present, encoded⟩
  exact lineFeed_notMem_encoded (ne_of_mem_of_not_mem present noFeed) encoded

section

variable {line : List Char} (noFeed : '\n' ∉ line)
include noFeed

theorem lineAt_first {index : Nat} (rest : List Char) (inside : index ≤ (bytes line).length) :
    lineAt (line ++ rest) index = 1 ∧ sinceLineStart (line ++ rest) index = index := by
  have plain : lineFeed ∉ (bytes line).take index :=
    fun present => lineFeed_notMem_bytes noFeed (List.mem_of_mem_take present)
  have all : ∀ byte ∈ ((bytes line).take index).reverse, (byte != lineFeed) = true := by
    intro byte present
    exact bne_iff_ne.mpr (ne_of_mem_of_not_mem (List.mem_reverse.mp present) plain)
  rw [lineAt, sinceLineStart, bytes_append, List.take_append_of_le_length inside,
    List.count_eq_zero.mpr plain, List.takeWhile_eq_self_iff.mpr all, List.length_reverse,
    List.length_take, Nat.min_eq_left inside]
  exact ⟨rfl, rfl⟩

theorem lineAt_later (rest : List Char) (index : Nat) :
    lineAt (line ++ '\n' :: rest) ((bytes line).length + 1 + index) = 1 + lineAt rest index ∧
      sinceLineStart (line ++ '\n' :: rest) ((bytes line).length + 1 + index) =
        sinceLineStart rest index := by
  have whole : bytes (line ++ '\n' :: rest) = bytes line ++ lineFeed :: bytes rest := by
    rw [bytes_append]
    rfl
  have taken : (bytes (line ++ '\n' :: rest)).take ((bytes line).length + 1 + index) =
      bytes line ++ lineFeed :: (bytes rest).take index := by
    rw [whole, Nat.add_assoc, List.take_length_add_append, Nat.add_comm 1 index,
      List.take_succ_cons]
  have none := List.count_eq_zero.mpr (lineFeed_notMem_bytes noFeed)
  constructor
  · rw [lineAt, lineAt, taken, List.count_append, none, List.count_cons_self]
    omega
  · rw [sinceLineStart, sinceLineStart, taken, List.reverse_append, List.reverse_cons,
      List.append_assoc, List.takeWhile_append]
    split
    · next whole => simpa using whole.symm
    · rfl

end

theorem segments_before (text : List Char) {index : Nat} (inside : index < (bytes text).length) :
    lineAt text index ≤ (segments text).length ∧
      byteCount ((segments text).take (lineAt text index - 1)).flatten + sinceLineStart text index =
        index := by
  induction size : text.length using Nat.strongRecOn generalizing text index with
  | _ total ih =>
      by_cases feed : '\n' ∈ text
      · obtain ⟨line, rest, rfl, noFeed⟩ := List.eq_append_cons_of_mem feed
        rw [segments_line noFeed]
        rcases Nat.lt_or_ge (bytes line).length index with later | first
        · obtain ⟨further, rfl⟩ := Nat.exists_eq_add_of_le (Nat.succ_le_of_lt later)
          have shorter : rest.length < total := by
            rw [← size, List.length_append, List.length_cons]
            omega
          have byteSize : (bytes (line ++ '\n' :: rest)).length =
              (bytes line).length + 1 + (bytes rest).length := by
            simp only [length_bytes, byteCount_append, byteCount]
            have one : '\n'.utf8Size = 1 := rfl
            omega
          obtain ⟨fewer, start⟩ := ih rest.length shorter rest
            (by rw [byteSize] at inside; omega : further < _) rfl
          obtain ⟨lineEq, sinceEq⟩ := lineAt_later noFeed rest further
          have positive : lineAt rest further = lineAt rest further - 1 + 1 := by
            rw [lineAt]
            omega
          rw [Nat.succ_eq_add_one, lineEq, sinceEq, Nat.add_sub_cancel_left, positive,
            List.take_succ_cons, List.flatten_cons, byteCount_append, length_bytes]
          have lineSize : byteCount (line ++ ['\n']) = byteCount line + 1 := by
            rw [byteCount_append]
            rfl
          rw [List.length_cons]
          omega
        · obtain ⟨lineEq, sinceEq⟩ := lineAt_first noFeed ('\n' :: rest) first
          rw [lineEq, sinceEq]
          simp [byteCount]
      · have nonempty : text ≠ [] := by
          rintro rfl
          simp [bytes] at inside
        obtain ⟨lineEq, sinceEq⟩ := lineAt_first feed [] (Nat.le_of_lt inside)
        rw [List.append_nil] at lineEq sinceEq
        rw [segments_last feed nonempty, lineEq, sinceEq]
        simp [byteCount]

end Text

namespace Json.Error

/-- An error without a position is in line zero. -/
def line (error : Error) : Nat :=
  error.position.elim 0 Position.line

def column (error : Error) : Nat :=
  error.position.elim 0 Position.column

end Json.Error

namespace Span

theorem offsetOf_eq_none_iff (text : List Char) (line column : Nat) :
    offsetOf text line column = none ↔ line = 0 := by
  fun_cases offsetOf text line column <;> simp_all

theorem offsetOf_le {text : List Char} {line column offset : Nat}
    (found : offsetOf text line column = some offset) : offset ≤ Text.byteCount text := by
  revert found
  fun_cases offsetOf text line column with
  | case1 => simp
  | case2 =>
      intro found
      rw [← Option.some.inj found]
      exact Nat.min_le_right _ _
  | case3 =>
      intro found
      exact Nat.le_of_eq (Option.some.inj found).symm

/-- The sum that is taken for a line and a column needs more than a word. Code that checks its sums
stops there; code that does not goes on with what is left of the sum. -/
def Overflows (text : List Char) (line column : Nat) : Prop :=
  line ≠ 0 ∧ line ≤ (Text.segments text).length ∧ wordSize ≤ lineStart text line + (column - 1)

theorem lineStart_le (text : List Char) (line : Nat) : lineStart text line ≤ Text.byteCount text := by
  have parts := List.take_append_drop (line - 1) (Text.segments text)
  have whole := congrArg (fun segments => Text.byteCount segments.flatten) parts
  simp only [List.flatten_append, Text.byteCount_append, Text.segments_flatten] at whole
  rw [lineStart]
  omega

theorem not_overflows {text : List Char} {line column : Nat}
    (short : lineStart text line + (column - 1) < wordSize) : ¬Overflows text line column :=
  fun overflows => absurd overflows.2.2 (Nat.not_le_of_lt short)

theorem lineStart_lineAt (text : List Char) {index : Nat} (inside : index < (Text.bytes text).length) :
    lineStart text (Text.lineAt text index) + Text.sinceLineStart text index = index :=
  (Text.segments_before text inside).2

theorem offsetOf_lineAt {text : List Char} {index : Nat} (inside : index < (Text.bytes text).length)
    {column : Nat} (short : lineStart text (Text.lineAt text index) + (column - 1) < wordSize) :
    offsetOf text (Text.lineAt text index) column =
      some (min (lineStart text (Text.lineAt text index) + (column - 1)) (Text.byteCount text)) := by
  have fewer := (Text.segments_before text inside).1
  have positive : Text.lineAt text index ≠ 0 := by
    rw [Text.lineAt]
    omega
  rw [offsetOf, if_neg positive, if_pos fewer, Nat.mod_eq_of_lt short]

theorem malformed_span (source : Source) (error : Json.Error) :
    (source.malformed error).span = ofPosition source.text.toList error.line error.column := by
  cases placed : error.position with
  | none => simp [Source.malformed, ManifestError.span, Json.Error.line, placed, ofPosition, offsetOf]
  | some position => simp [Source.malformed, ManifestError.span, Json.Error.line, Json.Error.column,
      placed]

/-- The line and the column that are counted for a byte lead back to it, column zero to the start of
its line. A line and a column that come from anywhere are at a place of the text or at its end, and
line zero is nowhere. Texts have fewer than `2 ^ 63` bytes, and no sum of a word overflows but for a
column beyond that. -/
theorem offsetOf_inverts_counting :
    (∀ (text : List Char) (index : Nat), index < (Text.bytes text).length →
      (Text.bytes text).length < 2 ^ 63 →
        offsetOf text (Text.lineAt text index) (1 + Text.sinceLineStart text index) = some index ∧
        offsetOf text (Text.lineAt text index) 0 =
          some (index - Text.sinceLineStart text index)) ∧
    (∀ (source : Source) (error : Json.Error),
      (source.malformed error).span.map Span.offset =
        offsetOf source.text.toList error.line error.column ∧
      ((source.malformed error).span.isSome ↔ 1 ≤ error.line) ∧
      ∀ span ∈ (source.malformed error).span,
        span.offset + span.length ≤ (Text.bytes source.text.toList).length ∧
        span.length = if span.offset < (Text.bytes source.text.toList).length then 1 else 0) ∧
    ∀ (text : List Char) (line column : Nat), (Text.bytes text).length < 2 ^ 63 →
      column ≤ 2 ^ 63 → ¬Overflows text line column := by
  have word : wordSize = 2 ^ 64 := rfl
  refine ⟨?_, ?_, ?_⟩
  · intro text index inside short
    have start := lineStart_lineAt text inside
    rw [offsetOf_lineAt inside (by omega), offsetOf_lineAt inside (by omega)]
    rw [Text.length_bytes] at inside
    constructor <;> rw [Option.some.injEq] <;> omega
  · intro source error
    rw [malformed_span, ofPosition, Text.length_bytes]
    cases found : offsetOf source.text.toList error.line error.column with
    | none =>
        have lineZero := (offsetOf_eq_none_iff _ _ _).mp found
        simp [lineZero]
    | some offset =>
        have positive : error.line ≠ 0 := by
          intro lineZero
          rw [(offsetOf_eq_none_iff _ _ _).mpr lineZero] at found
          simp at found
        have bounded := offsetOf_le found
        refine ⟨rfl, ?_, ?_⟩
        · simp
          omega
        · intro span marked
          obtain rfl := Option.some.inj marked
          refine ⟨?_, rfl⟩
          simp only
          split <;> omega
  · intro text line column short bounded
    have start := lineStart_le text line
    rw [Text.length_bytes] at short
    exact not_overflows (by omega)

theorem offsetOf_inverts_counting_at_empty_line :
    3 < (Text.bytes "é\n\nab".toList).length ∧ (Text.bytes "é\n\nab".toList).length < 2 ^ 63 ∧
      offsetOf "é\n\nab".toList 2 1 = some 3 ∧ offsetOf "é\n\nab".toList 2 0 = some 3 ∧
      ¬Overflows "é\n\nab".toList 2 (2 ^ 63) := by
  have inside : 3 < (Text.bytes "é\n\nab".toList).length := by decide
  have short : (Text.bytes "é\n\nab".toList).length < 2 ^ 63 := by decide
  have counted : Text.lineAt "é\n\nab".toList 3 = 2 ∧
      Text.sinceLineStart "é\n\nab".toList 3 = 0 := by decide
  obtain ⟨back, start⟩ := offsetOf_inverts_counting.1 _ 3 inside short
  rw [counted.1, counted.2] at back start
  exact ⟨inside, short, back, start, offsetOf_inverts_counting.2.2 _ 2 _ short (Nat.le_refl _)⟩

end Span

end RouteForge
