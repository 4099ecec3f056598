import RouteForge.Json.Printer
import RouteForge.Json.Scan

/-!
A written string reads back.
-/

namespace RouteForge.Json

theorem hexDigit?_hexDigit : ∀ value < 16, hexDigit? (hexDigit value) = some value := by
  decide

theorem hexUnit_writtenUnit {code : Nat} (small : code < 0x20) (rest : List Char) :
    hexUnit ('0' :: '0' :: hexDigit (code / 16) :: hexDigit (code % 16) :: rest) =
      .ok (code, rest) := by
  have first := hexDigit?_hexDigit (code / 16) (by omega)
  have second := hexDigit?_hexDigit (code % 16) (by omega)
  have zero : hexDigit? '0' = some 0 := by decide
  have whole : 16 * (code / 16) + code % 16 = code := by omega
  simp [hexUnit, zero, first, second, whole]

theorem stringFrom_plain {char : Char} (bound read rest : List Char) (next : Char)
    (notQuote : char ≠ '"') (notBackslash : char ≠ '\\') (visible : isControl char = false) :
    stringFrom (next :: bound) read (char :: rest) = stringFrom bound (char :: read) rest := by
  rw [stringFrom.eq_def]
  split <;> simp_all

theorem stringFrom_unit {char : Char} (bound read rest : List Char) (next : Char)
    (small : char.toNat < 0x20) :
    stringFrom (next :: bound) read ('\\' :: 'u' :: '0' :: '0' :: hexDigit (char.toNat / 16) ::
        hexDigit (char.toNat % 16) :: rest) = stringFrom bound (char :: read) rest := by
  have notTrailing : isTrailingUnit char.toNat = false := by simp [isTrailingUnit]; omega
  have notLeading : isLeadingUnit char.toNat = false := by simp [isLeadingUnit]; omega
  simp [stringFrom, escaped, escapedUnit, hexUnit_writtenUnit small, notTrailing, notLeading, bind,
    Except.bind]

def shortEscaped : List Char := ['"', '\\', '\x08', '\x0c', '\n', '\r', '\t']

theorem writtenChar_of_notMem {char : Char} (other : char ∉ shortEscaped) :
    writtenChar char =
      if char.toNat < 0x20 then
        ['\\', 'u', '0', '0', hexDigit (char.toNat / 16), hexDigit (char.toNat % 16)]
      else
        [char] := by
  simp only [shortEscaped, List.mem_cons, List.not_mem_nil, or_false, not_or] at other
  rw [writtenChar.eq_def]
  split <;> simp_all

theorem stringFrom_writtenChar (char : Char) (bound read rest : List Char) (next : Char) :
    stringFrom (next :: bound) read (writtenChar char ++ rest) =
      stringFrom bound (char :: read) rest := by
  by_cases special : char ∈ shortEscaped
  · simp only [shortEscaped, List.mem_cons, List.not_mem_nil, or_false] at special
    rcases special with rfl | rfl | rfl | rfl | rfl | rfl | rfl <;> rfl
  · rw [writtenChar_of_notMem special]
    simp only [shortEscaped, List.mem_cons, not_or] at special
    split
    · next small => exact stringFrom_unit bound read rest next small
    · next visible =>
        exact stringFrom_plain bound read rest next special.1 special.2.1 (by simp [isControl]; omega)

theorem exists_cons_of_enough {α β : Type} {first : α} {rest : List α} {bound : List β}
    (enough : (first :: rest).length ≤ bound.length) :
    ∃ next left, bound = next :: left ∧ rest.length ≤ left.length := by
  cases bound with
  | nil => simp at enough
  | cons next left => exact ⟨next, left, rfl, Nat.le_of_succ_le_succ enough⟩

theorem stringFrom_written (text rest : List Char) {bound : List Char} (read : List Char)
    (enough : text.length ≤ bound.length) :
    stringFrom bound read (text.flatMap writtenChar ++ '"' :: rest) =
      .ok (String.ofList (read.reverse ++ text), rest) := by
  induction text generalizing bound read with
  | nil => simp [stringFrom]
  | cons char text ih =>
      obtain ⟨next, bound, rfl, fewer⟩ := exists_cons_of_enough enough
      rw [List.flatMap_cons, List.append_assoc, stringFrom_writtenChar, ih _ fewer]
      simp

theorem writtenChar_ne_nil (char : Char) : writtenChar char ≠ [] := by
  rw [writtenChar.eq_def]
  split <;> try simp
  split <;> simp

theorem length_le_flatMap_writtenChar (text : List Char) :
    text.length ≤ (text.flatMap writtenChar).length := by
  induction text with
  | nil => simp
  | cons char text ih =>
      have written := List.length_pos_iff.mpr (writtenChar_ne_nil char)
      rw [List.flatMap_cons, List.length_append, List.length_cons]
      omega

/-- A string reads back from its literal, past the quotation mark that opens it. -/
theorem string_written (text : String) (rest : List Char) :
    string (text.toList.flatMap writtenChar ++ '"' :: rest) = .ok (text, rest) := by
  have enough := length_le_flatMap_writtenChar text.toList
  rw [string, stringFrom_written text.toList rest []]
  · simp
  · rw [List.length_append]
    omega

theorem visible_hexDigit : ∀ value < 16, isControl (hexDigit value) = false := by
  decide

theorem visible_writtenChar (char : Char) :
    ∀ written ∈ writtenChar char, isControl written = false := by
  by_cases special : char ∈ shortEscaped
  · have escaped : (shortEscaped.all fun char =>
        (writtenChar char).all fun written => !isControl written) = true := by decide
    simpa using List.all_eq_true.mp escaped char special
  · rw [writtenChar_of_notMem special]
    split
    · next small =>
        have first := visible_hexDigit (char.toNat / 16) (by omega)
        have second := visible_hexDigit (char.toNat % 16) (by omega)
        intro written member
        simp only [List.mem_cons, List.not_mem_nil, or_false] at member
        rcases member with rfl | rfl | rfl | rfl | rfl | rfl <;> first | assumption | decide
    · next visible => simpa [isControl] using visible

theorem visible_literal (text : List Char) :
    ∀ char ∈ literalChars text, isControl char = false := by
  intro char member
  have quote : isControl '"' = false := by decide
  rw [literalChars, List.mem_append, List.mem_cons, List.mem_singleton, List.mem_flatMap] at member
  rcases member with (rfl | ⟨source, _, written⟩) | rfl
  · exact quote
  · exact visible_writtenChar source char written
  · exact quote

end RouteForge.Json
