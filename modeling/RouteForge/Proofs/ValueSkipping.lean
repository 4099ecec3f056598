import RouteForge.Json.Skip
import RouteForge.Proofs.ValueTexts

/-!
A written value is passed over, however deep it is. Every character of it takes two steps at most.
-/

namespace RouteForge.Json

/-! Strings. -/

theorem skipStringFrom_plain {char : Char} (bound rest : List Char) (next : Char)
    (notQuote : char ≠ '"') (notBackslash : char ≠ '\\') (visible : isControl char = false) :
    skipStringFrom (next :: bound) (char :: rest) = skipStringFrom bound rest := by
  rw [skipStringFrom.eq_def]
  split <;> simp_all

theorem skipStringFrom_unit {char : Char} (bound rest : List Char) (next : Char)
    (small : char.toNat < 0x20) :
    skipStringFrom (next :: bound) ('\\' :: 'u' :: '0' :: '0' :: hexDigit (char.toNat / 16) ::
        hexDigit (char.toNat % 16) :: rest) = skipStringFrom bound rest := by
  simp [skipStringFrom, skipEscape, hexUnit_writtenUnit small, bind, Except.bind]

theorem skipStringFrom_writtenChar (char : Char) (bound rest : List Char) (next : Char) :
    skipStringFrom (next :: bound) (writtenChar char ++ rest) = skipStringFrom bound rest := by
  by_cases special : char ∈ shortEscaped
  · simp only [shortEscaped, List.mem_cons, List.not_mem_nil, or_false] at special
    rcases special with rfl | rfl | rfl | rfl | rfl | rfl | rfl <;> rfl
  · rw [writtenChar_of_notMem special]
    simp only [shortEscaped, List.mem_cons, not_or] at special
    split
    · next small => exact skipStringFrom_unit bound rest next small
    · next visible =>
        exact skipStringFrom_plain bound rest next special.1 special.2.1 (by simp [isControl]; omega)

theorem skipStringFrom_written (text rest : List Char) {bound : List Char}
    (enough : text.length ≤ bound.length) :
    skipStringFrom bound (text.flatMap writtenChar ++ '"' :: rest) = .ok rest := by
  induction text generalizing bound with
  | nil => simp [skipStringFrom]
  | cons char text ih =>
      obtain ⟨next, bound, rfl, fewer⟩ := exists_cons_of_enough enough
      rw [List.flatMap_cons, List.append_assoc, skipStringFrom_writtenChar, ih fewer]

theorem skipString_written (text : String) (rest : List Char) :
    skipString (text.toList.flatMap writtenChar ++ '"' :: rest) = .ok rest := by
  have enough := length_le_flatMap_writtenChar text.toList
  rw [skipString, skipStringFrom_written]
  rw [List.length_append]
  omega

/-! Steps. -/

/-- After so many steps the scan stands at the second place. -/
def Passes (steps : Nat) (standing : Standing) (opened : List Bracket) (input : List Char)
    (standingAfter : Standing) (openedAfter : List Bracket) (rest : List Char) : Prop :=
  ∀ fuel, skipFrom (fuel + steps) standing opened input =
    skipFrom fuel standingAfter openedAfter rest

theorem Passes.trans {first second : Nat} {start middle final : Standing}
    {opened openedMiddle openedFinal : List Bracket} {input between rest : List Char}
    (earlier : Passes first start opened input middle openedMiddle between)
    (later : Passes second middle openedMiddle between final openedFinal rest) :
    Passes (first + second) start opened input final openedFinal rest := by
  intro fuel
  rw [Nat.add_comm first, ← Nat.add_assoc, earlier, later]

theorem passes_step {standing next : Standing} {opened left : List Bracket} {input rest : List Char}
    (goesOn : standing = .beforeValue ∨ opened ≠ [])
    (step : skipStep standing opened input = .ok (next, left, rest)) :
    Passes 1 standing opened input next left rest := by
  intro fuel
  rcases goesOn with rfl | nonempty
  · simp [skipFrom, step, bind, Except.bind]
  · simp [skipFrom, nonempty, step, bind, Except.bind]

def standingAt (isFirst : Bool) : Standing :=
  if isFirst then .afterOpening else .afterValue

theorem passes_close {gap : List Char} (blank : Blank gap) (isFirst : Bool) (bracket : Bracket)
    (opened : List Bracket) (rest : List Char) :
    Passes 1 (standingAt isFirst) (bracket :: opened) (gap ++ bracket.closing :: rest) .afterValue
      opened rest := by
  have notSpace : isSpace bracket.closing = false := by cases bracket <;> decide
  refine passes_step (Or.inr (by simp)) ?_
  cases isFirst <;> simp [standingAt, skipStep, skipSpace_start blank rest notSpace]

theorem passes_token {gap tail : List Char} (blank : Blank gap) {first : Char}
    (start : isValueStart first = true) {bracket : Option Bracket} {rest : List Char}
    (token : skipToken (first :: tail) = .ok (bracket, rest)) (opened : List Bracket) :
    Passes 1 .beforeValue opened (gap ++ first :: tail)
      (if bracket.isSome then .afterOpening else .afterValue) (bracket.toList ++ opened) rest := by
  refine passes_step (Or.inl rfl) ?_
  have notSpace := (startsValue_of_isValueStart start).notSpace
  cases bracket <;>
    simp [skipStep, skipSpace_start blank tail notSpace, token, bind, Except.bind]

theorem passes_lead {isFirst : Bool} {lead : List Char} (led : Lead isFirst lead)
    (opened : List Bracket) {first : Char} (tail : List Char) (start : isValueStart first = true) :
    ∃ gap, Blank gap ∧ Passes 1 (standingAt isFirst) (.list :: opened) (lead ++ first :: tail)
      .beforeValue (.list :: opened) (gap ++ first :: tail) := by
  have starts := startsValue_of_isValueStart start
  cases led with
  | first blank =>
      refine ⟨[], Blank.nil, passes_step (Or.inr (by simp)) ?_⟩
      simp [standingAt, skipStep, skipSpace_start blank tail starts.notSpace, Bracket.closing,
        starts.notListEnd, skipToValue, bind, Except.bind]
  | @next before after blankBefore blankAfter =>
      refine ⟨after, blankAfter, passes_step (Or.inr (by simp)) ?_⟩
      rw [List.append_assoc, List.cons_append]
      simp [standingAt, skipStep, skipSpace_start blankBefore _ (by decide : isSpace ',' = false),
        Bracket.closing, skipToValue, bind, Except.bind]

theorem skipKey_written {gap : List Char} (blank : Blank gap) (key : String)
    {beforeColon : List Char} (blankColon : Blank beforeColon) (tail : List Char) :
    skipKey (gap ++ (literalChars key.toList ++ (beforeColon ++ ':' :: tail))) = .ok tail := by
  rw [literalChars, List.cons_append, List.cons_append, skipKey, skipSpace_start blank _ (by decide),
    List.append_assoc, List.singleton_append]
  simp [bind, Except.bind, skipString_written, skipColon,
    skipSpace_start blankColon tail (by decide : isSpace ':' = false)]

theorem passes_key {isFirst : Bool} {lead : List Char} (led : Lead isFirst lead)
    (opened : List Bracket) (key : String) {beforeColon : List Char} (blankColon : Blank beforeColon)
    (tail : List Char) :
    Passes 1 (standingAt isFirst) (.object :: opened)
      (lead ++ (literalChars key.toList ++ (beforeColon ++ ':' :: tail)))
      .beforeValue (.object :: opened) tail := by
  refine passes_step (Or.inr (by simp)) ?_
  cases led with
  | first blank =>
      have read := skipKey_written Blank.nil key blankColon tail
      rw [literalChars, List.cons_append, List.cons_append] at read ⊢
      simp only [standingAt, ↓reduceIte, skipStep,
        skipSpace_start blank _ (by decide : isSpace '"' = false), skipToValue, bind, Except.bind]
      rw [List.nil_append] at read
      rw [read, if_neg (by decide)]
  | @next before after blankBefore blankAfter =>
      rw [List.append_assoc, List.cons_append]
      simp [standingAt, skipStep, skipSpace_start blankBefore _ (by decide : isSpace ',' = false),
        Bracket.closing, skipToValue, bind, Except.bind, skipKey_written blankAfter key blankColon]

theorem skipToken_number {number : Number} {text rest : List Char}
    (spelled : number.IsSpelledBy text) (stop : StopsAt continuesNumber rest) :
    skipToken (text ++ rest) = .ok (none, rest) := by
  cases spelled with
  | @intro numeral negative digits spelled _ =>
      have skipped : skipNumber (digits ++ rest) = .ok rest := by
        simp [skipNumber, numeral_spelled _ spelled stop, bind, Except.bind]
      cases negative with
      | true =>
          simp only [sign, ↓reduceIte, List.cons_append, List.nil_append, skipToken, skipped, bind,
            Except.bind]
          rfl
      | false =>
          obtain ⟨first, tail, rfl, digit⟩ := spelled.start
          rw [sign, if_neg (by simp), List.nil_append]
          rw [List.cons_append] at skipped ⊢
          rw [skipToken.eq_def]
          split <;> simp_all [bind, Except.bind, pure, Except.pure]

theorem Written.passes_single {value : Value} {own : List Char} (written : Written value own)
    {gap rest : List Char} (blank : Blank gap)
    (token : skipToken (own ++ rest) = .ok (none, rest)) (opened : List Bracket) :
    ∃ steps, steps + 1 ≤ 2 * own.length ∧
      Passes steps .beforeValue opened (gap ++ (own ++ rest)) .afterValue opened rest := by
  obtain ⟨first, tail, rfl, start⟩ := written.start
  exact ⟨1, by rw [List.length_cons]; omega, passes_token blank start token opened⟩

mutual

theorem Written.passes {value : Value} {own : List Char} (written : Written value own)
    {gap : List Char} (blank : Blank gap) (opened : List Bracket) {rest : List Char}
    (stop : StopsAt continuesNumber rest) :
    ∃ steps, steps + 1 ≤ 2 * own.length ∧
      Passes steps .beforeValue opened (gap ++ (own ++ rest)) .afterValue opened rest := by
  -- By induction on how the value is written. A step is left over for each value, so that there is
  -- one for what leads to it.
  cases written with
  | null => exact Written.null.passes_single blank rfl opened
  | bool flag => cases flag <;> exact (Written.bool _).passes_single blank rfl opened
  | number spelled =>
      exact (Written.number spelled).passes_single blank (skipToken_number spelled stop) opened
  | string text =>
      refine (Written.string text).passes_single blank ?_ opened
      simp [literalChars, skipToken, skipString_written, bind, Except.bind, pure, Except.pure]
  | @array _ text inside =>
      obtain ⟨steps, few, passes⟩ := inside.passes opened rest
      have bracket := @passes_token gap (text ++ rest) blank '[' (by decide) _ _ rfl opened
      exact ⟨1 + steps, by rw [List.length_cons]; omega, bracket.trans passes⟩
  | @object _ text inside =>
      obtain ⟨steps, few, passes⟩ := inside.passes opened rest
      have bracket := @passes_token gap (text ++ rest) blank '{' (by decide) _ _ rfl opened
      exact ⟨1 + steps, by rw [List.length_cons]; omega, bracket.trans passes⟩

theorem WrittenItems.passes {isFirst : Bool} {items : List Value} {text : List Char}
    (written : WrittenItems isFirst items text) (opened : List Bracket) (rest : List Char) :
    ∃ steps, steps ≤ 2 * text.length ∧
      Passes steps (standingAt isFirst) (.list :: opened) (text ++ rest) .afterValue opened rest := by
  cases written with
  | close blank =>
      rw [List.append_assoc, List.singleton_append]
      exact ⟨1, by simp; omega, passes_close blank isFirst .list opened rest⟩
  | @item _ lead own after _ _ led writtenItem others =>
      obtain ⟨first, tail, split, start⟩ := writtenItem.start
      obtain ⟨gap, blank, leads⟩ :=
        passes_lead led opened (tail ++ (after ++ rest)) start
      obtain ⟨stepsItem, fewItem, passesItem⟩ :=
        writtenItem.passes blank (.list :: opened) (others.stops rest)
      obtain ⟨steps, few, passes⟩ := others.passes opened rest
      rw [← List.cons_append, ← split] at leads
      refine ⟨1 + stepsItem + steps, by simp only [List.length_append]; omega, ?_⟩
      rw [List.append_assoc, List.append_assoc]
      exact (leads.trans passesItem).trans passes

theorem WrittenMembers.passes {isFirst : Bool} {members : Members} {text : List Char}
    (written : WrittenMembers isFirst members text) (opened : List Bracket) (rest : List Char) :
    ∃ steps, steps ≤ 2 * text.length ∧
      Passes steps (standingAt isFirst) (.object :: opened) (text ++ rest) .afterValue opened
        rest := by
  cases written with
  | close blank =>
      rw [List.append_assoc, List.singleton_append]
      exact ⟨1, by simp; omega, passes_close blank isFirst .object opened rest⟩
  | @member _ lead beforeColon afterColon own after key _ _ led blankBefore blankAfter writtenValue
      others =>
      have leads := passes_key led opened key blankBefore (afterColon ++ (own ++ (after ++ rest)))
      obtain ⟨stepsItem, fewItem, passesItem⟩ :=
        writtenValue.passes blankAfter (.object :: opened) (others.stops rest)
      obtain ⟨steps, few, passes⟩ := others.passes opened rest
      refine ⟨1 + stepsItem + steps, ?_, ?_⟩
      · simp only [List.length_append, List.length_cons]
        omega
      · simp only [List.append_assoc, List.cons_append]
        exact (leads.trans passesItem).trans passes

end

/-- A value that nobody asked for is passed over, whatever it is. -/
theorem skipValue_written {value : Value} {gap own rest : List Char} (blank : Blank gap)
    (written : Written value own) (stop : StopsAt continuesNumber rest) :
    skipValue (gap ++ (own ++ rest)) = .ok rest := by
  obtain ⟨steps, few, passes⟩ := written.passes blank [] stop
  have enough : 2 * (gap ++ (own ++ rest)).length + 2 =
      2 * (gap ++ (own ++ rest)).length + 2 - steps + steps := by
    simp only [List.length_append]
    omega
  rw [skipValue, enough, passes]
  simp [skipFrom]

end RouteForge.Json
