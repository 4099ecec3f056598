import Mathlib.Data.List.DropRight
import RouteForge.Manifest.Document
import RouteForge.Proofs.PassingOver

/-!
A reader that has read a value stops where passing over the value stops. So the way to a part of a
document does not depend on who reads the parts before it.
-/

namespace RouteForge

namespace Json

/-! Tokens. -/

theorem expectAfterUnit_ok {char : Char} {input rest : List Char}
    (done : expectAfterUnit char input = .ok rest) : input = char :: rest := by
  cases input with
  | nil => simp [expectAfterUnit] at done
  | cons next tail =>
      rw [expectAfterUnit] at done
      split at done
      · next same =>
          rw [same, Except.ok.inj done]
      · simp at done

/-- A character that is read from an escape is passed over in one step, or in two if it is written
as a pair of units. -/
theorem skipStringFrom_of_escaped {input rest bound : List Char} {char : Char}
    (done : escaped input = .ok (char, rest)) (enough : input.length < bound.length) :
    rest <:+ input ∧ ∃ left, rest.length ≤ left.length ∧
      skipStringFrom bound ('\\' :: input) = skipStringFrom left rest := by
  obtain ⟨next, left, rfl⟩ := List.exists_cons_of_length_pos (Nat.zero_lt_of_lt enough)
  rw [List.length_cons, Nat.lt_succ_iff] at enough
  rw [escaped.eq_def] at done
  split at done
  · simp at done
  · next tail =>
      obtain ⟨⟨unit, afterUnit⟩, read, done⟩ := exists_of_bind_ok done
      have suffix := hexUnit_suffix read
      have fewer := suffix.length_le
      rw [List.length_cons] at enough
      simp only at done
      split at done
      · simp at done
      · split at done
        · obtain ⟨afterSlash, slash, done⟩ := exists_of_bind_ok done
          obtain ⟨afterMark, mark, done⟩ := exists_of_bind_ok done
          obtain ⟨⟨second, afterSecond⟩, readSecond, done⟩ := exists_of_bind_ok done
          have suffixSecond := hexUnit_suffix readSecond
          have fewerSecond := suffixSecond.length_le
          simp only at done
          split at done
          · obtain ⟨_, rfl⟩ := Prod.mk.inj (Except.ok.inj done)
            obtain rfl := expectAfterUnit_ok mark
            obtain rfl := expectAfterUnit_ok slash
            simp only [List.length_cons] at fewer
            obtain ⟨another, left, rfl⟩ :=
              List.exists_cons_of_length_pos (by omega : 0 < left.length)
            rw [List.length_cons] at enough
            refine ⟨?_, left, by omega, ?_⟩
            · exact ((((suffixSecond.trans (List.suffix_cons _ _)).trans
                (List.suffix_cons _ _)).trans suffix)).trans (List.suffix_cons _ _)
            · simp [skipStringFrom, skipEscape, read, readSecond, bind, Except.bind]
          · simp at done
        · obtain ⟨_, rfl⟩ := Prod.mk.inj (Except.ok.inj done)
          refine ⟨suffix.trans (List.suffix_cons _ _), left, by omega, ?_⟩
          simp [skipStringFrom, skipEscape, read, bind, Except.bind]
  · next first tail notUnit =>
      split at done
      · next meant short =>
          obtain ⟨_, rfl⟩ := Prod.mk.inj (Except.ok.inj done)
          refine ⟨List.suffix_cons _ _, left, by rw [List.length_cons] at enough; omega, ?_⟩
          have skipped : skipEscape (first :: tail) = .ok tail := by
            rw [skipEscape.eq_def]
            split <;> simp_all
          simp [skipStringFrom, skipped, bind, Except.bind]
      · simp at done

theorem skipStringFrom_of_stringFrom {bound enough read input rest : List Char} {text : String}
    (done : stringFrom bound read input = .ok (text, rest))
    (fits : input.length ≤ enough.length) : skipStringFrom enough input = .ok rest := by
  induction bound generalizing enough read input with
  | nil =>
      rw [stringFrom.eq_def] at done
      split at done
      · simp at done
      · obtain ⟨_, rfl⟩ := Prod.mk.inj (Except.ok.inj done)
        cases enough <;> simp [skipStringFrom]
      · simp at done
      · simp_all
      · simp_all
  | cons next bound ih =>
      rw [stringFrom.eq_def] at done
      split at done
      · simp at done
      · obtain ⟨_, rfl⟩ := Prod.mk.inj (Except.ok.inj done)
        cases enough <;> simp [skipStringFrom]
      · simp_all
      · next same =>
          obtain ⟨rfl, rfl⟩ := List.cons.inj same
          obtain ⟨⟨char, afterChar⟩, escape, done⟩ := exists_of_bind_ok done
          obtain ⟨_, left, fewer, skips⟩ :=
            skipStringFrom_of_escaped escape (by rwa [List.length_cons] at fits)
          rw [skips]
          exact ih done fewer
      · next notQuote notBackslash same =>
          obtain ⟨rfl, rfl⟩ := List.cons.inj same
          split at done
          · simp at done
          · next visible =>
              obtain ⟨another, left, rfl, fewer⟩ := exists_cons_of_enough fits
              rw [skipStringFrom_plain left _ another notQuote notBackslash (by simpa using visible)]
              exact ih done fewer

theorem skipString_of_string {input rest : List Char} {text : String}
    (done : string input = .ok (text, rest)) : skipString input = .ok rest :=
  skipStringFrom_of_stringFrom done (Nat.le_refl _)

section

variable {first second : Cause} {input : List Char}

theorem wholeDigits_congr {result : List Char × List Char}
    (done : wholeDigits first input = .ok result) : wholeDigits second input = .ok result := by
  cases input with
  | nil => simp [wholeDigits] at done
  | cons char tail =>
      rw [← done, wholeDigits.eq_def, wholeDigits.eq_def]
      split <;> simp_all

theorem fractionDigits_congr {result : List Char × List Char}
    (done : fractionDigits first input = .ok result) : fractionDigits second input = .ok result := by
  simp only [fractionDigits] at done ⊢
  split at done
  · simp at done
  · next some => rw [if_neg some, done]

theorem optionalExponent_congr {result : Option Exponent × List Char}
    (done : optionalExponent first input = .ok result) :
    optionalExponent second input = .ok result := by
  have digits {negative : Bool} {input : List Char} {result : Exponent × List Char}
      (done : exponentDigits first negative input = .ok result) :
      exponentDigits second negative input = .ok result := by
    cases input with
    | nil => simp [exponentDigits] at done
    | cons char tail => exact done
  rw [optionalExponent] at done ⊢
  split at done
  · next starts =>
      obtain ⟨part, read, done⟩ := exists_of_bind_ok done
      have again : exponentPart second (input.drop 1) = .ok part := by
        rw [exponentPart.eq_def] at read ⊢
        split at read
        · exact digits read
        · exact digits read
        · exact digits read
      rw [if_pos starts, again]
      exact done
  · next absent => rw [if_neg absent, done]

/-- The digits of a number are the same, whatever would be the fault at the end of the text. -/
theorem numeral_congr {result : Numeral × List Char} (done : numeral first input = .ok result) :
    numeral second input = .ok result := by
  obtain ⟨⟨whole, afterWhole⟩, digits, done⟩ := exists_of_bind_ok done
  simp only [numeral, wholeDigits_congr digits, bind, Except.bind] at done ⊢
  split at done
  · split at done
    · simp at done
    · next fraction =>
        split at done
        · simp at done
        · next exponent =>
            simp only [fractionDigits_congr fraction, optionalExponent_congr exponent]
            exact done
  · split at done
    · simp at done
    · next exponent =>
        simp only [optionalExponent_congr exponent]
        exact done

end

theorem skipNumber_of_number {negative : Bool} {input rest : List Char} {value : Number}
    (done : number negative input = .ok (value, rest)) : skipNumber input = .ok rest := by
  obtain ⟨⟨numeral, afterDigits⟩, digits, done⟩ := exists_of_bind_ok done
  simp only [Numeral.value] at done
  split at done
  · obtain rfl := (Prod.mk.inj (Except.ok.inj done)).2
    rw [skipNumber, numeral_congr digits]
    rfl
  · simp at done

/-! Values. -/

/-- Passing over stops where the reader stops, whatever blanks come first. -/
def StopsAlike {α : Type} (read : Reader α) : Prop :=
  ∀ ⦃input : List Char⦄ ⦃value : α⦄ ⦃rest : List Char⦄, read input = .ok (value, rest) →
    ∀ start, skipSpace start = skipSpace input → ∀ opened,
      ∃ steps, Passes steps .beforeValue opened start .afterValue opened rest

theorem StopsAlike.skipValue {α : Type} {read : Reader α} (alike : StopsAlike read)
    {input rest : List Char} {value : α} (done : read input = .ok (value, rest)) :
    skipValue input = .ok rest := by
  obtain ⟨steps, passes⟩ := alike done input rfl []
  exact skipValue_of_passes passes

theorem skipSpace_of_valueStart {input found : List Char} (done : valueStart input = .ok found) :
    skipSpace input = found := by
  rw [valueStart] at done
  split at done
  · simp at done
  · exact Except.ok.inj done

section

variable {input start : List Char} (same : skipSpace start = skipSpace input)
  (opened : List Bracket)
include same

theorem passes_of_token {rest : List Char} (token : skipToken (skipSpace input) = .ok (none, rest)) :
    ∃ steps, Passes steps .beforeValue opened start .afterValue opened rest :=
  ⟨1, (IsStep.token (same ▸ token)).passes⟩

theorem passes_of_bracket {bracket : Bracket} {inner rest : List Char}
    (token : skipToken (skipSpace input) = .ok (some bracket, inner))
    (inside : ∃ steps, Passes steps .afterOpening (bracket :: opened) inner .afterValue opened rest) :
    ∃ steps, Passes steps .beforeValue opened start .afterValue opened rest := by
  obtain ⟨steps, passes⟩ := inside
  have first := (@IsStep.token opened start inner (some bracket) (same ▸ token)).passes
  exact ⟨1 + steps, first.trans passes⟩

end

theorem text_alike : StopsAlike text := by
  intro input value rest done start same opened
  obtain ⟨found, begun, done⟩ := exists_of_bind_ok done
  have found := skipSpace_of_valueStart begun
  split at done
  · refine passes_of_token same opened ?_
    rw [found, skipToken, skipString_of_string done]
    rfl
  · simp at done

theorem boolean_alike : StopsAlike boolean := by
  intro input value rest done start same opened
  obtain ⟨found, begun, done⟩ := exists_of_bind_ok done
  have found := skipSpace_of_valueStart begun
  split at done
  · obtain ⟨_, word, done⟩ := exists_of_bind_ok done
    obtain ⟨_, rfl⟩ := Prod.mk.inj (Except.ok.inj done)
    refine passes_of_token same opened ?_
    rw [found, skipToken, word]
    rfl
  · obtain ⟨_, word, done⟩ := exists_of_bind_ok done
    obtain ⟨_, rfl⟩ := Prod.mk.inj (Except.ok.inj done)
    refine passes_of_token same opened ?_
    rw [found, skipToken, word]
    rfl
  · simp at done

theorem unit_alike : StopsAlike unit := by
  intro input value rest done start same opened
  obtain ⟨found, begun, done⟩ := exists_of_bind_ok done
  have found := skipSpace_of_valueStart begun
  split at done
  · obtain ⟨_, word, done⟩ := exists_of_bind_ok done
    obtain ⟨_, rfl⟩ := Prod.mk.inj (Except.ok.inj done)
    refine passes_of_token same opened ?_
    rw [found, skipToken, word]
    rfl
  · simp at done

theorem StopsAlike.optional {α : Type} {read : Reader α} (alike : StopsAlike read) :
    StopsAlike (optional read) := by
  intro input value rest done start same opened
  rw [Json.optional] at done
  split at done
  · next found =>
      obtain ⟨_, word, done⟩ := exists_of_bind_ok done
      obtain ⟨_, rfl⟩ := Prod.mk.inj (Except.ok.inj done)
      refine passes_of_token same opened ?_
      rw [found, skipToken, word]
      rfl
  · obtain ⟨⟨_, _⟩, first, done⟩ := exists_of_bind_ok done
    obtain ⟨_, rfl⟩ := Prod.mk.inj (Except.ok.inj done)
    exact alike first start same opened

/-! Lists. -/

theorem skipSpace_nextElement {isFirst : Bool} {input rest : List Char}
    (done : nextElement isFirst input = .ok (false, rest)) :
    skipSpace input = skipSpace rest ∧ ∃ after, skipSpace input = ']' :: after := by
  rw [nextElement] at done
  split at done
  · simp at done
  · next after found =>
      obtain ⟨_, rfl⟩ := Prod.mk.inj (Except.ok.inj done)
      exact ⟨found, after, found⟩
  · split at done
    · simp at done
    · split at done
      · split at done <;> simp at done
      · simp at done

/-- Before an item there are blanks and, after another one, a comma. -/
theorem nextElement_cases {isFirst : Bool} {input rest : List Char}
    (done : nextElement isFirst input = .ok (true, rest)) :
    (isFirst = true ∧ skipSpace input = rest ∧ ∃ char tail, rest = char :: tail ∧ char ≠ ']') ∨
      (isFirst = false ∧ ∃ tail, skipSpace input = ',' :: tail ∧ skipSpace tail = rest) := by
  rw [nextElement] at done
  split at done
  · simp at done
  · simp at done
  · next char tail notEnd found =>
      split at done
      · next isFirst =>
          obtain ⟨_, rfl⟩ := Prod.mk.inj (Except.ok.inj done)
          exact .inl ⟨isFirst, found, char, tail, rfl, notEnd⟩
      · next notFirst =>
          split at done
          · next comma =>
              refine .inr ⟨by simpa using notFirst, tail, comma ▸ found, ?_⟩
              split at done
              · simp at done
              · simp at done
              · exact (Prod.mk.inj (Except.ok.inj done)).2
          · simp at done

theorem passes_nextElement {isFirst : Bool} {input rest : List Char}
    (done : nextElement isFirst input = .ok (true, rest)) {start : List Char}
    (same : skipSpace start = skipSpace input) (opened : List Bracket) :
    ∃ between, skipSpace between = skipSpace rest ∧
      Passes 1 (standingAt isFirst) (.list :: opened) start .beforeValue (.list :: opened) between := by
  rcases nextElement_cases done with ⟨rfl, found, char, tail, rfl, notEnd⟩ | ⟨rfl, tail, found, rfl⟩
  · exact ⟨_, rfl, (@IsStep.first .list _ _ _ _ _ (same.trans found) notEnd rfl).passes⟩
  · have again : skipSpace (skipSpace tail) = skipSpace tail := List.dropWhile_idempotent _ _
    exact ⟨tail, again.symm, (IsStep.next (same.trans found) rfl).passes⟩

theorem skipSpace_closeList {input rest : List Char} (done : closeList input = .ok rest) :
    skipSpace input = ']' :: rest := by
  rw [closeList] at done
  split at done
  · simp at done
  · next found => rw [found, Except.ok.inj done]
  · split at done <;> simp at done
  · simp at done

theorem standingAt_ne (isFirst : Bool) : standingAt isFirst ≠ .beforeValue := by
  cases isFirst <;> simp [standingAt]

theorem passes_closeList {standing : Standing} (inside : standing ≠ .beforeValue)
    {input rest : List Char} (closed : closeList input = .ok rest) {start : List Char}
    (same : skipSpace start = skipSpace input) (opened : List Bracket) :
    ∃ steps, Passes steps standing (.list :: opened) start .afterValue opened rest :=
  ⟨1, (@IsStep.close _ .list _ _ _ inside (same.trans (skipSpace_closeList closed))).passes⟩

/-- By induction on the elements, each of which is passed over before the next. -/
theorem StopsAlike.elements {α : Type} {read : Reader α} (alike : StopsAlike read)
    {bound : List Char} {isFirst : Bool} {input : List Char} {values : List α}
    {rest after : List Char} (done : elements read bound isFirst input = .ok (values, rest))
    (closed : closeList rest = .ok after) (opened : List Bracket) :
    ∃ steps, Passes steps (standingAt isFirst) (.list :: opened) input .afterValue opened after := by
  induction bound generalizing isFirst input values with
  | nil =>
      rw [elements.eq_1] at done
      obtain ⟨⟨more, left⟩, next, done⟩ := exists_of_bind_ok done
      cases more with
      | true => simp at done
      | false =>
          obtain ⟨_, rfl⟩ := Prod.mk.inj (Except.ok.inj done)
          exact passes_closeList (standingAt_ne isFirst) closed (skipSpace_nextElement next).1 opened
  | cons char bound ih =>
      rw [elements.eq_1] at done
      obtain ⟨⟨more, left⟩, next, done⟩ := exists_of_bind_ok done
      cases more with
      | true =>
          obtain ⟨⟨value, afterValue⟩, first, done⟩ := exists_of_bind_ok done
          obtain ⟨⟨others, afterOthers⟩, later, done⟩ := exists_of_bind_ok done
          obtain ⟨_, rfl⟩ := Prod.mk.inj (Except.ok.inj done)
          obtain ⟨between, same, leads⟩ := passes_nextElement next rfl opened
          obtain ⟨stepsFirst, passesFirst⟩ := alike first between same (.list :: opened)
          obtain ⟨stepsLater, passesLater⟩ := ih later
          exact ⟨_, (leads.trans passesFirst).trans passesLater⟩
      | false =>
          obtain ⟨_, rfl⟩ := Prod.mk.inj (Except.ok.inj done)
          exact passes_closeList (standingAt_ne isFirst) closed (skipSpace_nextElement next).1 opened

theorem StopsAlike.listFrom {α : Type} {read : Reader α} (alike : StopsAlike read)
    {input rest : List Char} {values : List α} (done : listFrom read input = .ok (values, rest))
    (opened : List Bracket) :
    ∃ steps, Passes steps .afterOpening (.list :: opened) input .afterValue opened rest := by
  obtain ⟨⟨_, left⟩, all, done⟩ := exists_of_bind_ok done
  obtain ⟨_, closed, done⟩ := exists_of_bind_ok done
  obtain ⟨_, rfl⟩ := Prod.mk.inj (Except.ok.inj done)
  exact alike.elements all closed opened

theorem StopsAlike.list {α : Type} {read : Reader α} (alike : StopsAlike read) (budget : Nat) :
    StopsAlike (list budget read) := by
  intro input values rest done start same opened
  obtain ⟨found, begun, done⟩ := exists_of_bind_ok done
  have found := skipSpace_of_valueStart begun
  split at done
  · split at done
    · simp at done
    · exact passes_of_bracket same opened (found ▸ rfl) (alike.listFrom done _)
  · simp at done

/-! Objects. -/

theorem skipSpace_nextKey {isFirst : Bool} {input rest : List Char}
    (done : nextKey isFirst input = .ok (false, rest)) : skipSpace input = skipSpace rest := by
  rw [nextKey] at done
  split at done
  · simp at done
  · next found =>
      obtain ⟨_, rfl⟩ := Prod.mk.inj (Except.ok.inj done)
      rw [found]
      rfl
  · split at done
    · split at done <;> simp at done
    · split at done
      · split at done <;> simp at done
      · simp at done

theorem nextKey_cases {isFirst : Bool} {input rest : List Char}
    (done : nextKey isFirst input = .ok (true, rest)) :
    (isFirst = true ∧ skipSpace input = '"' :: rest) ∨
      (isFirst = false ∧ ∃ tail, skipSpace input = ',' :: tail ∧ skipSpace tail = '"' :: rest) := by
  rw [nextKey] at done
  split at done
  · simp at done
  · simp at done
  · next char tail _ found =>
      split at done
      · next isFirst =>
          split at done
          · next quote =>
              obtain ⟨_, rfl⟩ := Prod.mk.inj (Except.ok.inj done)
              exact .inl ⟨isFirst, quote ▸ found⟩
          · simp at done
      · next notFirst =>
          split at done
          · next comma =>
              refine .inr ⟨by simpa using notFirst, tail, comma ▸ found, ?_⟩
              split at done
              · simp at done
              · next quote =>
                  rw [quote, (Prod.mk.inj (Except.ok.inj done)).2]
              · simp at done
              · simp at done
          · simp at done

theorem passes_nextKey {isFirst : Bool} {input afterQuote afterKey rest : List Char} {key : String}
    (next : nextKey isFirst input = .ok (true, afterQuote))
    (read : string afterQuote = .ok (key, afterKey)) (between : colon afterKey = .ok rest)
    (opened : List Bracket) :
    Passes 1 (standingAt isFirst) (.object :: opened) input .beforeValue (.object :: opened) rest := by
  have leads {gap : List Char} (quote : skipSpace gap = '"' :: afterQuote) :
      skipToValue .object gap = .ok rest := by
    rw [skipToValue, skipKey, quote]
    simp only [skipString_of_string read, bind, Except.bind]
    exact between
  rcases nextKey_cases next with ⟨rfl, found⟩ | ⟨rfl, tail, found, quote⟩
  · exact (@IsStep.first .object _ _ _ _ _ found (by decide) (leads rfl)).passes
  · exact (IsStep.next found (leads quote)).passes

theorem skipSpace_closeObject {input rest : List Char} (done : closeObject input = .ok rest) :
    skipSpace input = '}' :: rest := by
  rw [closeObject] at done
  split at done
  · simp at done
  · next found => rw [found, Except.ok.inj done]
  · simp at done
  · simp at done

theorem passes_closeObject {standing : Standing} (inside : standing ≠ .beforeValue)
    {input rest : List Char} (closed : closeObject input = .ok rest) {start : List Char}
    (same : skipSpace start = skipSpace input) (opened : List Bracket) :
    ∃ steps, Passes steps standing (.object :: opened) start .afterValue opened rest :=
  ⟨1, (@IsStep.close _ .object _ _ _ inside (same.trans (skipSpace_closeObject closed))).passes⟩

theorem StopsAlike.members {read : Reader Value} (alike : StopsAlike read) {bound : List Char}
    {isFirst : Bool} {collected result : Members} {input rest after : List Char}
    (done : members read bound isFirst collected input = .ok (result, rest))
    (closed : closeObject rest = .ok after) (opened : List Bracket) :
    ∃ steps, Passes steps (standingAt isFirst) (.object :: opened) input .afterValue opened
      after := by
  induction bound generalizing isFirst collected input with
  | nil =>
      rw [members.eq_1] at done
      obtain ⟨⟨more, left⟩, next, done⟩ := exists_of_bind_ok done
      cases more with
      | true => simp at done
      | false =>
          obtain ⟨_, rfl⟩ := Prod.mk.inj (Except.ok.inj done)
          exact passes_closeObject (standingAt_ne isFirst) closed (skipSpace_nextKey next) opened
  | cons char bound ih =>
      rw [members.eq_1] at done
      obtain ⟨⟨more, left⟩, next, done⟩ := exists_of_bind_ok done
      cases more with
      | true =>
          obtain ⟨⟨key, afterKey⟩, readKey, done⟩ := exists_of_bind_ok done
          obtain ⟨afterColon, between, done⟩ := exists_of_bind_ok done
          obtain ⟨⟨value, afterValue⟩, first, done⟩ := exists_of_bind_ok done
          obtain ⟨stepsFirst, passesFirst⟩ := alike first afterColon rfl (.object :: opened)
          obtain ⟨stepsLater, passesLater⟩ := ih done
          exact ⟨_, ((passes_nextKey next readKey between opened).trans passesFirst).trans passesLater⟩
      | false =>
          obtain ⟨_, rfl⟩ := Prod.mk.inj (Except.ok.inj done)
          exact passes_closeObject (standingAt_ne isFirst) closed (skipSpace_nextKey next) opened

theorem StopsAlike.membersFrom {read : Reader Value} (alike : StopsAlike read)
    {input rest : List Char} {result : Members} (done : membersFrom read input = .ok (result, rest))
    (opened : List Bracket) :
    ∃ steps, Passes steps .afterOpening (.object :: opened) input .afterValue opened rest := by
  obtain ⟨⟨_, left⟩, all, done⟩ := exists_of_bind_ok done
  obtain ⟨_, closed, done⟩ := exists_of_bind_ok done
  obtain ⟨_, rfl⟩ := Prod.mk.inj (Except.ok.inj done)
  exact alike.members all closed opened

theorem StopsAlike.valueWith {inner : Option (Reader Value)}
    (within : ∀ read ∈ inner, StopsAlike read) : StopsAlike (valueWith inner) := by
  intro input value rest done start same opened
  obtain ⟨found, begun, done⟩ := exists_of_bind_ok done
  have found := skipSpace_of_valueStart begun
  split at done
  case h_6 =>
    cases inner with
    | none => simp at done
    | some read =>
        obtain ⟨⟨items, _⟩, all, done⟩ := exists_of_bind_ok done
        obtain ⟨_, rfl⟩ := Prod.mk.inj (Except.ok.inj done)
        exact passes_of_bracket same opened (found ▸ rfl) ((within read rfl).listFrom all _)
  case h_7 =>
    cases inner with
    | none => simp at done
    | some read =>
        obtain ⟨⟨members, _⟩, all, done⟩ := exists_of_bind_ok done
        obtain ⟨_, rfl⟩ := Prod.mk.inj (Except.ok.inj done)
        exact passes_of_bracket same opened (found ▸ rfl) ((within read rfl).membersFrom all _)
  case h_8 =>
    split at done
    · next digit =>
        obtain ⟨_, token, done⟩ := exists_of_bind_ok done
        obtain ⟨_, rfl⟩ := Prod.mk.inj (Except.ok.inj done)
        refine passes_of_token same opened ?_
        rw [found, skipToken.eq_def]
        split <;> simp_all [skipNumber_of_number token, bind, Except.bind, pure, Except.pure]
    · simp at done
  -- The tokens that their first character tells.
  all_goals
    obtain ⟨_, token, done⟩ := exists_of_bind_ok done
    obtain ⟨_, rfl⟩ := Prod.mk.inj (Except.ok.inj done)
    refine passes_of_token same opened ?_
    rw [found, skipToken]
    first
      | rw [token]; rfl
      | rw [skipNumber_of_number token]; rfl
      | rw [skipString_of_string token]; rfl

theorem value_alike (budget : Nat) : StopsAlike (value budget) := by
  induction budget with
  | zero => exact StopsAlike.valueWith nofun
  | succ budget ih =>
      refine StopsAlike.valueWith fun read isInner => ?_
      obtain rfl := Option.some.inj isInner
      exact ih

theorem object_alike (budget : Nat) : StopsAlike (object budget) := by
  intro input value rest done start same opened
  obtain ⟨found, begun, done⟩ := exists_of_bind_ok done
  have found := skipSpace_of_valueStart begun
  split at done
  · cases budget with
    | zero => simp at done
    | succ budget =>
        exact passes_of_bracket same opened (found ▸ rfl) ((value_alike budget).membersFrom done _)
  · simp at done

theorem Choice.read_rest {α : Type} {choice : Choice α} {name : String} {input rest : List Char}
    {value : α} (done : choice.read name input = .ok (value, rest)) : input = rest := by
  rw [Choice.read] at done
  split at done
  · exact (Prod.mk.inj (Except.ok.inj done)).2
  · simp at done

theorem nextKey_of_choiceKey {input rest : List Char} (done : choiceKey input = .ok rest) :
    nextKey true input = .ok (true, rest) := by
  rw [choiceKey] at done
  split at done
  · simp at done
  · next quote =>
      obtain rfl := Except.ok.inj done
      simp [nextKey, quote]
  · simp at done
  · simp at done

theorem passes_choiceFromObject {α : Type} {choice : Choice α} {input rest : List Char} {value : α}
    (done : choiceFromObject choice input = .ok (value, rest)) (opened : List Bracket) :
    ∃ steps, Passes steps .afterOpening (.object :: opened) input .afterValue opened rest := by
  obtain ⟨afterQuote, next, done⟩ := exists_of_bind_ok done
  obtain ⟨⟨name, afterName⟩, token, done⟩ := exists_of_bind_ok done
  obtain ⟨⟨_, afterChoice⟩, choosing, done⟩ := exists_of_bind_ok done
  obtain ⟨afterColon, between, done⟩ := exists_of_bind_ok done
  obtain ⟨⟨_, afterUnit⟩, single, done⟩ := exists_of_bind_ok done
  have token := Choice.read_rest choosing ▸ token
  obtain ⟨_, passesUnit⟩ := unit_alike single afterColon rfl (.object :: opened)
  have leads := passes_nextKey (nextKey_of_choiceKey next) token between opened
  simp only at done
  split at done
  · simp at done
  · next ends =>
      obtain ⟨_, rfl⟩ := Prod.mk.inj (Except.ok.inj done)
      have closes := (@IsStep.close .afterValue .object opened _ _ nofun ends).passes
      exact ⟨_, (leads.trans passesUnit).trans closes⟩
  · simp at done

theorem chosen_alike {α : Type} (budget : Nat) (choice : Choice α) :
    StopsAlike (chosen budget choice) := by
  intro input value rest done start same opened
  obtain ⟨found, begun, done⟩ := exists_of_bind_ok done
  have found := skipSpace_of_valueStart begun
  split at done
  · obtain ⟨⟨name, _⟩, token, done⟩ := exists_of_bind_ok done
    obtain rfl := Choice.read_rest done
    refine passes_of_token same opened ?_
    rw [found, skipToken, skipString_of_string token]
    rfl
  · split at done
    · simp at done
    · exact passes_of_bracket same opened (found ▸ rfl) (passes_choiceFromObject done opened)
  · simp at done

/-! Records. -/

section

variable {δ : Type} {fields : List (Field δ)}
  (alike : ∀ field ∈ fields, ∀ draft, StopsAlike (field.read draft))
include alike

theorem gather_alike {bound : List Char} {isFirst : Bool} {draft final : δ}
    {input rest after : List Char}
    (done : gather fields bound isFirst draft input = .ok (.draft final, rest))
    (closed : closeObject rest = .ok after) (opened : List Bracket) :
    ∃ steps, Passes steps (standingAt isFirst) (.object :: opened) input .afterValue opened
      after := by
  induction bound generalizing isFirst draft input with
  | nil =>
      rw [gather.eq_1] at done
      obtain ⟨⟨more, left⟩, next, done⟩ := exists_of_bind_ok done
      cases more with
      | true => simp at done
      | false =>
          obtain ⟨_, rfl⟩ := Prod.mk.inj (Except.ok.inj done)
          exact passes_closeObject (standingAt_ne isFirst) closed (skipSpace_nextKey next) opened
  | cons char bound ih =>
      rw [gather.eq_1] at done
      obtain ⟨⟨more, left⟩, next, done⟩ := exists_of_bind_ok done
      cases more with
      | true =>
          obtain ⟨⟨key, afterKey⟩, readKey, done⟩ := exists_of_bind_ok done
          simp only at done
          cases found : fields.find? (·.name = key) with
          | none =>
              rw [found] at done
              obtain ⟨afterColon, between, done⟩ := exists_of_bind_ok done
              obtain ⟨afterValue, skipped, done⟩ := exists_of_bind_ok done
              obtain ⟨_, passesFirst⟩ := passes_of_skipValue skipped (.object :: opened)
              obtain ⟨_, passesLater⟩ := ih done
              exact ⟨_, ((passes_nextKey next readKey between opened).trans passesFirst).trans
                passesLater⟩
          | some field =>
              rw [found] at done
              simp only at done
              split at done
              · simp at done
              · obtain ⟨afterColon, between, done⟩ := exists_of_bind_ok done
                obtain ⟨⟨stored, afterValue⟩, first, done⟩ := exists_of_bind_ok done
                obtain ⟨_, passesFirst⟩ := alike field (List.mem_of_find?_eq_some found) draft first
                  afterColon rfl (.object :: opened)
                obtain ⟨_, passesLater⟩ := ih done
                exact ⟨_, ((passes_nextKey next readKey between opened).trans passesFirst).trans
                  passesLater⟩
      | false =>
          obtain ⟨_, rfl⟩ := Prod.mk.inj (Except.ok.inj done)
          exact passes_closeObject (standingAt_ne isFirst) closed (skipSpace_nextKey next) opened

/-- At the closing bracket the fields that are left read nothing. -/
theorem gatherInOrder_alike {lengthText : String} {index : Nat} {draft final : δ}
    {input rest after : List Char}
    (done : gatherInOrder lengthText fields index draft input = .ok (final, rest))
    (closed : closeList rest = .ok after) {standing : Standing} (inside : standing ≠ .beforeValue)
    (expected : standing = standingAt (index == 0) ∨ ∃ after, skipSpace input = ']' :: after)
    {start : List Char} (same : skipSpace start = skipSpace input) (opened : List Bracket) :
    ∃ steps, Passes steps standing (.list :: opened) start .afterValue opened after := by
  induction fields generalizing index draft input standing start with
  | nil =>
      obtain ⟨_, rfl⟩ := Prod.mk.inj (Except.ok.inj done)
      exact passes_closeList inside closed same opened
  | cons field others ih =>
      rw [List.forall_mem_cons] at alike
      obtain ⟨⟨more, left⟩, next, done⟩ := exists_of_bind_ok done
      cases more with
      | true =>
          obtain ⟨⟨stored, afterValue⟩, first, done⟩ := exists_of_bind_ok done
          rcases expected with rfl | ⟨_, ends⟩
          · obtain ⟨between, sameValue, leads⟩ := passes_nextElement next same opened
            obtain ⟨_, passesFirst⟩ := alike.1 draft first between sameValue (.list :: opened)
            obtain ⟨_, passesLater⟩ :=
              ih alike.2 done (standingAt_ne false) (.inl rfl) rfl
            exact ⟨_, (leads.trans passesFirst).trans passesLater⟩
          · simp [nextElement, ends] at next
      | false =>
          obtain ⟨sameEnd, afterEnd, ends⟩ := skipSpace_nextElement next
          simp only [Bool.false_eq_true, ↓reduceIte] at done
          split at done
          · exact ih alike.2 done inside (.inr ⟨afterEnd, sameEnd ▸ ends⟩) (same.trans sameEnd)
          · simp at done

end

theorem close_of_finished {δ α : Type} {shape : Shape δ α} {draft : δ} {result : α}
    {rest : List Char} {missing : String → Except Fault (α × List Char)}
    {closing : Except Fault (List Char)}
    (done : (match shape.finish draft with
      | .error name => missing name
      | .ok record => do
          let left ← closing
          .ok (record, left)) = .ok (result, rest))
    (fails : ∀ name, missing name ≠ .ok (result, rest)) : closing = .ok rest := by
  cases finished : shape.finish draft with
  | error name =>
      rw [finished] at done
      exact absurd done (fails name)
  | ok record =>
      rw [finished] at done
      obtain ⟨_, closed, done⟩ := exists_of_bind_ok done
      obtain ⟨_, rfl⟩ := Prod.mk.inj (Except.ok.inj done)
      exact closed

theorem record_alike {δ α : Type} {shape : Shape δ α}
    (alike : ∀ field ∈ shape.fields, ∀ draft, StopsAlike (field.read draft)) (budget : Nat) :
    StopsAlike (record budget shape) := by
  intro input value rest done start same opened
  obtain ⟨found, begun, done⟩ := exists_of_bind_ok done
  have found := skipSpace_of_valueStart begun
  split at done
  · split at done
    · simp at done
    · obtain ⟨⟨draft, _⟩, gathered, done⟩ := exists_of_bind_ok done
      have closed := close_of_finished done (by simp)
      exact passes_of_bracket same opened (found ▸ rfl)
        (gatherInOrder_alike alike gathered closed (standingAt_ne true) (.inl rfl) rfl opened)
  · split at done
    · simp at done
    · obtain ⟨⟨gathered, _⟩, took, done⟩ := exists_of_bind_ok done
      cases gathered with
      | repeated name => simp at done
      | draft draft =>
          have closed := close_of_finished done (by simp)
          exact passes_of_bracket same opened (found ▸ rfl) (gather_alike alike took closed opened)
  · simp at done

theorem field_alike {δ α : Type} {name : String} {mayEnd : Bool} {get : δ → Option α}
    {store : δ → α → δ} {read : Reader α} (alike : StopsAlike read) (draft : δ) :
    StopsAlike ((Field.of name mayEnd get store read).read draft) := by
  intro input after rest done
  obtain ⟨⟨content, _⟩, first, done⟩ := exists_of_bind_ok done
  obtain ⟨_, rfl⟩ := Prod.mk.inj (Except.ok.inj done)
  exact alike first

end Json

/-! Routes and manifests. -/

open Json (StopsAlike Field)

theorem Route.shape_alike {budget : Nat} {children : Json.Reader (List Route)}
    (alike : StopsAlike children) :
    ∀ field ∈ (shape budget children).fields, ∀ draft, StopsAlike (field.read draft) := by
  have texts := StopsAlike.optional Json.text_alike
  have flags := StopsAlike.optional Json.boolean_alike
  have bags := StopsAlike.optional (Json.object_alike budget)
  simp only [shape, List.forall_mem_cons, List.not_mem_nil, false_implies, implies_true, and_true]
  exact ⟨Json.field_alike Json.text_alike, Json.field_alike Json.text_alike,
    Json.field_alike Json.text_alike, Json.field_alike texts, Json.field_alike flags,
    Json.field_alike flags, Json.field_alike bags, Json.field_alike alike, Json.field_alike flags⟩

theorem Route.read_alike : (budget : Nat) → StopsAlike (read budget)
  | 0 => Json.record_alike (shape_alike (StopsAlike.list nofun 0)) 0
  | 1 => Json.record_alike (shape_alike (StopsAlike.list nofun 0)) 1
  | budget + 2 =>
      Json.record_alike (shape_alike (StopsAlike.list (read_alike budget) (budget + 1))) (budget + 2)

theorem Module.shape_alike (budget : Nat) :
    ∀ field ∈ (shape budget).fields, ∀ draft, StopsAlike (field.read draft) := by
  have routes : StopsAlike (Route.readList budget) := (Route.read_alike _).list budget
  simp only [shape, List.forall_mem_cons, List.not_mem_nil, false_implies, implies_true, and_true]
  exact ⟨Json.field_alike Json.text_alike, Json.field_alike Json.text_alike,
    Json.field_alike routes⟩

theorem Module.read_alike (budget : Nat) : StopsAlike (read budget) :=
  Json.record_alike (shape_alike (budget - 1)) budget

theorem Manifest.shape_alike (budget : Nat) :
    ∀ field ∈ (shape budget).fields, ∀ draft, StopsAlike (field.read draft) := by
  have variants : StopsAlike (Json.optional (Variant.read budget)) :=
    (Json.chosen_alike budget _).optional
  have modules := (Module.read_alike (budget - 1)).list budget
  simp only [shape, List.forall_mem_cons, List.not_mem_nil, false_implies, implies_true, and_true]
  exact ⟨Json.field_alike Json.text_alike, Json.field_alike Json.text_alike,
    Json.field_alike Json.text_alike, Json.field_alike variants, Json.field_alike modules⟩

end RouteForge
