import RouteForge.Proofs.AcceptedManifests
import RouteForge.Proofs.ValueSkipping

/-!
Passing over a value in any surroundings: what is left is an end of the text, the steps that are
allowed are always enough, and the brackets around a value have no part in it.
-/

namespace RouteForge.Json

/-! Every scanner leaves an end of what it was given. -/

theorem skipSpace_suffix (input : List Char) : skipSpace input <:+ input :=
  List.dropWhile_suffix _

theorem word_suffix {letters input rest : List Char} (done : word letters input = .ok rest) :
    rest <:+ input := by
  induction letters generalizing input with
  | nil =>
      obtain rfl := Except.ok.inj done
      exact List.suffix_rfl
  | cons letter letters ih =>
      cases input with
      | nil => simp [word] at done
      | cons char tail =>
          rw [word] at done
          split at done
          · exact (ih done).trans (List.suffix_cons _ _)
          · simp at done

theorem hexUnit_suffix {input rest : List Char} {unit : Nat}
    (done : hexUnit input = .ok (unit, rest)) : rest <:+ input := by
  simp only [hexUnit] at done
  split at done
  · obtain ⟨_, rfl⟩ := Prod.mk.inj (Except.ok.inj done)
    exact List.drop_suffix _ _
  · split at done <;> simp at done

theorem skipEscape_suffix {input rest : List Char} (done : skipEscape input = .ok rest) :
    rest <:+ input := by
  rw [skipEscape.eq_def] at done
  split at done
  · simp at done
  · obtain ⟨⟨_, left⟩, read, done⟩ := exists_of_bind_ok done
    obtain rfl := Except.ok.inj done
    exact (hexUnit_suffix read).trans (List.suffix_cons _ _)
  · split at done
    · obtain rfl := Except.ok.inj done
      exact List.suffix_cons _ _
    · simp at done

theorem skipStringFrom_suffix {bound input rest : List Char}
    (done : skipStringFrom bound input = .ok rest) : rest <:+ input := by
  induction bound generalizing input with
  | nil =>
      rw [skipStringFrom.eq_def] at done
      split at done <;> simp_all
  | cons next bound ih =>
      rw [skipStringFrom.eq_def] at done
      split at done
      · simp at done
      · obtain rfl := Except.ok.inj done
        exact List.suffix_cons _ _
      · simp_all
      · next same =>
          obtain ⟨rfl, rfl⟩ := List.cons.inj same
          obtain ⟨left, escape, done⟩ := exists_of_bind_ok done
          exact ((ih done).trans (skipEscape_suffix escape)).trans (List.suffix_cons _ _)
      · next same =>
          obtain ⟨rfl, rfl⟩ := List.cons.inj same
          split at done
          · simp at done
          · exact (ih done).trans (List.suffix_cons _ _)

theorem wholeDigits_suffix {atEnd : Cause} {input digits rest : List Char}
    (done : wholeDigits atEnd input = .ok (digits, rest)) : rest <:+ input.tail := by
  rw [wholeDigits.eq_def] at done
  split at done
  · simp at done
  · split at done
    · simp at done
    · obtain ⟨_, rfl⟩ := Prod.mk.inj (Except.ok.inj done)
      exact List.suffix_rfl
  · split at done
    · obtain ⟨_, rfl⟩ := Prod.mk.inj (Except.ok.inj done)
      exact List.dropWhile_suffix _
    · simp at done

theorem fractionDigits_suffix {atEnd : Cause} {input digits rest : List Char}
    (done : fractionDigits atEnd input = .ok (digits, rest)) : rest <:+ input := by
  simp only [fractionDigits] at done
  split at done
  · simp at done
  · obtain ⟨_, rfl⟩ := Prod.mk.inj (Except.ok.inj done)
    exact List.dropWhile_suffix _

theorem exponentDigits_suffix {atEnd : Cause} {negative : Bool} {input rest : List Char}
    {exponent : Exponent} (done : exponentDigits atEnd negative input = .ok (exponent, rest)) :
    rest <:+ input := by
  rw [exponentDigits.eq_def] at done
  split at done
  · simp at done
  · split at done
    · obtain ⟨_, rfl⟩ := Prod.mk.inj (Except.ok.inj done)
      exact (List.dropWhile_suffix _).trans (List.suffix_cons _ _)
    · simp at done

theorem optionalExponent_suffix {atEnd : Cause} {input rest : List Char}
    {exponent : Option Exponent} (done : optionalExponent atEnd input = .ok (exponent, rest)) :
    rest <:+ input := by
  rw [optionalExponent] at done
  split at done
  · obtain ⟨⟨_, left⟩, part, done⟩ := exists_of_bind_ok done
    obtain ⟨_, rfl⟩ := Prod.mk.inj (Except.ok.inj done)
    refine List.IsSuffix.trans ?_ (List.drop_suffix 1 input)
    rw [exponentPart.eq_def] at part
    split at part
    · next same => exact same ▸ (exponentDigits_suffix part).trans (List.suffix_cons _ _)
    · next same => exact same ▸ (exponentDigits_suffix part).trans (List.suffix_cons _ _)
    · exact exponentDigits_suffix part
  · obtain ⟨_, rfl⟩ := Prod.mk.inj (Except.ok.inj done)
    exact List.suffix_rfl

theorem skipNumber_suffix {input rest : List Char} (done : skipNumber input = .ok rest) :
    rest <:+ input.tail := by
  obtain ⟨⟨_, left⟩, read, done⟩ := exists_of_bind_ok done
  obtain rfl := Except.ok.inj done
  obtain ⟨⟨whole, afterWhole⟩, digits, read⟩ := exists_of_bind_ok read
  refine List.IsSuffix.trans ?_ (wholeDigits_suffix digits)
  simp only at read
  split at read
  · obtain ⟨⟨_, afterFraction⟩, fraction, read⟩ := exists_of_bind_ok read
    obtain ⟨⟨_, afterExponent⟩, exponent, read⟩ := exists_of_bind_ok read
    obtain ⟨_, rfl⟩ := Prod.mk.inj (Except.ok.inj read)
    exact ((optionalExponent_suffix exponent).trans (fractionDigits_suffix fraction)).trans
      (List.suffix_cons _ _)
  · obtain ⟨⟨_, afterExponent⟩, exponent, read⟩ := exists_of_bind_ok read
    obtain ⟨_, rfl⟩ := Prod.mk.inj (Except.ok.inj read)
    exact optionalExponent_suffix exponent

theorem skipToken_suffix {input rest : List Char} {bracket : Option Bracket}
    (done : skipToken input = .ok (bracket, rest)) : input ≠ [] ∧ rest <:+ input.tail := by
  rw [skipToken.eq_def] at done
  split at done
  case h_1 => simp at done
  case h_7 =>
    obtain ⟨_, rfl⟩ := Prod.mk.inj (Except.ok.inj done)
    exact ⟨by simp, List.suffix_rfl⟩
  case h_8 =>
    obtain ⟨_, rfl⟩ := Prod.mk.inj (Except.ok.inj done)
    exact ⟨by simp, List.suffix_rfl⟩
  case h_9 =>
    split at done
    · obtain ⟨left, number, done⟩ := exists_of_bind_ok done
      obtain ⟨_, rfl⟩ := Prod.mk.inj (Except.ok.inj done)
      exact ⟨by simp, skipNumber_suffix number⟩
    · simp at done
  -- The tokens that their first character tells, but for the brackets.
  all_goals
    obtain ⟨left, token, done⟩ := exists_of_bind_ok done
    obtain ⟨_, rfl⟩ := Prod.mk.inj (Except.ok.inj done)
    refine ⟨by simp, ?_⟩
    first
      | exact word_suffix token
      | exact skipStringFrom_suffix token
      | exact (skipNumber_suffix token).trans (List.tail_suffix _)

theorem skipColon_suffix {input rest : List Char} (done : skipColon input = .ok rest) :
    rest <:+ input := by
  refine List.IsSuffix.trans ?_ (skipSpace_suffix input)
  rw [skipColon] at done
  split at done
  · simp at done
  · next same =>
      obtain rfl := Except.ok.inj done
      rw [same]
      exact List.suffix_cons _ _
  · simp at done

theorem skipKey_suffix {input rest : List Char} (done : skipKey input = .ok rest) :
    rest <:+ input := by
  refine List.IsSuffix.trans ?_ (skipSpace_suffix input)
  rw [skipKey] at done
  split at done
  · simp at done
  · next same =>
      obtain ⟨left, string, done⟩ := exists_of_bind_ok done
      rw [same]
      exact ((skipColon_suffix done).trans (skipStringFrom_suffix string)).trans (List.suffix_cons _ _)
  · simp at done

theorem skipToValue_suffix {bracket : Bracket} {input rest : List Char}
    (done : skipToValue bracket input = .ok rest) : rest <:+ input := by
  cases bracket with
  | list =>
      obtain rfl := Except.ok.inj done
      exact List.suffix_rfl
  | object => exact skipKey_suffix done

/-! Steps. -/

/-- What a step does, to the text and to the brackets that are open. -/
inductive IsStep : Standing → List Bracket → List Char → Standing → List Bracket → List Char → Prop
  | token {opened : List Bracket} {input rest : List Char} {bracket : Option Bracket}
      (token : skipToken (skipSpace input) = .ok (bracket, rest)) :
      IsStep .beforeValue opened input (if bracket.isSome then .afterOpening else .afterValue)
        (bracket.toList ++ opened) rest
  | close {standing : Standing} {bracket : Bracket} {opened : List Bracket}
      {input rest : List Char} (inside : standing ≠ .beforeValue)
      (closing : skipSpace input = bracket.closing :: rest) :
      IsStep standing (bracket :: opened) input .afterValue opened rest
  | first {bracket : Bracket} {opened : List Bracket} {input rest : List Char} {first : Char}
      {tail : List Char} (start : skipSpace input = first :: tail)
      (goesOn : first ≠ bracket.closing) (leads : skipToValue bracket (first :: tail) = .ok rest) :
      IsStep .afterOpening (bracket :: opened) input .beforeValue (bracket :: opened) rest
  | next {bracket : Bracket} {opened : List Bracket} {input tail rest : List Char}
      (comma : skipSpace input = ',' :: tail) (leads : skipToValue bracket tail = .ok rest) :
      IsStep .afterValue (bracket :: opened) input .beforeValue (bracket :: opened) rest

theorem comma_ne_closing (bracket : Bracket) : ',' ≠ bracket.closing := by
  cases bracket <;> decide

theorem parts_of_ok {ε α β γ : Type} {first other : α} {second another : β} {third last : γ}
    (done : (Except.ok (first, second, third) : Except ε (α × β × γ)) = .ok (other, another, last)) :
    first = other ∧ second = another ∧ third = last := by
  simpa using done

section

variable {standing next : Standing} {opened left : List Bracket} {input rest : List Char}

theorem isStep_of_skipStep (goesOn : standing = .beforeValue ∨ opened ≠ [])
    (step : skipStep standing opened input = .ok (next, left, rest)) :
    IsStep standing opened input next left rest := by
  rw [skipStep.eq_def] at step
  split at step
  · obtain ⟨⟨bracket, tail⟩, token, step⟩ := exists_of_bind_ok step
    cases bracket with
    | none =>
        obtain ⟨rfl, rfl, rfl⟩ := parts_of_ok step
        exact .token token
    | some bracket =>
        obtain ⟨rfl, rfl, rfl⟩ := parts_of_ok step
        exact .token token
  · next other => simp_all
  · next other =>
      split at step
      · simp at step
      · next start =>
          split at step
          · next closing =>
              obtain ⟨rfl, rfl, rfl⟩ := parts_of_ok step
              exact .close other (closing ▸ start)
          · next another =>
              split at step
              · obtain ⟨_, leads, step⟩ := exists_of_bind_ok step
                obtain ⟨rfl, rfl, rfl⟩ := parts_of_ok step
                exact .first start another leads
              · next notOpening =>
                  split at step
                  · next comma =>
                      subst comma
                      obtain ⟨_, leads, step⟩ := exists_of_bind_ok step
                      obtain ⟨rfl, rfl, rfl⟩ := parts_of_ok step
                      cases standing with
                      | beforeValue => exact absurd rfl other
                      | afterOpening => exact absurd rfl notOpening
                      | afterValue => exact .next start leads
                  · simp at step

theorem IsStep.passes (step : IsStep standing opened input next left rest) :
    Passes 1 standing opened input next left rest := by
  cases step with
  | @token _ _ _ bracket token =>
      refine passes_step (.inl rfl) ?_
      cases bracket <;> simp [skipStep, token, bind, Except.bind]
  | close inside closing =>
      refine passes_step (.inr (by simp)) ?_
      cases standing <;> simp_all [skipStep]
  | first start goesOn leads =>
      refine passes_step (.inr (by simp)) ?_
      simp [skipStep, start, goesOn, leads, bind, Except.bind]
  | @next bracket _ _ _ _ comma leads =>
      refine passes_step (.inr (by simp)) ?_
      simp [skipStep, comma, comma_ne_closing bracket, leads, bind, Except.bind]

theorem IsStep.within (step : IsStep standing opened input next left rest) (outer : List Bracket) :
    IsStep standing (opened ++ outer) input next (left ++ outer) rest := by
  cases step with
  | token token =>
      rw [List.append_assoc]
      exact .token token
  | close inside closing => exact .close inside closing
  | first start goesOn leads => exact .first start goesOn leads
  | next comma leads => exact .next comma leads

/-- Right after an opening bracket a step may read nothing. -/
def Standing.credit : Standing → Nat
  | .afterOpening => 1
  | _ => 0

theorem IsStep.takes (step : IsStep standing opened input next left rest) :
    rest <:+ input ∧ 2 * rest.length + next.credit < 2 * input.length + standing.credit := by
  have spaced := skipSpace_suffix input
  have length := spaced.length_le
  cases step with
  | @token _ _ _ bracket token =>
      obtain ⟨nonempty, tail⟩ := skipToken_suffix token
      have shorter := tail.length_le
      have some := List.length_pos_iff.mpr nonempty
      rw [List.length_tail] at shorter
      refine ⟨(tail.trans (List.tail_suffix _)).trans spaced, ?_⟩
      cases bracket <;> simp [Standing.credit] <;> omega
  | close inside closing =>
      rw [closing] at spaced length
      rw [List.length_cons] at length
      exact ⟨(List.suffix_cons _ _).trans spaced, by simp only [Standing.credit]; omega⟩
  | first start goesOn leads =>
      have tail := skipToValue_suffix leads
      have shorter := tail.length_le
      rw [start] at spaced length
      exact ⟨tail.trans spaced, by simp only [Standing.credit]; omega⟩
  | next comma leads =>
      have tail := skipToValue_suffix leads
      have shorter := tail.length_le
      rw [comma] at spaced length
      rw [List.length_cons] at length
      exact ⟨(tail.trans (List.suffix_cons _ _)).trans spaced, by simp only [Standing.credit]; omega⟩

end

/-! Runs. -/

theorem skipFrom_succ {standing : Standing} {opened : List Bracket}
    (goesOn : standing = .beforeValue ∨ opened ≠ []) (fuel : Nat) (input : List Char) :
    skipFrom (fuel + 1) standing opened input =
      (do
        let (standing, opened, rest) ← skipStep standing opened input
        skipFrom fuel standing opened rest) := by
  rcases goesOn with rfl | nonempty
  · simp [skipFrom]
  · simp [skipFrom, nonempty]

theorem goesOn_or_ends (standing : Standing) (opened : List Bracket) :
    (standing = .beforeValue ∨ opened ≠ []) ∨ standing ≠ .beforeValue ∧ opened = [] := by
  cases standing <;> cases opened <;> simp

theorem skipFrom_ends {standing : Standing} (inside : standing ≠ .beforeValue) (fuel : Nat)
    (input : List Char) : skipFrom (fuel + 1) standing [] input = .ok input := by
  cases standing with
  | beforeValue => exact absurd rfl inside
  | afterValue => simp [skipFrom]
  | afterOpening => simp [skipFrom, skipStep, bind, Except.bind]

/-- The steps that are allowed are never used up. -/
theorem skipFrom_enough {fuel more : Nat} {standing : Standing} {input : List Char}
    (enough : 2 * input.length + standing.credit < fuel) (fewer : fuel ≤ more)
    (opened : List Bracket) :
    skipFrom more standing opened input = skipFrom fuel standing opened input := by
  induction fuel generalizing more standing opened input with
  | zero => omega
  | succ fuel ih =>
      obtain ⟨more, rfl⟩ : ∃ left, more = left + 1 := ⟨more - 1, by omega⟩
      rcases goesOn_or_ends standing opened with goesOn | ⟨inside, rfl⟩
      · rw [skipFrom_succ goesOn, skipFrom_succ goesOn]
        cases step : skipStep standing opened input with
        | error fault => rfl
        | ok result =>
            obtain ⟨next, left, rest⟩ := result
            have takes := (isStep_of_skipStep goesOn step).takes.2
            exact ih (by omega) (by omega) left
      · rw [skipFrom_ends inside, skipFrom_ends inside]

theorem passes_of_skipFrom {fuel : Nat} {standing : Standing} {opened : List Bracket}
    {input rest : List Char} (formed : standing = .afterOpening → opened ≠ [])
    (done : skipFrom fuel standing opened input = .ok rest) :
    rest <:+ input ∧ ∀ outer, ∃ steps,
      Passes steps standing (opened ++ outer) input .afterValue outer rest := by
  -- By induction on the steps taken, with the brackets that were opened since.
  induction fuel generalizing standing opened input with
  | zero =>
      rw [skipFrom.eq_def] at done
      split at done
      · obtain rfl := Except.ok.inj done
        exact ⟨List.suffix_rfl, fun outer => ⟨0, fun fuel => rfl⟩⟩
      · simp at done
      · simp_all
  | succ fuel ih =>
      rcases goesOn_or_ends standing opened with goesOn | ⟨inside, rfl⟩
      · rw [skipFrom_succ goesOn] at done
        obtain ⟨⟨next, left, between⟩, step, done⟩ := exists_of_bind_ok done
        have first := isStep_of_skipStep goesOn step
        have formedNext : next = .afterOpening → left ≠ [] := by
          rintro rfl
          generalize after : Standing.afterOpening = standingNext at first
          cases first with
          | @token _ _ _ bracket _ => cases bracket <;> simp at after ⊢
          | close => cases after
          | first => cases after
          | next => cases after
        obtain ⟨suffix, later⟩ := ih formedNext done
        refine ⟨suffix.trans first.takes.1, fun outer => ?_⟩
        obtain ⟨steps, passes⟩ := later outer
        exact ⟨1 + steps, (first.within outer).passes.trans passes⟩
      · cases standing with
        | beforeValue => exact absurd rfl inside
        | afterOpening => exact absurd rfl (formed rfl)
        | afterValue =>
            rw [skipFrom_ends inside] at done
            obtain rfl := Except.ok.inj done
            exact ⟨List.suffix_rfl, fun outer => ⟨0, fun fuel => rfl⟩⟩

theorem skipValue_suffix {input rest : List Char} (done : skipValue input = .ok rest) :
    rest <:+ input :=
  (passes_of_skipFrom (by simp) done).1

theorem passes_of_skipValue {input rest : List Char} (done : skipValue input = .ok rest)
    (opened : List Bracket) : ∃ steps, Passes steps .beforeValue opened input .afterValue opened rest :=
  (passes_of_skipFrom (by simp) done).2 opened

theorem skipValue_of_passes {input rest : List Char} {steps : Nat}
    (passes : Passes steps .beforeValue [] input .afterValue [] rest) : skipValue input = .ok rest := by
  have enough : 2 * input.length + Standing.beforeValue.credit < 2 * input.length + 2 := by
    simp [Standing.credit]
  rw [skipValue, ← skipFrom_enough enough (Nat.le_add_right _ steps), passes]
  simp [skipFrom]

end RouteForge.Json
