import RouteForge.Text.Lines

/-!
Cutting a text into lines undoes joining them.
-/

namespace RouteForge.Text

theorem segments_line {line : List Char} (noFeed : '\n' ∉ line) (rest : List Char) :
    segments (line ++ '\n' :: rest) = (line ++ ['\n']) :: segments rest := by
  induction line with
  | nil => rfl
  | cons char line ih =>
      simp only [List.mem_cons, not_or] at noFeed
      rw [List.cons_append, segments.eq_def]
      split
      · simp at *
      · simp_all
      · next other tail _ same =>
          obtain ⟨rfl, rfl⟩ := List.cons.inj same
          rw [ih noFeed.2]
          rfl

theorem segments_last {line : List Char} (noFeed : '\n' ∉ line) (nonempty : line ≠ []) :
    segments line = [line] := by
  induction line with
  | nil => exact absurd rfl nonempty
  | cons char line ih =>
      simp only [List.mem_cons, not_or] at noFeed
      rw [segments.eq_def]
      split
      · simp at *
      · simp_all
      · next other tail _ same =>
          obtain ⟨rfl, rfl⟩ := List.cons.inj same
          by_cases last : line = []
          · simp [last, segments]
          · rw [ih noFeed.2 last]

theorem withoutEnding_line {line : List Char} (noReturn : '\r' ∉ line) :
    withoutEnding (line ++ ['\n']) = line := by
  have notReturn : line.getLast? ≠ some '\r' := fun same =>
    noReturn (List.mem_of_getLast? same)
  simp [withoutEnding, notReturn]

theorem withoutEnding_last {line : List Char} (noFeed : '\n' ∉ line) :
    withoutEnding line = line := by
  have notFeed : line.getLast? ≠ some '\n' := fun same => noFeed (List.mem_of_getLast? same)
  simp [withoutEnding, notFeed]

/-- Lines that hold no line end, the last of which is not empty, come back from the text in which
line feeds stand between them. -/
theorem lines_intercalate {texts : List String}
    (unbroken : ∀ text ∈ texts, '\n' ∉ text.toList ∧ '\r' ∉ text.toList)
    (last : texts.getLast? ≠ some "") : lines ("\n".intercalate texts) = texts := by
  induction texts with
  | nil => rfl
  | cons text rest ih =>
      obtain ⟨⟨noFeed, noReturn⟩, others⟩ := List.forall_mem_cons.mp unbroken
      cases rest with
      | nil =>
          have nonempty : text.toList ≠ [] := by simpa using last
          rw [String.intercalate_singleton, lines, segments_last noFeed nonempty, List.map_singleton,
            withoutEnding_last noFeed, String.ofList_toList]
      | cons next rest =>
          have following := ih others (by simpa using last)
          have cut : (text ++ "\n" ++ "\n".intercalate (next :: rest)).toList =
              text.toList ++ '\n' :: ("\n".intercalate (next :: rest)).toList := by simp
          rw [String.intercalate_cons_cons, lines, cut, segments_line noFeed, List.map_cons,
            withoutEnding_line noReturn, String.ofList_toList]
          exact congrArg (text :: ·) following

end RouteForge.Text
