import RouteForge.Proofs.FieldPlaces
import RouteForge.Proofs.KeySearch

/-!
Which pair the search for a key and a string finds, told from the structure of the document: it is
the one of a given field if that field is written as a printer would write it and no pair that
looks the same comes earlier.
-/

namespace RouteForge

open Json (Place After IsKey)
open RouteForge.Span (quotedKey places IsPair)

/-! Quotation marks. -/

namespace Json

theorem quote_notMem_hex {digits : List Char} (short : digits.length ≤ 4)
    (all : (digits.filterMap hexDigit?).length = 4) : '"' ∉ digits := by
  intro quote
  obtain ⟨before, after, rfl⟩ := List.append_of_mem quote
  have none : hexDigit? '"' = none := by decide
  have fewerBefore := List.length_filterMap_le hexDigit? before
  have fewerAfter := List.length_filterMap_le hexDigit? after
  simp only [List.filterMap_append, List.filterMap_cons, none, List.length_append,
    List.length_cons] at all short
  omega

theorem hexUnit_taken {input rest : List Char} {unit : Nat}
    (done : hexUnit input = .ok (unit, rest)) : ∃ taken, input = taken ++ rest ∧ '"' ∉ taken := by
  simp only [hexUnit] at done
  split at done
  · next all =>
      obtain ⟨_, rfl⟩ := Prod.mk.inj (Except.ok.inj done)
      refine ⟨input.take 4, (List.take_append_drop 4 input).symm, ?_⟩
      exact quote_notMem_hex (List.length_take_le _ _) all
  · split at done <;> simp at done

theorem escaped_taken {input rest : List Char} {char : Char}
    (done : escaped input = .ok (char, rest)) :
    ∃ taken, input = taken ++ rest ∧ ('"' ∈ taken → char = '"') := by
  rw [escaped.eq_def] at done
  split at done
  · simp at done
  · obtain ⟨⟨unit, afterUnit⟩, read, done⟩ := exists_of_bind_ok done
    obtain ⟨first, split, plain⟩ := hexUnit_taken read
    simp only at done
    split at done
    · simp at done
    · split at done
      · obtain ⟨afterSlash, slash, done⟩ := exists_of_bind_ok done
        obtain ⟨afterMark, mark, done⟩ := exists_of_bind_ok done
        obtain ⟨⟨second, afterSecond⟩, readSecond, done⟩ := exists_of_bind_ok done
        obtain ⟨more, splitMore, plainMore⟩ := hexUnit_taken readSecond
        simp only at done
        split at done
        · obtain ⟨_, rfl⟩ := Prod.mk.inj (Except.ok.inj done)
          refine ⟨'u' :: first ++ '\\' :: 'u' :: more, ?_, ?_⟩
          · rw [split, expectAfterUnit_ok slash, expectAfterUnit_ok mark, splitMore]
            simp
          · simp [plain, plainMore]
        · simp at done
      · obtain ⟨_, rfl⟩ := Prod.mk.inj (Except.ok.inj done)
        exact ⟨'u' :: first, by rw [split]; rfl, by simp [plain]⟩
  · next first tail _ =>
      split at done
      · next meant short =>
          obtain ⟨rfl, rfl⟩ := Prod.mk.inj (Except.ok.inj done)
          refine ⟨[first], rfl, fun quote => ?_⟩
          obtain rfl := List.mem_singleton.mp quote
          exact (Option.some.inj short).symm
      · simp at done

theorem stringFrom_token {bound read input rest : List Char} {text : String}
    (done : stringFrom bound read input = .ok (text, rest)) :
    ∃ token, input = token ++ '"' :: rest ∧ ('"' ∈ token → '"' ∈ text.toList) ∧
      ∀ char ∈ read, char ∈ text.toList := by
  have ends {read rest : List Char} (same : String.ofList read.reverse = text) :
      ∃ token, '"' :: rest = token ++ '"' :: rest ∧ ('"' ∈ token → '"' ∈ text.toList) ∧
        ∀ char ∈ read, char ∈ text.toList := by
    refine ⟨[], rfl, by simp, fun char present => ?_⟩
    rw [← same, String.toList_ofList]
    exact List.mem_reverse.mpr present
  induction bound generalizing read input with
  | nil =>
      rw [stringFrom.eq_def] at done
      split at done
      · simp at done
      · obtain ⟨same, rfl⟩ := Prod.mk.inj (Except.ok.inj done)
        exact ends same
      · simp at done
      · simp_all
      · simp_all
  | cons next bound ih =>
      rw [stringFrom.eq_def] at done
      split at done
      · simp at done
      · obtain ⟨same, rfl⟩ := Prod.mk.inj (Except.ok.inj done)
        exact ends same
      · simp_all
      · next same =>
          obtain ⟨rfl, rfl⟩ := List.cons.inj same
          obtain ⟨⟨char, afterChar⟩, escape, done⟩ := exists_of_bind_ok done
          obtain ⟨taken, split, quoted⟩ := escaped_taken escape
          obtain ⟨token, splitRest, held, before⟩ := ih done
          obtain ⟨first, before⟩ := List.forall_mem_cons.mp before
          refine ⟨'\\' :: taken ++ token, ?_, ?_, before⟩
          · rw [split, splitRest]
            simp
          · intro quote
            rw [List.cons_append, List.mem_cons, List.mem_append] at quote
            rcases quote with backslash | escape | later
            · simp at backslash
            · exact quoted escape ▸ first
            · exact held later
      · next char tail notQuote _ same =>
          obtain ⟨rfl, rfl⟩ := List.cons.inj same
          split at done
          · simp at done
          · obtain ⟨token, splitRest, held, before⟩ := ih done
            refine ⟨char :: token, by rw [splitRest]; rfl, ?_, (List.forall_mem_cons.mp before).2⟩
            intro quote
            rcases List.mem_cons.mp quote with here | later
            · exact absurd here.symm notQuote
            · exact held later

theorem string_token {input rest : List Char} {text : String}
    (done : string input = .ok (text, rest)) (plain : '"' ∉ text.toList) :
    ∃ token, input = token ++ '"' :: rest ∧ '"' ∉ token := by
  obtain ⟨token, split, held, _⟩ := stringFrom_token done
  exact ⟨token, split, fun quote => plain (held quote)⟩

theorem ne_quote {token : List Char} (plain : '"' ∉ token) :
    ∀ char ∈ token, (char != '"') = true :=
  fun _ present => bne_iff_ne.mpr (ne_of_mem_of_not_mem present plain)

theorem isBlank_of_isSpace {char : Char} (space : isSpace char = true) :
    Text.isBlank char = true := by
  simp only [isSpace, Bool.or_eq_true, decide_eq_true_eq] at space
  rcases space with ((rfl | rfl) | rfl) | rfl <;> decide

theorem Blank.gap {blanks : List Char} (blank : Blank blanks) : Span.Gap blanks :=
  fun char present => isBlank_of_isSpace (blank char present)

theorem split_at_mark {before : Char → Bool} {first second rest others : List Char}
    {mark other : Char} (all : ∀ char ∈ first, before char = true)
    (allSecond : ∀ char ∈ second, before char = true) (stop : before mark = false)
    (stopOther : before other = false) (same : first ++ mark :: rest = second ++ other :: others) :
    first = second ∧ mark = other ∧ rest = others := by
  have stops : StopsAt before (mark :: rest) := stopsAt_cons stop
  have stopsOther : StopsAt before (other :: others) := stopsAt_cons stopOther
  have taken := takeWhile_append_of_stopsAt all stops
  have takenSecond := takeWhile_append_of_stopsAt allSecond stopsOther
  rw [same] at taken
  have rests := taken.2.symm.trans takenSecond.2
  obtain ⟨rfl, rfl⟩ := List.cons.inj rests
  exact ⟨taken.1.symm.trans takenSecond.1, rfl, rfl⟩

theorem split_behind_mark {after : Char → Bool} {first second rest others : List Char}
    {mark other : Char} (all : ∀ char ∈ first, after char = true)
    (allSecond : ∀ char ∈ second, after char = true) (stop : after mark = false)
    (stopOther : after other = false) (same : rest ++ mark :: first = others ++ other :: second) :
    first = second ∧ mark = other ∧ rest = others := by
  have reversed := congrArg List.reverse same
  simp only [List.reverse_append, List.reverse_cons, List.append_assoc, List.singleton_append]
    at reversed
  obtain ⟨sameFirst, sameMark, sameRest⟩ := split_at_mark
    (fun char present => all char (List.mem_reverse.mp present))
    (fun char present => allSecond char (List.mem_reverse.mp present)) stop stopOther reversed
  exact ⟨List.reverse_injective sameFirst, sameMark, List.reverse_injective sameRest⟩

theorem colon_ok {input rest : List Char} (done : colon input = .ok rest) :
    ∃ blanks, Blank blanks ∧ input = blanks ++ ':' :: rest := by
  obtain ⟨blanks, blank, split⟩ := exists_blank input
  refine ⟨blanks, blank, ?_⟩
  rw [colon, skipColon] at done
  split at done
  · simp at done
  · next found =>
      obtain rfl := Except.ok.inj done
      rwa [found] at split
  · simp at done

theorem IsKey.spelled {text keyed value : List Char} {key : String}
    (isKey : IsKey text key keyed value) (plain : '"' ∉ key.toList) :
    ∃ token before after,
      keyed = '"' :: (token ++ '"' :: (before ++ ':' :: (after ++ skipSpace value))) ∧
        '"' ∉ token ∧ Blank before ∧ Blank after := by
  obtain ⟨afterQuote, afterKey, rfl, read, between⟩ := isKey.reads
  obtain ⟨token, rfl, plainToken⟩ := string_token read plain
  obtain ⟨before, blankBefore, rfl⟩ := colon_ok between
  obtain ⟨after, blankAfter, split⟩ := exists_blank value
  exact ⟨token, before, after, by rw [← split], plainToken, blankBefore, blankAfter⟩

end Json

/-! What is found, and what stands at a place. -/

/-- A key that the search can tell from what stands before it. -/
structure Searchable (key : String) : Prop where
  plain : '"' ∉ key.toList
  ends : ∀ last ∈ ('"' :: key.toList).getLast?,
    last ≠ '{' ∧ last ≠ ',' ∧ Json.isSpace last = false

theorem Searchable.eq_of_split {key : String} (searchable : Searchable key)
    {before rest : List Char} (nonempty : before ≠ [])
    (split : before ++ '"' :: rest = quotedKey key) : before = '"' :: key.toList := by
  obtain ⟨first, before, rfl⟩ := List.exists_cons_of_ne_nil nonempty
  obtain ⟨sameFirst, inside⟩ := List.cons.inj split
  rcases List.eq_nil_or_concat rest with rfl | ⟨rest, last, rfl⟩
  · rw [sameFirst, List.append_cancel_right inside]
  · have inside : (before ++ '"' :: rest) ++ [last] = key.toList ++ ['"'] := by simpa using inside
    have same := List.append_inj_left' inside rfl
    exact absurd (by simp [← same]) searchable.plain

section

variable {text keyed value : List Char} {key : String} (isKey : IsKey text key keyed value)
  (searchable : Searchable key)
include isKey searchable

theorem place_of_pair {literal place : List Char} (suffix : place <:+ text)
    (pair : IsPair (quotedKey key) literal place (Json.skipSpace value)) : place = keyed := by
  obtain ⟨token, blanks, more, spelling, plain, blank, blankMore⟩ := isKey.spelled searchable.plain
  obtain ⟨frontKey, sameKey⟩ := isKey.after.suffix
  obtain ⟨front, same⟩ := suffix
  rw [spelling] at sameKey ⊢
  generalize Json.skipSpace value = shown at pair sameKey
  cases pair with
  | @intro before after _ gapBefore gapAfter spelled =>
      -- From the value back to the key there is one way: to a colon, a quotation mark, another.
      have whole : (((frontKey ++ '"' :: token) ++ '"' :: blanks) ++ ':' :: more) ++ shown =
          (((front ++ '"' :: key.toList) ++ '"' :: before) ++ ':' :: after) ++ shown := by
        simpa [quotedKey] using sameKey.trans same.symm
      obtain ⟨rfl, _, whole⟩ := Json.split_behind_mark blankMore.gap gapAfter
        (by decide : Text.isBlank ':' = false) (by decide) (List.append_cancel_right whole)
      obtain ⟨rfl, _, whole⟩ := Json.split_behind_mark blank.gap gapBefore
        (by decide : Text.isBlank '"' = false) (by decide) whole
      obtain ⟨rfl, _, rfl⟩ := Json.split_behind_mark (Json.ne_quote plain)
        (Json.ne_quote searchable.plain) (by decide) (by decide) whole
      simp [quotedKey]

theorem pair_of_spelled {literal : List Char} (starts : quotedKey key <+: keyed)
    (spelled : literal <+: Json.skipSpace value) :
    IsPair (quotedKey key) literal keyed (Json.skipSpace value) := by
  obtain ⟨token, blanks, more, rfl, plain, blank, blankMore⟩ := isKey.spelled searchable.plain
  obtain ⟨others, same⟩ := starts
  have same : key.toList ++ '"' :: others =
      token ++ '"' :: (blanks ++ ':' :: (more ++ Json.skipSpace value)) := by
    simpa [quotedKey] using same
  obtain ⟨rfl, _, _⟩ := Json.split_at_mark (Json.ne_quote searchable.plain) (Json.ne_quote plain)
    (by decide) (by decide) same
  have pair := @IsPair.intro (quotedKey key) _ _ _ _ blank.gap blankMore.gap spelled
  simpa [quotedKey] using pair

theorem before_of_overlap {before : List Char} (nonempty : before ≠ [])
    (starts : quotedKey key <+: before ++ keyed) (overlap : before.length < (quotedKey key).length) :
    before = '"' :: key.toList := by
  obtain ⟨shared, split⟩ : before <+: quotedKey key :=
    List.prefix_of_prefix_length_le (List.prefix_append _ _) starts (Nat.le_of_lt overlap)
  obtain ⟨afterQuote, _, rfl, _, _⟩ := isKey.reads
  rw [← split, List.prefix_append_right_inj, List.prefix_cons_iff] at starts
  rcases starts with rfl | ⟨rest, rfl, _⟩
  · rw [List.append_nil] at split
    simp [split] at overlap
  · exact searchable.eq_of_split nonempty split

theorem keyed_mem_places (starts : quotedKey key <+: keyed) :
    keyed ∈ places (quotedKey key) 0 text := by
  have suffix := isKey.after.suffix
  refine Span.mem_places_of_apart (by simp [quotedKey]) starts suffix ?_ suffix.length_le
  intro earlier below startsEarlier longer
  by_contra overlap
  obtain ⟨before, rfl⟩ : keyed <:+ earlier := by
    refine (List.suffix_or_suffix_of_suffix suffix below).resolve_right fun shorter => ?_
    have := shorter.length_le
    omega
  rw [List.length_append] at longer overlap
  have whole := before_of_overlap isKey searchable (fun empty => by simp [empty] at longer)
    startsEarlier (by omega)
  -- So the last character of the key would stand where there is a mark or a blank.
  obtain ⟨front, sameFront⟩ := below
  obtain ⟨frontMark, mark, blanks, isMark, blank, sameMark⟩ := isKey.after
  have same : (front ++ '"' :: key.toList) ++ keyed = (frontMark ++ mark :: blanks) ++ keyed := by
    rw [whole] at sameFront
    simpa using sameFront.trans sameMark
  have lasts := congrArg List.getLast? (List.append_cancel_right same)
  rw [List.getLast?_append_cons, List.getLast?_append_cons] at lasts
  obtain ⟨last, isLast⟩ : ∃ last, ('"' :: key.toList).getLast? = some last :=
    ⟨_, List.getLast?_cons⟩
  obtain ⟨notOpening, notComma, notSpace⟩ := searchable.ends last isLast
  rcases List.mem_cons.mp (List.mem_of_getLast? (lasts ▸ isLast)) with rfl | inBlanks
  · exact isMark.elim notOpening notComma
  · simp [blank last inBlanks] at notSpace

end

theorem Json.After.not_pair {text value key literal place : List Char} (after : After '[' text value)
    (suffix : place <:+ text) : ¬IsPair key literal place (Json.skipSpace value) := by
  intro pair
  obtain ⟨frontMark, mark, blanks, isMark, blank, sameMark⟩ := after.skipSpace
  obtain ⟨front, same⟩ := suffix
  have visible : Text.isBlank mark = false := by rcases isMark with rfl | rfl <;> decide
  have notColon : mark ≠ ':' := by rcases isMark with rfl | rfl <;> decide
  generalize Json.skipSpace value = shown at pair sameMark
  cases pair with
  | @intro before after _ gapBefore gapAfter spelled =>
      have whole : (frontMark ++ mark :: blanks) ++ shown =
          ((front ++ key ++ before) ++ ':' :: after) ++ shown := by
        simpa using sameMark.symm.trans same.symm
      exact notColon (Json.split_behind_mark blank.gap gapAfter visible (by decide)
        (List.append_cancel_right whole)).2.1

/-- The search comes to the field first: its key and its value are written without needless
escapes, and no earlier place of the key has a value that starts the same. -/
inductive Json.Place.FoundFirst (text : List Char) (key value : String) : Place → Prop
  | intro {keyed shown : List Char} (starts : quotedKey key <+: keyed)
      (spelled : literalChars value.toList <+: skipSpace shown)
      (first : ∀ earlier ∈ places (quotedKey key) 0 text, keyed.length < earlier.length →
        ∀ other, ¬IsPair (quotedKey key) (literalChars value.toList) earlier other) :
      FoundFirst text key value ⟨some keyed, shown⟩

theorem Json.Place.foundFirst_iff {text : List Char} {key value : String} {place : Place}
    (isOf : place.IsOf text key) (searchable : Searchable key) :
    place.FoundFirst text key value ↔
      ∃ keyed, Span.IsFirst (quotedKey key) (literalChars value.toList) text keyed
        (skipSpace place.value) := by
  constructor
  · rintro ⟨starts, spelled, first⟩
    cases isOf with
    | keyed isKey =>
        exact ⟨_, keyed_mem_places isKey searchable starts,
          pair_of_spelled isKey searchable starts spelled, first⟩
  · rintro ⟨keyed, here, pair, first⟩
    have suffix := (Span.mem_places here).2
    cases isOf with
    | keyed isKey =>
        obtain rfl := place_of_pair isKey searchable suffix pair
        exact ⟨(Span.mem_places here).1, pair.spelled, first⟩
    | listed after => exact absurd pair (after.not_pair suffix)

theorem Json.Place.foundFirst_iff_findPair {text : List Char} {key value : String} {place : Place}
    (isOf : place.IsOf text key) (searchable : Searchable key) :
    place.FoundFirst text key value ↔
      Span.findPair (quotedKey key) (literalChars value.toList) 0 text =
        some (skipSpace place.value) :=
  (foundFirst_iff isOf searchable).trans (Span.findPair_eq_some_iff _ _ text _).symm

/-- The search marks a given field exactly if it comes to it first. -/
theorem Json.Place.covers_iff {text : List Char} {key value : String} {place : Place}
    (isOf : place.IsOf text key) (searchable : Searchable key) :
    (∃ span ∈ Span.ofPair text key value, span.Covers text (skipSpace place.value)) ↔
      place.FoundFirst text key value := by
  rw [foundFirst_iff isOf searchable]
  constructor
  · rintro ⟨span, found, here⟩
    obtain ⟨keyed, shown, first, covers⟩ := (Span.ofPair_eq_some_iff text key value span).mp found
    have suffix := first.2.1.suffix.trans (Span.mem_places first.1).2
    have same : shown = skipSpace place.value := by
      refine Text.suffix_eq_of_byteCount suffix ((skipSpace_suffix _).trans isOf.suffix) ?_
      have sameOffset := covers.offset.trans here.offset.symm
      omega
    exact ⟨keyed, same ▸ first⟩
  · rintro ⟨keyed, first⟩
    have suffix := first.2.1.suffix.trans (Span.mem_places first.1).2
    have covers := Span.covers_of_literal suffix first.2.1.spelled
    exact ⟨_, (Span.ofPair_eq_some_iff text key value _).mpr ⟨keyed, _, first, covers⟩, covers⟩

end RouteForge
