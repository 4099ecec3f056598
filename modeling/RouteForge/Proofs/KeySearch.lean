import Mathlib.Data.List.TakeWhile
import RouteForge.Manifest.Span
import RouteForge.Proofs.ValueSkipping

/-!
What the search for a key with a value finds: it comes to the places of the key from left to right,
and gives the first from which blanks, a colon and blanks lead to the value.
-/

namespace RouteForge

theorem Text.byteCount_pos {text : List Char} (nonempty : text ≠ []) : 0 < byteCount text := by
  cases text with
  | nil => exact absurd rfl nonempty
  | cons char rest =>
      have size := Char.utf8Size_pos char
      rw [byteCount]
      omega

theorem Text.suffix_eq_of_byteCount {text first second : List Char} (firstSuffix : first <:+ text)
    (secondSuffix : second <:+ text) (same : byteCount first = byteCount second) : first = second := by
  have eq_of_suffix {longer shorter : List Char} (suffix : shorter <:+ longer)
      (same : byteCount longer = byteCount shorter) : longer = shorter := by
    obtain ⟨front, rfl⟩ := suffix
    by_contra differs
    have some : front ≠ [] := fun none => differs (by rw [none, List.nil_append])
    have positive := byteCount_pos some
    rw [byteCount_append] at same
    omega
  rcases List.suffix_or_suffix_of_suffix firstSuffix secondSuffix with shorter | shorter
  · exact (eq_of_suffix shorter same.symm).symm
  · exact eq_of_suffix shorter same

namespace Span

def Gap (gap : List Char) : Prop :=
  ∀ char ∈ gap, Text.isBlank char = true

theorem trimStart_gap {gap : List Char} (blank : Gap gap) {char : Char} (rest : List Char)
    (visible : Text.isBlank char = false) : Text.trimStart (gap ++ char :: rest) = char :: rest := by
  refine (Json.takeWhile_append_of_stopsAt blank ?_).2
  intro first same
  obtain rfl := Option.some.inj same
  exact visible

theorem exists_gap (text : List Char) : ∃ gap, Gap gap ∧ text = gap ++ Text.trimStart text :=
  ⟨text.takeWhile Text.isBlank, fun _ => List.mem_takeWhile_imp,
    List.takeWhile_append_dropWhile.symm⟩

/-- From the key on blanks, a colon and blanks lead to a text that starts with the literal. -/
inductive IsPair (key literal : List Char) : List Char → List Char → Prop
  | intro {before after value : List Char} (gapBefore : Gap before) (gapAfter : Gap after)
      (spelled : literal <+: value) :
      IsPair key literal (key ++ (before ++ ':' :: (after ++ value))) value

theorem valueAfter?_eq_some_iff {key tail place value : List Char} (starts : key <+: place) :
    valueAfter? ('"' :: tail) (place.drop key.length) = some value ↔
      IsPair key ('"' :: tail) place value := by
  obtain ⟨rest, rfl⟩ := starts
  rw [List.drop_left]
  constructor
  · intro found
    simp only [valueAfter?] at found
    split at found
    · next afterColon colon =>
        split at found
        · next spelled =>
            obtain rfl := Option.some.inj found
            obtain ⟨before, gapBefore, split⟩ := exists_gap rest
            obtain ⟨after, gapAfter, splitAfter⟩ := exists_gap afterColon
            rw [colon] at split
            have pair := @IsPair.intro key _ _ _ _ gapBefore gapAfter
              (List.isPrefixOf_iff_prefix.mp spelled)
            rwa [← splitAfter, ← split] at pair
        · simp at found
    · simp at found
  · intro pair
    generalize whole : key ++ rest = place at pair
    cases pair with
    | @intro before after value gapBefore gapAfter spelled =>
        obtain rfl := List.append_cancel_left whole
        have isPrefix := List.isPrefixOf_iff_prefix.mpr spelled
        obtain ⟨more, rfl⟩ := spelled
        rw [List.cons_append] at isPrefix ⊢
        simp only [valueAfter?, trimStart_gap gapBefore _ (by decide : Text.isBlank ':' = false),
          trimStart_gap gapAfter _ (by decide : Text.isBlank '"' = false), isPrefix, if_true]

/-! The places of a key. -/

/-- What is left of the text from each place of the key on, where no place overlaps the one before
it. `skip` characters are passed over first. -/
def places (key : List Char) : Nat → List Char → List (List Char)
  | _, [] => []
  | skip + 1, _ :: rest => places key skip rest
  | 0, char :: rest =>
      if key.isPrefixOf (char :: rest) then (char :: rest) :: places key (key.length - 1) rest
      else places key 0 rest

theorem findPair_eq (key literal : List Char) (skip : Nat) (text : List Char) :
    findPair key literal skip text =
      (places key skip text).findSome? fun place => valueAfter? literal (place.drop key.length) := by
  fun_induction findPair key literal skip text with
  | case1 => simp [places]
  | case2 skip char rest ih => rw [places, ih]
  | case3 char rest starts value found => simp [places, starts, found]
  | case4 char rest starts missing ih => simp [places, starts, missing, ih]
  | case5 char rest other ih => simp [places, other, ih]

theorem mem_places {key place text : List Char} {skip : Nat} (present : place ∈ places key skip text) :
    key <+: place ∧ place <:+ text := by
  fun_induction places key skip text with
  | case1 => simp at present
  | case2 skip char rest ih => exact ⟨(ih present).1, (ih present).2.trans (List.suffix_cons _ _)⟩
  | case3 char rest starts ih =>
      rcases List.mem_cons.mp present with rfl | later
      · exact ⟨List.isPrefixOf_iff_prefix.mp starts, List.suffix_rfl⟩
      · exact ⟨(ih later).1, (ih later).2.trans (List.suffix_cons _ _)⟩
  | case4 char rest other ih => exact ⟨(ih present).1, (ih present).2.trans (List.suffix_cons _ _)⟩

theorem places_ordered (key : List Char) (skip : Nat) (text : List Char) :
    (places key skip text).Pairwise fun earlier later => later.length < earlier.length := by
  fun_induction places key skip text with
  | case1 => exact .nil
  | case2 skip char rest ih => exact ih
  | case3 char rest starts ih =>
      refine .cons (fun later present => ?_) ih
      have shorter := (mem_places present).2.length_le
      rw [List.length_cons]
      omega
  | case4 char rest other ih => exact ih

theorem mem_places_of_apart {key place text : List Char} {skip : Nat} (nonempty : key ≠ [])
    (starts : key <+: place) (suffix : place <:+ text)
    (apart : ∀ earlier, earlier <:+ text → key <+: earlier → place.length < earlier.length →
      place.length + key.length ≤ earlier.length)
    (later : place.length + skip ≤ text.length) : place ∈ places key skip text := by
  have some := List.length_pos_iff.mpr nonempty
  have long := starts.length_le
  have inside {char : Char} {rest : List Char} (suffix : place <:+ char :: rest)
      (differs : place ≠ char :: rest) : place <:+ rest := by
    exact (List.suffix_cons_iff.mp suffix).resolve_left differs
  fun_induction places key skip text with
  | case1 =>
      rw [List.suffix_nil.mp suffix, List.length_nil] at long
      omega
  | case2 skip char rest ih =>
      rw [List.length_cons] at later
      have differs : place ≠ char :: rest := by
        rintro rfl
        rw [List.length_cons] at later
        omega
      exact ih (inside suffix differs)
        (fun earlier below => apart earlier (below.trans (List.suffix_cons _ _))) (by omega)
  | case3 char rest first ih =>
      by_cases here : place = char :: rest
      · exact here ▸ List.mem_cons_self
      · have below := inside suffix here
        have shorter := below.length_le
        have room := apart (char :: rest) List.suffix_rfl (List.isPrefixOf_iff_prefix.mp first)
          (by rw [List.length_cons]; omega)
        rw [List.length_cons] at room
        exact List.mem_cons_of_mem _ (ih below
          (fun earlier below => apart earlier (below.trans (List.suffix_cons _ _))) (by omega))
  | case4 char rest other ih =>
      have differs : place ≠ char :: rest := by
        rintro rfl
        exact other (List.isPrefixOf_iff_prefix.mpr starts)
      have below := inside suffix differs
      exact ih below (fun earlier below => apart earlier (below.trans (List.suffix_cons _ _)))
        below.length_le

/-! The first pair. -/

def IsFirst (key literal text place value : List Char) : Prop :=
  place ∈ places key 0 text ∧ IsPair key literal place value ∧
    ∀ earlier ∈ places key 0 text, place.length < earlier.length →
      ∀ other, ¬IsPair key literal earlier other

theorem findPair_eq_some_iff (key tail text value : List Char) :
    findPair key ('"' :: tail) 0 text = some value ↔
      ∃ place, IsFirst key ('"' :: tail) text place value := by
  rw [findPair_eq, List.findSome?_eq_some_iff]
  constructor
  · rintro ⟨before, place, after, split, found, missing⟩
    have ordered := places_ordered key 0 text
    have here : place ∈ places key 0 text := by simp [split]
    refine ⟨place, here, (valueAfter?_eq_some_iff (mem_places here).1).mp found, ?_⟩
    intro earlier present longer other pair
    have notFound := (valueAfter?_eq_some_iff (mem_places present).1).mpr pair
    rw [split] at ordered present
    rw [List.mem_append, List.mem_cons] at present
    rcases present with first | rfl | later
    · rw [missing earlier first] at notFound
      simp at notFound
    · omega
    · have shorter := (List.pairwise_cons.mp (List.pairwise_append.mp ordered).2.1).1 earlier later
      omega
  · rintro ⟨place, here, pair, first⟩
    obtain ⟨before, after, split⟩ := List.append_of_mem here
    refine ⟨before, place, after, split, (valueAfter?_eq_some_iff (mem_places here).1).mpr pair, ?_⟩
    intro earlier present
    have ordered := places_ordered key 0 text
    have earlierHere : earlier ∈ places key 0 text := by simp [split, present]
    rw [split] at ordered
    have longer := (List.pairwise_append.mp ordered).2.2 earlier present place (by simp)
    by_contra found
    obtain ⟨other, found⟩ := Option.ne_none_iff_exists'.mp found
    exact first earlier earlierHere longer other
      ((valueAfter?_eq_some_iff (mem_places earlierHere).1).mp found)

/-! Spans. -/

def quotedKey (key : String) : List Char :=
  '"' :: key.toList ++ ['"']

/-- The span covers what stands between the quotation marks of the string. -/
def Covers (span : Span) (text string : List Char) : Prop :=
  ∃ before inside after, text = before ++ string ∧ string = '"' :: (inside ++ '"' :: after) ∧
    Json.skipString (inside ++ '"' :: after) = .ok after ∧
    span = ⟨Text.byteCount before + 1, Text.byteCount inside⟩

theorem Covers.offset {span : Span} {text string : List Char} (covers : span.Covers text string) :
    span.offset + Text.byteCount string = Text.byteCount text + 1 := by
  obtain ⟨before, _, _, rfl, _, _, rfl⟩ := covers
  simp only [Text.byteCount_append]
  omega

theorem Covers.eq {span other : Span} {text string : List Char} (covers : span.Covers text string)
    (others : other.Covers text string) : span = other := by
  have sameOffset := covers.offset.trans others.offset.symm
  obtain ⟨_, inside, after, _, rfl, ends, rfl⟩ := covers
  obtain ⟨_, insideOther, afterOther, _, same, endsOther, rfl⟩ := others
  rw [List.cons_inj_right] at same
  rw [← same, ends] at endsOther
  obtain rfl := Except.ok.inj endsOther
  obtain rfl := List.append_cancel_right same
  rw [Span.mk.injEq]
  exact ⟨by simpa using sameOffset, rfl⟩

theorem covers_of_literal {text shown : List Char} {value : String} (suffix : shown <:+ text)
    (spelled : Json.literalChars value.toList <+: shown) :
    Covers ⟨Text.byteCount text - Text.byteCount shown + 1,
      Text.byteCount (Json.literalChars value.toList) - 2⟩ text shown := by
  obtain ⟨before, rfl⟩ := suffix
  obtain ⟨after, rfl⟩ := spelled
  refine ⟨before, value.toList.flatMap Json.writtenChar, after, rfl, by simp [Json.literalChars],
    Json.skipString_written value after, ?_⟩
  have quote : '"'.utf8Size = 1 := by decide
  simp only [Json.literalChars, Text.byteCount_append, Text.byteCount, quote, Span.mk.injEq]
  omega

theorem IsPair.suffix {key literal place shown : List Char} (pair : IsPair key literal place shown) :
    shown <:+ place := by
  cases pair with
  | @intro before after _ _ _ _ => exact ⟨key ++ (before ++ ':' :: after), by simp⟩

theorem IsPair.spelled {key literal place shown : List Char}
    (pair : IsPair key literal place shown) : literal <+: shown := by
  cases pair with
  | intro _ _ spelled => exact spelled

theorem ofPair_eq_some_iff (text : List Char) (key value : String) (span : Span) :
    ofPair text key value = some span ↔
      ∃ place shown, IsFirst (quotedKey key) (Json.literalChars value.toList) text place shown ∧
        span.Covers text shown := by
  have covers {place shown : List Char}
      (first : IsFirst (quotedKey key) (Json.literalChars value.toList) text place shown) :=
    covers_of_literal (first.2.1.suffix.trans (mem_places first.1).2) first.2.1.spelled
  rw [ofPair, Option.map_eq_some_iff]
  constructor
  · rintro ⟨shown, found, rfl⟩
    obtain ⟨place, first⟩ := (findPair_eq_some_iff _ _ text shown).mp found
    exact ⟨place, shown, first, covers first⟩
  · rintro ⟨place, shown, first, shows⟩
    exact ⟨shown, (findPair_eq_some_iff _ _ text shown).mpr ⟨place, first⟩, (covers first).eq shows⟩

end Span

end RouteForge
