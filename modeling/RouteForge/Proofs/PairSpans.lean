import RouteForge.Proofs.KeySearch

/-!
The search for a key with a string, in bytes. The span that it gives stands between the quotation marks
of the value, behind the first of the places at which a scan from left to right finds the key with
that value. Whatever the text is, no step of the search leaves it or cuts a character.
-/

namespace RouteForge

namespace Text

def fromByte? : List Char → Nat → Option (List Char)
  | text, 0 => some text
  | [], _ + 1 => none
  | char :: rest, offset + 1 =>
      if char.utf8Size ≤ offset + 1 then fromByte? rest (offset + 1 - char.utf8Size) else none

def slice? (text : List Char) (start stop : Nat) : Option (List Char) := do
  let rest ← fromByte? text start
  let left ← fromByte? text stop
  if start ≤ stop then some (rest.take (rest.length - left.length)) else none

theorem eq_nil_of_byteCount {text : List Char} (none : byteCount text = 0) : text = [] := by
  by_contra nonempty
  have := byteCount_pos nonempty
  omega

theorem fromByte?_eq_some_iff (text rest : List Char) (offset : Nat) :
    fromByte? text offset = some rest ↔
      ∃ before, text = before ++ rest ∧ byteCount before = offset := by
  fun_induction fromByte? text offset with
  | case1 text =>
      constructor
      · intro same
        exact ⟨[], Option.some.inj same, rfl⟩
      · rintro ⟨before, rfl, none⟩
        rw [eq_nil_of_byteCount none, List.nil_append]
  | case2 offset =>
      constructor
      · simp
      · rintro ⟨before, empty, size⟩
        rw [(List.append_eq_nil_iff.mp empty.symm).1] at size
        simp [byteCount] at size
  | case3 char others offset fits ih =>
      rw [ih]
      constructor
      · rintro ⟨before, rfl, size⟩
        exact ⟨char :: before, rfl, by rw [byteCount, size, Nat.add_sub_cancel' fits]⟩
      · rintro ⟨before, split, size⟩
        cases before with
        | nil => simp [byteCount] at size
        | cons first before =>
            obtain ⟨rfl, rfl⟩ := List.cons.inj split
            rw [byteCount] at size
            have smaller : byteCount before = offset + 1 - char.utf8Size := by omega
            exact ⟨before, rfl, smaller⟩
  | case4 char others offset cut =>
      constructor
      · simp
      · rintro ⟨before, split, size⟩
        cases before with
        | nil => simp [byteCount] at size
        | cons first before =>
            obtain ⟨rfl, rfl⟩ := List.cons.inj split
            rw [byteCount] at size
            omega

theorem byteCount_le_of_suffix {text rest : List Char} (suffix : rest <:+ text) :
    byteCount rest ≤ byteCount text := by
  obtain ⟨before, rfl⟩ := suffix
  rw [byteCount_append]
  omega

theorem length_lt_iff_of_suffix {text first second : List Char} (firstSuffix : first <:+ text)
    (secondSuffix : second <:+ text) :
    first.length < second.length ↔ byteCount first < byteCount second := by
  rcases List.suffix_or_suffix_of_suffix firstSuffix secondSuffix with shorter | shorter
  · obtain ⟨front, rfl⟩ := shorter
    rw [byteCount_append, List.length_append]
    by_cases same : front = []
    · simp [same, byteCount]
    · have characters := List.length_pos_iff.mpr same
      have := byteCount_pos same
      omega
  · have := shorter.length_le
    have := byteCount_le_of_suffix shorter
    omega

theorem slice?_eq_some_iff (text part : List Char) (start stop : Nat) :
    slice? text start stop = some part ↔
      ∃ before after, text = before ++ (part ++ after) ∧ byteCount before = start ∧
        byteCount before + byteCount part = stop := by
  simp only [slice?, bind, Option.bind_eq_some_iff, fromByte?_eq_some_iff]
  constructor
  · rintro ⟨rest, ⟨before, split, atStart⟩, left, ⟨front, same, atStop⟩, taken⟩
    split at taken
    · next ordered =>
        have shorter : left <:+ rest := by
          refine (List.suffix_or_suffix_of_suffix ⟨front, same.symm⟩ ⟨before, split.symm⟩).elim id ?_
          intro longer
          have bytes := congrArg byteCount (split.symm.trans same)
          rw [byteCount_append, byteCount_append] at bytes
          have := byteCount_le_of_suffix longer
          rw [suffix_eq_of_byteCount longer List.suffix_rfl (by omega)]
        obtain ⟨middle, rfl⟩ := shorter
        obtain rfl : middle = part := by simpa using taken
        refine ⟨before, left, split, atStart, ?_⟩
        rw [split, ← List.append_assoc] at same
        rw [← atStop, ← List.append_cancel_right same, byteCount_append]
    · simp at taken
  · rintro ⟨before, after, rfl, atStart, atStop⟩
    refine ⟨part ++ after, ⟨before, rfl, atStart⟩, after,
      ⟨before ++ part, by simp, by rw [byteCount_append, atStop]⟩, ?_⟩
    have ordered : start ≤ stop := by omega
    simp [ordered]

end Text

namespace Span

open Text (byteCount fromByte? slice?)

/-! The scan. -/

/-- The bytes at which a scan comes to the key: the first place at which it stands, then the first behind
the end of that one, and so on. The text starts at the byte `start`. -/
inductive Scan (key : List Char) : Nat → List Char → List Nat → Prop
  | done {start : Nat} {text : List Char} (absent : ¬key <:+: text) : Scan key start text []
  | found {start : Nat} {front rest : List Char} {offsets : List Nat}
      (first : ¬key <:+: front ++ key.dropLast)
      (further : Scan key (start + byteCount (front ++ key)) rest offsets) :
      Scan key start (front ++ (key ++ rest)) ((start + byteCount front) :: offsets)

def placeOffset (text place : List Char) : Nat :=
  byteCount text - byteCount place

theorem placeOffset_lt_iff {text first second : List Char} (firstSuffix : first <:+ text)
    (secondSuffix : second <:+ text) :
    placeOffset text first < placeOffset text second ↔ second.length < first.length := by
  rw [Text.length_lt_iff_of_suffix secondSuffix firstSuffix, placeOffset, placeOffset]
  have := Text.byteCount_le_of_suffix firstSuffix
  have := Text.byteCount_le_of_suffix secondSuffix
  omega

theorem places_skip (key : List Char) (skip : Nat) (text : List Char) :
    places key skip text = places key 0 (text.drop skip) := by
  induction text generalizing skip with
  | nil => simp [places]
  | cons char rest ih =>
      cases skip with
      | zero => rfl
      | succ skip => exact ih skip

theorem places_cases {key : List Char} (nonempty : key ≠ []) (text : List Char) :
    ¬key <:+: text ∧ places key 0 text = [] ∨
      ∃ front rest, text = front ++ (key ++ rest) ∧ ¬key <:+: front ++ key.dropLast ∧
        places key 0 text = (key ++ rest) :: places key 0 rest := by
  induction text with
  | nil => exact .inl ⟨by simpa using nonempty, by simp [places]⟩
  | cons char text ih =>
      by_cases here : key <+: char :: text
      · obtain ⟨rest, same⟩ := here
        refine .inr ⟨[], rest, same.symm, ?_, ?_⟩
        · intro inside
          have fits := inside.length_le
          have some := List.length_pos_iff.mpr nonempty
          simp only [List.nil_append, List.length_dropLast] at fits
          omega
        · have behind : text.drop (key.length - 1) = rest := by
            obtain ⟨first, others, rfl⟩ := List.exists_cons_of_ne_nil nonempty
            obtain ⟨rfl, rfl⟩ := List.cons.inj same
            simp
          have starts := List.isPrefixOf_iff_prefix.mpr (⟨rest, same⟩ : key <+: char :: text)
          rw [places, if_pos starts, places_skip, behind, same]
      · have starts : ¬key.isPrefixOf (char :: text) = true :=
          fun starts => here (List.isPrefixOf_iff_prefix.mp starts)
        rw [places, if_neg starts]
        rcases ih with ⟨absent, none⟩ | ⟨front, rest, rfl, first, some⟩
        · exact .inl ⟨fun inside => (List.infix_cons_iff.mp inside).elim here absent, none⟩
        · refine .inr ⟨char :: front, rest, rfl, fun inside => ?_, some⟩
          rcases List.infix_cons_iff.mp inside with starting | later
          · refine here (starting.trans ?_)
            have shorter := (List.dropLast_prefix key).trans (List.prefix_append key rest)
            exact List.cons_prefix_cons.mpr ⟨rfl, (List.prefix_append_right_inj front).mpr shorter⟩
          · exact first later

theorem scan_places {key : List Char} (nonempty : key ≠ []) (start : Nat) (text : List Char) :
    Scan key start text ((places key 0 text).map fun place => start + placeOffset text place) := by
  induction size : text.length using Nat.strongRecOn generalizing text start with
  | _ total ih =>
      rcases places_cases nonempty text with ⟨absent, none⟩ | ⟨front, rest, rfl, first, some⟩
      · rw [none]
        exact .done absent
      · have positive := List.length_pos_iff.mpr nonempty
        have further := ih rest.length (by
          rw [← size, List.length_append, List.length_append]
          omega) (start + byteCount (front ++ key)) rest rfl
        have here : start + placeOffset (front ++ (key ++ rest)) (key ++ rest) =
            start + byteCount front := by
          rw [placeOffset, Text.byteCount_append front, Nat.add_sub_cancel_right]
        have later : ∀ place ∈ places key 0 rest,
            start + placeOffset (front ++ (key ++ rest)) place =
              start + byteCount (front ++ key) + placeOffset rest place := by
          intro place present
          have := Text.byteCount_le_of_suffix (mem_places present).2
          simp only [placeOffset, Text.byteCount_append]
          omega
        rw [some, List.map_cons, here, List.map_congr_left later]
        exact .found first further

/-! The search, step by step. -/

def minus? (first second : Nat) : Option Nat :=
  if second ≤ first then some (first - second) else none

/-- The search at the given places of the key. There is no result if a step leaves the text, cuts a
character, or takes away more than there is. -/
def seek? (text key literal : List Char) : List Nat → Option (Option Span)
  | [] => some none
  | offset :: offsets => do
      let rest ← fromByte? text (offset + byteCount key)
      match valueAfter? literal rest with
      | some value => do
          let start ← minus? (byteCount text) (byteCount value)
          let length ← minus? (byteCount literal) 2
          return some ⟨start + 1, length⟩
      | none => seek? text key literal offsets

theorem fromByte?_place {text key place : List Char} (suffix : place <:+ text)
    (starts : key <+: place) :
    fromByte? text (placeOffset text place + byteCount key) = some (place.drop key.length) := by
  obtain ⟨before, rfl⟩ := suffix
  obtain ⟨rest, rfl⟩ := starts
  rw [Text.fromByte?_eq_some_iff, List.drop_left]
  refine ⟨before ++ key, by simp, ?_⟩
  simp only [placeOffset, Text.byteCount_append]
  omega

theorem byteCount_literal (text : List Char) :
    byteCount (Json.literalChars text) = byteCount (text.flatMap Json.writtenChar) + 2 := by
  have quote : '"'.utf8Size = 1 := rfl
  rw [Json.literalChars, Text.byteCount_append, byteCount, byteCount, byteCount]
  omega

theorem seek?_places {text key : List Char} (value : List Char) {found : List (List Char)}
    (within : ∀ place ∈ found, key <+: place ∧ place <:+ text) :
    seek? text key (Json.literalChars value) (found.map fun place => placeOffset text place) =
      some ((found.findSome? fun place =>
        valueAfter? (Json.literalChars value) (place.drop key.length)).map fun rest =>
          ⟨byteCount text - byteCount rest + 1, byteCount (Json.literalChars value) - 2⟩) := by
  induction found with
  | nil => rfl
  | cons place found ih =>
      obtain ⟨⟨starts, suffix⟩, others⟩ := List.forall_mem_cons.mp within
      rw [List.map_cons, seek?, fromByte?_place suffix starts, List.findSome?_cons]
      simp only [bind, Option.bind_some]
      cases shown : valueAfter? (Json.literalChars value) (place.drop key.length) with
      | none => exact ih others
      | some rest =>
          have pair := (valueAfter?_eq_some_iff starts).mp shown
          have fits := Text.byteCount_le_of_suffix (pair.suffix.trans suffix)
          simp [minus?, fits, byteCount_literal]

/-! What stands at a place. -/

/-- The span is what stands between the quotation marks of the value that the key at the place has, in
bytes of the text. -/
structure PairAt (text : List Char) (key value : String) (offset : Nat) (span : Span) : Prop where
  positive : 1 ≤ span.offset
  inside : span.offset + span.length < byteCount text
  starts : (fromByte? text span.offset).isSome
  ends : (fromByte? text (span.offset + span.length)).isSome
  literal : slice? text (span.offset - 1) (span.offset + span.length + 1) =
    some (Json.literalChars value.toList)
  led : ∃ before after, Gap before ∧ Gap after ∧
    slice? text offset (span.offset - 1) = some (quotedKey key ++ before ++ ':' :: after)

theorem isSome_fromByte? {text : List Char} {offset : Nat} (before after : List Char)
    (split : text = before ++ after) (size : byteCount before = offset) :
    (fromByte? text offset).isSome :=
  Option.isSome_iff_exists.mpr ⟨after, (Text.fromByte?_eq_some_iff _ _ _).mpr ⟨before, split, size⟩⟩

theorem pairAt_split {key value : String} {leading before after : List Char} (front rest : List Char)
    (gapBefore : Gap before) (gapAfter : Gap after)
    (lead : leading = quotedKey key ++ before ++ ':' :: after) :
    PairAt (front ++ (leading ++ (Json.literalChars value.toList ++ rest))) key value (byteCount front)
      ⟨byteCount front + byteCount leading + 1,
        byteCount (value.toList.flatMap Json.writtenChar)⟩ := by
  have literal : Json.literalChars value.toList =
      ['"'] ++ (value.toList.flatMap Json.writtenChar ++ ['"']) := by simp [Json.literalChars]
  have size := byteCount_literal value.toList
  have quote : byteCount ['"'] = 1 := rfl
  refine ⟨by simp, ?_, ?_, ?_, ?_, before, after, gapBefore, gapAfter, ?_⟩
  · simp only [Text.byteCount_append]
    omega
  · refine isSome_fromByte? (front ++ (leading ++ ['"']))
      (value.toList.flatMap Json.writtenChar ++ ['"'] ++ rest) ?_ ?_
    · simp [literal]
    · simp only [Text.byteCount_append]
      omega
  · refine isSome_fromByte?
      (front ++ (leading ++ (['"'] ++ value.toList.flatMap Json.writtenChar))) (['"'] ++ rest) ?_ ?_
    · simp [literal]
    · simp only [Text.byteCount_append]
      omega
  · refine (Text.slice?_eq_some_iff _ _ _ _).mpr ⟨front ++ leading, rest, by simp, ?_, ?_⟩
    · simp [Text.byteCount_append]
    · simp only [Text.byteCount_append]
      omega
  · refine (Text.slice?_eq_some_iff _ _ _ _).mpr ⟨front, _, by rw [← lead], rfl, ?_⟩
    rw [← lead]
    simp

section

variable {text place : List Char} (suffix : place <:+ text) (key value : String)
include suffix

theorem pairAt_of_isPair {span : Span} {shown : List Char}
    (pair : IsPair (quotedKey key) (Json.literalChars value.toList) place shown)
    (covers : span.Covers text shown) : PairAt text key value (placeOffset text place) span := by
  obtain rfl := covers.eq (covers_of_literal (pair.suffix.trans suffix) pair.spelled)
  obtain ⟨front, rfl⟩ := suffix
  cases pair with
  | @intro before after _ gapBefore gapAfter spelled =>
      obtain ⟨rest, rfl⟩ := spelled
      obtain ⟨leading, lead⟩ : ∃ leading, leading = quotedKey key ++ before ++ ':' :: after :=
        ⟨_, rfl⟩
      have whole : quotedKey key ++ (before ++ ':' :: (after ++
          (Json.literalChars value.toList ++ rest))) =
            leading ++ (Json.literalChars value.toList ++ rest) := by simp [lead]
      have atKey (shown : List Char) :
          placeOffset (front ++ (leading ++ shown)) (leading ++ shown) = byteCount front := by
        rw [placeOffset, Text.byteCount_append front, Nat.add_sub_cancel_right]
      have atValue (shown : List Char) : byteCount (front ++ (leading ++ shown)) - byteCount shown =
          byteCount front + byteCount leading := by
        simp only [Text.byteCount_append]
        omega
      rw [whole, atKey, atValue, byteCount_literal, Nat.add_sub_cancel]
      exact pairAt_split front rest gapBefore gapAfter lead

theorem isPair_of_pairAt {span : Span}
    (pairAt : PairAt text key value (placeOffset text place) span) :
    ∃ shown, IsPair (quotedKey key) (Json.literalChars value.toList) place shown ∧
      span.Covers text shown := by
  obtain ⟨positive, _, _, _, literal, before, after, gapBefore, gapAfter, led⟩ := pairAt
  obtain ⟨front, shown, split, atKey, atValue⟩ := (Text.slice?_eq_some_iff _ _ _ _).mp led
  obtain ⟨farther, rest, same, atLiteral, atEnd⟩ := (Text.slice?_eq_some_iff _ _ _ _).mp literal
  have shownSuffix : shown <:+ text :=
    ⟨front ++ (quotedKey key ++ before ++ ':' :: after), by rw [split]; simp⟩
  have fits := Text.byteCount_le_of_suffix suffix
  -- The bytes tell that both slices start where they should.
  have placeEq : quotedKey key ++ before ++ ':' :: after ++ shown = place := by
    refine Text.suffix_eq_of_byteCount ⟨front, split.symm⟩ suffix ?_
    have bytes := congrArg byteCount split
    rw [Text.byteCount_append, atKey, placeOffset] at bytes
    omega
  have shownEq : Json.literalChars value.toList ++ rest = shown := by
    refine Text.suffix_eq_of_byteCount ⟨farther, same.symm⟩ shownSuffix ?_
    have bytes := congrArg byteCount split
    have bytesOther := congrArg byteCount same
    rw [Text.byteCount_append, Text.byteCount_append _ shown] at bytes
    rw [Text.byteCount_append] at bytesOther
    omega
  refine ⟨shown, ?_, ?_⟩
  · rw [← placeEq]
    have pair := @IsPair.intro (quotedKey key) _ _ _ _ gapBefore gapAfter
      (⟨rest, shownEq⟩ : Json.literalChars value.toList <+: shown)
    simpa using pair
  · have covers := covers_of_literal shownSuffix
      (⟨rest, shownEq⟩ : Json.literalChars value.toList <+: shown)
    have bytes := congrArg byteCount same
    rw [Text.byteCount_append, shownEq] at bytes
    have size := byteCount_literal value.toList
    have spanEq : span = ⟨byteCount text - byteCount shown + 1,
        byteCount (Json.literalChars value.toList) - 2⟩ := by
      rw [Span.mk.injEq]
      omega
    exact spanEq ▸ covers

theorem no_pairAt_iff :
    (∀ span, ¬PairAt text key value (placeOffset text place) span) ↔
      ∀ shown, ¬IsPair (quotedKey key) (Json.literalChars value.toList) place shown := by
  constructor
  · intro absent shown pair
    have covers := covers_of_literal (pair.suffix.trans suffix) pair.spelled
    exact absent _ (pairAt_of_isPair suffix key value pair covers)
  · intro absent span pairAt
    obtain ⟨shown, pair, _⟩ := isPair_of_pairAt suffix key value pairAt
    exact absent shown pair

end

theorem ofPair_eq_none_iff (text : List Char) (key value : String) :
    ofPair text key value = none ↔ ∀ place ∈ places (quotedKey key) 0 text, ∀ shown,
      ¬IsPair (quotedKey key) (Json.literalChars value.toList) place shown := by
  rw [ofPair, Option.map_eq_none_iff]
  change findPair (quotedKey key) _ 0 text = none ↔ _
  rw [findPair_eq, List.findSome?_eq_none_iff]
  refine forall₂_congr fun place present => ?_
  rw [Option.eq_none_iff_forall_ne_some]
  exact forall_congr' fun shown => not_congr (valueAfter?_eq_some_iff (mem_places present).1)

/-- What the search gives are the bytes between the quotation marks of the first value of that text
that a scan for the key finds, and it gives none only if the scan finds none. -/
theorem ofPair_exact (text : List Char) (key value : String) :
    ∃ offsets, Scan (quotedKey key) 0 text offsets ∧
      seek? text (quotedKey key) (Json.literalChars value.toList) offsets =
        some (ofPair text key value) ∧
      (∀ span, ofPair text key value = some span ↔
        ∃ offset ∈ offsets, PairAt text key value offset span ∧
          ∀ earlier ∈ offsets, earlier < offset → ∀ other, ¬PairAt text key value earlier other) ∧
      (ofPair text key value = none ↔
        ∀ offset ∈ offsets, ∀ span, ¬PairAt text key value offset span) := by
  have suffix (place : List Char) (present : place ∈ places (quotedKey key) 0 text) :
      place <:+ text := (mem_places present).2
  have scan := scan_places (by simp [quotedKey] : quotedKey key ≠ []) 0 text
  simp only [Nat.zero_add] at scan
  refine ⟨_, scan, ?_, ?_, ?_⟩
  · rw [seek?_places value.toList fun place present => mem_places present, ← findPair_eq]
    rfl
  · intro span
    rw [ofPair_eq_some_iff]
    constructor
    · rintro ⟨place, shown, ⟨here, pair, first⟩, covers⟩
      refine ⟨_, List.mem_map_of_mem here,
        pairAt_of_isPair (suffix place here) key value pair covers, ?_⟩
      rw [List.forall_mem_map]
      intro earlier present before
      exact (no_pairAt_iff (suffix earlier present) key value).mpr (first earlier present
        ((placeOffset_lt_iff (suffix earlier present) (suffix place here)).mp before))
    · rintro ⟨offset, member, pairAt, first⟩
      obtain ⟨place, here, rfl⟩ := List.mem_map.mp member
      rw [List.forall_mem_map] at first
      obtain ⟨shown, pair, covers⟩ := isPair_of_pairAt (suffix place here) key value pairAt
      refine ⟨place, shown, ⟨here, pair, fun earlier present longer => ?_⟩, covers⟩
      exact (no_pairAt_iff (suffix earlier present) key value).mp (first earlier present
        ((placeOffset_lt_iff (suffix earlier present) (suffix place here)).mpr longer))
  · rw [ofPair_eq_none_iff, List.forall_mem_map]
    exact forall₂_congr fun place present => (no_pairAt_iff (suffix place present) key value).symm

theorem ofPair_exact_of_escaped_value :
    let text := "é\x7b\"k\":\"a\",\"k\" : \"a\\\"b\"\x7d".toList
    ofPair text "k" "a\"b" = some ⟨18, 4⟩ ∧
      (∃ offset, PairAt text "k" "a\"b" offset ⟨18, 4⟩) ∧
      Text.slice? text 17 23 = some (Json.literalChars "a\"b".toList) := by
  intro text
  have found : ofPair text "k" "a\"b" = some ⟨18, 4⟩ := by decide
  obtain ⟨_, _, _, spans, _⟩ := ofPair_exact text "k" "a\"b"
  obtain ⟨offset, _, pairAt, _⟩ := (spans ⟨18, 4⟩).mp found
  exact ⟨found, ⟨offset, pairAt⟩, pairAt.literal⟩

end Span

end RouteForge
