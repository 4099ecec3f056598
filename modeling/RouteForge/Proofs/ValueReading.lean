import RouteForge.Proofs.ValueTexts

/-!
A written value reads back, if no more brackets are open in it at a time than may be opened.
-/

namespace RouteForge.Json

/-- The reader gives this result for the value, whatever way it is written, and goes on after it. -/
def ReadsAs {α : Type} (read : Reader α) (value : Value) (result : α) : Prop :=
  ∀ ⦃gap own : List Char⦄ (rest : List Char), Blank gap → Written value own →
    StopsAt continuesNumber rest → read (gap ++ (own ++ rest)) = .ok (result, rest)

theorem valueStart_blank {gap : List Char} (blank : Blank gap) {first : Char} (tail : List Char)
    (start : isValueStart first = true) : valueStart (gap ++ first :: tail) = .ok (first :: tail) := by
  rw [valueStart, skipSpace_start blank tail (startsValue_of_isValueStart start).notSpace]

/-! Lists. -/

theorem nextElement_close {gap : List Char} (blank : Blank gap) (isFirst : Bool) (rest : List Char) :
    nextElement isFirst (gap ++ ']' :: rest) = .ok (false, ']' :: rest) := by
  rw [nextElement, skipSpace_start blank rest (by decide)]
  rfl

theorem nextElement_lead {isFirst : Bool} {lead : List Char} (led : Lead isFirst lead) {first : Char}
    (tail : List Char) (start : isValueStart first = true) :
    nextElement isFirst (lead ++ first :: tail) = .ok (true, first :: tail) := by
  have starts := startsValue_of_isValueStart start
  cases led with
  | first blank =>
      rw [nextElement, skipSpace_start blank tail starts.notSpace]
      simp [starts.notListEnd]
  | @next before after blankBefore blankAfter =>
      rw [List.append_assoc, List.cons_append, nextElement,
        skipSpace_start blankBefore _ (by decide)]
      simp [skipSpace_start blankAfter tail starts.notSpace, starts.notListEnd]

theorem elements_written {α : Type} {read : Reader α} {items : List Value} {values : List α}
    (reads : List.Forall₂ (ReadsAs read) items values) {isFirst : Bool} {text : List Char}
    (written : WrittenItems isFirst items text) {bound : List Char}
    (enough : items.length ≤ bound.length) (rest : List Char) :
    elements read bound isFirst (text ++ rest) = .ok (values, ']' :: rest) := by
  induction reads generalizing isFirst text bound with
  | nil =>
      cases written with
      | close blank =>
          rw [elements.eq_1, List.append_assoc, List.singleton_append, nextElement_close blank]
          rfl
  | cons readsItem readsRest ih =>
      obtain ⟨next, bound, rfl, fewer⟩ := exists_cons_of_enough enough
      cases written with
      | @item _ lead own after _ _ led writtenItem others =>
          obtain ⟨first, tail, rfl, start⟩ := writtenItem.start
          have item := readsItem (after ++ rest) Blank.nil writtenItem (others.stops rest)
          have later := ih others fewer
          rw [elements.eq_1, List.append_assoc, List.cons_append, List.cons_append,
            nextElement_lead led _ start]
          rw [List.nil_append, List.cons_append] at item
          simp [bind, Except.bind, item, later]

theorem listFrom_written {α : Type} {read : Reader α} {items : List Value} {values : List α}
    (reads : List.Forall₂ (ReadsAs read) items values) {text : List Char}
    (written : WrittenItems true items text) (rest : List Char) :
    listFrom read (text ++ rest) = .ok (values, rest) := by
  rw [listFrom, elements_written reads written (written.length_le rest)]
  rfl

theorem list_reads {α : Type} {budget : Nat} (some : 0 < budget) {read : Reader α}
    {items : List Value} {values : List α} (reads : List.Forall₂ (ReadsAs read) items values) :
    ReadsAs (list budget read) (.array items) values := by
  intro gap own rest blank written _
  cases written with
  | array inside =>
      rw [list, List.cons_append, valueStart_blank blank _ (by decide)]
      simp [bind, Except.bind, some.ne', listFrom_written reads inside rest]

/-! Objects. -/

theorem nextKey_close {gap : List Char} (blank : Blank gap) (isFirst : Bool) (rest : List Char) :
    nextKey isFirst (gap ++ '}' :: rest) = .ok (false, '}' :: rest) := by
  rw [nextKey, skipSpace_start blank rest (by decide)]
  rfl

theorem nextKey_lead {isFirst : Bool} {lead : List Char} (led : Lead isFirst lead)
    (tail : List Char) : nextKey isFirst (lead ++ '"' :: tail) = .ok (true, tail) := by
  cases led with
  | first blank =>
      rw [nextKey, skipSpace_start blank tail (by decide)]
      rfl
  | @next before after blankBefore blankAfter =>
      rw [List.append_assoc, List.cons_append, nextKey, skipSpace_start blankBefore _ (by decide)]
      simp [skipSpace_start blankAfter tail (by decide : isSpace '"' = false)]

theorem colon_blank {gap : List Char} (blank : Blank gap) (rest : List Char) :
    colon (gap ++ ':' :: rest) = .ok rest := by
  rw [colon, skipColon, skipSpace_start blank rest (by decide)]
  rfl

theorem Members.put_of_notMem {key : String} {members : Members} (missing : key ∉ keys members)
    (value : Value) : put key value members = members ++ [(key, value)] := by
  induction members with
  | nil => rfl
  | cons member rest ih =>
      obtain ⟨name, old⟩ := member
      simp only [keys, List.map_cons, List.mem_cons, not_or] at missing
      rw [put, if_neg (Ne.symm missing.1), ih missing.2]
      rfl

theorem members_written {read : Reader Value} {members : Members}
    (reads : ∀ member ∈ members, ReadsAs read member.2 member.2) {collected : Members}
    (distinct : (Members.keys (collected ++ members)).Nodup) {isFirst : Bool} {text : List Char}
    (written : WrittenMembers isFirst members text) {bound : List Char}
    (enough : members.length ≤ bound.length) (rest : List Char) :
    Json.members read bound isFirst collected (text ++ rest) =
      .ok (collected ++ members, '}' :: rest) := by
  induction members generalizing collected isFirst text bound with
  | nil =>
      cases written with
      | close blank =>
          rw [members.eq_1, List.append_assoc, List.singleton_append, nextKey_close blank]
          simp [bind, Except.bind]
  | cons member others ih =>
      obtain ⟨key, value⟩ := member
      obtain ⟨next, bound, rfl, fewer⟩ := exists_cons_of_enough enough
      cases written with
      | @member _ lead beforeColon afterColon own after _ _ _ led blankBefore blankAfter writtenValue
          writtenOthers =>
          rw [List.forall_mem_cons] at reads
          have missing : key ∉ Members.keys collected := by
            simp only [Members.keys, List.map_append, List.map_cons] at distinct ⊢
            exact fun present => (List.nodup_append.mp distinct).2.2 key present key (by simp) rfl
          have later := @ih reads.2 (collected ++ [(key, value)]) (by simpa using distinct) false after
            writtenOthers bound fewer
          have item := reads.1 (after ++ rest) blankAfter writtenValue (writtenOthers.stops rest)
          rw [members.eq_1]
          simp only [literalChars, List.append_assoc, List.cons_append, List.nil_append]
          rw [nextKey_lead led]
          simp only [bind, Except.bind, string_written, colon_blank blankBefore, item,
            Members.put_of_notMem missing, later]
          simp

theorem membersFrom_written {read : Reader Value} {members : Members}
    (reads : ∀ member ∈ members, ReadsAs read member.2 member.2)
    (distinct : (Members.keys members).Nodup) {text : List Char}
    (written : WrittenMembers true members text) (rest : List Char) :
    membersFrom read (text ++ rest) = .ok (members, rest) := by
  rw [membersFrom,
    @members_written read members reads [] distinct _ _ written _ (written.length_le rest)]
  rfl

/-! Values. -/

mutual

/-- How many brackets of a value are open at a time. -/
def Value.brackets : Value → Nat
  | .array items => itemsBrackets items + 1
  | .object members => membersBrackets members + 1
  | _ => 0

def itemsBrackets : List Value → Nat
  | [] => 0
  | item :: rest => max (Value.brackets item) (itemsBrackets rest)

def membersBrackets : Members → Nat
  | [] => 0
  | (_, value) :: rest => max (Value.brackets value) (membersBrackets rest)

end

theorem itemsBrackets_le {items : List Value} {budget : Nat} :
    itemsBrackets items ≤ budget ↔ ∀ item ∈ items, item.brackets ≤ budget := by
  induction items with
  | nil => simp [itemsBrackets]
  | cons item rest ih => simp [itemsBrackets, ih]

theorem membersBrackets_le {members : Members} {budget : Nat} :
    membersBrackets members ≤ budget ↔ ∀ member ∈ members, member.2.brackets ≤ budget := by
  induction members with
  | nil => simp [membersBrackets]
  | cons member rest ih => simp [membersBrackets, ih]

/-- Every object in the value has different keys. -/
inductive Value.KeysDistinct : Value → Prop
  | null : KeysDistinct .null
  | bool (flag : Bool) : KeysDistinct (.bool flag)
  | number (number : Number) : KeysDistinct (.number number)
  | string (text : String) : KeysDistinct (.string text)
  | array {items : List Value} (inside : ∀ item ∈ items, KeysDistinct item) :
      KeysDistinct (.array items)
  | object {members : Members} (distinct : members.keys.Nodup)
      (inside : ∀ member ∈ members, KeysDistinct member.2) : KeysDistinct (.object members)

/-! A value of one token is read whatever may be opened. -/

theorem valueWith_number (inner : Option (Reader Value)) (number : Number) :
    ReadsAs (valueWith inner) (.number number) (.number number) := by
  intro gap own rest blank written stop
  have spelled : number.IsSpelledBy own := by
    cases written with
    | number spelled => exact spelled
  cases spelled with
  | @intro numeral negative digits spelled value =>
      have read := number_spelled spelled value stop
      obtain ⟨first, tail, rfl, digit⟩ := spelled.start
      rw [valueWith]
      cases negative with
      | true =>
          rw [sign, if_pos rfl, List.append_assoc, List.singleton_append,
            valueStart_blank blank _ (by decide)]
          simp only [bind, Except.bind, read]
          rfl
      | false =>
          rw [sign, if_neg (by simp), List.nil_append, List.cons_append,
            valueStart_blank blank _ (by simp [isValueStart, digit])]
          simp only [bind, Except.bind]
          split <;> simp_all [pure, Except.pure]

theorem valueWith_token (inner : Option (Reader Value)) {value : Value}
    (notList : ∀ items, value ≠ .array items) (notObject : ∀ members, value ≠ .object members) :
    ReadsAs (valueWith inner) value value := by
  intro gap own rest blank written stop
  cases written with
  | null =>
      rw [valueWith, show "null".toList ++ rest = 'n' :: 'u' :: 'l' :: 'l' :: rest from rfl,
        valueStart_blank blank _ (by decide)]
      rfl
  | bool flag =>
      cases flag with
      | true =>
          rw [valueWith,
            show (boolText true).toList ++ rest = 't' :: 'r' :: 'u' :: 'e' :: rest from rfl,
            valueStart_blank blank _ (by decide)]
          rfl
      | false =>
          rw [valueWith,
            show (boolText false).toList ++ rest = 'f' :: 'a' :: 'l' :: 's' :: 'e' :: rest from rfl,
            valueStart_blank blank _ (by decide)]
          rfl
  | number spelled => exact valueWith_number inner _ rest blank (.number spelled) stop
  | string text =>
      rw [valueWith, literalChars, List.append_assoc, List.cons_append,
        valueStart_blank blank _ (by decide)]
      simp only [bind, Except.bind, List.singleton_append, string_written]
      rfl
  | array _ => exact absurd rfl (notList _)
  | object _ => exact absurd rfl (notObject _)

theorem valueWith_array {read : Reader Value} {items : List Value}
    (reads : ∀ item ∈ items, ReadsAs read item item) :
    ReadsAs (valueWith (some read)) (.array items) (.array items) := by
  intro gap own rest blank written _
  cases written with
  | array inside =>
      rw [valueWith, List.cons_append, valueStart_blank blank _ (by decide)]
      simp only [bind, Except.bind, listFrom_written (List.forall₂_same.mpr reads) inside]
      rfl

theorem valueWith_object {read : Reader Value} {members : Members}
    (reads : ∀ member ∈ members, ReadsAs read member.2 member.2)
    (distinct : members.keys.Nodup) :
    ReadsAs (valueWith (some read)) (.object members) (.object members) := by
  intro gap own rest blank written _
  cases written with
  | object inside =>
      rw [valueWith, List.cons_append, valueStart_blank blank _ (by decide)]
      simp only [bind, Except.bind, membersFrom_written reads distinct inside]
      rfl

theorem value_reads {budget : Nat} {value : Value} (fits : value.brackets ≤ budget)
    (distinct : value.KeysDistinct) : ReadsAs (Json.value budget) value value := by
  -- By induction on the brackets that may be opened: one fewer within each bracket.
  induction budget generalizing value with
  | zero =>
      refine valueWith_token none ?_ ?_
      · rintro items rfl
        simp [Value.brackets] at fits
      · rintro members rfl
        simp [Value.brackets] at fits
  | succ budget ih =>
      cases distinct with
      | array inside =>
          rw [Value.brackets, Nat.add_le_add_iff_right, itemsBrackets_le] at fits
          exact valueWith_array fun item member => ih (fits item member) (inside item member)
      | object distinctHere inside =>
          rw [Value.brackets, Nat.add_le_add_iff_right, membersBrackets_le] at fits
          exact valueWith_object (fun member isMember => ih (fits member isMember) (inside member isMember))
            distinctHere
      | null => exact valueWith_token _ (by simp) (by simp)
      | bool flag => exact valueWith_token _ (by simp) (by simp)
      | number number => exact valueWith_token _ (by simp) (by simp)
      | string text => exact valueWith_token _ (by simp) (by simp)

/-! Values of a kind that is wanted. -/

theorem text_reads (text : String) : ReadsAs Json.text (.string text) text := by
  intro gap own rest blank written _
  cases written
  rw [Json.text, literalChars, List.append_assoc, List.cons_append,
    valueStart_blank blank _ (by decide)]
  simp only [bind, Except.bind, List.singleton_append, string_written]

theorem boolean_reads (flag : Bool) : ReadsAs boolean (.bool flag) flag := by
  intro gap own rest blank written _
  cases written
  cases flag with
  | true =>
      rw [boolean, show (boolText true).toList ++ rest = 't' :: 'r' :: 'u' :: 'e' :: rest from rfl,
        valueStart_blank blank _ (by decide)]
      rfl
  | false =>
      rw [boolean,
        show (boolText false).toList ++ rest = 'f' :: 'a' :: 'l' :: 's' :: 'e' :: rest from rfl,
        valueStart_blank blank _ (by decide)]
      rfl

theorem object_reads {budget : Nat} {members : Members}
    (fits : (Value.object members).brackets ≤ budget)
    (distinct : (Value.object members).KeysDistinct) :
    ReadsAs (object budget) (.object members) members := by
  intro gap own rest blank written _
  obtain ⟨budget, rfl⟩ : ∃ fewer, budget = fewer + 1 :=
    Nat.exists_eq_add_one_of_ne_zero (by rw [Value.brackets] at fits; omega)
  rw [Value.brackets, Nat.add_le_add_iff_right, membersBrackets_le] at fits
  cases written with
  | object inside =>
      cases distinct with
      | object distinctHere distinctInside =>
          have read := membersFrom_written (fun member isMember =>
            value_reads (fits member isMember) (distinctInside member isMember)) distinctHere inside
          rw [object, List.cons_append, valueStart_blank blank _ (by decide)]
          simp only [bind, Except.bind, read]

theorem Written.eq_null {value : Value} {tail : List Char} (written : Written value ('n' :: tail)) :
    value = .null := by
  generalize same : 'n' :: tail = own at written
  cases written with
  | null => rfl
  | bool flag => cases flag <;> simp [boolText] at same
  | number spelled =>
      obtain ⟨first, rest, rfl, start⟩ := spelled.start
      obtain rfl := (List.cons.inj same).1
      exact absurd start (by decide)
  | string text => simp [literalChars] at same
  | array _ => simp at same
  | object _ => simp at same

theorem optional_null {α : Type} (read : Reader α) : ReadsAs (optional read) .null none := by
  intro gap own rest blank written _
  cases written
  rw [optional, show "null".toList ++ rest = 'n' :: 'u' :: 'l' :: 'l' :: rest from rfl,
    skipSpace_start blank _ (by decide)]
  rfl

theorem optional_reads {α : Type} {read : Reader α} {value : Value} {result : α}
    (present : value ≠ .null) (reads : ReadsAs read value result) :
    ReadsAs (optional read) value (some result) := by
  intro gap own rest blank written stop
  obtain ⟨first, tail, rfl, start⟩ := written.start
  have differs : first ≠ 'n' := by
    rintro rfl
    exact present written.eq_null
  rw [optional, List.cons_append,
    skipSpace_start blank _ (startsValue_of_isValueStart start).notSpace]
  rw [← List.cons_append, reads rest blank written stop]
  simp [bind, Except.bind, differs]

theorem readDocument_written {α : Type} {read : Reader α} {value : Value} {result : α}
    (reads : ReadsAs read value result) {text : String} (document : IsDocument value text) :
    readDocument read text = .ok result := by
  obtain ⟨before, own, after, blankBefore, blankAfter, written, whole⟩ := document
  have stop : StopsAt continuesNumber after := by
    simpa using @stopsAt_blank after [] blankAfter (by simp [StopsAt])
  have atEnd : skipSpace after = [] := by
    simpa using @skipSpace_blank after [] blankAfter (by simp [StopsAt])
  simp only [readDocument, whole, reads after blankBefore written stop, bind, Except.bind,
    documentEnd, atEnd]
  rfl

end RouteForge.Json
