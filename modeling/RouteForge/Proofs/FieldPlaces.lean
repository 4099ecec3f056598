import RouteForge.Proofs.NestingLimit
import RouteForge.Proofs.PassedReadings

/-!
Where the fields of a record stand in its text: behind their keys, or at their positions in a list.
The way there passes over everything else, whatever it is.
-/

namespace RouteForge.Json

/-! The way to a part of a document. -/

def memberAt (key : String) : List Char → Bool → List Char → Except Fault (List Char × List Char)
  | bound, isFirst, input => do
      let (more, afterQuote) ← nextKey isFirst input
      if more then
        match bound with
        | [] => .error (.before .unfinishedObject afterQuote)
        | _ :: bound =>
            let (name, rest) ← string afterQuote
            let rest ← colon rest
            if name = key then
              .ok ('"' :: afterQuote, rest)
            else do
              let rest ← skipValue rest
              memberAt key bound false rest
      else
        .error (.before (.missingField key) afterQuote)

def itemAt : Nat → Bool → List Char → Except Fault (List Char)
  | index, isFirst, input => do
      let (more, rest) ← nextElement isFirst input
      if more then
        match index with
        | 0 => .ok rest
        | index + 1 =>
            let rest ← skipValue rest
            itemAt index false rest
      else
        .error (.before .unfinishedList rest)

structure Place where
  /-- The text from the key on, if the record is an object. -/
  keyed : Option (List Char)
  value : List Char

def fieldAt (key : String) (position : Nat) (input : List Char) : Except Fault Place := do
  match ← valueStart input with
  | '{' :: rest => do
      let (keyed, value) ← memberAt key rest true rest
      .ok ⟨some keyed, value⟩
  | '[' :: rest => do
      let value ← itemAt position true rest
      .ok ⟨none, value⟩
  | rest => .error (wrongType "a record" rest)

def elementAt (index : Nat) (input : List Char) : Except Fault (List Char) := do
  match ← valueStart input with
  | '[' :: rest => itemAt index true rest
  | rest => .error (wrongType "a sequence" rest)

/-! What stands before a part of a document. -/

/-- A mark stands before the place, with nothing but blanks between them. -/
def After (opening : Char) (text place : List Char) : Prop :=
  ∃ front mark blanks, (mark = opening ∨ mark = ',') ∧ Blank blanks ∧
    text = front ++ mark :: (blanks ++ place)

theorem After.suffix {opening : Char} {text place : List Char} (after : After opening text place) :
    place <:+ text := by
  obtain ⟨front, mark, blanks, _, _, rfl⟩ := after
  exact ⟨front ++ mark :: blanks, by simp⟩

theorem After.within {opening : Char} {text inner place : List Char} (after : After opening inner place)
    (suffix : inner <:+ text) : After opening text place := by
  obtain ⟨front, mark, blanks, isMark, blank, rfl⟩ := after
  obtain ⟨more, rfl⟩ := suffix
  exact ⟨more ++ front, mark, blanks, isMark, blank, by simp⟩

theorem exists_blank (input : List Char) : ∃ blanks, Blank blanks ∧ input = blanks ++ skipSpace input :=
  ⟨input.takeWhile isSpace, fun _ => List.mem_takeWhile_imp,
    List.takeWhile_append_dropWhile.symm⟩

theorem Blank.append {first second : List Char} (blank : Blank first) (more : Blank second) :
    Blank (first ++ second) :=
  List.forall_mem_append.mpr ⟨blank, more⟩

theorem After.skipSpace {opening : Char} {text place : List Char} (after : After opening text place) :
    After opening text (skipSpace place) := by
  obtain ⟨front, mark, blanks, isMark, blank, rfl⟩ := after
  obtain ⟨more, blankMore, split⟩ := exists_blank place
  refine ⟨front, mark, blanks ++ more, isMark, blank.append blankMore, ?_⟩
  rw [List.append_assoc, ← split]

theorem Lead.after {isFirst : Bool} {lead : List Char} (led : Lead isFirst lead) (opening : Char)
    (place : List Char) :
    After opening ((if isFirst then [opening] else []) ++ (lead ++ place)) place := by
  cases led with
  | first blank => exact ⟨[], opening, lead, .inl rfl, blank, rfl⟩
  | @next before after blankBefore blankAfter =>
      exact ⟨before, ',', after, .inr rfl, blankAfter, by simp⟩

theorem exists_lead_of_nextKey {isFirst : Bool} {input rest : List Char}
    (done : nextKey isFirst input = .ok (true, rest)) :
    ∃ lead, Lead isFirst lead ∧ input = lead ++ '"' :: rest := by
  obtain ⟨blanks, blank, split⟩ := exists_blank input
  rcases nextKey_cases done with ⟨rfl, found⟩ | ⟨rfl, tail, found, quote⟩
  · exact ⟨blanks, .first blank, found ▸ split⟩
  · obtain ⟨more, blankMore, splitMore⟩ := exists_blank tail
    rw [quote] at splitMore
    exact ⟨blanks ++ ',' :: more, .next blank blankMore, by simp [← splitMore, ← found, ← split]⟩

theorem exists_lead_of_nextElement {isFirst : Bool} {input rest : List Char}
    (done : nextElement isFirst input = .ok (true, rest)) :
    ∃ lead, Lead isFirst lead ∧ input = lead ++ rest := by
  obtain ⟨blanks, blank, split⟩ := exists_blank input
  rcases nextElement_cases done with ⟨rfl, found, _⟩ | ⟨rfl, tail, found, item⟩
  · exact ⟨blanks, .first blank, found ▸ split⟩
  · obtain ⟨more, blankMore, splitMore⟩ := exists_blank tail
    rw [item] at splitMore
    exact ⟨blanks ++ ',' :: more, .next blank blankMore, by simp [← splitMore, ← found, ← split]⟩

theorem string_suffix {input rest : List Char} {text : String}
    (done : string input = .ok (text, rest)) : rest <:+ input :=
  skipStringFrom_suffix (skipString_of_string done)

structure IsKey (text : List Char) (key : String) (keyed value : List Char) : Prop where
  after : After '{' text keyed
  reads : ∃ afterQuote afterKey, keyed = '"' :: afterQuote ∧
    string afterQuote = .ok (key, afterKey) ∧ colon afterKey = .ok value

theorem IsKey.suffix {text keyed value : List Char} {key : String} (isKey : IsKey text key keyed value) :
    value <:+ text := by
  obtain ⟨afterQuote, afterKey, rfl, read, between⟩ := isKey.reads
  exact (((skipColon_suffix between).trans (string_suffix read)).trans (List.suffix_cons _ _)).trans
    isKey.after.suffix

theorem memberAt_isKey {key : String} {bound : List Char} {isFirst : Bool}
    {input keyed value : List Char} (done : memberAt key bound isFirst input = .ok (keyed, value)) :
    IsKey ((if isFirst then ['{'] else []) ++ input) key keyed value := by
  induction bound generalizing isFirst input with
  | nil =>
      rw [memberAt.eq_1] at done
      obtain ⟨⟨more, left⟩, next, done⟩ := exists_of_bind_ok done
      cases more <;> simp at done
  | cons char bound ih =>
      rw [memberAt.eq_1] at done
      obtain ⟨⟨more, left⟩, next, done⟩ := exists_of_bind_ok done
      cases more with
      | false => simp at done
      | true =>
          obtain ⟨⟨name, afterKey⟩, read, done⟩ := exists_of_bind_ok done
          obtain ⟨afterColon, between, done⟩ := exists_of_bind_ok done
          obtain ⟨lead, led, split⟩ := exists_lead_of_nextKey next
          split at done
          · next same =>
              obtain ⟨rfl, rfl⟩ := Prod.mk.inj (Except.ok.inj done)
              exact ⟨split ▸ led.after '{' _, _, _, rfl, same ▸ read, between⟩
          · obtain ⟨afterValue, skipped, done⟩ := exists_of_bind_ok done
            have later := ih done
            have suffix : afterValue <:+ (if isFirst then ['{'] else []) ++ input := by
              refine ((((skipValue_suffix skipped).trans (skipColon_suffix between)).trans
                (string_suffix read)).trans (List.suffix_cons '"' _)).trans ?_
              rw [split]
              exact ((List.suffix_append _ _).trans (List.suffix_append _ _))
            exact ⟨later.after.within suffix, later.reads⟩

theorem itemAt_after {index : Nat} {isFirst : Bool} {input item : List Char}
    (done : itemAt index isFirst input = .ok item) :
    After '[' ((if isFirst then ['['] else []) ++ input) item := by
  induction index generalizing isFirst input with
  | zero =>
      obtain ⟨⟨more, left⟩, next, done⟩ := exists_of_bind_ok done
      cases more with
      | false => simp at done
      | true =>
          obtain ⟨lead, led, split⟩ := exists_lead_of_nextElement next
          obtain rfl := Except.ok.inj done
          exact split ▸ led.after '[' _
  | succ index ih =>
      obtain ⟨⟨more, left⟩, next, done⟩ := exists_of_bind_ok done
      cases more with
      | false => simp at done
      | true =>
          obtain ⟨afterValue, skipped, done⟩ := exists_of_bind_ok done
          obtain ⟨lead, led, split⟩ := exists_lead_of_nextElement next
          refine (ih done).within ?_
          rw [split]
          exact ((skipValue_suffix skipped).trans (List.suffix_append _ _)).trans
            (List.suffix_append _ _)

/-- A value that is a field stands behind its key, or it stands in a list. -/
inductive Place.IsOf (text : List Char) (key : String) : Place → Prop
  | keyed {keyed value : List Char} (isKey : IsKey text key keyed value) :
      IsOf text key ⟨some keyed, value⟩
  | listed {value : List Char} (after : After '[' text value) : IsOf text key ⟨none, value⟩

theorem Place.IsOf.within {text inner : List Char} {key : String} {place : Place}
    (isOf : place.IsOf inner key) (suffix : inner <:+ text) : place.IsOf text key := by
  cases isOf with
  | keyed isKey => exact .keyed ⟨isKey.after.within suffix, isKey.reads⟩
  | listed after => exact .listed (after.within suffix)

theorem Place.IsOf.suffix {text : List Char} {key : String} {place : Place}
    (isOf : place.IsOf text key) : place.value <:+ text := by
  cases isOf with
  | keyed isKey => exact isKey.suffix
  | listed after => exact after.suffix

theorem fieldAt_isOf {key : String} {position : Nat} {input : List Char} {place : Place}
    (done : fieldAt key position input = .ok place) : place.IsOf input key := by
  obtain ⟨found, begun, done⟩ := exists_of_bind_ok done
  have suffix : found <:+ input := skipSpace_of_valueStart begun ▸ skipSpace_suffix input
  split at done
  · obtain ⟨⟨keyed, value⟩, member, done⟩ := exists_of_bind_ok done
    obtain rfl := Except.ok.inj done
    exact (Place.IsOf.keyed (memberAt_isKey member)).within suffix
  · obtain ⟨value, item, done⟩ := exists_of_bind_ok done
    obtain rfl := Except.ok.inj done
    exact (Place.IsOf.listed (itemAt_after item)).within suffix
  · simp at done

theorem elementAt_suffix {index : Nat} {input item : List Char}
    (done : elementAt index input = .ok item) : item <:+ input := by
  obtain ⟨found, begun, done⟩ := exists_of_bind_ok done
  have suffix : found <:+ input := skipSpace_of_valueStart begun ▸ skipSpace_suffix input
  split at done
  · exact (itemAt_after done).suffix.trans suffix
  · simp at done

/-! The way that a reader takes. -/

/-- A field with a slot of its own in the drafts of a record. -/
structure HasSlot {δ α : Type} (fields : List (Field δ)) (position : Nat) (name : String)
    (mayEnd : Bool) (get : δ → Option α) (store : δ → α → δ) (read : Reader α) : Prop where
  here : fields[position]? = some (Field.of name mayEnd get store read)
  distinct : (fields.map Field.name).Nodup
  stored : ∀ draft content, get (store draft content) = some content
  others : ∀ field ∈ fields, field.name ≠ name → ∀ draft,
    Ensures (field.read draft) fun after => get after = get draft

section

variable {δ α : Type} {fields : List (Field δ)} {position : Nat} {name : String} {mayEnd : Bool}
  {get : δ → Option α} {store : δ → α → δ} {read : Reader α}
  (slot : HasSlot fields position name mayEnd get store read)
include slot

theorem HasSlot.eq {field : Field δ} (inside : field ∈ fields) (named : field.name = name) :
    field = Field.of name mayEnd get store read :=
  List.inj_on_of_nodup_map slot.distinct inside (List.mem_of_getElem? slot.here) named

theorem HasSlot.reads {draft after : δ} {input rest : List Char}
    (done : (Field.of name mayEnd get store read).read draft input = .ok (after, rest)) :
    ∃ content, read input = .ok (content, rest) ∧ get after = some content := by
  obtain ⟨⟨content, _⟩, first, done⟩ := exists_of_bind_ok done
  obtain ⟨rfl, rfl⟩ := Prod.mk.inj (Except.ok.inj done)
  exact ⟨content, first, slot.stored draft content⟩

theorem HasSlot.gather_keeps {bound : List Char} {isFirst : Bool} {draft final : δ} {content : α}
    (start : get draft = some content) {input rest : List Char}
    (done : gather fields bound isFirst draft input = .ok (.draft final, rest)) :
    get final = some content := by
  have keeps : ∀ field ∈ fields, ∀ draft, get draft = some content → field.isSet draft = false →
      Ensures (field.read draft) fun after => get after = some content := by
    intro field inside draft start unset input after rest done
    by_cases own : field.name = name
    · obtain rfl := slot.eq inside own
      simp [Field.of, start] at unset
    · exact (slot.others field inside own draft done).trans start
  exact Json.gather_keeps keeps bound isFirst start done

variable (alike : ∀ field ∈ fields, ∀ draft, StopsAlike (field.read draft))
include alike

theorem gather_memberAt {bound : List Char} {isFirst : Bool} {draft final : δ} {content : α}
    (unset : get draft = none) (set : get final = some content) {input rest : List Char}
    (done : gather fields bound isFirst draft input = .ok (.draft final, rest)) :
    ∃ keyed value left, memberAt name bound isFirst input = .ok (keyed, value) ∧
      read value = .ok (content, left) := by
  -- By induction on the members up to the field's; none after it changes the slot.
  induction bound generalizing isFirst draft input with
  | nil =>
      rw [gather.eq_1] at done
      obtain ⟨⟨more, left⟩, next, done⟩ := exists_of_bind_ok done
      cases more with
      | true => simp at done
      | false =>
          obtain rfl := Gathered.draft.inj (value_of_ok done)
          simp [unset] at set
  | cons char bound ih =>
      rw [gather.eq_1] at done
      obtain ⟨⟨more, afterQuote⟩, next, done⟩ := exists_of_bind_ok done
      cases more with
      | false =>
          obtain rfl := Gathered.draft.inj (value_of_ok done)
          simp [unset] at set
      | true =>
          obtain ⟨⟨key, afterKey⟩, readKey, done⟩ := exists_of_bind_ok done
          simp only at done
          have passed {afterColon afterValue : List Char} (other : key ≠ name)
              (between : colon afterKey = .ok afterColon)
              (skipped : skipValue afterColon = .ok afterValue) :
              memberAt name (char :: bound) isFirst input = memberAt name bound false afterValue := by
            rw [memberAt.eq_1, next]
            simp [bind, Except.bind, readKey, between, other, skipped]
          cases found : fields.find? (·.name = key) with
          | none =>
              rw [found] at done
              obtain ⟨afterColon, between, done⟩ := exists_of_bind_ok done
              obtain ⟨afterValue, skipped, done⟩ := exists_of_bind_ok done
              have other : key ≠ name := by
                rintro rfl
                have missing := List.find?_eq_none.mp found _ (List.mem_of_getElem? slot.here)
                simp [Field.of] at missing
              rw [passed other between skipped]
              exact ih unset done
          | some field =>
              rw [found] at done
              simp only at done
              have inside := List.mem_of_find?_eq_some found
              have named : field.name = key := by simpa using List.find?_some found
              split at done
              · simp at done
              · obtain ⟨afterColon, between, done⟩ := exists_of_bind_ok done
                obtain ⟨⟨after, afterValue⟩, first, done⟩ := exists_of_bind_ok done
                by_cases same : key = name
                · rw [slot.eq inside (named.trans same)] at first
                  obtain ⟨first, reads, isSet⟩ := slot.reads first
                  have kept := slot.gather_keeps isSet done
                  obtain rfl : first = content := Option.some.inj (kept.symm.trans set)
                  refine ⟨'"' :: afterQuote, afterColon, afterValue, ?_, reads⟩
                  rw [memberAt.eq_1, next]
                  simp [bind, Except.bind, readKey, between, same]
                · have skipped := (alike field inside draft).skipValue first
                  rw [passed same between skipped]
                  exact ih ((slot.others field inside (named ▸ same) draft first).trans unset) done

end

theorem HasSlot.tail {δ α : Type} {field : Field δ} {others : List (Field δ)} {position : Nat}
    {name : String} {mayEnd : Bool} {get : δ → Option α} {store : δ → α → δ} {read : Reader α}
    (slot : HasSlot (field :: others) (position + 1) name mayEnd get store read) :
    HasSlot others position name mayEnd get store read ∧ field.name ≠ name := by
  have here : others[position]? = some (Field.of name mayEnd get store read) := by
    simpa using slot.here
  obtain ⟨fresh, distinct⟩ := List.nodup_cons.mp slot.distinct
  refine ⟨⟨here, distinct, slot.stored, (List.forall_mem_cons.mp slot.others).2⟩, fun same => ?_⟩
  exact fresh (List.mem_map.mpr ⟨_, List.mem_of_getElem? here, same.symm⟩)

theorem gatherInOrder_itemAt {δ α : Type} {fields : List (Field δ)} {position : Nat} {name : String}
    {mayEnd : Bool} {get : δ → Option α} {store : δ → α → δ} {read : Reader α}
    (slot : HasSlot fields position name mayEnd get store read)
    (alike : ∀ field ∈ fields, ∀ draft, StopsAlike (field.read draft)) {lengthText : String}
    {index : Nat} {draft final : δ} {content : α} (unset : get draft = none)
    (set : get final = some content) {input rest : List Char}
    (done : gatherInOrder lengthText fields index draft input = .ok (final, rest)) :
    ∃ value left, itemAt position (index == 0) input = .ok value ∧
      read value = .ok (content, left) := by
  -- By induction on the fields up to this one; a list that ends before it leaves its slot unset.
  induction fields generalizing index draft input position with
  | nil =>
      have here := slot.here
      simp at here
  | cons field others ih =>
      rw [List.forall_mem_cons] at alike
      obtain ⟨⟨more, left⟩, next, done⟩ := exists_of_bind_ok done
      cases position with
      | zero =>
          obtain rfl : field = Field.of name mayEnd get store read := by simpa using slot.here
          have keeps (kept : Option α) : ∀ field ∈ others, ∀ draft, get draft = kept →
              Ensures (field.read draft) fun after => get after = kept := by
            intro field inside draft start input after rest done
            have fresh := (List.nodup_cons.mp slot.distinct).1
            have other : field.name ≠ name := fun same =>
              fresh (List.mem_map.mpr ⟨field, inside, same⟩)
            exact (slot.others field (List.mem_cons_of_mem _ inside) other draft done).trans start
          cases more with
          | true =>
              obtain ⟨⟨after, afterValue⟩, first, done⟩ := exists_of_bind_ok done
              obtain ⟨first, reads, isSet⟩ := slot.reads first
              have kept := gatherInOrder_keeps (keeps _) _ _ isSet done
              obtain rfl : first = content := Option.some.inj (kept.symm.trans set)
              refine ⟨left, afterValue, ?_, reads⟩
              rw [itemAt.eq_1, next]
              rfl
          | false =>
              simp only [Bool.false_eq_true, ↓reduceIte] at done
              split at done
              · have kept := gatherInOrder_keeps (keeps _) _ _ unset done
                simp [set] at kept
              · simp at done
      | succ position =>
          obtain ⟨tail, other⟩ := slot.tail
          cases more with
          | true =>
              obtain ⟨⟨after, afterValue⟩, first, done⟩ := exists_of_bind_ok done
              have unsetAfter := (slot.others field (by simp) other draft first).trans unset
              obtain ⟨value, afterItem, way, reads⟩ := ih tail alike.2 unsetAfter done
              refine ⟨value, afterItem, ?_, reads⟩
              rw [itemAt.eq_1, next]
              simp only [bind, Except.bind, ↓reduceIte, (alike.1 draft).skipValue first]
              exact way
          | false =>
              simp only [Bool.false_eq_true, ↓reduceIte] at done
              split at done
              · obtain ⟨value, afterItem, way, reads⟩ := ih tail alike.2 unset done
                obtain ⟨sameEnd, afterEnd, ends⟩ := skipSpace_nextElement next
                rw [itemAt.eq_1] at way
                simp [nextElement, ← sameEnd, ends, bind, Except.bind] at way
              · simp at done

/-- A record's field is read from where it stands. -/
theorem record_fieldAt {δ α β : Type} {shape : Shape δ β} {position : Nat} {name : String}
    {mayEnd : Bool} {get : δ → Option α} {store : δ → α → δ} {read : Reader α}
    (slot : HasSlot shape.fields position name mayEnd get store read)
    (alike : ∀ field ∈ shape.fields, ∀ draft, StopsAlike (field.read draft))
    (unset : get shape.blank = none) {part : β → α}
    (finishes : ∀ draft result, shape.finish draft = .ok result → get draft = some (part result))
    {budget : Nat} {input rest : List Char} {result : β}
    (done : record budget shape input = .ok (result, rest)) :
    ∃ place left, fieldAt name position input = .ok place ∧
      read place.value = .ok (part result, left) := by
  obtain ⟨found, begun, done⟩ := exists_of_bind_ok done
  rw [fieldAt, begun]
  split at done
  · split at done
    · simp at done
    · obtain ⟨⟨draft, _⟩, gathered, done⟩ := exists_of_bind_ok done
      have set := finishes draft result (finish_of_ok done (by simp))
      obtain ⟨value, left, way, reads⟩ := gatherInOrder_itemAt slot alike unset set gathered
      rw [beq_self_eq_true] at way
      exact ⟨⟨none, value⟩, left, by simp [bind, Except.bind, way], reads⟩
  · split at done
    · simp at done
    · obtain ⟨⟨gathered, _⟩, took, done⟩ := exists_of_bind_ok done
      cases gathered with
      | repeated name => simp at done
      | draft draft =>
          have set := finishes draft result (finish_of_ok done (by simp))
          obtain ⟨keyed, value, left, way, reads⟩ := gather_memberAt slot alike unset set took
          exact ⟨⟨some keyed, value⟩, left, by simp [bind, Except.bind, way], reads⟩
  · simp at done

theorem elements_itemAt {α : Type} {read : Reader α} (alike : StopsAlike read)
    {bound : List Char} {isFirst : Bool} {input rest : List Char} {values : List α}
    (done : elements read bound isFirst input = .ok (values, rest)) {index : Nat} {value : α}
    (present : values[index]? = some value) :
    ∃ item left, itemAt index isFirst input = .ok item ∧ read item = .ok (value, left) := by
  induction bound generalizing isFirst input rest values index with
  | nil =>
      rw [elements.eq_1] at done
      obtain ⟨⟨more, left⟩, next, done⟩ := exists_of_bind_ok done
      cases more with
      | true => simp at done
      | false =>
          obtain rfl := value_of_ok done
          simp at present
  | cons char bound ih =>
      rw [elements.eq_1] at done
      obtain ⟨⟨more, left⟩, next, done⟩ := exists_of_bind_ok done
      cases more with
      | false =>
          obtain rfl := value_of_ok done
          simp at present
      | true =>
          obtain ⟨⟨first, afterFirst⟩, reads, done⟩ := exists_of_bind_ok done
          obtain ⟨⟨others, afterOthers⟩, later, done⟩ := exists_of_bind_ok done
          obtain rfl := value_of_ok done
          rw [itemAt.eq_1, next]
          cases index with
          | zero =>
              obtain rfl : first = value := by simpa using present
              exact ⟨left, afterFirst, rfl, reads⟩
          | succ index =>
              obtain ⟨item, afterItem, way, readsItem⟩ := ih later (by simpa using present)
              refine ⟨item, afterItem, ?_, readsItem⟩
              simp [bind, Except.bind, alike.skipValue reads, way]

theorem list_elementAt {α : Type} {read : Reader α} (alike : StopsAlike read) {budget : Nat}
    {input rest : List Char} {values : List α} (done : list budget read input = .ok (values, rest))
    {index : Nat} {value : α} (present : values[index]? = some value) :
    ∃ item left, elementAt index input = .ok item ∧ read item = .ok (value, left) := by
  obtain ⟨found, begun, done⟩ := exists_of_bind_ok done
  rw [elementAt, begun]
  split at done
  · split at done
    · simp at done
    · obtain ⟨⟨_, _⟩, all, done⟩ := exists_of_bind_ok done
      obtain ⟨_, _, done⟩ := exists_of_bind_ok done
      obtain rfl := value_of_ok done
      exact elements_itemAt alike all present
  · simp at done

end RouteForge.Json
