import RouteForge.Json.Record
import RouteForge.Proofs.ValueReading
import RouteForge.Proofs.ValueSkipping

/-!
A record reads back from an object in which each of its keys stands once at most, in any order and
among any other members. What was read so far is the draft with the fields whose keys came so far.
-/

namespace RouteForge.Json

theorem chosen_reads {α : Type} (budget : Nat) {choice : Choice α} {name : String} {result : α}
    (listed : choice.names.lookup name = some result) :
    ReadsAs (chosen budget choice) (.string name) result := by
  intro gap own rest blank written _
  cases written
  rw [chosen, literalChars, List.append_assoc, List.cons_append,
    valueStart_blank blank _ (by decide)]
  simp only [bind, Except.bind, List.singleton_append, string_written, Choice.read, listed]

/-! Members by their keys. -/

namespace Members

theorem get?_eq_none_iff {key : String} {members : Members} :
    get? key members = none ↔ key ∉ keys members := by
  induction members with
  | nil => simp [get?, keys]
  | cons member rest ih =>
      obtain ⟨name, value⟩ := member
      simp only [keys] at ih
      by_cases same : name = key
      · simp [get?, keys, same]
      · simp [get?, keys, same, Ne.symm same, ih]

theorem mem_keys_of_get? {key : String} {members : Members} {value : Value}
    (found : get? key members = some value) : key ∈ keys members := by
  by_contra missing
  simp [get?_eq_none_iff.mpr missing] at found

theorem get?_of_mem {key : String} {members : Members} {value : Value}
    (once : (keys members).count key ≤ 1) (member : (key, value) ∈ members) :
    get? key members = some value := by
  induction members with
  | nil => simp at member
  | cons first rest ih =>
      obtain ⟨name, other⟩ := first
      simp only [keys, List.map_cons, List.count_cons] at once ih
      by_cases same : name = key
      · subst same
        rw [List.mem_cons] at member
        rcases member with same | later
        · simp [get?, (Prod.mk.inj same).2]
        · have present : name ∈ rest.map Prod.fst := List.mem_map.mpr ⟨_, later, rfl⟩
          have counted := List.count_pos_iff.mpr present
          simp only [beq_self_eq_true, ↓reduceIte] at once
          omega
      · have later : (key, value) ∈ rest := by
          simpa [Ne.symm same] using member
        rw [get?, if_neg same]
        exact ih (by simp [same] at once; omega) later

end Members

/-- The content of a field that may be left out or be null. -/
inductive MaybeGiven {α : Type} (spells : α → Value → Prop) : Option α → Option Value → Prop
  | absent : MaybeGiven spells none none
  | null : MaybeGiven spells none (some .null)
  | given {content : α} {value : Value} (spelled : spells content value) :
      MaybeGiven spells (some content) (some value)

inductive DefaultGiven {α : Type} (default : α) (spells : α → Value → Prop) :
    α → Option Value → Prop
  | absent : DefaultGiven default spells default none
  | given {content : α} {value : Value} (spelled : spells content value) :
      DefaultGiven default spells content (some value)

section

variable {α : Type} {members : Members} {key : String}

def slot (keys : List String) (key : String) (content : α) : Option α :=
  if key ∈ keys then some content else none

@[simp] theorem isSome_slot (keys : List String) (key : String) (content : α) :
    (slot keys key content).isSome = decide (key ∈ keys) := by
  rw [slot]
  split <;> simp [*]

theorem slot_of_get? {value : Value} (found : members.get? key = some value) (content : α) :
    slot members.keys key content = some content :=
  if_pos (Members.mem_keys_of_get? found)

theorem slot_maybe {spells : α → Value → Prop} {content : Option α}
    (given : MaybeGiven spells content (members.get? key)) :
    (slot members.keys key content).getD none = content := by
  rw [slot]
  split
  · rfl
  · next missing =>
      rw [Members.get?_eq_none_iff.mpr missing] at given
      cases given
      rfl

theorem slot_default {default content : α} {spells : α → Value → Prop}
    (given : DefaultGiven default spells content (members.get? key)) :
    (slot members.keys key content).getD default = content := by
  rw [slot]
  split
  · rfl
  · next missing =>
      rw [Members.get?_eq_none_iff.mpr missing] at given
      cases given
      rfl

/-! What a field's content is read from, if its key stands in the object once at most. -/

section

variable {read : Reader α} (once : members.keys.count key ≤ 1) {value : Value}
  (member : (key, value) ∈ members)
include once member

theorem required_reads {given : Value} {content : α} (found : members.get? key = some given)
    (reads : ReadsAs read given content) : ReadsAs read value content := by
  rw [Members.get?_of_mem once member] at found
  rwa [Option.some.inj found]

theorem maybe_reads {spells : α → Value → Prop}
    (reads : ∀ content value, spells content value → ReadsAs read value content ∧ value ≠ .null)
    {content : Option α} (given : MaybeGiven spells content (members.get? key)) :
    ReadsAs (optional read) value content := by
  rw [Members.get?_of_mem once member] at given
  cases given with
  | null => exact optional_null read
  | given spelled => exact optional_reads (reads _ _ spelled).2 (reads _ _ spelled).1

theorem default_reads {default : α} {spells : α → Value → Prop}
    (reads : ∀ content value, spells content value → ReadsAs read value content)
    {content : α} (given : DefaultGiven default spells content (members.get? key)) :
    ReadsAs read value content := by
  rw [Members.get?_of_mem once member] at given
  cases given with
  | given spelled => exact reads _ _ spelled

end

theorem field_reads {δ : Type} {name : String} {mayEnd : Bool} {get : δ → Option α}
    {store : δ → α → δ} {read : Reader α} {value : Value} {content : α}
    (reads : ReadsAs read value content) {draft after : δ} (stored : store draft content = after) :
    ReadsAs ((Field.of name mayEnd get store read).read draft) value after := by
  intro gap own rest blank written stop
  simp only [Field.of, reads rest blank written stop, bind, Except.bind, stored]

end

/-! Records. -/

/-- The drafts of a record while it is read, for the keys that have come: each sets its field, and a
key that is not asked for sets none. -/
structure Fills {δ : Type} (fields : List (Field δ)) (filled : List String → δ) : Prop where
  isSet : ∀ field ∈ fields, ∀ keys, field.isSet (filled keys) = decide (field.name ∈ keys)
  unknown : ∀ keys key, (∀ field ∈ fields, field.name ≠ key) → filled (keys ++ [key]) = filled keys

theorem gather_written {δ : Type} {fields : List (Field δ)} {filled : List String → δ}
    (fills : Fills fields filled) {members : Members}
    (reads : ∀ field ∈ fields, ∀ value, (field.name, value) ∈ members → ∀ keys,
      ReadsAs (field.read (filled keys)) value (filled (keys ++ [field.name])))
    {keys : List String}
    (once : ∀ field ∈ fields, (keys ++ members.keys).count field.name ≤ 1)
    {isFirst : Bool} {text : List Char} (written : WrittenMembers isFirst members text)
    {bound : List Char} (enough : members.length ≤ bound.length) (rest : List Char) :
    gather fields bound isFirst (filled keys) (text ++ rest) =
      .ok (.draft (filled (keys ++ members.keys)), '}' :: rest) := by
  -- By induction on the members, with the keys of those before them.
  induction members generalizing keys isFirst text bound with
  | nil =>
      cases written with
      | close blank =>
          rw [gather.eq_1, List.append_assoc, List.singleton_append, nextKey_close blank]
          simp [bind, Except.bind, Members.keys]
  | cons member others ih =>
      obtain ⟨key, value⟩ := member
      obtain ⟨next, bound, rfl, fewer⟩ := exists_cons_of_enough enough
      have split : keys ++ Members.keys ((key, value) :: others) =
          keys ++ [key] ++ Members.keys others := by simp [Members.keys]
      cases written with
      | @member _ lead beforeColon afterColon own after _ _ _ led blankBefore blankAfter writtenValue
          writtenOthers =>
          have later := @ih (fun field inside value member =>
              reads field inside value (List.mem_cons_of_mem _ member)) (keys ++ [key])
            (split ▸ once) false after writtenOthers bound fewer
          rw [gather.eq_1]
          simp only [literalChars, List.append_assoc, List.cons_append, List.nil_append]
          rw [nextKey_lead led]
          simp only [bind, Except.bind, string_written]
          cases found : fields.find? (·.name = key) with
          | none =>
              have other : ∀ field ∈ fields, field.name ≠ key := by
                simpa using List.find?_eq_none.mp found
              have skipped := skipValue_written blankAfter writtenValue (writtenOthers.stops rest)
              rw [fills.unknown keys key other] at later
              simp only [colon_blank blankBefore, skipped, ↓reduceIte, later]
              rw [split]
          | some field =>
              have inside := List.mem_of_find?_eq_some found
              obtain rfl : field.name = key := by simpa using List.find?_some found
              have notYet : field.name ∉ keys := by
                have few := once field inside
                rw [split, List.count_append, List.count_append, List.count_singleton_self] at few
                exact List.count_eq_zero.mp (by omega)
              have read := reads field inside value (by simp) keys (after ++ rest) blankAfter
                writtenValue (writtenOthers.stops rest)
              simp only [fills.isSet field inside keys, notYet, decide_false, Bool.false_eq_true,
                ↓reduceIte, colon_blank blankBefore, read, later]
              rw [split]

theorem record_reads {δ α : Type} {shape : Shape δ α} {filled : List String → δ}
    (fills : Fills shape.fields filled) (blank : filled [] = shape.blank) {members : Members}
    (once : ∀ field ∈ shape.fields, members.keys.count field.name ≤ 1)
    (reads : ∀ field ∈ shape.fields, members.keys.count field.name ≤ 1 →
      ∀ value, (field.name, value) ∈ members → ∀ keys,
        ReadsAs (field.read (filled keys)) value (filled (keys ++ [field.name]))) {record : α}
    (finished : shape.finish (filled members.keys) = .ok record) (budget : Nat) :
    ReadsAs (Json.record (budget + 1) shape) (.object members) record := by
  intro gap own rest blankGap written _
  cases written with
  | @object _ text inside =>
      have gathered := @gather_written δ shape.fields filled fills members
        (fun field listed => reads field listed (once field listed)) [] once _ _ inside _
        (inside.length_le rest) rest
      rw [List.nil_append, blank] at gathered
      rw [Json.record, List.cons_append, valueStart_blank blankGap _ (by decide)]
      simp only [bind, Except.bind, recordFromObject, gathered, finished]
      rfl

end RouteForge.Json
