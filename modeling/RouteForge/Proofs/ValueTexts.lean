import RouteForge.Json.Reader
import RouteForge.Proofs.NumberText
import RouteForge.Proofs.StringText

/-!
The texts of a value: its tokens with any blanks between them, strings as they are printed and
numbers as they may be spelled.
-/

namespace RouteForge.Json

def Blank (gap : List Char) : Prop :=
  ∀ char ∈ gap, isSpace char = true

/-- What stands before an item of a list or a member of an object: blanks and, where another one
came before, a comma. -/
inductive Lead : Bool → List Char → Prop
  | first {gap : List Char} (blank : Blank gap) : Lead true gap
  | next {before after : List Char} (blankBefore : Blank before) (blankAfter : Blank after) :
      Lead false (before ++ ',' :: after)

mutual

inductive Written : Value → List Char → Prop
  | null : Written .null "null".toList
  | bool (flag : Bool) : Written (.bool flag) (boolText flag).toList
  | number {number : Number} {text : List Char} (spelled : number.IsSpelledBy text) :
      Written (.number number) text
  | string (text : String) : Written (.string text) (literalChars text.toList)
  | array {items : List Value} {text : List Char} (inside : WrittenItems true items text) :
      Written (.array items) ('[' :: text)
  | object {members : Members} {text : List Char} (inside : WrittenMembers true members text) :
      Written (.object members) ('{' :: text)

/-- The text of a list after its opening bracket, or after an item. -/
inductive WrittenItems : Bool → List Value → List Char → Prop
  | close {isFirst : Bool} {gap : List Char} (blank : Blank gap) :
      WrittenItems isFirst [] (gap ++ [']'])
  | item {isFirst : Bool} {lead own after : List Char} {item : Value} {rest : List Value}
      (led : Lead isFirst lead) (written : Written item own)
      (others : WrittenItems false rest after) :
      WrittenItems isFirst (item :: rest) (lead ++ (own ++ after))

inductive WrittenMembers : Bool → Members → List Char → Prop
  | close {isFirst : Bool} {gap : List Char} (blank : Blank gap) :
      WrittenMembers isFirst [] (gap ++ ['}'])
  | member {isFirst : Bool} {lead beforeColon afterColon own after : List Char} {key : String}
      {value : Value} {rest : Members} (led : Lead isFirst lead) (blankBefore : Blank beforeColon)
      (blankAfter : Blank afterColon) (written : Written value own)
      (others : WrittenMembers false rest after) :
      WrittenMembers isFirst ((key, value) :: rest)
        (lead ++ (literalChars key.toList ++ (beforeColon ++ ':' :: (afterColon ++ (own ++ after)))))

end

/-- The text is the value, with any blanks around it. -/
def IsDocument (value : Value) (text : String) : Prop :=
  ∃ before own after, Blank before ∧ Blank after ∧ Written value own ∧
    text.toList = before ++ (own ++ after)

/-! Where tokens start. -/

theorem Blank.nil : Blank [] := by
  simp [Blank]

theorem skipSpace_blank {gap rest : List Char} (blank : Blank gap) (stop : StopsAt isSpace rest) :
    skipSpace (gap ++ rest) = rest :=
  (takeWhile_append_of_stopsAt blank stop).2

theorem stopsAt_cons {stops : Char → Bool} {char : Char} {rest : List Char}
    (stopped : stops char = false) : StopsAt stops (char :: rest) := by
  intro next same
  obtain rfl : char = next := Option.some.inj same
  exact stopped

theorem skipSpace_start {gap : List Char} (blank : Blank gap) {char : Char} (rest : List Char)
    (notSpace : isSpace char = false) : skipSpace (gap ++ char :: rest) = char :: rest :=
  skipSpace_blank blank (stopsAt_cons notSpace)

theorem continuesNumber_of_isSpace {char : Char} (space : isSpace char = true) :
    continuesNumber char = false := by
  simp only [isSpace, Bool.or_eq_true, decide_eq_true_eq] at space
  rcases space with ((rfl | rfl) | rfl) | rfl <;> decide

theorem stopsAt_blank {gap rest : List Char} (blank : Blank gap)
    (stop : StopsAt continuesNumber rest) : StopsAt continuesNumber (gap ++ rest) := by
  refine StopsAt.append ?_ stop
  intro char next
  exact continuesNumber_of_isSpace (blank char (List.mem_of_mem_head? next))

def isValueStart (char : Char) : Bool :=
  char ∈ ['n', 't', 'f', '-', '"', '[', '{'] || char.isDigit

structure StartsValue (char : Char) : Prop where
  notSpace : isSpace char = false
  notListEnd : char ≠ ']'

theorem startsValue_of_isValueStart {char : Char} (start : isValueStart char = true) :
    StartsValue char := by
  have differs (other : Char) (not : isValueStart other = false) : char ≠ other := by
    rintro rfl
    simp [not] at start
  refine ⟨?_, differs ']' (by decide)⟩
  simp [isSpace, differs ' ' (by decide), differs '\n' (by decide), differs '\t' (by decide),
    differs '\r' (by decide)]

theorem Number.IsSpelledBy.start {number : Number} {text : List Char}
    (spelled : number.IsSpelledBy text) :
    ∃ first tail, text = first :: tail ∧ (first = '-' ∨ first.isDigit = true) := by
  cases spelled with
  | @intro numeral negative digits spelled _ =>
      cases negative with
      | true => exact ⟨'-', digits, rfl, Or.inl rfl⟩
      | false =>
          obtain ⟨first, tail, rfl, digit⟩ := spelled.start
          exact ⟨first, tail, rfl, Or.inr digit⟩

theorem Written.start {value : Value} {own : List Char} (written : Written value own) :
    ∃ first tail, own = first :: tail ∧ isValueStart first = true := by
  cases written with
  | null => exact ⟨_, _, rfl, by decide⟩
  | bool flag => cases flag <;> exact ⟨_, _, rfl, by decide⟩
  | number spelled =>
      obtain ⟨first, tail, rfl, start⟩ := spelled.start
      refine ⟨first, tail, rfl, ?_⟩
      rcases start with rfl | digit
      · decide
      · simp [isValueStart, digit]
  | string text => exact ⟨_, _, rfl, by decide⟩
  | array _ => exact ⟨_, _, rfl, by decide⟩
  | object _ => exact ⟨_, _, rfl, by decide⟩

theorem WrittenItems.stops {items : List Value} {text : List Char}
    (written : WrittenItems false items text) (rest : List Char) :
    StopsAt continuesNumber (text ++ rest) := by
  cases written with
  | close blank =>
      rw [List.append_assoc]
      exact stopsAt_blank blank (stopsAt_cons (by decide))
  | item led _ _ =>
      cases led with
      | next blankBefore _ =>
          rw [List.append_assoc, List.append_assoc]
          exact stopsAt_blank blankBefore (stopsAt_cons (by decide))

theorem WrittenMembers.stops {members : Members} {text : List Char}
    (written : WrittenMembers false members text) (rest : List Char) :
    StopsAt continuesNumber (text ++ rest) := by
  cases written with
  | close blank =>
      rw [List.append_assoc]
      exact stopsAt_blank blank (stopsAt_cons (by decide))
  | member led _ _ _ _ =>
      cases led with
      | next blankBefore _ =>
          rw [List.append_assoc, List.append_assoc]
          exact stopsAt_blank blankBefore (stopsAt_cons (by decide))

theorem WrittenItems.length_le {isFirst : Bool} {items : List Value} {text : List Char}
    (written : WrittenItems isFirst items text) (rest : List Char) :
    items.length ≤ (text ++ rest).length := by
  induction items generalizing isFirst text with
  | nil => simp
  | cons item others ih =>
      cases written with
      | item _ writtenItem writtenOthers =>
          obtain ⟨first, tail, rfl, _⟩ := writtenItem.start
          have later := ih writtenOthers
          simp only [List.length_cons, List.length_append] at later ⊢
          omega

theorem WrittenMembers.length_le {isFirst : Bool} {members : Members} {text : List Char}
    (written : WrittenMembers isFirst members text) (rest : List Char) :
    members.length ≤ (text ++ rest).length := by
  induction members generalizing isFirst text with
  | nil => simp
  | cons member others ih =>
      cases written with
      | member _ _ _ _ writtenOthers =>
          have later := ih writtenOthers
          simp only [List.length_cons, List.length_append] at later ⊢
          omega

/-! A value has a text where all its numbers have one. -/

inductive Value.EachNumber (holds : Number → Prop) : Value → Prop
  | null : EachNumber holds .null
  | bool (flag : Bool) : EachNumber holds (.bool flag)
  | number {number : Number} (here : holds number) : EachNumber holds (.number number)
  | string (text : String) : EachNumber holds (.string text)
  | array {items : List Value} (inside : ∀ item ∈ items, EachNumber holds item) :
      EachNumber holds (.array items)
  | object {members : Members} (inside : ∀ member ∈ members, EachNumber holds member.2) :
      EachNumber holds (.object members)

def Number.IsSpelled (number : Number) : Prop :=
  ∃ text, number.IsSpelledBy text

theorem exists_lead (isFirst : Bool) : ∃ lead, Lead isFirst lead := by
  cases isFirst with
  | true => exact ⟨[], .first Blank.nil⟩
  | false => exact ⟨_, .next Blank.nil Blank.nil⟩

theorem exists_writtenItems {items : List Value} (isFirst : Bool)
    (inside : ∀ item ∈ items, ∃ own, Written item own) :
    ∃ text, WrittenItems isFirst items text := by
  induction items generalizing isFirst with
  | nil => exact ⟨_, .close Blank.nil⟩
  | cons item rest ih =>
      rw [List.forall_mem_cons] at inside
      obtain ⟨own, written⟩ := inside.1
      obtain ⟨after, others⟩ := ih false inside.2
      obtain ⟨lead, led⟩ := exists_lead isFirst
      exact ⟨_, .item led written others⟩

theorem exists_writtenMembers {members : Members} (isFirst : Bool)
    (inside : ∀ member ∈ members, ∃ own, Written member.2 own) :
    ∃ text, WrittenMembers isFirst members text := by
  induction members generalizing isFirst with
  | nil => exact ⟨_, .close Blank.nil⟩
  | cons member rest ih =>
      rw [List.forall_mem_cons] at inside
      obtain ⟨own, written⟩ := inside.1
      obtain ⟨after, others⟩ := ih false inside.2
      obtain ⟨lead, led⟩ := exists_lead isFirst
      exact ⟨_, .member led Blank.nil Blank.nil written others⟩

theorem exists_written {value : Value} (numbers : value.EachNumber Number.IsSpelled) :
    ∃ own, Written value own := by
  induction numbers with
  | null => exact ⟨_, .null⟩
  | bool flag => exact ⟨_, .bool flag⟩
  | number here =>
      obtain ⟨text, spelled⟩ := here
      exact ⟨text, .number spelled⟩
  | string text => exact ⟨_, .string text⟩
  | array _ ih =>
      obtain ⟨text, inside⟩ := exists_writtenItems true ih
      exact ⟨_, .array inside⟩
  | object _ ih =>
      obtain ⟨text, inside⟩ := exists_writtenMembers true ih
      exact ⟨_, .object inside⟩

theorem Written.isDocument {value : Value} {own : List Char} (written : Written value own) :
    IsDocument value (String.ofList own) :=
  ⟨[], own, [], Blank.nil, Blank.nil, written, by simp⟩

/-! The compact text. -/

/-- The number is read back from its own text. -/
def Number.Survives (number : Number) : Prop :=
  number.IsSpelledBy number.text.toList

mutual

theorem written_compact : {value : Value} → value.EachNumber Number.Survives →
    Written value (compactChars value)
  | .null, _ => .null
  | .bool flag, _ => .bool flag
  | .number _, .number here => .number here
  | .string text, _ => .string text
  | .array [], _ => .array (.close Blank.nil)
  | .array (_ :: _), .array inside =>
      .array (writtenItems_compact (by simp) inside (.first Blank.nil))
  | .object [], _ => .object (.close Blank.nil)
  | .object (_ :: _), .object inside =>
      .object (writtenMembers_compact (by simp) inside (.first Blank.nil))

theorem writtenItems_compact {isFirst : Bool} {lead : List Char} :
    {items : List Value} → items ≠ [] → (∀ item ∈ items, item.EachNumber Number.Survives) →
      Lead isFirst lead → WrittenItems isFirst items (lead ++ (compactItems items ++ [']']))
  | [], nonempty, _, _ => absurd rfl nonempty
  | [_], _, inside, led =>
      .item led (written_compact (List.forall_mem_cons.mp inside).1) (.close Blank.nil)
  | _ :: _ :: _, _, inside, led => by
      rw [List.forall_mem_cons] at inside
      have later := writtenItems_compact (by simp) inside.2 (.next Blank.nil Blank.nil)
      simpa [compactItems] using WrittenItems.item led (written_compact inside.1) later

theorem writtenMembers_compact {isFirst : Bool} {lead : List Char} :
    {members : Members} → members ≠ [] →
      (∀ member ∈ members, member.2.EachNumber Number.Survives) → Lead isFirst lead →
        WrittenMembers isFirst members (lead ++ (compactMembers members ++ ['}']))
  | [], nonempty, _, _ => absurd rfl nonempty
  | [(_, _)], _, inside, led => by
      have written := written_compact (List.forall_mem_cons.mp inside).1
      simpa [compactMembers] using
        WrittenMembers.member led Blank.nil Blank.nil written (.close Blank.nil)
  | (_, _) :: _ :: _, _, inside, led => by
      rw [List.forall_mem_cons] at inside
      have later := writtenMembers_compact (by simp) inside.2 (.next Blank.nil Blank.nil)
      simpa [compactMembers] using
        WrittenMembers.member led Blank.nil Blank.nil (written_compact inside.1) later

end

theorem isDocument_compact {value : Value} (numbers : value.EachNumber Number.Survives) :
    IsDocument value value.compact :=
  (written_compact numbers).isDocument

end RouteForge.Json
