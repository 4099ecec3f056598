import RouteForge.Proofs.AcceptedManifests
import RouteForge.Proofs.ManifestReading

/-!
Nothing is read in which more brackets are open at a time than may be opened, and no number but one
that is the value of a numeral.
-/

namespace RouteForge

namespace Json

/-- Whatever the reader reads, this holds of it. -/
def Ensures {α : Type} (read : Reader α) (holds : α → Prop) : Prop :=
  ∀ ⦃input : List Char⦄ ⦃value : α⦄ ⦃rest : List Char⦄,
    read input = .ok (value, rest) → holds value

theorem Ensures.elements {α : Type} {read : Reader α} {holds : α → Prop}
    (ensures : Ensures read holds) (bound : List Char) (isFirst : Bool) :
    Ensures (elements read bound isFirst) fun values => ∀ value ∈ values, holds value := by
  induction bound generalizing isFirst with
  | nil =>
      intro input values rest done
      rw [Json.elements.eq_1] at done
      obtain ⟨⟨more, left⟩, _, done⟩ := exists_of_bind_ok done
      cases more with
      | true => simp at done
      | false =>
          obtain rfl := value_of_ok done
          simp
  | cons next bound ih =>
      intro input values rest done
      rw [Json.elements.eq_1] at done
      obtain ⟨⟨more, left⟩, _, done⟩ := exists_of_bind_ok done
      cases more with
      | true =>
          obtain ⟨⟨value, afterValue⟩, first, done⟩ := exists_of_bind_ok done
          obtain ⟨⟨others, afterOthers⟩, later, done⟩ := exists_of_bind_ok done
          obtain rfl := value_of_ok done
          rw [List.forall_mem_cons]
          exact ⟨ensures first, ih false later⟩
      | false =>
          obtain rfl := value_of_ok done
          simp

theorem Ensures.listFrom {α : Type} {read : Reader α} {holds : α → Prop}
    (ensures : Ensures read holds) :
    Ensures (listFrom read) fun values => ∀ value ∈ values, holds value := by
  intro input values rest done
  obtain ⟨⟨read, left⟩, all, done⟩ := exists_of_bind_ok done
  obtain ⟨_, _, done⟩ := exists_of_bind_ok done
  obtain rfl := value_of_ok done
  exact ensures.elements _ _ all

theorem Ensures.list {α : Type} {read : Reader α} {holds : α → Prop}
    (ensures : Ensures read holds) (budget : Nat) :
    Ensures (list budget read) fun values => 0 < budget ∧ ∀ value ∈ values, holds value := by
  intro input values rest done
  obtain ⟨start, _, done⟩ := exists_of_bind_ok done
  split at done
  · split at done
    · simp at done
    · next some => exact ⟨Nat.pos_of_ne_zero some, ensures.listFrom done⟩
  · simp at done

theorem Members.forall_put {holds : Value → Prop} {members : Members}
    (all : ∀ member ∈ members, holds member.2) (key : String) {value : Value} (new : holds value) :
    ∀ member ∈ put key value members, holds member.2 := by
  induction members with
  | nil => simpa [put] using new
  | cons first rest ih =>
      obtain ⟨name, old⟩ := first
      rw [List.forall_mem_cons] at all
      rw [put]
      split
      · exact List.forall_mem_cons.mpr ⟨new, all.2⟩
      · exact List.forall_mem_cons.mpr ⟨all.1, ih all.2⟩

theorem Ensures.members {read : Reader Value} {holds : Value → Prop} (ensures : Ensures read holds)
    (bound : List Char) (isFirst : Bool) {collected : Members}
    (sofar : ∀ member ∈ collected, holds member.2) :
    Ensures (Json.members read bound isFirst collected) fun members =>
      ∀ member ∈ members, holds member.2 := by
  induction bound generalizing isFirst collected with
  | nil =>
      intro input result rest done
      rw [members.eq_1] at done
      obtain ⟨⟨more, left⟩, _, done⟩ := exists_of_bind_ok done
      cases more with
      | true => simp at done
      | false =>
          obtain rfl := value_of_ok done
          exact sofar
  | cons next bound ih =>
      intro input result rest done
      rw [members.eq_1] at done
      obtain ⟨⟨more, left⟩, _, done⟩ := exists_of_bind_ok done
      cases more with
      | true =>
          obtain ⟨⟨key, afterKey⟩, _, done⟩ := exists_of_bind_ok done
          obtain ⟨afterColon, _, done⟩ := exists_of_bind_ok done
          obtain ⟨⟨value, afterValue⟩, first, done⟩ := exists_of_bind_ok done
          exact ih false (Members.forall_put sofar key (ensures first)) done
      | false =>
          obtain rfl := value_of_ok done
          exact sofar

theorem Ensures.membersFrom {read : Reader Value} {holds : Value → Prop}
    (ensures : Ensures read holds) :
    Ensures (membersFrom read) fun members => ∀ member ∈ members, holds member.2 := by
  intro input result rest done
  obtain ⟨⟨collected, left⟩, all, done⟩ := exists_of_bind_ok done
  obtain ⟨_, _, done⟩ := exists_of_bind_ok done
  obtain rfl := value_of_ok done
  exact ensures.members _ _ (by simp) all

/-! Numbers. -/

theorem isDigits_takeWhile {first : Char} {rest : List Char} (digit : first.isDigit = true) :
    IsDigits (first :: rest.takeWhile Char.isDigit) := by
  refine ⟨by simp, List.forall_mem_cons.mpr ⟨digit, ?_⟩⟩
  exact List.all_eq_true.mp List.all_takeWhile

theorem isDigits_of_wholeDigits {atEnd : Cause} {input whole rest : List Char}
    (done : wholeDigits atEnd input = .ok (whole, rest)) :
    IsDigits whole ∧ (whole = ['0'] ∨ whole.head? ≠ some '0') := by
  rw [wholeDigits.eq_def] at done
  split at done
  · simp at done
  · split at done
    · simp at done
    · obtain rfl := value_of_ok done
      exact ⟨⟨by simp, by simp⟩, Or.inl rfl⟩
  · next nonzero =>
      split at done
      · next digit =>
          obtain rfl := value_of_ok done
          exact ⟨isDigits_takeWhile digit, Or.inr fun zero => nonzero (Option.some.inj zero)⟩
      · simp at done

theorem isDigits_of_fractionDigits {atEnd : Cause} {input fraction rest : List Char}
    (done : fractionDigits atEnd input = .ok (fraction, rest)) : IsDigits fraction := by
  simp only [fractionDigits] at done
  split at done
  · simp at done
  · next some =>
      obtain rfl := value_of_ok done
      exact ⟨by simpa using some, List.all_eq_true.mp List.all_takeWhile⟩

theorem isDigits_of_exponentDigits {atEnd : Cause} {negative : Bool} {input rest : List Char}
    {exponent : Exponent} (done : exponentDigits atEnd negative input = .ok (exponent, rest)) :
    IsDigits exponent.digits := by
  rw [exponentDigits.eq_def] at done
  split at done
  · simp at done
  · split at done
    · next digit =>
        obtain rfl := value_of_ok done
        exact isDigits_takeWhile digit
    · simp at done

theorem isDigits_of_optionalExponent {atEnd : Cause} {input rest : List Char}
    {exponent : Option Exponent} (done : optionalExponent atEnd input = .ok (exponent, rest)) :
    ∀ given ∈ exponent, IsDigits given.digits := by
  rw [optionalExponent] at done
  split at done
  · obtain ⟨⟨read, left⟩, part, done⟩ := exists_of_bind_ok done
    obtain rfl := value_of_ok done
    rintro given ⟨⟩
    rw [exponentPart.eq_def] at part
    split at part <;> exact isDigits_of_exponentDigits part
  · obtain rfl := value_of_ok done
    simp

theorem wellFormed_of_numeral {atEnd : Cause} {input rest : List Char} {numeral : Numeral}
    (done : Json.numeral atEnd input = .ok (numeral, rest)) : numeral.WellFormed := by
  obtain ⟨⟨whole, afterWhole⟩, first, done⟩ := exists_of_bind_ok done
  obtain ⟨digits, start⟩ := isDigits_of_wholeDigits first
  simp only at done
  split at done
  · obtain ⟨⟨fraction, afterFraction⟩, second, done⟩ := exists_of_bind_ok done
    obtain ⟨⟨exponent, left⟩, third, done⟩ := exists_of_bind_ok done
    obtain rfl := value_of_ok done
    refine ⟨digits, start, ?_, isDigits_of_optionalExponent third⟩
    rintro given ⟨⟩
    exact isDigits_of_fractionDigits second
  · obtain ⟨⟨exponent, left⟩, third, done⟩ := exists_of_bind_ok done
    obtain rfl := value_of_ok done
    exact ⟨digits, start, by simp, isDigits_of_optionalExponent third⟩

theorem number_ensures (negative : Bool) : Ensures (Json.number negative) Number.IsSpelled := by
  intro input number rest done
  obtain ⟨⟨numeral, afterDigits⟩, digits, done⟩ := exists_of_bind_ok done
  simp only [Numeral.value] at done
  split at done
  · next found =>
      obtain rfl := value_of_ok done
      exact ⟨_, .intro (wellFormed_of_numeral digits).spelled found⟩
  · simp at done

/-! Values. -/

/-- What can be read while so many brackets may be opened. -/
structure Value.IsReadable (budget : Nat) (value : Value) : Prop where
  fits : value.brackets ≤ budget
  numbers : value.EachNumber Number.IsSpelled

theorem isReadable_array {budget : Nat} {items : List Value}
    (inside : ∀ item ∈ items, item.IsReadable budget) :
    (Value.array items).IsReadable (budget + 1) :=
  ⟨Nat.succ_le_succ (itemsBrackets_le.mpr fun item member => (inside item member).fits),
    .array fun item member => (inside item member).numbers⟩

theorem isReadable_object {budget : Nat} {members : Members}
    (inside : ∀ member ∈ members, member.2.IsReadable budget) :
    (Value.object members).IsReadable (budget + 1) :=
  ⟨Nat.succ_le_succ (membersBrackets_le.mpr fun member isMember => (inside member isMember).fits),
    .object fun member isMember => (inside member isMember).numbers⟩

theorem isReadable_number {budget : Nat} {number : Number} (spelled : number.IsSpelled) :
    (Value.number number).IsReadable budget :=
  ⟨Nat.zero_le budget, .number spelled⟩

theorem Ensures.valueWith {inner : Option (Reader Value)} {budget : Nat}
    (within : ∀ read ∈ inner, ∃ fewer, budget = fewer + 1 ∧
      Ensures read (Value.IsReadable fewer)) :
    Ensures (valueWith inner) (Value.IsReadable budget) := by
  intro input value rest done
  obtain ⟨start, _, done⟩ := exists_of_bind_ok done
  split at done
  case h_1 =>
    obtain ⟨_, _, done⟩ := exists_of_bind_ok done
    obtain rfl := value_of_ok done
    exact ⟨Nat.zero_le budget, .null⟩
  case h_4 =>
    obtain ⟨⟨number, _⟩, read, done⟩ := exists_of_bind_ok done
    obtain rfl := value_of_ok done
    exact isReadable_number (number_ensures true read)
  case h_5 =>
    obtain ⟨⟨text, _⟩, _, done⟩ := exists_of_bind_ok done
    obtain rfl := value_of_ok done
    exact ⟨Nat.zero_le budget, .string text⟩
  case h_6 =>
    cases inner with
    | none => simp at done
    | some read =>
        obtain ⟨fewer, rfl, ensures⟩ := within read rfl
        obtain ⟨⟨items, _⟩, all, done⟩ := exists_of_bind_ok done
        obtain rfl := value_of_ok done
        exact isReadable_array (ensures.listFrom all)
  case h_7 =>
    cases inner with
    | none => simp at done
    | some read =>
        obtain ⟨fewer, rfl, ensures⟩ := within read rfl
        obtain ⟨⟨members, _⟩, all, done⟩ := exists_of_bind_ok done
        obtain rfl := value_of_ok done
        exact isReadable_object (ensures.membersFrom all)
  case h_8 =>
    split at done
    · obtain ⟨⟨number, _⟩, read, done⟩ := exists_of_bind_ok done
      obtain rfl := value_of_ok done
      exact isReadable_number (number_ensures false read)
    · simp at done
  -- True and false.
  all_goals
    obtain ⟨_, _, done⟩ := exists_of_bind_ok done
    obtain rfl := value_of_ok done
    exact ⟨Nat.zero_le budget, .bool _⟩

theorem value_ensures (budget : Nat) : Ensures (Json.value budget) (Value.IsReadable budget) := by
  induction budget with
  | zero => exact Ensures.valueWith (by simp)
  | succ budget ih =>
      refine Ensures.valueWith fun read isInner => ?_
      obtain rfl := Option.some.inj isInner
      exact ⟨budget, rfl, ih⟩

theorem object_ensures (budget : Nat) :
    Ensures (Json.object budget) fun members => (Value.object members).IsReadable budget := by
  intro input value rest done
  obtain ⟨start, _, done⟩ := exists_of_bind_ok done
  split at done
  · cases budget with
    | zero => simp at done
    | succ budget => exact isReadable_object ((value_ensures budget).membersFrom done)
  · simp at done

theorem Ensures.optional {α : Type} {read : Reader α} {holds : α → Prop}
    (ensures : Ensures read holds) :
    Ensures (optional read) fun content => ∀ value ∈ content, holds value := by
  intro input content rest done
  rw [Json.optional] at done
  split at done
  · obtain ⟨_, _, done⟩ := exists_of_bind_ok done
    obtain rfl := value_of_ok done
    simp
  · obtain ⟨⟨value, _⟩, first, done⟩ := exists_of_bind_ok done
    obtain rfl := value_of_ok done
    simpa using ensures first

theorem Ensures.readDocument {α : Type} {read : Reader α} {holds : α → Prop}
    (ensures : Ensures read holds) {text : String} {value : α}
    (done : readDocument read text = .ok value) : holds value := by
  obtain ⟨⟨other, rest⟩, first, done⟩ := exists_of_bind_ok (ok_of_mapError done)
  obtain ⟨_, _, done⟩ := exists_of_bind_ok done
  obtain rfl := Except.ok.inj done
  exact ensures first

/-! Records. -/

theorem gather_keeps {δ : Type} {fields : List (Field δ)} {kept : δ → Prop}
    (keeps : ∀ field ∈ fields, ∀ draft, kept draft → field.isSet draft = false →
      Ensures (field.read draft) kept)
    (bound : List Char) (isFirst : Bool) {draft final : δ} (start : kept draft)
    {input rest : List Char}
    (done : gather fields bound isFirst draft input = .ok (.draft final, rest)) : kept final := by
  induction bound generalizing isFirst draft input with
  | nil =>
      rw [gather.eq_1] at done
      obtain ⟨⟨more, left⟩, _, done⟩ := exists_of_bind_ok done
      cases more with
      | true => simp at done
      | false =>
          obtain rfl := Gathered.draft.inj (value_of_ok done)
          exact start
  | cons next bound ih =>
      rw [gather.eq_1] at done
      obtain ⟨⟨more, left⟩, _, done⟩ := exists_of_bind_ok done
      cases more with
      | true =>
          obtain ⟨⟨key, afterKey⟩, _, done⟩ := exists_of_bind_ok done
          simp only at done
          cases found : fields.find? (·.name = key) with
          | none =>
              rw [found] at done
              obtain ⟨_, _, done⟩ := exists_of_bind_ok done
              obtain ⟨_, _, done⟩ := exists_of_bind_ok done
              exact ih false start done
          | some field =>
              rw [found] at done
              simp only at done
              split at done
              · simp at done
              · next unset =>
                  obtain ⟨_, _, done⟩ := exists_of_bind_ok done
                  obtain ⟨⟨after, _⟩, stored, done⟩ := exists_of_bind_ok done
                  have inside := List.mem_of_find?_eq_some found
                  exact ih false (keeps field inside draft start (by simpa using unset) stored) done
      | false =>
          obtain rfl := Gathered.draft.inj (value_of_ok done)
          exact start

theorem gatherInOrder_keeps {δ : Type} {fields : List (Field δ)} {kept : δ → Prop}
    (keeps : ∀ field ∈ fields, ∀ draft, kept draft → Ensures (field.read draft) kept)
    (lengthText : String) (index : Nat) {draft : δ} (start : kept draft) :
    Ensures (gatherInOrder lengthText fields index draft) kept := by
  induction fields generalizing index draft with
  | nil =>
      intro input final rest done
      obtain rfl := value_of_ok done
      exact start
  | cons field others ih =>
      intro input final rest done
      rw [List.forall_mem_cons] at keeps
      obtain ⟨⟨more, left⟩, _, done⟩ := exists_of_bind_ok done
      cases more with
      | true =>
          obtain ⟨⟨after, _⟩, stored, done⟩ := exists_of_bind_ok done
          exact ih keeps.2 (index + 1) (keeps.1 draft start stored) done
      | false =>
          simp only [Bool.false_eq_true, ↓reduceIte] at done
          split at done
          · exact ih keeps.2 (index + 1) start done
          · simp at done

theorem finish_of_ok {δ α : Type} {shape : Shape δ α} {draft : δ} {result : α} {rest : List Char}
    {missing : String → Except Fault (α × List Char)} {closing : Except Fault (List Char)}
    (done : (match shape.finish draft with
      | .error name => missing name
      | .ok record => do
          let left ← closing
          .ok (record, left)) = .ok (result, rest))
    (fails : ∀ name, missing name ≠ .ok (result, rest)) : shape.finish draft = .ok result := by
  cases finished : shape.finish draft with
  | error name =>
      rw [finished] at done
      exact absurd done (fails name)
  | ok record =>
      rw [finished] at done
      obtain ⟨_, _, done⟩ := exists_of_bind_ok done
      rw [value_of_ok done]

theorem record_ensures {δ α : Type} {shape : Shape δ α} {kept : δ → Prop}
    (keeps : ∀ field ∈ shape.fields, ∀ draft, kept draft → Ensures (field.read draft) kept)
    (start : kept shape.blank) (budget : Nat) :
    Ensures (record budget shape) fun result =>
      0 < budget ∧ ∃ draft, kept draft ∧ shape.finish draft = .ok result := by
  intro input result rest done
  obtain ⟨begun, _, done⟩ := exists_of_bind_ok done
  split at done
  · split at done
    · simp at done
    · next some =>
        obtain ⟨⟨draft, _⟩, gathered, done⟩ := exists_of_bind_ok done
        exact ⟨Nat.pos_of_ne_zero some, draft, gatherInOrder_keeps keeps _ _ start gathered,
          finish_of_ok done (by simp)⟩
  · split at done
    · simp at done
    · next some =>
        obtain ⟨⟨gathered, _⟩, took, done⟩ := exists_of_bind_ok done
        cases gathered with
        | repeated name => simp at done
        | draft draft =>
            have final := gather_keeps (fun field inside draft start _ =>
              keeps field inside draft start) _ _ start took
            exact ⟨Nat.pos_of_ne_zero some, draft, final, finish_of_ok done (by simp)⟩
  · simp at done

theorem field_ensures {δ α : Type} {name : String} {mayEnd : Bool} {get : δ → Option α}
    {store : δ → α → δ} {read : Reader α} {holds : α → Prop} (ensures : Ensures read holds)
    {kept : δ → Prop} {draft : δ} (stored : ∀ content, holds content → kept (store draft content)) :
    Ensures ((Field.of name mayEnd get store read).read draft) kept := by
  intro input after rest done
  obtain ⟨⟨content, _⟩, first, done⟩ := exists_of_bind_ok done
  obtain rfl := value_of_ok done
  exact stored content (ensures first)

theorem ensures_any {α : Type} (read : Reader α) : Ensures read fun _ => True :=
  fun _ _ _ _ => trivial

end Json

/-! Routes and manifests. -/

open Json (Value Members Ensures Field)

def bagBrackets : Option Members → Nat
  | none => 0
  | some members => (Value.object members).brackets

namespace Route

mutual

def brackets : Route → Nat
  | ⟨_, _, _, _, _, _, attributes, children, _⟩ =>
      max (bagBrackets attributes) (childrenBrackets children) + 1

def childrenBrackets : List Route → Nat
  | [] => 0
  | route :: rest => max (brackets route + 1) (childrenBrackets rest)

end

theorem brackets_eq (route : Route) :
    route.brackets = max (bagBrackets route.attributes) (childrenBrackets route.children) + 1 := by
  cases route
  rw [brackets]

theorem childrenBrackets_le {routes : List Route} {budget : Nat} :
    childrenBrackets routes ≤ budget ↔ ∀ route ∈ routes, route.brackets + 1 ≤ budget := by
  induction routes with
  | nil => simp [childrenBrackets]
  | cons route rest ih => simp [childrenBrackets, ih]

end Route

inductive Route.EachBag (holds : Members → Prop) : Route → Prop
  | intro {route : Route} (attributes : ∀ content ∈ route.attributes, holds content)
      (children : ∀ child ∈ route.children, EachBag holds child) : EachBag holds route

def Module.EachBag (holds : Members → Prop) (module : Module) : Prop :=
  ∀ route ∈ module.routes, route.EachBag holds

def Manifest.EachBag (holds : Members → Prop) (manifest : Manifest) : Prop :=
  ∀ module ∈ manifest.modules, module.EachBag holds

/-- Every number among the attributes is the value of a numeral. -/
def NumbersSpelled (content : Members) : Prop :=
  (Value.object content).EachNumber Json.Number.IsSpelled

structure Route.IsReadable (budget : Nat) (route : Route) : Prop where
  fits : route.brackets ≤ budget
  numbers : route.EachBag NumbersSpelled

structure RouteDraft.IsReadable (budget : Nat) (draft : RouteDraft) : Prop where
  attributes : ∀ content ∈ draft.attributes, ∀ members ∈ content,
    (Value.object members).IsReadable budget
  children : ∀ content ∈ draft.children, Route.childrenBrackets content ≤ budget ∧
    ∀ child ∈ content, child.EachBag NumbersSpelled

namespace Route

theorem shape_ensures {budget : Nat} {children : Json.Reader (List Route)}
    (ensures : Ensures children fun routes => childrenBrackets routes ≤ budget ∧
      ∀ route ∈ routes, route.EachBag NumbersSpelled) :
    Ensures (Json.record (budget + 1) (shape budget children)) (IsReadable (budget + 1)) := by
  intro input route rest done
  have keeps : ∀ field ∈ (shape budget children).fields, ∀ draft, draft.IsReadable budget →
      Ensures (field.read draft) (RouteDraft.IsReadable budget) := by
    intro field inside draft start
    simp only [shape, List.mem_cons, List.not_mem_nil, or_false] at inside
    rcases inside with rfl | rfl | rfl | rfl | rfl | rfl | rfl | rfl | rfl
    case inr.inr.inr.inr.inr.inr.inl =>
      refine Json.field_ensures (Ensures.optional (Json.object_ensures budget)) fun content read => ?_
      refine ⟨?_, start.children⟩
      intro bag same
      obtain rfl := Option.some.inj same
      exact read
    case inr.inr.inr.inr.inr.inr.inr.inl =>
      refine Json.field_ensures ensures fun content read => ⟨start.attributes, ?_⟩
      intro routes same
      obtain rfl := Option.some.inj same
      exact read
    all_goals exact Json.field_ensures (Json.ensures_any _) fun _ _ => ⟨start.1, start.2⟩
  have blank : (shape budget children).blank.IsReadable budget := by
    refine ⟨?_, ?_⟩ <;> simp [shape, RouteDraft.blank]
  obtain ⟨_, draft, ⟨bag, inner⟩, finished⟩ := Json.record_ensures keeps blank (budget + 1) done
  obtain ⟨name, _, finished⟩ := exists_of_bind_ok finished
  obtain ⟨path, _, finished⟩ := exists_of_bind_ok finished
  obtain ⟨component, _, finished⟩ := exists_of_bind_ok finished
  obtain rfl := Except.ok.inj finished
  have attributes : ∀ members ∈ draft.attributes.getD none,
      (Value.object members).IsReadable budget := by
    cases given : draft.attributes with
    | none => simp
    | some content => exact bag content given
  have children : childrenBrackets (draft.children.getD []) ≤ budget ∧
      ∀ child ∈ draft.children.getD [], child.EachBag NumbersSpelled := by
    cases given : draft.children with
    | none => simp [childrenBrackets]
    | some content => exact inner content given
  refine ⟨?_, .intro (fun members member => (attributes members member).numbers) children.2⟩
  rw [brackets_eq]
  refine Nat.succ_le_succ (Nat.max_le.mpr ⟨?_, children.1⟩)
  cases given : draft.attributes.getD none with
  | none => exact Nat.zero_le budget
  | some members => exact (attributes members given).fits

theorem read_ensures : ∀ (budget : Nat), Ensures (Route.read budget) (IsReadable budget)
  | 0 => fun _ _ _ done =>
      absurd (Json.record_ensures (fun _ _ _ _ => Json.ensures_any _) trivial 0 done).1 (by simp)
  | 1 => shape_ensures fun _ _ _ done => absurd ((Json.ensures_any _).list 0 done).1 (by simp)
  | budget + 2 => by
      refine shape_ensures fun _ _ _ done => ?_
      obtain ⟨_, all⟩ := (read_ensures budget).list (budget + 1) done
      refine ⟨?_, fun route member => (all route member).numbers⟩
      exact childrenBrackets_le.mpr fun route member => Nat.succ_le_succ (all route member).fits

end Route

def Module.IsReadable (budget : Nat) (module : Module) : Prop :=
  ∀ route ∈ module.routes, route.IsReadable budget

theorem Module.read_ensures (budget : Nat) :
    Ensures (Module.read (budget + 2)) (Module.IsReadable budget) := by
  intro input module rest done
  have keeps : ∀ field ∈ (shape (budget + 1)).fields, ∀ draft : ModuleDraft,
      (∀ routes ∈ draft.routes, ∀ route ∈ routes, route.IsReadable budget) →
        Ensures (field.read draft) fun draft =>
          ∀ routes ∈ draft.routes, ∀ route ∈ routes, route.IsReadable budget := by
    intro field inside draft start
    simp only [shape, List.mem_cons, List.not_mem_nil, or_false] at inside
    rcases inside with rfl | rfl | rfl
    case inr.inr =>
      refine Json.field_ensures (Ensures.list (Route.read_ensures budget) (budget + 1)) ?_
      intro content read routes same
      obtain rfl := Option.some.inj same
      exact read.2
    all_goals exact Json.field_ensures (Json.ensures_any _) fun _ _ => start
  obtain ⟨_, draft, kept, finished⟩ := Json.record_ensures keeps (by simp [shape]) (budget + 2) done
  obtain ⟨name, _, finished⟩ := exists_of_bind_ok finished
  obtain ⟨mtype, _, finished⟩ := exists_of_bind_ok finished
  obtain rfl := Except.ok.inj finished
  cases given : draft.routes with
  | none => simp [IsReadable]
  | some routes => simpa [IsReadable] using kept routes given

def Manifest.IsReadable (budget : Nat) (manifest : Manifest) : Prop :=
  ∀ module ∈ manifest.modules, module.IsReadable budget

theorem Manifest.read_ensures (budget : Nat) :
    Ensures (Manifest.read (budget + 4)) (Manifest.IsReadable budget) := by
  intro input manifest rest done
  have keeps : ∀ field ∈ (shape (budget + 3)).fields, ∀ draft : ManifestDraft,
      (∀ modules ∈ draft.modules, ∀ module ∈ modules, module.IsReadable budget) →
        Ensures (field.read draft) fun draft =>
          ∀ modules ∈ draft.modules, ∀ module ∈ modules, module.IsReadable budget := by
    intro field inside draft start
    simp only [shape, List.mem_cons, List.not_mem_nil, or_false] at inside
    rcases inside with rfl | rfl | rfl | rfl | rfl
    case inr.inr.inr.inr =>
      refine Json.field_ensures (Ensures.list (Module.read_ensures budget) (budget + 3)) ?_
      intro content read modules same
      obtain rfl := Option.some.inj same
      exact read.2
    all_goals exact Json.field_ensures (Json.ensures_any _) fun _ _ => start
  obtain ⟨_, draft, kept, finished⟩ := Json.record_ensures keeps (by simp [shape]) (budget + 4) done
  obtain ⟨modulePath, _, finished⟩ := exists_of_bind_ok finished
  obtain ⟨moduleName, _, finished⟩ := exists_of_bind_ok finished
  obtain ⟨modules, found, finished⟩ := exists_of_bind_ok finished
  obtain rfl := Except.ok.inj finished
  cases given : draft.modules with
  | none => simp [given, required] at found
  | some content =>
      rw [given] at found
      obtain rfl := Except.ok.inj found
      exact kept content given

/-- No document at all is accepted as any other manifest. -/
theorem Manifest.isReadable_of_accepted {source : Source} {manifest : Manifest}
    (accepted : ofSource source = .ok manifest) : manifest.IsReadable routeBudget := by
  obtain ⟨found, read, accepted⟩ := exists_of_bind_ok accepted
  obtain ⟨_, _, accepted⟩ := exists_of_bind_ok accepted
  obtain rfl := Except.ok.inj accepted
  exact (Manifest.read_ensures routeBudget).readDocument (ok_of_mapError read)

end RouteForge
