import RouteForge.Proofs.Assembly
import RouteForge.Proofs.LiteralLayout

/-!
An object reads as the members that were added to it, in their order.
-/

namespace RouteForge.Script

theorem isName_of_nameError? {name : String} (importable : nameError? name = none) :
    Lexicon.generated.IsName name.toList :=
  ((nameError?_eq_none_iff name).mp importable).1

theorem isReserved_of_nameError? {name : String} (importable : nameError? name = none) :
    isReserved name = false := by
  have free := ((nameError?_eq_none_iff name).mp importable).2.1
  simpa [isReserved] using free

theorem reserved_constant : ∀ entry ∈ constants, isReserved entry.1 = true := by
  decide

/-- Only reserved words are taken for constants. -/
theorem lookup_constants {name : String} (free : isReserved name = false) :
    constants.lookup name = none := by
  by_contra found
  obtain ⟨entry, member, same⟩ :=
    List.lookup_isSome_iff.mp (Option.isSome_iff_ne_none.mpr found)
  obtain rfl := eq_of_beq same
  rw [reserved_constant entry member] at free
  exact absurd free (by decide)

/-! Objects. -/

variable {lexicon : Lexicon}

theorem propertyBlocks_append (first second : List (String × Term)) :
    propertyBlocks (first ++ second) = propertyBlocks first ++ propertyBlocks second := by
  induction first with
  | nil => rfl
  | cons property rest ih => simp [propertyBlocks, ih]

theorem memberData_append (first second : List (String × Block)) :
    memberData (first ++ second) = memberData first ++ memberData second := by
  induction first with
  | nil => rfl
  | cons member rest ih => simp [memberData, ih]

theorem data_add {object : Object} {members : List (String × Data)}
    (data : object.block.data = .record members) (key : String) {term : Term} {value : Data}
    (written : term.block.data = value) :
    (object.add key term).block.data = .record (members ++ [(key, value)]) := by
  obtain ⟨style, properties⟩ := object
  have before : memberData (propertyBlocks properties) = members := by
    simpa [Object.block, Block.data] using data
  rw [Object.add, Object.block, propertyBlocks_append, Block.data, memberData_append, before,
    ← written]
  rfl

theorem membersValid_append {style : KeyStyle} {first second : List (String × Block)}
    (valid : MembersValid lexicon style first) (others : MembersValid lexicon style second) :
    MembersValid lexicon style (first ++ second) := by
  induction first with
  | nil => exact others
  | cons member rest ih => exact ⟨valid.1, valid.2.1, ih valid.2.2⟩

/-- A term that reads as the data. -/
structure Term.Writes (lexicon : Lexicon) (term : Term) (value : Data) : Prop where
  valid : term.block.Valid lexicon
  data : term.block.data = value

structure Writes (lexicon : Lexicon) (style : KeyStyle) (object : Object)
    (members : List (String × Data)) : Prop where
  valid : object.block.Valid lexicon
  data : object.block.data = .record members
  styled : ∃ properties, object = .mk style properties

inductive WritesAll (lexicon : Lexicon) : List Object → List Data → Prop where
  | nil : WritesAll lexicon [] []
  | cons {style : KeyStyle} {object : Object} {rest : List Object}
      {members : List (String × Data)} {others : List Data}
      (writes : Writes lexicon style object members) (next : WritesAll lexicon rest others) :
      WritesAll lexicon (object :: rest) (.record members :: others)

theorem text_string (text : String) : (Term.string text).text = stringLiteral text := by
  rw [Term.text, Term.lines, joinLines, String.intercalate_singleton]

theorem writes_string (text : String) : (Term.string text).Writes lexicon (.text text) :=
  ⟨⟨trivial, rfl⟩, rfl⟩

theorem writes_reference {name : String} (named : lexicon.IsName name.toList)
    (free : lexicon.reserved name = false) (notConstant : constants.lookup name = none) :
    (Term.raw name).Writes lexicon (.reference name) := by
  refine ⟨⟨named, by simp [Lexicon.isValue, free]⟩, ?_⟩
  simp [Term.block, Block.data, Scalar.data, notConstant]

theorem writes_json (value : Json.Value) : (Term.json value).Writes lexicon (.ofJson value) :=
  ⟨valid_ofValue value, data_ofValue value⟩

theorem writes_constant {word : String} {value : Data} (constant : (word, value) ∈ constants) :
    (Term.raw word).Writes lexicon value := by
  have known : ∀ entry ∈ constants, (constants.lookup entry.1).isSome = true := by decide
  have same : ∀ entry ∈ constants,
      (constants.lookup entry.1).getD (.reference entry.1) = entry.2 := by
    simp only [constants, List.forall_mem_cons]
    exact ⟨rfl, rfl, rfl, by simp⟩
  exact ⟨valid_constant (known _ constant), same _ constant⟩

theorem writes_bool (flag : Bool) : (Term.raw (Json.boolText flag)).Writes lexicon (.flag flag) :=
  ⟨valid_ofValue (.bool flag), data_ofValue (.bool flag)⟩

theorem WritesAll.list {objects : List Object} {values : List Data}
    (writes : WritesAll lexicon objects values) :
    (Term.list objects).Writes lexicon (.list values) := by
  have items : BlocksValid lexicon (itemBlocks objects) ∧
      blockData (itemBlocks objects) = values := by
    induction writes with
    | nil => exact ⟨trivial, rfl⟩
    | cons first _ ih => exact ⟨⟨first.valid, ih.1⟩, by rw [itemBlocks, blockData, first.data, ih.2]⟩
  exact ⟨items.1, congrArg Data.list items.2⟩

theorem writes_empty (style : KeyStyle) : Writes lexicon style (Object.empty style) [] :=
  ⟨trivial, rfl, [], rfl⟩

namespace Writes

variable {style : KeyStyle} {object : Object} {members : List (String × Data)}
  (writes : Writes lexicon style object members) {key : String}
include writes

theorem add (spelled : lexicon.Spells (keyScalar style key)) {term : Term} {value : Data}
    (written : term.Writes lexicon value) :
    Writes lexicon style (object.add key term) (members ++ [(key, value)]) := by
  obtain ⟨valid, data, properties, rfl⟩ := writes
  refine ⟨?_, data_add data key written.data, _, rfl⟩
  rw [Object.add, Object.block, propertyBlocks_append]
  exact membersValid_append valid ⟨spelled, written.valid, trivial⟩

theorem string (spelled : lexicon.Spells (keyScalar style key)) (text : String) :
    Writes lexicon style (object.string key text) (members ++ [(key, .text text)]) :=
  writes.add spelled (writes_string text)

theorem bool (spelled : lexicon.Spells (keyScalar style key)) (flag : Bool) :
    Writes lexicon style (object.bool key flag) (members ++ [(key, .flag flag)]) :=
  writes.add spelled (writes_bool flag)

theorem boolIfGiven (given : Option Bool)
    (spelled : given.isSome = true → lexicon.Spells (keyScalar style key)) :
    Writes lexicon style (object.boolIfGiven key given)
      (members ++ given.toList.map fun flag => (key, .flag flag)) := by
  cases given with
  | none =>
      rw [Option.toList_none, List.map_nil, List.append_nil]
      exact writes
  | some flag => exact writes.bool (spelled rfl) flag

theorem json (spelled : lexicon.Spells (keyScalar style key)) (value : Json.Value) :
    Writes lexicon style (object.json key value) (members ++ [(key, .ofJson value)]) :=
  writes.add spelled (writes_json value)

theorem listIf (condition : Bool) {items : List Object} {values : List Data}
    (spelled : condition = true → lexicon.Spells (keyScalar style key))
    (written : condition = true → WritesAll lexicon items values) :
    Writes lexicon style (object.listIf condition key items)
      (members ++ if condition then [(key, .list values)] else []) := by
  cases condition with
  | false => simpa [Object.listIf] using writes
  | true => exact writes.add (spelled rfl) (written rfl).list

end Writes

theorem Writes.reference {style : KeyStyle} {object : Object} {members : List (String × Data)}
    (writes : Writes .generated style object members) {key : String}
    (spelled : Lexicon.generated.Spells (keyScalar style key)) {name : String}
    (named : Lexicon.generated.IsName name.toList) (free : isReserved name = false) :
    Writes .generated style (object.raw key name) (members ++ [(key, .reference name)]) :=
  writes.add spelled (writes_reference named free (lookup_constants free))

end RouteForge.Script
