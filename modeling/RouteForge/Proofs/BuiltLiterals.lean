import RouteForge.Proofs.BindableNames
import RouteForge.Proofs.ObjectReading

/-!
An object or a list of objects reads back as what was put into it, whatever its keys are and however
deep its lists go.
-/

namespace RouteForge.Script.Lexicon

variable {lexicon : Lexicon}

/-! What can be built, and what it is to read as. -/

mutual
/-- An object whose keys are written in the given style, and its members. -/
inductive Builds (lexicon : Lexicon) : KeyStyle → Object → List (String × Data) → Prop
  | empty (style : KeyStyle) : Builds lexicon style (Object.empty style) []
  | string {style object members key} (built : Builds lexicon style object members)
      (spelled : lexicon.Spells (keyScalar style key)) (text : String) :
      Builds lexicon style (object.string key text) (members ++ [(key, .text text)])
  | constant {style object members key} (built : Builds lexicon style object members)
      (spelled : lexicon.Spells (keyScalar style key)) {word : String} {value : Data}
      (constant : (word, value) ∈ constants) :
      Builds lexicon style (object.raw key word) (members ++ [(key, value)])
  | reference {style object members key} (built : Builds lexicon style object members)
      (spelled : lexicon.Spells (keyScalar style key)) {name : String}
      (named : lexicon.IsName name.toList) (free : lexicon.reserved name = false)
      (notConstant : constants.lookup name = none) :
      Builds lexicon style (object.raw key name) (members ++ [(key, .reference name)])
  | bool {style object members key} (built : Builds lexicon style object members)
      (spelled : lexicon.Spells (keyScalar style key)) (flag : Bool) :
      Builds lexicon style (object.bool key flag) (members ++ [(key, .flag flag)])
  | boolIfGiven {style object members key} (built : Builds lexicon style object members)
      (given : Option Bool)
      (spelled : given.isSome = true → lexicon.Spells (keyScalar style key)) :
      Builds lexicon style (object.boolIfGiven key given)
        (members ++ given.toList.map fun flag => (key, .flag flag))
  | json {style object members key} (built : Builds lexicon style object members)
      (spelled : lexicon.Spells (keyScalar style key)) (value : Json.Value) :
      Builds lexicon style (object.json key value) (members ++ [(key, .ofJson value)])
  | list {style object members key} (built : Builds lexicon style object members)
      (spelled : lexicon.Spells (keyScalar style key)) {items : List Object} {values : List Data}
      (inside : BuildsAll lexicon items values) :
      Builds lexicon style (object.list key items) (members ++ [(key, .list values)])
  | listIf {style object members key} (built : Builds lexicon style object members)
      (condition : Bool) {items : List Object} {values : List Data}
      (spelled : condition = true → lexicon.Spells (keyScalar style key))
      (inside : condition = true → BuildsAll lexicon items values) :
      Builds lexicon style (object.listIf condition key items)
        (members ++ if condition then [(key, .list values)] else [])

inductive BuildsAll (lexicon : Lexicon) : List Object → List Data → Prop
  | nil : BuildsAll lexicon [] []
  | cons {style object members others values} (built : Builds lexicon style object members)
      (following : BuildsAll lexicon others values) :
      BuildsAll lexicon (object :: others) (.record members :: values)
end

mutual
theorem Builds.writes {style : KeyStyle} {object : Object} {members : List (String × Data)} :
    lexicon.Builds style object members → Writes lexicon style object members
  | .empty style => writes_empty style
  | .string built spelled text => built.writes.string spelled text
  | .constant built spelled constant => built.writes.add spelled (writes_constant constant)
  | .reference built spelled named free notConstant =>
      built.writes.add spelled (writes_reference named free notConstant)
  | .bool built spelled flag => built.writes.bool spelled flag
  | .boolIfGiven built given spelled => built.writes.boolIfGiven given spelled
  | .json built spelled value => built.writes.json spelled value
  | .list built spelled inside => built.writes.add spelled inside.writes.list
  | .listIf built condition spelled inside =>
      built.writes.listIf condition spelled fun holds => (inside holds).writes

theorem BuildsAll.writes {objects : List Object} {values : List Data} :
    lexicon.BuildsAll objects values → WritesAll lexicon objects values
  | .nil => .nil
  | .cons built following => .cons built.writes following.writes
end

theorem read_block {block : Block} (valid : block.Valid lexicon) :
    lexicon.read (joinLines block.lines) = some block.data := by
  have cut := (block.lexes valid).reads [] (by simp [Json.StopsAt])
  have whole := (readsWith block.tokens.length).value block [] valid (Nat.le_refl _)
  rw [List.append_nil] at cut whole
  simp [read, cut, tokens_nil, whole]

/-- The text of an object or of a list of objects is read to its end, and as what was built. -/
theorem built_read_back (lexicon : Lexicon) :
    (∀ style object members, lexicon.Builds style object members →
      lexicon.read object.text = some (.record members)) ∧
    ∀ objects values, lexicon.BuildsAll objects values →
      lexicon.read (Term.list objects).text = some (.list values) := by
  constructor
  · intro style object members built
    have written := built.writes
    rw [Object.text, object.lines_eq, read_block written.valid, written.data]
  · intro objects values built
    have written := built.writes.list
    rw [Term.text, (Term.list objects).lines_eq, read_block written.valid, written.data]

theorem nested_read_back :
    standard.read ((((Object.empty .bare).raw "default" "\u9875").string "default" "\n\u2028").list
        "_" [(Object.empty .quoted).json "" (.array [.null, .object []]), Object.empty .bare]).text =
      some (.record [("default", .reference "\u9875"), ("default", .text "\n\u2028"),
        ("_", .list [.record [("", .list [.null, .record []])], .record []])]) := by
  have first : standard.IsName "default".toList := by decide +kernel
  have second : standard.IsName "_".toList := by decide +kernel
  have items : standard.BuildsAll
      [(Object.empty .quoted).json "" (.array [.null, .object []]), Object.empty .bare] _ :=
    .cons (.json (.empty .quoted) trivial _) (.cons (.empty .bare) .nil)
  exact (built_read_back standard).1 _ _ _ <| .list (.string (.reference (.empty .bare) first
    (by decide +kernel) (by decide) (by decide)) first _) second items

end RouteForge.Script.Lexicon
