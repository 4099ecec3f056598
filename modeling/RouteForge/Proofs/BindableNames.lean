import RouteForge.Proofs.Assembly
import RouteForge.Proofs.IdentifierClasses
import RouteForge.Proofs.ScriptReader

/-!
Names that an import can bind by the rules of the script language, and how the names that are
accepted for imports differ from them: never by a reserved word, only by letters and digits that
stand in no identifier or begin none.
-/

namespace RouteForge.Script

/-! The rules of the language, for modules, which are strict code. -/

def startsIdentifier (char : Char) : Bool :=
  Text.isIdStart char || char = '$' || char = '_'

/-- The last two characters join letters or keep them from being joined. -/
def continuesIdentifier (char : Char) : Bool :=
  Text.isIdContinue char || char = '$' || char = '\u200c' || char = '\u200d'

def keywords : List String := [
  "await", "break", "case", "catch", "class", "const", "continue", "debugger", "default",
  "delete", "do", "else", "enum", "export", "extends", "false", "finally", "for", "function",
  "if", "import", "in", "instanceof", "new", "null", "return", "super", "switch", "this", "throw",
  "true", "try", "typeof", "var", "void", "while", "with", "yield"]

def strictKeywords : List String :=
  ["implements", "interface", "let", "package", "private", "protected", "public", "static"]

structure IsBindable (name : String) : Prop where
  spelled : SpelledWith startsIdentifier continuesIdentifier name.toList
  notReserved : name ∉ keywords ++ strictKeywords
  notRestricted : name ∉ ["eval", "arguments"]

theorem startsIdentifier_digit {char : Char} (digit : char.isDigit = true) :
    startsIdentifier char = false := by
  have bounds := isDigit_bounds digit
  have none : ∀ offset < 10, startsIdentifier (Char.ofNat (48 + offset)) = false := by
    decide +kernel
  have same : Char.ofNat (48 + (char.toNat - 48)) = char := by
    rw [Nat.add_sub_of_le bounds.1, Char.ofNat_toNat]
  rw [← same]
  exact none _ (by omega)

theorem startsIdentifier_special (char : Char) (special : char ∈ specials) :
    startsIdentifier char = false := by
  have absent : specials.any startsIdentifier = false := by decide +kernel
  simpa using List.any_eq_false.mp absent char special

theorem continuesIdentifier_special (char : Char) (special : char ∈ specials) :
    continuesIdentifier char = false := by
  have absent : specials.any continuesIdentifier = false := by decide +kernel
  simpa using List.any_eq_false.mp absent char special

def Lexicon.standard : Lexicon where
  starts := startsIdentifier
  continues := continuesIdentifier
  reserved name := (keywords ++ strictKeywords).contains name
  starts_special := startsIdentifier_special
  starts_digit _ := startsIdentifier_digit
  continues_special := continuesIdentifier_special
  constants_spelled := by
    simp only [constants, List.forall_mem_cons]
    exact ⟨by decide +kernel, by decide +kernel, by decide +kernel, by simp⟩

/-! Accepted names. -/

theorem continuesIdentifier_of_not_isStray {char : Char} (continues : continuesName char = true)
    (notStray : Text.isStray char = false) : continuesIdentifier char = true := by
  rw [continuesName, Bool.or_eq_true, Bool.or_eq_true, decide_eq_true_eq, decide_eq_true_eq]
    at continues
  rcases continues with (letter | rfl) | rfl
  · rcases Text.isIdContinue_or_isStray letter with regular | stray
    · simp [continuesIdentifier, regular]
    · simp [stray] at notStray
  · decide +kernel
  · decide +kernel

theorem not_isStray_of_continuesIdentifier {char : Char}
    (continues : continuesIdentifier char = true) : Text.isStray char = false := by
  have signs : Text.isStray '$' = false ∧ Text.isStray '\u200c' = false ∧
      Text.isStray '\u200d' = false := by decide +kernel
  rw [continuesIdentifier, Bool.or_eq_true, Bool.or_eq_true, Bool.or_eq_true, decide_eq_true_eq,
    decide_eq_true_eq, decide_eq_true_eq] at continues
  rcases continues with ((regular | rfl) | rfl) | rfl
  · cases stray : Text.isStray char with
    | false => rfl
    | true => simp [Text.not_isIdContinue_of_isStray stray] at regular
  · exact signs.1
  · exact signs.2.1
  · exact signs.2.2

/-- Of an accepted name only the letters can be wrong: the first can be one that begins no
identifier, the others can be strays. -/
theorem accepted_bindable_iff (name : String) (accepted : nameError? name = none) :
    (name ∉ keywords ++ strictKeywords ∧ name ∉ ["eval", "arguments"]) ∧
      (IsBindable name ↔
        (∀ first ∈ name.toList.head?, startsIdentifier first = true) ∧
          ∀ char ∈ name.toList.tail, Text.isStray char = false) := by
  obtain ⟨⟨first, rest, shape, _, continues⟩, free, unrestricted, _⟩ :=
    (nameError?_eq_none_iff name).mp accepted
  have reserved : ∀ word ∈ keywords ++ strictKeywords, word ∈ reservedWords := by decide
  have restricted : ∀ word ∈ ["eval", "arguments"], word ∈ restrictedNames := by decide
  have notReserved : name ∉ keywords ++ strictKeywords := fun member => free (reserved name member)
  have notRestricted : name ∉ ["eval", "arguments"] := fun member =>
    unrestricted (restricted name member)
  refine ⟨⟨notReserved, notRestricted⟩, ?_⟩
  rw [shape, List.head?_cons, List.tail_cons]
  constructor
  · rintro ⟨spelled, _, _⟩
    rw [shape, spelledWith_cons] at spelled
    refine ⟨by simpa using spelled.1, fun char member => ?_⟩
    exact not_isStray_of_continuesIdentifier (spelled.2 char member)
  · rintro ⟨starts, regular⟩
    refine ⟨?_, notReserved, notRestricted⟩
    rw [shape, spelledWith_cons]
    refine ⟨starts first rfl, fun char member => ?_⟩
    exact continuesIdentifier_of_not_isStray (continues char member) (regular char member)

theorem accepted_bindable_of_han :
    nameError? "\u9875\u97622" = none ∧ IsBindable "\u9875\u97622" := by
  have accepted : nameError? "\u9875\u97622" = none := by decide +kernel
  have starts : startsIdentifier '\u9875' = true := by decide +kernel
  have regular : ['\u9762', '2'].all (fun char => !Text.isStray char) = true := by decide +kernel
  exact ⟨accepted, (accepted_bindable_iff _ accepted).2.mpr
    ⟨by simpa using starts, by simpa using regular⟩⟩

theorem accepted_not_bindable :
    (nameError? "\u24d0" = none ∧ ¬IsBindable "\u24d0") ∧
      (nameError? "x\u00b2" = none ∧ ¬IsBindable "x\u00b2") ∧
      nameError? "\u0345a" = none ∧ ¬IsBindable "\u0345a" := by
  have circled : ¬SpelledWith startsIdentifier continuesIdentifier "\u24d0".toList := by
    decide +kernel
  have raised : ¬SpelledWith startsIdentifier continuesIdentifier "x\u00b2".toList := by
    decide +kernel
  have mark : ¬SpelledWith startsIdentifier continuesIdentifier "\u0345a".toList := by
    decide +kernel
  exact ⟨⟨by decide +kernel, fun bindable => circled bindable.spelled⟩,
    ⟨by decide +kernel, fun bindable => raised bindable.spelled⟩,
    by decide +kernel, fun bindable => mark bindable.spelled⟩

end RouteForge.Script
