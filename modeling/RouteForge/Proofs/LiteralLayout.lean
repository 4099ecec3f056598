import RouteForge.Proofs.LiteralBlocks
import RouteForge.Proofs.TextLines

/-!
The lines of a literal are those of its block, and a block has a text at every depth: what stands
there once its lines are moved outwards. Pretty values come as one such text, which is cut into lines
again.
-/

namespace RouteForge.Script

/-- Lines in one text that stands at a depth, which the first line does not show. -/
def laidOut (depth : Nat) (lines : List String) : String :=
  (String.ofList (Json.lineBreak depth)).intercalate lines

theorem lineBreak_succ (depth : Nat) :
    String.ofList (Json.lineBreak (depth + 1)) = String.ofList (Json.lineBreak depth) ++ margin := by
  have blanks : List.replicate (2 * (depth + 1)) ' ' = List.replicate (2 * depth) ' ' ++ [' ', ' '] := by
    rw [Nat.mul_add, List.replicate_add]
    rfl
  rw [Json.lineBreak, blanks, ← List.cons_append, String.ofList_append]
  rfl

theorem laidOut_indent (depth : Nat) {lines : List String} (nonempty : lines ≠ []) :
    laidOut depth (indent lines) = margin ++ laidOut (depth + 1) lines := by
  induction lines with
  | nil => exact absurd rfl nonempty
  | cons line rest ih =>
      cases rest with
      | nil => simp [laidOut, indent]
      | cons next rest =>
          have inner := ih (by simp)
          simp only [laidOut, indent, List.map_cons, String.intercalate_cons_cons] at inner ⊢
          rw [inner, lineBreak_succ]
          simp only [String.append_assoc]

/-- What is put after the last line comes after the whole text. -/
theorem intercalate_appendToLast (separator suffix : String) {lines : List String}
    (nonempty : lines ≠ []) :
    separator.intercalate (Constant.appendToLast suffix lines) =
      separator.intercalate lines ++ suffix := by
  induction lines with
  | nil => exact absurd rfl nonempty
  | cons line rest ih =>
      cases rest with
      | nil => simp [Constant.appendToLast]
      | cons next rest =>
          have inner := ih (by simp)
          have more : Constant.appendToLast suffix (next :: rest) ≠ [] := by
            cases rest <;> simp [Constant.appendToLast]
          rw [Constant.appendToLast]
          · rw [String.intercalate_cons_of_ne_nil more, inner, String.intercalate_cons_cons]
            simp only [String.append_assoc]
          · simp

theorem laidOut_withComma (depth : Nat) {lines : List String} (nonempty : lines ≠ []) :
    laidOut depth (withComma lines) = laidOut depth lines ++ "," := by
  rw [withComma_eq, laidOut, intercalate_appendToLast _ _ nonempty, laidOut]

theorem laidOut_keyed (depth : Nat) (key : String) {lines : List String} (nonempty : lines ≠ []) :
    laidOut depth (keyed key lines) = margin ++ key ++ ": " ++ laidOut (depth + 1) lines := by
  cases lines with
  | nil => exact absurd rfl nonempty
  | cons line rest =>
      rw [keyed, laidOut_indent depth (by simp), laidOut, laidOut, List.headD_cons, List.tail_cons,
        String.intercalate_cons_append]
      simp only [String.append_assoc]

theorem laidOut_following (depth : Nat) {lines others : List String} (nonempty : lines ≠ [])
    (more : others ≠ []) :
    laidOut depth (withComma lines ++ others) =
      laidOut depth lines ++ "," ++ String.ofList (Json.lineBreak depth) ++ laidOut depth others := by
  rw [← laidOut_withComma depth nonempty, laidOut,
    String.intercalate_append_of_ne_nil (withComma_ne_nil nonempty) more]
  rfl

theorem laidOut_bracketed (depth : Nat) (opening closing : String) {lines : List String}
    (nonempty : lines ≠ []) :
    laidOut depth (opening :: lines ++ [closing]) =
      opening ++ String.ofList (Json.lineBreak depth) ++ laidOut depth lines ++
        String.ofList (Json.lineBreak depth) ++ closing := by
  rw [List.cons_append, laidOut, String.intercalate_cons_of_ne_nil (by simp),
    String.intercalate_append_of_ne_nil nonempty (by simp), String.intercalate_singleton]
  simp only [laidOut, String.append_assoc]

theorem blockLines_ne_nil {items : List Block} (nonempty : items ≠ []) : blockLines items ≠ [] := by
  cases items with
  | nil => exact absurd rfl nonempty
  | cons item rest =>
      have first := indent_ne_nil (lines_ne_nil item)
      cases rest <;> simp [blockLines, first, withComma_ne_nil first]

theorem memberLines_ne_nil {style : KeyStyle} {members : List (String × Block)}
    (nonempty : members ≠ []) : memberLines style members ≠ [] := by
  cases members with
  | nil => exact absurd rfl nonempty
  | cons member rest =>
      obtain ⟨key, value⟩ := member
      have first := keyed_ne_nil (keyText style key) value.lines
      cases rest <;> simp [memberLines, first, withComma_ne_nil first]

mutual
/-- The text of a block that stands at a depth. -/
def Block.chars (depth : Nat) : Block → List Char
  | .scalar scalar => scalar.spelling.toList
  | .list items =>
      if items.isEmpty then ['[', ']']
      else
        '[' :: Json.lineBreak (depth + 1) ++ blockChars (depth + 1) items ++
          Json.lineBreak depth ++ [']']
  | .record style members =>
      if members.isEmpty then ['{', '}']
      else
        '{' :: Json.lineBreak (depth + 1) ++ memberChars (depth + 1) style members ++
          Json.lineBreak depth ++ ['}']

def blockChars (depth : Nat) : List Block → List Char
  | [] => []
  | item :: [] => item.chars depth
  | item :: rest => item.chars depth ++ ',' :: Json.lineBreak depth ++ blockChars depth rest

def memberChars (depth : Nat) (style : KeyStyle) : List (String × Block) → List Char
  | [] => []
  | (key, value) :: [] => (keyText style key).toList ++ ':' :: ' ' :: value.chars depth
  | (key, value) :: rest =>
      (keyText style key).toList ++ ':' :: ' ' :: value.chars depth ++
        ',' :: Json.lineBreak depth ++ memberChars depth style rest
end

theorem chars_bracketed {depth : Nat} {opening closing : Char} {inner : List Char}
    {lines : List String} (nonempty : lines ≠ [])
    (same : margin ++ String.ofList inner = laidOut depth lines) :
    String.ofList (opening :: Json.lineBreak (depth + 1) ++ inner ++ Json.lineBreak depth ++ [closing]) =
      laidOut depth (String.singleton opening :: lines ++ [String.singleton closing]) := by
  rw [laidOut_bracketed depth _ _ nonempty, ← same]
  simp only [List.cons_append, String.ofList_cons, String.ofList_append, String.ofList_nil,
    lineBreak_succ, String.append_assoc, String.append_empty]

mutual
theorem chars_laidOut : (depth : Nat) → (block : Block) →
    String.ofList (block.chars depth) = laidOut depth block.lines
  | _, .scalar scalar => by simp [Block.chars, Block.lines, laidOut]
  | _, .list [] => rfl
  | depth, .list (item :: rest) =>
      chars_bracketed (blockLines_ne_nil (by simp)) (blockChars_laidOut depth (item :: rest) (by simp))
  | _, .record _ [] => rfl
  | depth, .record style (member :: rest) =>
      chars_bracketed (memberLines_ne_nil (by simp))
        (memberChars_laidOut depth style (member :: rest) (by simp))

theorem blockChars_laidOut : (depth : Nat) → (items : List Block) → items ≠ [] →
    margin ++ String.ofList (blockChars (depth + 1) items) = laidOut depth (blockLines items)
  | _, [], nonempty => absurd rfl nonempty
  | depth, item :: [], _ => by
      rw [blockChars, blockLines, laidOut_indent depth (lines_ne_nil _),
        chars_laidOut (depth + 1) item]
  | depth, item :: next :: rest, _ => by
      have first := chars_laidOut (depth + 1) item
      have others := blockChars_laidOut depth (next :: rest) (by simp)
      have indented := indent_ne_nil (lines_ne_nil item)
      have lines : blockLines (item :: next :: rest) =
          withComma (indent item.lines) ++ blockLines (next :: rest) := rfl
      have chars : blockChars (depth + 1) (item :: next :: rest) =
          item.chars (depth + 1) ++ ',' :: Json.lineBreak (depth + 1) ++
            blockChars (depth + 1) (next :: rest) := rfl
      rw [lines, chars, laidOut_following depth indented (blockLines_ne_nil (by simp)),
        laidOut_indent depth (lines_ne_nil _), ← first, ← others]
      simp only [String.ofList_append, String.ofList_cons, lineBreak_succ, String.append_assoc]
      rfl

theorem memberChars_laidOut : (depth : Nat) → (style : KeyStyle) →
    (members : List (String × Block)) → members ≠ [] →
      margin ++ String.ofList (memberChars (depth + 1) style members) =
        laidOut depth (memberLines style members)
  | _, _, [], nonempty => absurd rfl nonempty
  | depth, style, (key, value) :: [], _ => by
      have first := chars_laidOut (depth + 1) value
      rw [memberChars, memberLines, laidOut_keyed depth _ (lines_ne_nil _), ← first]
      simp only [String.ofList_append, String.ofList_cons, String.ofList_toList, String.append_assoc]
      rfl
  | depth, style, (key, value) :: next :: rest, _ => by
      have first := chars_laidOut (depth + 1) value
      have others := memberChars_laidOut depth style (next :: rest) (by simp)
      have following : memberLines style (next :: rest) ≠ [] := memberLines_ne_nil (by simp)
      have lines : memberLines style ((key, value) :: next :: rest) =
          withComma (keyed (keyText style key) value.lines) ++ memberLines style (next :: rest) := rfl
      have chars : memberChars (depth + 1) style ((key, value) :: next :: rest) =
          (keyText style key).toList ++ ':' :: ' ' :: value.chars (depth + 1) ++
            ',' :: Json.lineBreak (depth + 1) ++ memberChars (depth + 1) style (next :: rest) := rfl
      rw [lines, chars, laidOut_following depth (keyed_ne_nil _ _) following,
        laidOut_keyed depth _ (lines_ne_nil _), ← first, ← others]
      simp only [String.ofList_append, String.ofList_cons, String.ofList_toList, lineBreak_succ,
        String.append_assoc]
      rfl
end

theorem Block.joinLines_lines (block : Block) :
    joinLines block.lines = String.ofList (block.chars 0) :=
  (chars_laidOut 0 block).symm

/-! Values. -/

mutual
def ofValue : Json.Value → Block
  | .null => .scalar (.word "null")
  | .bool flag => .scalar (.word (Json.boolText flag))
  | .number value => .scalar (.number value)
  | .string text => .scalar (.string text)
  | .array items => .list (ofValues items)
  | .object members => .record .quoted (ofMembers members)

def ofValues : List Json.Value → List Block
  | [] => []
  | item :: rest => ofValue item :: ofValues rest

def ofMembers : List (String × Json.Value) → List (String × Block)
  | [] => []
  | (key, value) :: rest => (key, ofValue value) :: ofMembers rest
end

mutual
theorem prettyChars_eq (depth : Nat) : (value : Json.Value) →
    Json.prettyChars depth value = (ofValue value).chars depth
  | .null => rfl
  | .bool _ => rfl
  | .number _ => rfl
  | .string _ => String.toList_ofList.symm
  | .array [] => rfl
  | .array (item :: rest) => by
      have inner := prettyItems_eq (depth + 1) (item :: rest)
      simp [Json.prettyChars, ofValue, Block.chars, inner, ofValues]
  | .object [] => rfl
  | .object (member :: rest) => by
      have inner := prettyMembers_eq (depth + 1) (member :: rest)
      simp [Json.prettyChars, ofValue, Block.chars, inner, ofMembers]

theorem prettyItems_eq (depth : Nat) : (items : List Json.Value) →
    Json.prettyItems depth items = blockChars depth (ofValues items)
  | [] => rfl
  | item :: [] => prettyChars_eq depth item
  | item :: next :: rest => by
      have first := prettyChars_eq depth item
      have others := prettyItems_eq depth (next :: rest)
      simp only [Json.prettyItems, ofValues, blockChars, first, others]

theorem prettyMembers_eq (depth : Nat) : (members : List (String × Json.Value)) →
    Json.prettyMembers depth members = memberChars depth .quoted (ofMembers members)
  | [] => rfl
  | (key, value) :: [] => by
      have first := prettyChars_eq depth value
      simp [Json.prettyMembers, ofMembers, memberChars, first, keyText, stringLiteral, Json.literal]
  | (key, value) :: next :: rest => by
      have first := prettyChars_eq depth value
      have others := prettyMembers_eq depth (next :: rest)
      simp [Json.prettyMembers, ofMembers, memberChars, first, others, keyText, stringLiteral,
        Json.literal]
end

/-- The pretty text of a value is the literal of its block. -/
theorem pretty_eq (value : Json.Value) : value.pretty = joinLines (ofValue value).lines := by
  rw [Json.Value.pretty, prettyChars_eq, Block.joinLines_lines]

theorem lines_joinLines {lines : List String} (unbroken : ∀ line ∈ lines, Unbroken line) :
    Text.lines (joinLines lines) = lines := by
  refine Text.lines_intercalate ?_ ?_
  · intro line member
    exact ⟨(unbroken line member).noFeed, (unbroken line member).noReturn⟩
  · intro last
    exact (unbroken "" (List.mem_of_getLast? last)).nonempty rfl

section

variable {lexicon : Lexicon}

theorem Block.lines_joinLines {block : Block} (valid : block.Valid lexicon) :
    Text.lines (joinLines block.lines) = block.lines :=
  Script.lines_joinLines (block.lexes valid).unbroken

theorem valid_constant {letters : String} (constant : (constants.lookup letters).isSome = true) :
    Block.Valid lexicon (.scalar (.word letters)) := by
  obtain ⟨entry, member, same⟩ := List.lookup_isSome_iff.mp constant
  obtain rfl := eq_of_beq same
  exact ⟨lexicon.constants_spelled entry member, by simp [Lexicon.isValue, constant]⟩

mutual
theorem valid_ofValue : (value : Json.Value) → (ofValue value).Valid lexicon
  | .null => valid_constant (by decide)
  | .bool false => valid_constant (by decide)
  | .bool true => valid_constant (by decide)
  | .number _ => ⟨trivial, rfl⟩
  | .string _ => ⟨trivial, rfl⟩
  | .array items => valid_ofValues items
  | .object members => valid_ofMembers members

theorem valid_ofValues : (items : List Json.Value) → BlocksValid lexicon (ofValues items)
  | [] => trivial
  | item :: rest => ⟨valid_ofValue item, valid_ofValues rest⟩

theorem valid_ofMembers : (members : List (String × Json.Value)) →
    MembersValid lexicon .quoted (ofMembers members)
  | [] => trivial
  | (_, value) :: rest => ⟨trivial, valid_ofValue value, valid_ofMembers rest⟩
end

end

mutual
def Data.ofJson : Json.Value → Data
  | .null => .null
  | .bool value => .flag value
  | .number value => .number value
  | .string value => .text value
  | .array items => .list (Data.ofItems items)
  | .object members => .record (Data.ofMembers members)

def Data.ofItems : List Json.Value → List Data
  | [] => []
  | item :: rest => Data.ofJson item :: Data.ofItems rest

def Data.ofMembers : List (String × Json.Value) → List (String × Data)
  | [] => []
  | (key, value) :: rest => (key, Data.ofJson value) :: Data.ofMembers rest
end

mutual
theorem data_ofValue : (value : Json.Value) → (ofValue value).data = .ofJson value
  | .null => rfl
  | .bool false => rfl
  | .bool true => rfl
  | .number _ => rfl
  | .string _ => rfl
  | .array items => congrArg Data.list (data_ofValues items)
  | .object members => congrArg Data.record (data_ofMembers members)

theorem data_ofValues : (items : List Json.Value) →
    blockData (ofValues items) = Data.ofItems items
  | [] => rfl
  | item :: rest => by
      rw [ofValues, blockData, data_ofValue item, data_ofValues rest, Data.ofItems]

theorem data_ofMembers : (members : List (String × Json.Value)) →
    memberData (ofMembers members) = Data.ofMembers members
  | [] => rfl
  | (key, value) :: rest => by
      rw [ofMembers, memberData, data_ofValue value, data_ofMembers rest, Data.ofMembers]
end

theorem lines_pretty (value : Json.Value) : Text.lines value.pretty = (ofValue value).lines := by
  rw [pretty_eq, Block.lines_joinLines (@valid_ofValue .generated value)]

/-! Terms and objects. -/

mutual
def Term.block : Term → Block
  | .string text => .scalar (.string text)
  | .raw code => .scalar (.word code)
  | .json value => ofValue value
  | .list items => .list (itemBlocks items)

def Object.block : Object → Block
  | .mk style properties => .record style (propertyBlocks properties)

def propertyBlocks : List (String × Term) → List (String × Block)
  | [] => []
  | (key, term) :: rest => (key, term.block) :: propertyBlocks rest

def itemBlocks : List Object → List Block
  | [] => []
  | item :: rest => item.block :: itemBlocks rest
end

mutual
theorem Term.lines_eq : (term : Term) → term.lines = term.block.lines
  | .string _ => rfl
  | .raw _ => rfl
  | .json value => lines_pretty value
  | .list [] => rfl
  | .list (item :: rest) => by
      have inner := itemLines_eq (item :: rest)
      simp [Term.lines, Term.block, Block.lines, itemBlocks, inner]

theorem Object.lines_eq : (object : Object) → object.lines = object.block.lines
  | .mk _ [] => rfl
  | .mk style ((key, term) :: rest) => by
      have inner := propertyLines_eq style ((key, term) :: rest)
      simp [Object.lines, Object.block, Block.lines, propertyBlocks, inner]

theorem propertyLines_eq (style : KeyStyle) : (properties : List (String × Term)) →
    propertyLines style properties = memberLines style (propertyBlocks properties)
  | [] => rfl
  | (key, term) :: [] => by
      simp [propertyLines, propertyBlocks, memberLines, term.lines_eq]
  | (key, term) :: next :: rest => by
      have first := term.lines_eq
      have others := propertyLines_eq style (next :: rest)
      simp [propertyLines, propertyBlocks, memberLines, first, others]

theorem itemLines_eq : (items : List Object) → itemLines items = blockLines (itemBlocks items)
  | [] => rfl
  | item :: [] => by
      simp [itemLines, itemBlocks, blockLines, item.lines_eq]
  | item :: next :: rest => by
      have first := item.lines_eq
      have others := itemLines_eq (next :: rest)
      simp [itemLines, itemBlocks, blockLines, first, others]
end

end RouteForge.Script
