import RouteForge.Proofs.ScriptReader
import RouteForge.Script.Statement

/-!
Literals as trees of scalars. The layout of a tree reads as its tokens, and its tokens as its value.
-/

namespace RouteForge.Script

open Json (StopsAt)

/-! Lines. -/

/-- A line that is one line of a text, and not the empty one at its end. -/
structure Unbroken (line : String) : Prop where
  nonempty : line ≠ ""
  noFeed : '\n' ∉ line.toList
  noReturn : '\r' ∉ line.toList

theorem Unbroken.append {first second : String} (unbroken : Unbroken first)
    (noFeed : '\n' ∉ second.toList) (noReturn : '\r' ∉ second.toList) :
    Unbroken (first ++ second) := by
  refine ⟨?_, ?_, ?_⟩
  · intro empty
    exact unbroken.nonempty (String.append_eq_empty_iff.mp empty).1
  · simp [unbroken.noFeed, noFeed]
  · simp [unbroken.noReturn, noReturn]

theorem unbroken_margin : Unbroken margin :=
  ⟨by decide, by decide, by decide⟩

theorem withComma_eq (lines : List String) : withComma lines = Constant.appendToLast "," lines := by
  fun_induction withComma lines <;> simp_all [Constant.appendToLast]

/-! Blocks. -/

def Scalar.spelling : Scalar → String
  | .word letters => letters
  | .string text => stringLiteral text
  | .number value => value.text

inductive Block where
  | scalar (scalar : Scalar)
  | list (items : List Block)
  | record (style : KeyStyle) (members : List (String × Block))

def keyScalar (style : KeyStyle) (key : String) : Scalar :=
  match style with
  | .bare => .word key
  | .quoted => .string key

mutual
def Block.lines : Block → List String
  | .scalar scalar => [scalar.spelling]
  | .list items => if items.isEmpty then ["[]"] else "[" :: blockLines items ++ ["]"]
  | .record style members =>
      if members.isEmpty then ["\x7b\x7d"] else "\x7b" :: memberLines style members ++ ["\x7d"]

def blockLines : List Block → List String
  | [] => []
  | item :: [] => indent item.lines
  | item :: rest => withComma (indent item.lines) ++ blockLines rest

def memberLines (style : KeyStyle) : List (String × Block) → List String
  | [] => []
  | (key, value) :: [] => keyed (keyText style key) value.lines
  | (key, value) :: rest =>
      withComma (keyed (keyText style key) value.lines) ++ memberLines style rest
end

mutual
def Block.tokens : Block → List Token
  | .scalar scalar => [.scalar scalar]
  | .list items => .mark '[' :: blockTokens items ++ [.mark ']']
  | .record style members => .mark '{' :: memberTokens style members ++ [.mark '}']

def blockTokens : List Block → List Token
  | [] => []
  | item :: [] => item.tokens
  | item :: rest => item.tokens ++ .mark ',' :: blockTokens rest

def memberTokens (style : KeyStyle) : List (String × Block) → List Token
  | [] => []
  | (key, value) :: [] => .scalar (keyScalar style key) :: .mark ':' :: value.tokens
  | (key, value) :: rest =>
      .scalar (keyScalar style key) :: .mark ':' :: value.tokens ++
        .mark ',' :: memberTokens style rest
end

mutual
def Block.data : Block → Data
  | .scalar scalar => scalar.data
  | .list items => .list (blockData items)
  | .record _ members => .record (memberData members)

def blockData : List Block → List Data
  | [] => []
  | item :: rest => item.data :: blockData rest

def memberData : List (String × Block) → List (String × Data)
  | [] => []
  | (key, value) :: rest => (key, value.data) :: memberData rest
end

theorem keyText_eq (style : KeyStyle) (key : String) :
    keyText style key = (keyScalar style key).spelling := by
  cases style <;> rfl

theorem lines_ne_nil (block : Block) : block.lines ≠ [] := by
  cases block with
  | scalar scalar => simp [Block.lines]
  | list items => rw [Block.lines]; split <;> simp
  | record style members => rw [Block.lines]; split <;> simp

theorem withComma_ne_nil {lines : List String} (nonempty : lines ≠ []) : withComma lines ≠ [] := by
  cases lines with
  | nil => exact absurd rfl nonempty
  | cons line rest => cases rest <;> simp [withComma]

theorem indent_ne_nil {lines : List String} (nonempty : lines ≠ []) : indent lines ≠ [] := by
  simp [indent, nonempty]

theorem keyed_ne_nil (key : String) (lines : List String) : keyed key lines ≠ [] := by
  simp [keyed, indent]

theorem unbroken_stringLiteral (text : String) : Unbroken (stringLiteral text) := by
  have literal : (stringLiteral text).toList = Json.literalChars text.toList :=
    String.toList_ofList
  have visible (char : Char) (control : Json.isControl char = true) :
      char ∉ Json.literalChars text.toList := by
    intro member
    have shown := Json.visible_literal text.toList char member
    rw [control] at shown
    exact absurd shown (by decide)
  refine ⟨?_, ?_, ?_⟩
  · intro empty
    rw [empty] at literal
    simp [Json.literalChars] at literal
  · rw [literal]
    exact visible '\n' rfl
  · rw [literal]
    exact visible '\r' rfl

theorem unbroken_number (number : Json.Number) : Unbroken number.text := by
  have visible (char : Char) (other : ¬Json.IsNumberChar char) : char ∉ number.text.toList :=
    fun member => other (Json.number_text_chars number char member)
  refine ⟨?_, visible '\n' (by decide), visible '\r' (by decide)⟩
  obtain ⟨negative, digits, back⟩ := Json.exists_readsBack number
  obtain ⟨first, rest, shape, _⟩ := back.start
  intro empty
  have text := back.text
  rw [empty, shape] at text
  simp at text

theorem unbroken_of_marks {line : String} (nonempty : line ≠ "")
    (spelled : ∀ char ∈ line.toList, char ∈ marks) : Unbroken line := by
  have breaks : '\n' ∉ marks ∧ '\r' ∉ marks := by decide
  exact ⟨nonempty, fun member => breaks.1 (spelled _ member),
    fun member => breaks.2 (spelled _ member)⟩

namespace Lexicon

/-- Lines that read as the given tokens, whatever blanks stand between and before them. -/
inductive Lexes (lexicon : Lexicon) : List String → List Token → Prop where
  | nil : Lexes lexicon [] []
  | cons {line : String} {rest : List String} {first others : List Token}
      (unbroken : Unbroken line) (reads : lexicon.Reads line.toList first)
      (next : Lexes lexicon rest others) : Lexes lexicon (line :: rest) (first ++ others)

variable {lexicon : Lexicon}

theorem continuesToken_special (char : Char) (special : char ∈ specials) :
    lexicon.continuesToken char = false := by
  have noNumber : specials.any Json.continuesNumber = false := by decide
  rw [continuesToken, lexicon.continues_special char special, Bool.false_or]
  simpa using List.any_eq_false.mp noNumber char special

theorem stopsAt_special (char : Char) (rest : List Char) (special : char ∈ specials) :
    StopsAt lexicon.continuesToken (char :: rest) := by
  intro next same
  obtain rfl := Option.some.inj same
  exact continuesToken_special char special

theorem Reads.spaced {first second : List Char} {firstRead secondRead : List Token}
    (reads : lexicon.Reads first firstRead) (readsNext : lexicon.Reads second secondRead) :
    lexicon.Reads (first ++ ' ' :: second) (firstRead ++ secondRead) :=
  reads.append (stopsAt_special ' ' second (by decide)) (readsNext.space rfl)

theorem Reads.marked {chars : List Char} {read : List Token} (reads : lexicon.Reads chars read)
    (char : Char) (member : char ∈ marks) :
    lexicon.Reads (chars ++ [char]) (read ++ [.mark char]) :=
  reads.append (stopsAt_special char [] (List.mem_append_left _ member)) (reads_mark member)

namespace Lexes

variable {first second lines : List String} {firstRead secondRead read : List Token}

theorem single {line : String} (unbroken : Unbroken line) (reads : lexicon.Reads line.toList read) :
    lexicon.Lexes [line] read := by
  have lexes := Lexes.cons unbroken reads .nil
  rw [List.append_nil] at lexes
  exact lexes

theorem append (lexes : lexicon.Lexes first firstRead) (next : lexicon.Lexes second secondRead) :
    lexicon.Lexes (first ++ second) (firstRead ++ secondRead) := by
  induction lexes with
  | nil => exact next
  | cons unbroken reads _ ih =>
      rw [List.cons_append, List.append_assoc]
      exact .cons unbroken reads ih

theorem unbroken (lexes : lexicon.Lexes lines read) : ∀ line ∈ lines, Unbroken line := by
  induction lexes with
  | nil => simp
  | cons unbroken _ _ ih => exact List.forall_mem_cons.mpr ⟨unbroken, ih⟩

theorem indent (lexes : lexicon.Lexes lines read) : lexicon.Lexes (Script.indent lines) read := by
  induction lexes with
  | nil => exact .nil
  | cons unbroken reads _ ih =>
      have wider := unbroken_margin.append unbroken.noFeed unbroken.noReturn
      have blank : Json.isSpace ' ' = true := rfl
      refine .cons wider ?_ ih
      rw [String.toList_append]
      exact (reads.space blank).space blank

/-- Lines read one by one as they do in one text. -/
theorem reads (lexes : lexicon.Lexes lines read) : lexicon.Reads (joinLines lines).toList read := by
  induction lexes with
  | nil =>
      intro rest _
      simp [joinLines]
  | cons _ reads next ih =>
      cases next with
      | nil => simpa [joinLines] using reads
      | @cons following others _ _ _ _ _ =>
          have whole := reads.append (stopsAt_special '\n' _ (by decide)) (ih.space rfl)
          simpa [joinLines] using whole

theorem appendToLast (lexes : lexicon.Lexes lines read) (nonempty : lines ≠ []) {suffix : String}
    {char : Char} (spelled : suffix.toList = [char]) (member : char ∈ marks) :
    lexicon.Lexes (Constant.appendToLast suffix lines) (read ++ [.mark char]) := by
  have breaks : '\n' ∉ marks ∧ '\r' ∉ marks := by decide
  have noFeed : '\n' ∉ suffix.toList := by
    rw [spelled, List.mem_singleton]
    exact fun same => breaks.1 (same ▸ member)
  have noReturn : '\r' ∉ suffix.toList := by
    rw [spelled, List.mem_singleton]
    exact fun same => breaks.2 (same ▸ member)
  induction lexes with
  | nil => exact absurd rfl nonempty
  | cons unbroken reads next ih =>
      cases next with
      | nil =>
          rw [Constant.appendToLast, List.append_nil]
          refine single (unbroken.append noFeed noReturn) ?_
          rw [String.toList_append, spelled]
          exact reads.marked char member
      | cons unbrokenNext readsNext following =>
          rw [Constant.appendToLast, List.append_assoc]
          · exact .cons unbroken reads (ih (by simp))
          · simp

theorem withComma (lexes : lexicon.Lexes lines read) (nonempty : lines ≠ []) :
    lexicon.Lexes (Script.withComma lines) (read ++ [.mark ',']) := by
  rw [withComma_eq]
  exact lexes.appendToLast nonempty rfl (by decide)

theorem led {lead : String} {leadRead : List Token} (lexes : lexicon.Lexes lines read)
    (nonempty : lines ≠ []) (unbroken : Unbroken lead) (reads : lexicon.Reads lead.toList leadRead) :
    lexicon.Lexes ((lead ++ " " ++ lines.headD "") :: lines.tail) (leadRead ++ read) := by
  cases lexes with
  | nil => exact absurd rfl nonempty
  | @cons line rest first others unbrokenFirst readsFirst next =>
      have whole : lexicon.Reads (lead ++ " " ++ line).toList (leadRead ++ first) := by
        rw [String.toList_append, String.toList_append, List.append_assoc]
        exact reads.spaced readsFirst
      have unbrokenWhole : Unbroken (lead ++ " " ++ line) :=
        (unbroken.append (by decide) (by decide)).append unbrokenFirst.noFeed unbrokenFirst.noReturn
      rw [← List.append_assoc]
      exact cons unbrokenWhole whole next

theorem keyed {key : String} {keyRead : List Token} (lexes : lexicon.Lexes lines read)
    (nonempty : lines ≠ []) (unbroken : Unbroken key) (reads : lexicon.Reads key.toList keyRead) :
    lexicon.Lexes (Script.keyed key lines) (keyRead ++ .mark ':' :: read) := by
  have colon : lexicon.Reads (key ++ ":").toList (keyRead ++ [.mark ':']) := by
    rw [String.toList_append]
    exact reads.marked ':' (by decide)
  have lexes := lexes.led nonempty (unbroken.append (by decide) (by decide)) colon
  have first : key ++ ": " ++ lines.headD "" = key ++ ":" ++ " " ++ lines.headD "" := by
    simp only [String.append_assoc]
    rfl
  rw [List.append_assoc] at lexes
  rw [Script.keyed, first]
  exact lexes.indent

end Lexes

variable (lexicon) in
def Spells : Scalar → Prop
  | .word letters => lexicon.IsName letters.toList
  | _ => True

/-! The lines of a block read as its tokens. -/

theorem reads_scalar {scalar : Scalar} (spelled : lexicon.Spells scalar) :
    lexicon.Reads scalar.spelling.toList [.scalar scalar] := by
  cases scalar with
  | word letters => exact reads_word spelled
  | string text =>
      have literal : (Scalar.string text).spelling.toList = Json.literalChars text.toList :=
        String.toList_ofList
      rw [literal]
      exact reads_string text
  | number value => exact reads_number value

theorem unbroken_of_isName {letters : String} (named : lexicon.IsName letters.toList) :
    Unbroken letters := by
  obtain ⟨first, rest, shape, starts, continues⟩ := named
  have visible (char : Char) (special : char ∈ specials) : char ∉ letters.toList := by
    intro member
    rw [shape, List.mem_cons] at member
    rcases member with rfl | member
    · rw [lexicon.starts_special char special] at starts
      exact absurd starts (by decide)
    · have more := continues char member
      rw [lexicon.continues_special char special] at more
      exact absurd more (by decide)
  refine ⟨?_, visible '\n' (by decide), visible '\r' (by decide)⟩
  rintro rfl
  simp at shape

theorem unbroken_spelling {scalar : Scalar} (spelled : lexicon.Spells scalar) :
    Unbroken scalar.spelling := by
  cases scalar with
  | word letters => exact unbroken_of_isName spelled
  | string text => exact unbroken_stringLiteral text
  | number value => exact unbroken_number value

theorem lexes_mark (char : Char) {line : String} (spelled : line.toList = [char])
    (member : char ∈ marks) : lexicon.Lexes [line] [.mark char] := by
  refine .single (unbroken_of_marks ?_ (by simpa [spelled] using member)) ?_
  · rintro rfl
    simp at spelled
  · rw [spelled]
    exact reads_mark member

theorem lexes_pair (first second : Char) {line : String} (spelled : line.toList = [first, second])
    (firstMark : first ∈ marks) (secondMark : second ∈ marks) :
    lexicon.Lexes [line] [.mark first, .mark second] := by
  have special : second ∈ specials := List.mem_append_left _ secondMark
  refine .single (unbroken_of_marks ?_ (by simp [spelled, firstMark, secondMark])) ?_
  · rintro rfl
    simp at spelled
  · rw [spelled]
    exact (reads_mark firstMark).append (stopsAt_special second [] special) (reads_mark secondMark)

theorem lexes_member {style : KeyStyle} {key : String} {value : Block}
    (spelled : lexicon.Spells (keyScalar style key)) (lexes : lexicon.Lexes value.lines value.tokens) :
    lexicon.Lexes (keyed (keyText style key) value.lines)
      (.scalar (keyScalar style key) :: .mark ':' :: value.tokens) := by
  rw [keyText_eq]
  exact lexes.keyed (lines_ne_nil value) (unbroken_spelling spelled) (reads_scalar spelled)

end Lexicon

variable {lexicon : Lexicon}

mutual
/-- Words are spelled as names of the lexicon, and those that are values are no other reserved
words. -/
def Block.Valid (lexicon : Lexicon) : Block → Prop
  | .scalar scalar => lexicon.Spells scalar ∧ lexicon.isValue scalar = true
  | .list items => BlocksValid lexicon items
  | .record style members => MembersValid lexicon style members

def BlocksValid (lexicon : Lexicon) : List Block → Prop
  | [] => True
  | item :: rest => item.Valid lexicon ∧ BlocksValid lexicon rest

def MembersValid (lexicon : Lexicon) (style : KeyStyle) : List (String × Block) → Prop
  | [] => True
  | (key, value) :: rest =>
      lexicon.Spells (keyScalar style key) ∧ value.Valid lexicon ∧
        MembersValid lexicon style rest
end

open Lexicon in
mutual
theorem Block.lexes : (block : Block) → block.Valid lexicon →
    lexicon.Lexes block.lines block.tokens
  | .scalar scalar, valid => by
      rw [Block.lines, Block.tokens]
      exact .single (unbroken_spelling valid.1) (reads_scalar valid.1)
  | .list [], _ => lexes_pair '[' ']' rfl (by decide) (by decide)
  | .list (item :: rest), valid => by
      have inner := blocks_lex (item :: rest) valid
      exact (((lexes_mark '[' rfl (by decide)).append inner).append (lexes_mark ']' rfl (by decide)))
  | .record _ [], _ => lexes_pair '{' '}' rfl (by decide) (by decide)
  | .record style (member :: rest), valid => by
      have inner := members_lex style (member :: rest) valid
      exact (((lexes_mark '{' rfl (by decide)).append inner).append (lexes_mark '}' rfl (by decide)))

theorem blocks_lex : (items : List Block) → BlocksValid lexicon items →
    lexicon.Lexes (blockLines items) (blockTokens items)
  | [], _ => .nil
  | item :: [], valid => by
      rw [blockLines, blockTokens]
      exact (item.lexes valid.1).indent
  | item :: next :: rest, valid => by
      have first := (item.lexes valid.1).indent.withComma (indent_ne_nil (lines_ne_nil item))
      have others := blocks_lex (next :: rest) valid.2
      have lexes := first.append others
      rw [List.append_assoc] at lexes
      exact lexes

theorem members_lex (style : KeyStyle) : (members : List (String × Block)) →
    MembersValid lexicon style members →
      lexicon.Lexes (memberLines style members) (memberTokens style members)
  | [], _ => .nil
  | (key, value) :: [], valid => by
      rw [memberLines, memberTokens]
      exact lexes_member valid.1 (value.lexes valid.2.1)
  | (key, value) :: next :: rest, valid => by
      have first := (lexes_member valid.1 (value.lexes valid.2.1)).withComma (keyed_ne_nil _ _)
      have others := members_lex style (next :: rest) valid.2.2
      have lexes := first.append others
      rw [List.append_assoc] at lexes
      exact lexes
end

/-! The tokens of a block read as its value. -/

theorem tokens_head (block : Block) :
    ∃ token rest, block.tokens = token :: rest ∧ token ≠ .mark ']' := by
  cases block with
  | scalar scalar => exact ⟨_, _, rfl, by simp⟩
  | list items => exact ⟨_, _, rfl, by simp⟩
  | record style members => exact ⟨_, _, rfl, by simp⟩

theorem blockTokens_head {items : List Block} (nonempty : items ≠ []) (rest : List Token) :
    (blockTokens items ++ rest).head? ≠ some (.mark ']') := by
  cases items with
  | nil => exact absurd rfl nonempty
  | cons item others =>
      obtain ⟨token, tail, shape, other⟩ := tokens_head item
      cases others <;> simp [blockTokens, shape, other]

theorem memberTokens_head {style : KeyStyle} {members : List (String × Block)}
    (nonempty : members ≠ []) (rest : List Token) :
    (memberTokens style members ++ rest).head? ≠ some (.mark '}') := by
  cases members with
  | nil => exact absurd rfl nonempty
  | cons member others =>
      obtain ⟨key, value⟩ := member
      cases others <;> simp [memberTokens]

theorem keyOf_keyScalar (style : KeyStyle) (key : String) :
    keyOf (keyScalar style key) = some key := by
  cases style <;> rfl

/-- What one unit of fuel more can read, from what the rest of the fuel reads. -/
structure ReadsWith (lexicon : Lexicon) (fuel : Nat) : Prop where
  value : ∀ (block : Block) rest, block.Valid lexicon → block.tokens.length ≤ fuel →
    lexicon.readValue fuel (block.tokens ++ rest) = some (block.data, rest)
  items : ∀ (items : List Block) rest, items ≠ [] → BlocksValid lexicon items →
    (blockTokens items).length < fuel →
      lexicon.readItems fuel (blockTokens items ++ .mark ']' :: rest) = some (blockData items, rest)
  members : ∀ style (members : List (String × Block)) rest, members ≠ [] →
    MembersValid lexicon style members → (memberTokens style members).length < fuel →
      lexicon.readMembers fuel (memberTokens style members ++ .mark '}' :: rest) =
        some (memberData members, rest)

theorem readValue_of_readsWith {fuel : Nat} (reads : ReadsWith lexicon fuel) (block : Block)
    (rest : List Token) (valid : block.Valid lexicon) (enough : block.tokens.length ≤ fuel + 1) :
    lexicon.readValue (fuel + 1) (block.tokens ++ rest) = some (block.data, rest) := by
  cases block with
  | scalar scalar => simp [Block.tokens, Block.data, Lexicon.readValue, valid.2]
  | list items =>
      by_cases empty : items = []
      · subst empty
        rfl
      · have shape : (Block.list items).tokens ++ rest =
            .mark '[' :: (blockTokens items ++ .mark ']' :: rest) := by
          simp [Block.tokens]
        have inner := reads.items items rest empty valid (by simp [Block.tokens] at enough; omega)
        rw [shape, Lexicon.readValue, if_neg (blockTokens_head empty _), inner]
        rfl
  | record style members =>
      by_cases empty : members = []
      · subst empty
        rfl
      · have shape : (Block.record style members).tokens ++ rest =
            .mark '{' :: (memberTokens style members ++ .mark '}' :: rest) := by
          simp [Block.tokens]
        have inner := reads.members style members rest empty valid
          (by simp [Block.tokens] at enough; omega)
        rw [shape, Lexicon.readValue, if_neg (memberTokens_head empty _), inner]
        rfl

theorem readItems_of_readsWith {fuel : Nat} (reads : ReadsWith lexicon fuel) (items : List Block)
    (rest : List Token) (nonempty : items ≠ []) (valid : BlocksValid lexicon items)
    (enough : (blockTokens items).length < fuel + 1) :
    lexicon.readItems (fuel + 1) (blockTokens items ++ .mark ']' :: rest) =
      some (blockData items, rest) := by
  cases items with
  | nil => exact absurd rfl nonempty
  | cons item others =>
      cases others with
      | nil =>
          have first := reads.value item (.mark ']' :: rest) valid.1 (Nat.le_of_lt_succ enough)
          simp [blockTokens, blockData, Lexicon.readItems, first]
      | cons next others =>
          have length : (blockTokens (item :: next :: others)).length =
              item.tokens.length + ((blockTokens (next :: others)).length + 1) := by
            rw [blockTokens, List.length_append, List.length_cons]
            simp
          have first := reads.value item
            (.mark ',' :: (blockTokens (next :: others) ++ .mark ']' :: rest)) valid.1 (by omega)
          have following := reads.items (next :: others) rest (by simp) valid.2 (by omega)
          rw [blockTokens, List.append_assoc, List.cons_append]
          · simp [Lexicon.readItems, first, following, blockData]
          · simp

theorem readMembers_of_readsWith {fuel : Nat} (reads : ReadsWith lexicon fuel) (style : KeyStyle)
    (members : List (String × Block)) (rest : List Token) (nonempty : members ≠ [])
    (valid : MembersValid lexicon style members)
    (enough : (memberTokens style members).length < fuel + 1) :
    lexicon.readMembers (fuel + 1) (memberTokens style members ++ .mark '}' :: rest) =
      some (memberData members, rest) := by
  cases members with
  | nil => exact absurd rfl nonempty
  | cons member others =>
      obtain ⟨key, value⟩ := member
      cases others with
      | nil =>
          have first := reads.value value (.mark '}' :: rest) valid.2.1
            (by simp [memberTokens] at enough; omega)
          simp [memberTokens, memberData, Lexicon.readMembers, keyOf_keyScalar, first]
      | cons next others =>
          have length : (memberTokens style ((key, value) :: next :: others)).length =
              value.tokens.length + 2 + ((memberTokens style (next :: others)).length + 1) := by
            rw [memberTokens, List.length_append, List.length_cons]
            · simp
            · simp
          have first := reads.value value
            (.mark ',' :: (memberTokens style (next :: others) ++ .mark '}' :: rest)) valid.2.1
            (by omega)
          have following := reads.members style (next :: others) rest (by simp) valid.2.2 (by omega)
          rw [memberTokens, List.append_assoc, List.cons_append]
          · simp [Lexicon.readMembers, keyOf_keyScalar, first, following, memberData]
          · simp

theorem readsWith (fuel : Nat) : ReadsWith lexicon fuel := by
  induction fuel with
  | zero =>
      refine ⟨?_, fun _ _ _ _ enough => absurd enough (Nat.not_lt_zero _),
        fun _ _ _ _ _ enough => absurd enough (Nat.not_lt_zero _)⟩
      intro block rest _ enough
      obtain ⟨token, tail, shape, _⟩ := tokens_head block
      rw [shape, List.length_cons] at enough
      omega
  | succ fuel ih =>
      exact ⟨readValue_of_readsWith ih, readItems_of_readsWith ih, readMembers_of_readsWith ih⟩

end RouteForge.Script
