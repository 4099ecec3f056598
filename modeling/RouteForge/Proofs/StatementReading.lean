import RouteForge.Proofs.CodeText
import RouteForge.Proofs.LiteralLayout
import RouteForge.Script.SourceFile

/-!
The sections of a script read as their statements. Comments and blank lines read as none.
-/

namespace RouteForge.Script

open Code (Fragment fragmentsText)
open Lexicon (generated)

structure States (input : List Token) (statement : Statement) : Prop where
  nonempty : input ≠ []
  reads : ∀ rest, readStatement (input ++ rest) = some (statement, rest)

theorem readStatements_flatten {pieces : List (List Token)} {statements : List Statement}
    (states : List.Forall₂ States pieces statements) (fuel : Nat)
    (enough : pieces.flatten.length ≤ fuel) :
    readStatements fuel pieces.flatten = some statements := by
  induction states generalizing fuel with
  | nil => cases fuel <;> rfl
  | @cons piece statement pieces statements state _ ih =>
      obtain ⟨token, others, shape⟩ := List.exists_cons_of_ne_nil state.nonempty
      rw [List.flatten_cons, List.length_append, shape, List.length_cons] at enough
      obtain ⟨fuel, rfl⟩ : ∃ less, fuel = less + 1 := ⟨fuel - 1, by omega⟩
      have first := state.reads pieces.flatten
      rw [shape, List.cons_append] at first
      rw [List.flatten_cons, shape, List.cons_append, readStatements]
      · simp [first, ih fuel (by omega)]
      · simp

theorem states_import {name : String} (free : isReserved name = false) (specifier : String) :
    States [word "import", word name, word "from", .scalar (.string specifier), .mark ';']
      (.importDefault name specifier) :=
  ⟨by simp, fun rest => by simp [readStatement, word, free]⟩

theorem states_constant {name : String} (free : isReserved name = false) {block : Block}
    (valid : block.Valid generated) :
    States ([word "export", word "const", word name, .mark '='] ++ block.tokens ++ [.mark ';'])
      (.constant name block.data) := by
  refine ⟨by simp, fun rest => ?_⟩
  have value := (@readsWith generated (block.tokens ++ .mark ';' :: rest).length).value block
    (.mark ';' :: rest) valid (by simp)
  simp only [List.length_append, List.length_cons] at value
  simp [readStatement, word, free, value]

/-! Texts of whole lines. -/

/-- A text that reads as the given tokens, and whose end nothing that follows can run into. -/
def Page (text : String) (read : List Token) : Prop :=
  ∀ rest, generated.tokens (text.toList ++ rest) = (generated.tokens rest).map (read ++ ·)

theorem page_empty : Page "" [] := by
  intro rest
  simp

theorem Page.append {first second : String} {firstRead secondRead : List Token}
    (page : Page first firstRead) (next : Page second secondRead) :
    Page (first ++ second) (firstRead ++ secondRead) := by
  intro rest
  rw [String.toList_append, List.append_assoc, page, next, Option.map_map]
  simp [Function.comp_def]

theorem page_line {line : String} {read : List Token} (reads : generated.Reads line.toList read) :
    Page (Code.lineText 0 line) read := by
  intro rest
  have ended := reads ('\n' :: rest) (Lexicon.stopsAt_special '\n' rest (by decide))
  rw [Lexicon.tokens_space rfl] at ended
  simpa [Code.lineText, Code.Builder.margin] using ended

theorem page_blank : Page "\n" [] := by
  intro rest
  simpa using @Lexicon.tokens_space generated '\n' rfl rest

theorem page_comment {text : String} (unbroken : '\n' ∉ text.toList) :
    Page (Code.lineText 0 (Code.commentText text)) [] := by
  intro rest
  have spaced : '\n' ∉ ' ' :: text.toList := by simp [unbroken]
  have passed := @Lexicon.tokens_comment generated _ spaced rest
  simpa [Code.lineText, Code.Builder.margin, Code.commentText] using passed

theorem page_lines {lines : List String} {read : List Token}
    (lexes : generated.Lexes lines read) :
    Page (fragmentsText 0 (lines.map .line)) read := by
  induction lexes with
  | nil => exact page_empty
  | cons _ reads _ ih => exact (page_line reads).append ih

/-! Fragments that mean statements. -/

/-- Fragments whose text is cut into the tokens of the given statements. -/
def Means (fragments : List Fragment) (statements : List Statement) : Prop :=
  ∃ pieces, Page (fragmentsText 0 fragments) pieces.flatten ∧
    List.Forall₂ States pieces statements

theorem means_nothing {fragments : List Fragment} (page : Page (fragmentsText 0 fragments) []) :
    Means fragments [] :=
  ⟨[], page, .nil⟩

theorem means_statement {fragments : List Fragment} {read : List Token} {statement : Statement}
    (page : Page (fragmentsText 0 fragments) read) (states : States read statement) :
    Means fragments [statement] :=
  ⟨[read], by simpa using page, .cons states .nil⟩

theorem Means.append {first second : List Fragment} {statements others : List Statement}
    (means : Means first statements) (next : Means second others) :
    Means (first ++ second) (statements ++ others) := by
  obtain ⟨pieces, page, states⟩ := means
  obtain ⟨more, following, statesNext⟩ := next
  refine ⟨pieces ++ more, ?_, List.rel_append states statesNext⟩
  rw [Code.fragmentsText_append, List.flatten_append]
  exact page.append following

theorem means_comments {comments : List String}
    (unbroken : ∀ text ∈ comments, '\n' ∉ text.toList) :
    Means (comments.map Fragment.comment) [] := by
  refine means_nothing ?_
  induction comments with
  | nil => exact page_empty
  | cons text rest ih =>
      rw [List.forall_mem_cons] at unbroken
      exact (page_comment unbroken.1).append (ih unbroken.2)

theorem means_import {name : String} (named : generated.IsName name.toList)
    (free : isReserved name = false) (specifier : String) :
    Means (Import.ofDefault specifier name).fragments [.importDefault name specifier] := by
  have keywords : generated.IsName "import".toList ∧ generated.IsName "from".toList := by
    decide +kernel
  have source := Lexicon.reads_scalar (show generated.Spells (.string specifier) from trivial)
  have reads := ((Lexicon.reads_word keywords.1).spaced ((Lexicon.reads_word named).spaced
    ((Lexicon.reads_word keywords.2).spaced source))).marked ';' (by decide)
  have letters : (Import.ofDefault specifier name).text.toList =
      "import".toList ++ ' ' :: (name.toList ++ ' ' :: ("from".toList ++ ' ' ::
        (Scalar.string specifier).spelling.toList)) ++ [';'] := by
    simp [Import.text, Import.clause, Import.ofDefault, Scalar.spelling]
  rw [← letters] at reads
  refine means_statement ?_ (states_import free specifier)
  exact (page_line reads).append page_empty

theorem means_constant {name : String} (named : generated.IsName name.toList)
    (free : isReserved name = false) {block : Block} (valid : block.Valid generated) :
    Means (Constant.fragments ⟨name, joinLines block.lines, true⟩) [.constant name block.data] := by
  have keywords : generated.IsName "export".toList ∧ generated.IsName "const".toList := by
    decide +kernel
  have nonempty := lines_ne_nil block
  have lead : generated.Reads ("export const " ++ name ++ " =").toList
      [word "export", word "const", word name, .mark '='] := by
    have equals : generated.Reads ['='] [.mark '='] := Lexicon.reads_mark (by decide)
    have reads := (Lexicon.reads_word keywords.1).spaced
      ((Lexicon.reads_word keywords.2).spaced ((Lexicon.reads_word named).spaced equals))
    simpa using reads
  have unbroken : Unbroken ("export const " ++ name ++ " =") := by
    have start : Unbroken "export const " := ⟨by decide, by decide, by decide⟩
    have unbroken := Lexicon.unbroken_of_isName named
    exact (start.append unbroken.noFeed unbroken.noReturn).append (by decide) (by decide)
  have lexes := ((block.lexes valid).led nonempty unbroken lead).appendToLast (by simp)
    (show ";".toList = [';'] from rfl) (by decide)
  refine means_statement ?_ (states_constant free valid)
  have page := page_lines lexes
  simpa [Constant.fragments, Block.lines_joinLines valid, String.append_assoc] using page

/-! Sections. -/

inductive SectionsMean : List (List Fragment) → List Statement → Prop where
  | nil : SectionsMean [] []
  | cons {first : List Fragment} {rest : List (List Fragment)} {statements others : List Statement}
      (means : Means first statements) (next : SectionsMean rest others) :
      SectionsMean (first :: rest) (statements ++ others)

namespace SectionsMean

variable {first second sections : List (List Fragment)} {statements others : List Statement}

theorem append (mean : SectionsMean first statements) (next : SectionsMean second others) :
    SectionsMean (first ++ second) (statements ++ others) := by
  induction mean with
  | nil => exact next
  | cons means _ ih =>
      rw [List.cons_append, List.append_assoc]
      exact .cons means ih

theorem single {fragments : List Fragment} (means : Means fragments statements) :
    SectionsMean [fragments] statements := by
  have mean := SectionsMean.cons means .nil
  rw [List.append_nil] at mean
  exact mean

theorem sectionIf {present : Bool} {fragments : List Fragment} (means : Means fragments statements)
    (absent : present = false → statements = []) :
    SectionsMean (SourceFile.sectionIf present fragments) statements := by
  cases present with
  | false =>
      rw [absent rfl]
      exact .nil
  | true => exact single means

theorem separated (mean : SectionsMean sections statements) :
    Means (SourceFile.separated sections) statements := by
  induction mean with
  | nil => exact means_nothing page_empty
  | @cons first rest statements others means next ih =>
      cases next with
      | nil =>
          rw [SourceFile.separated, List.append_nil]
          exact means
      | @cons second rest next following means' next' =>
          have blank : Means [Fragment.blank] [] :=
            means_nothing (page_blank.append page_empty)
          have rest := blank.append ih
          rw [SourceFile.separated]
          · exact means.append rest
          · simp

end SectionsMean

theorem read_of_means {fragments : List Fragment} {statements : List Statement}
    (means : Means fragments statements) :
    read (Code.render fragments) = some statements := by
  obtain ⟨pieces, page, states⟩ := means
  have cut := page []
  rw [List.append_nil, Lexicon.tokens_nil, Option.map_some, List.append_nil] at cut
  rw [read, Code.render_eq, cut]
  exact readStatements_flatten states _ (Nat.le_refl _)

end RouteForge.Script
