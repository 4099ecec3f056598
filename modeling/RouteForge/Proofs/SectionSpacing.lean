import RouteForge.Proofs.ScriptLayout

/-!
The blank lines of a script file. A section stands in the file when anything was put into it, and one
blank line separates it from the next. Something may have been put into it that renders to nothing, an
export without a name or a node without fragments; the blank line is written all the same.
-/

namespace RouteForge

namespace Code

theorem Fragment.textAt_ne_empty (fragment : Fragment) (depth : Nat) :
    fragment.textAt depth ≠ "" := by
  cases fragment <;> simp [textAt, lineText, String.append_eq_empty_iff]

theorem render_eq_empty_iff (fragments : List Fragment) : render fragments = "" ↔ fragments = [] := by
  rw [render_eq]
  cases fragments with
  | nil => simp [fragmentsText]
  | cons fragment rest => simp [fragmentsText, fragment.textAt_ne_empty, String.append_eq_empty_iff]

end Code

namespace Script

open Code (Fragment)

theorem ended_eq_empty_iff (texts : List String) : ended texts = "" ↔ texts = [] := by
  cases texts with
  | nil => simp [ended]
  | cons text rest => simp [ended_cons, String.append_eq_empty_iff]

theorem length_intercalate (separator : String) (texts : List String) :
    (separator.intercalate texts).length =
      (texts.map String.length).sum + separator.length * (texts.length - 1) := by
  induction texts with
  | nil => simp
  | cons text rest ih =>
      cases rest with
      | nil => simp
      | cons next others =>
          rw [String.intercalate_cons_cons, String.length_append, String.length_append, ih]
          simp only [List.map_cons, List.sum_cons, List.length_cons, Nat.add_sub_cancel, Nat.mul_add]
          omega

theorem intercalate_filter_eq_iff (texts : List String) :
    "\n".intercalate texts = "\n".intercalate (texts.filter fun text => text ≠ "") ↔
      texts.length ≤ 1 ∨ "" ∉ texts := by
  have sums : ((texts.filter fun text => text ≠ "").map String.length).sum =
      (texts.map String.length).sum := by
    induction texts with
    | nil => rfl
    | cons text rest ih => by_cases empty : text = "" <;> simpa [empty] using ih
  have fewer := List.length_filter_le (fun text : String => decide (text ≠ "")) texts
  have whole : (texts.filter fun text => text ≠ "").length = texts.length ↔ "" ∉ texts := by
    rw [List.length_filter_eq_length_iff]
    simp only [decide_eq_true_eq]
    exact ⟨fun all empty => all "" empty rfl, fun none text member empty => none (empty ▸ member)⟩
  constructor
  · intro same
    have lengths := congrArg String.length same
    rw [length_intercalate, length_intercalate, sums] at lengths
    rw [← whole]
    simp only [show "\n".length = 1 from rfl] at lengths
    omega
  · rintro (few | none)
    · match texts with
      | [] => rfl
      | [text] => by_cases empty : text = "" <;> simp [empty]
    · rw [List.filter_eq_self.mpr fun text member => ?_]
      simpa using fun empty : text = "" => none (empty ▸ member)

namespace SourceFile

inductive Addition where
  | header (lines : List String)
  | imports (statements : List Import)
  | node (fragments : List Fragment)
  | exported (statement : Export)

namespace Addition

def headerLines : Addition → List String
  | header lines => lines
  | _ => []

def importStatements : Addition → List Import
  | imports statements => statements
  | _ => []

def nodes : Addition → List (List Fragment)
  | node fragments => [fragments]
  | _ => []

def exports : Addition → List Export
  | exported statement => [statement]
  | _ => []

end Addition

def add (file : SourceFile) : Addition → SourceFile
  | .header lines => file.withHeader lines
  | .imports statements => file.withImports statements
  | .node fragments => file.withNode fragments
  | .exported statement => file.withExport statement

def ofAdditions (additions : List Addition) : SourceFile :=
  additions.foldl add empty

theorem foldl_add (additions : List Addition) (file : SourceFile) :
    additions.foldl add file = {
      header := file.header ++ additions.flatMap Addition.headerLines
      imports := file.imports ++ additions.flatMap Addition.importStatements
      body := file.body ++ additions.flatMap Addition.nodes
      exports := file.exports ++ additions.flatMap Addition.exports } := by
  induction additions generalizing file with
  | nil => simp
  | cons addition rest ih =>
      rw [List.foldl_cons, ih]
      cases addition <;>
        simp [add, withHeader, withImports, withNode, withExport, Addition.headerLines,
          Addition.importStatements, Addition.nodes, Addition.exports]

theorem ofAdditions_eq (additions : List Addition) :
    ofAdditions additions = {
      header := additions.flatMap Addition.headerLines
      imports := additions.flatMap Addition.importStatements
      body := additions.flatMap Addition.nodes
      exports := additions.flatMap Addition.exports } :=
  foldl_add additions empty

/-! The texts of sections. -/

variable (file : SourceFile)

def headerText : String :=
  ended (file.header.map fun line => "// " ++ line)

def importsText : String :=
  ended (file.imports.map Import.text)

def exportsText : String :=
  ended (file.exports.flatMap fun statement =>
    statement.name.toList.map fun name => "export default " ++ name ++ ";")

def texts : List String :=
  file.headerText :: file.importsText :: file.body.map Code.render ++ [file.exportsText]

/-- The texts of the sections into which anything was put. -/
def filledTexts : List String :=
  (if file.header = [] then [] else [file.headerText]) ++
    (if file.imports = [] then [] else [file.importsText]) ++
    file.body.map Code.render ++
    if file.exports = [] then [] else [file.exportsText]

theorem render_comments (lines : List String) :
    Code.render (lines.map Fragment.comment) = ended (lines.map fun line => "// " ++ line) := by
  rw [Code.render_eq, ← text_lines]
  induction lines with
  | nil => rfl
  | cons line rest ih =>
      rw [List.map_cons, List.map_cons, List.map_cons, Code.fragmentsText, Code.fragmentsText, ih]
      rfl

theorem render_lines {α : Type} {fragments : α → List Fragment} {lines : α → List String}
    (single : ∀ item, fragments item = (lines item).map Fragment.line) (items : List α) :
    Code.render (items.flatMap fragments) = ended (items.flatMap lines) := by
  rw [Code.render_eq, ← text_lines, List.map_flatMap, funext single]

theorem render_sections : file.sections.map Code.render = file.filledTexts := by
  have single (statement : Import) : statement.fragments = [statement.text].map Fragment.line := rfl
  have imports : Code.render (file.imports.flatMap Import.fragments) = file.importsText := by
    rw [render_lines single, importsText, List.map_eq_flatMap]
  have exports : Code.render (file.exports.flatMap Export.fragments) = file.exportsText :=
    render_lines (fun statement => by simp [Export.fragments]) file.exports
  simp only [sections, sectionIf, List.map_append, filledTexts]
  by_cases noHeader : file.header = [] <;> by_cases noImports : file.imports = [] <;>
    by_cases noExports : file.exports = [] <;>
      simp [noHeader, noImports, noExports, render_comments, headerText, imports, exports]

theorem filter_texts :
    (file.texts.filter fun text => text ≠ "") = file.filledTexts.filter fun text => text ≠ "" := by
  have optional {α : Type} (items : List α) [DecidableEq α] (text : String)
      (nothing : items = [] → text = "") : ([text].filter fun text => text ≠ "") =
        (if items = [] then [] else [text]).filter fun text => text ≠ "" := by
    by_cases none : items = [] <;> simp [none, nothing]
  have split : file.texts = [file.headerText] ++ [file.importsText] ++ file.body.map Code.render ++
      [file.exportsText] := rfl
  rw [split, filledTexts]
  simp only [List.filter_append]
  rw [optional file.header file.headerText (by simp +contextual [headerText, ended]),
    optional file.imports file.importsText (by simp +contextual [importsText, ended]),
    optional file.exports file.exportsText (by simp +contextual [exportsText, ended])]

theorem empty_mem_filledTexts_iff :
    "" ∈ file.filledTexts ↔
      [] ∈ file.body ∨ file.exports ≠ [] ∧ ∀ statement ∈ file.exports, statement.name = none := by
  have header : file.header ≠ [] → "" ≠ file.headerText := fun some empty =>
    some (List.map_eq_nil_iff.mp ((ended_eq_empty_iff _).mp empty.symm))
  have imports : file.imports ≠ [] → "" ≠ file.importsText := fun some empty =>
    some (List.map_eq_nil_iff.mp ((ended_eq_empty_iff _).mp empty.symm))
  have nodes : "" ∈ file.body.map Code.render ↔ [] ∈ file.body := by
    rw [List.mem_map]
    constructor
    · rintro ⟨node, member, empty⟩
      exact (Code.render_eq_empty_iff node).mp empty ▸ member
    · exact fun member => ⟨[], member, rfl⟩
  have exports : "" = file.exportsText ↔ ∀ statement ∈ file.exports, statement.name = none := by
    rw [eq_comm, exportsText, ended_eq_empty_iff, List.flatMap_eq_nil_iff]
    simp
  simp only [filledTexts, List.mem_append, nodes]
  by_cases noHeader : file.header = [] <;> by_cases noImports : file.imports = [] <;>
    by_cases noExports : file.exports = [] <;>
      simp [noHeader, noImports, noExports, header, imports, exports]

/-- Whatever is put into a file in whatever order, its header, its imports, each node and its exports are
written with one blank line between every two of them into which anything was put. This leaves one blank
line between every two that have a text if and only if all of them have one, or there is only one. -/
theorem sections_spaced_iff (additions : List Addition) :
    let file := ofAdditions additions
    file.header = additions.flatMap Addition.headerLines ∧
      file.imports = additions.flatMap Addition.importStatements ∧
      file.body = additions.flatMap Addition.nodes ∧
      file.exports = additions.flatMap Addition.exports ∧
      file.render = "\n".intercalate file.filledTexts ∧
      (file.render = "\n".intercalate (file.texts.filter fun text => text ≠ "") ↔
        file.filledTexts.length ≤ 1 ∨
          [] ∉ file.body ∧
            (file.exports = [] ∨ ∃ statement ∈ file.exports, statement.name ≠ none)) := by
  intro file
  have fields := ofAdditions_eq additions
  have rendered : file.render = "\n".intercalate file.filledTexts := by
    rw [← render_sections, render, show Code.render = Code.fragmentsText 0 from funext Code.render_eq,
      text_separated]
  refine ⟨congrArg header fields, congrArg imports fields, congrArg body fields,
    congrArg exports fields, rendered, ?_⟩
  rw [rendered, filter_texts, intercalate_filter_eq_iff, empty_mem_filledTexts_iff]
  simp only [not_or, not_and, not_forall, ne_eq, exists_prop]
  by_cases noExports : file.exports = [] <;> simp [noExports]

/-- A blank line is left over after a node, for an export without a name. -/
theorem nameless_export_leaves_blank_line :
    let file := ofAdditions [.node [.line "run();"], .exported ⟨none⟩]
    file.render = "run();\n\n" ∧
      "\n".intercalate (file.texts.filter fun text => text ≠ "") = "run();\n" := by
  decide +kernel

end SourceFile

end Script

end RouteForge
