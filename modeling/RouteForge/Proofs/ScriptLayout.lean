import RouteForge.Proofs.RouteTableReading

/-!
The text of a script, section by section. A literal of several lines is cut into lines and written
again line by line; it comes out as it was, since none of its lines holds a line end and the last
one is not empty.
-/

namespace RouteForge

namespace Script

open Code (Fragment fragmentsText)

/-! Lines and sections. -/

def ended (texts : List String) : String :=
  String.join (texts.map (· ++ "\n"))

theorem ended_cons (text : String) (rest : List String) :
    ended (text :: rest) = text ++ "\n" ++ ended rest := by
  simp [ended]

theorem ended_append (first second : List String) :
    ended (first ++ second) = ended first ++ ended second := by
  simp [ended]

theorem text_lines (lines : List String) :
    fragmentsText 0 (lines.map Fragment.line) = ended lines := by
  induction lines with
  | nil => rfl
  | cons line rest ih =>
      rw [List.map_cons, fragmentsText, ih, ended_cons]
      simp [Fragment.textAt, Code.lineText, Code.Builder.margin]

theorem ended_eq_joinLines {lines : List String} (nonempty : lines ≠ []) :
    ended lines = joinLines lines ++ "\n" := by
  induction lines with
  | nil => exact absurd rfl nonempty
  | cons line rest ih =>
      rw [ended_cons, joinLines]
      cases rest with
      | nil => simp [ended]
      | cons next rest =>
          rw [ih (by simp), joinLines, String.intercalate_cons_cons]
          simp only [String.append_assoc]

theorem intercalate_ended (sections : List (List String)) :
    "\n".intercalate (sections.map ended) = ended ([""].intercalate sections) := by
  induction sections with
  | nil => rfl
  | cons first rest ih =>
      cases rest with
      | nil => simp
      | cons next others =>
          rw [List.map_cons, List.map_cons, String.intercalate_cons_cons, ← List.map_cons, ih,
            List.intercalate_cons_cons, ended_append, ended_append]
          rfl

theorem text_separated (sections : List (List Fragment)) :
    fragmentsText 0 (SourceFile.separated sections) =
      "\n".intercalate (sections.map (fragmentsText 0)) := by
  fun_induction SourceFile.separated sections with
  | case1 => rfl
  | case2 first => simp
  | case3 first rest more ih =>
      obtain ⟨next, others, rfl⟩ := List.exists_cons_of_ne_nil more
      rw [Code.fragmentsText_append, fragmentsText, ih, Fragment.textAt, List.map_cons, List.map_cons,
        List.map_cons, String.intercalate_cons_cons, String.append_assoc]

/-- A constant is written with its value as it is, if cutting the value into lines loses nothing. -/
theorem text_constant (name : String) {lines : List String} (nonempty : lines ≠ [])
    (kept : Text.lines (joinLines lines) = lines) :
    fragmentsText 0 (Constant.fragments ⟨name, joinLines lines, true⟩) =
      ended ["export const " ++ name ++ " = " ++ joinLines lines ++ ";"] := by
  obtain ⟨first, rest, rfl⟩ := List.exists_cons_of_ne_nil nonempty
  have closed :
      Constant.appendToLast ";" (("export const " ++ name ++ " = " ++ first) :: rest) ≠ [] := by
    cases rest <;> simp [Constant.appendToLast]
  simp only [Constant.fragments, kept, ↓reduceIte, List.headD_cons, List.tail_cons]
  rw [text_lines, ended_eq_joinLines closed, joinLines, intercalate_appendToLast _ _ (by simp),
    String.intercalate_cons_append, ended_eq_joinLines (by simp)]
  rfl

theorem text_literal (name : String) {block : Block} (valid : block.Valid Lexicon.generated) :
    fragmentsText 0 (Constant.fragments ⟨name, joinLines block.lines, true⟩) =
      ended ["export const " ++ name ++ " = " ++ joinLines block.lines ++ ";"] :=
  text_constant name (lines_ne_nil block) (Block.lines_joinLines valid)

theorem text_term (name : String) {term : Term} (valid : term.block.Valid Lexicon.generated) :
    fragmentsText 0 (Constant.fragments ⟨name, term.text, true⟩) =
      ended ["export const " ++ name ++ " = " ++ term.text ++ ";"] := by
  rw [Term.text, term.lines_eq]
  exact text_literal name valid

theorem text_object (name : String) {object : Object} (valid : object.block.Valid Lexicon.generated) :
    fragmentsText 0 (Constant.fragments ⟨name, object.text, true⟩) =
      ended ["export const " ++ name ++ " = " ++ object.text ++ ";"] := by
  rw [Object.text, object.lines_eq]
  exact text_literal name valid

end Script

namespace RouteTable

open Code (fragmentsText)
open Script (Term ended joinLines stringLiteral)

def importLine (component : Component) : String :=
  "import " ++ component.name ++ " from " ++
    stringLiteral (Script.importSpecifier component.path) ++ ";"

theorem text_imports (components : List Component) :
    fragmentsText 0 ((components.map importOf).flatMap Script.Import.fragments) =
      ended (components.map importLine) := by
  have single (component : Component) :
      (importOf component).fragments = [.line (importLine component)] := by
    simp [importOf, Script.Import.fragments, Script.Import.text, Script.Import.clause,
      Script.Import.ofDefault, importLine, String.append_assoc]
  have lines : (components.map importOf).flatMap Script.Import.fragments =
      (components.map importLine).map .line := by
    rw [List.flatMap_map, List.map_map, List.map_eq_flatMap]
    exact List.flatMap_congr fun component _ => single component
  rw [lines, Script.text_lines]

theorem unbroken_importLine {component : Component}
    (importable : Script.nameError? component.name = none) :
    '\n' ∉ (importLine component).toList := by
  have named := (Script.Lexicon.unbroken_of_isName (Script.isName_of_nameError? importable)).noFeed
  have specified := (Script.unbroken_stringLiteral (Script.importSpecifier component.path)).noFeed
  simp [importLine, named, specified]

theorem text_script {table : RouteTable}
    (values : (Term.list table.routes).block.Valid Script.Lexicon.generated) :
    table.script.render = ended (
      ["// " ++ Artifact.generatedHeader, ""] ++
      (if table.components = [] then [] else table.components.map importLine ++ [""]) ++
      ["export const mtype = " ++ stringLiteral table.mtype ++ ";", "",
        "export const routes = " ++ (Term.list table.routes).text ++ ";", "",
        "export const moduleInfo = " ++ table.info.text ++ ";"]) := by
  have header : fragmentsText 0 [Code.Fragment.comment Artifact.generatedHeader] =
      ended ["// " ++ Artifact.generatedHeader] := rfl
  have mtype := Script.text_term "mtype" (Script.writes_string table.mtype).valid
  have routes := Script.text_term "routes" values
  have info := Script.text_object "moduleInfo" (writes_info table).valid
  rw [Script.text_string] at mtype
  have sections : table.script.sections.map (fragmentsText 0) =
      ([["// " ++ Artifact.generatedHeader]] ++
        (if table.components = [] then [] else [table.components.map importLine]) ++
        [["export const mtype = " ++ stringLiteral table.mtype ++ ";"],
          ["export const routes = " ++ (Term.list table.routes).text ++ ";"],
          ["export const moduleInfo = " ++ table.info.text ++ ";"]]).map ended := by
    have imports := text_imports table.components
    simp only [sections_script, List.map_append, List.map_cons, List.map_nil, Script.SourceFile.sectionIf,
      exported]
    rw [mtype, routes, info]
    by_cases none : table.components = []
    · simp [none, header]
    · simp [none, header, imports]
  rw [Script.SourceFile.render, Code.render_eq, Script.text_separated, sections,
    Script.intercalate_ended]
  by_cases none : table.components = []
  · simp [none, List.intercalate]
  · simp [none, List.intercalate]

/-- A script is laid out in one way only, whatever the texts of the manifest hold: a header, a line
for each component, and the three constants, with a blank line between sections. -/
theorem script_laid_out (manifest : Manifest) (variant : Variant) (module : Module)
    (table : RouteTable) (assembled : assemble manifest variant module = .ok table) :
    let components := componentsOf variant module.routes
    let routes := Term.list (routeObjects (frameOf manifest module variant) module.routes)
    table.script.render = ended (
        ["// Generated by ecat. Do not edit: this file is overwritten on every run.", ""] ++
        (if components = [] then [] else components.map importLine ++ [""]) ++
        ["export const mtype = " ++ stringLiteral module.mtype ++ ";", "",
          "export const routes = " ++ routes.text ++ ";", "",
          "export const moduleInfo = " ++ table.info.text ++ ";"]) ∧
      ∀ component ∈ components, '\n' ∉ (importLine component).toList := by
  intro components routes
  obtain ⟨importable, rfl⟩ := (assemble_ok_iff manifest variant module table).mp assembled
  have written := writes_routeObjects (frameOf manifest module variant)
    (named_of_importable importable)
  refine ⟨?_, fun component member => unbroken_importLine (importable.1 component member)⟩
  rw [text_script written.list.valid]
  rfl

theorem script_laid_out_of_line_ends :
    let route : Route :=
      ⟨"List", "li\"st", "views\r\nList", some "/a\\b\r", none, none,
        some [("ti\rtle\n", .array [.string "\r\n"])], [], none⟩
    let module : Module := ⟨"a\r\nb", "user\r\n", [route]⟩
    let manifest : Manifest := ⟨"/app/", "app", "/", none, [module]⟩
    ∃ table, assemble manifest .nested module = .ok table ∧
      table.script.render = ended [
        "// Generated by ecat. Do not edit: this file is overwritten on every run.", "",
        "import List from \"./views\\r\\nList\";", "",
        "export const mtype = \"user\\r\\n\";", "",
        "export const routes = [", "  \x7b", "    \"name\": \"app_List\",",
        "    \"path\": \"/app/a\\r\\nb/li\\\"st\",", "    \"hidden\": false,",
        "    \"redirect\": \"/a\\\\b\\r\",", "    \"component\": List,", "    \"meta\": \x7b",
        "      \"ti\\rtle\\n\": [", "        \"\\r\\n\"", "      ]", "    \x7d", "  \x7d", "];", "",
        "export const moduleInfo = \x7b", "  \"name\": \"a\\r\\nb\",",
        "  \"path\": \"/app/a\\r\\nb\",", "  \"mtype\": mtype,", "  \"routes\": routes", "\x7d;"] := by
  intro route module manifest
  obtain ⟨table, assembled, shown⟩ := exists_ok_of_passes (assemble manifest .nested module)
    (fun table => table.info.text = joinLines ["\x7b", "  \"name\": \"a\\r\\nb\",",
      "  \"path\": \"/app/a\\r\\nb\",", "  \"mtype\": mtype,", "  \"routes\": routes", "\x7d"])
    (by decide +kernel)
  have routes : (Term.list (routeObjects (frameOf manifest module .nested) module.routes)).text =
      joinLines ["[", "  \x7b", "    \"name\": \"app_List\",",
        "    \"path\": \"/app/a\\r\\nb/li\\\"st\",", "    \"hidden\": false,",
        "    \"redirect\": \"/a\\\\b\\r\",", "    \"component\": List,", "    \"meta\": \x7b",
        "      \"ti\\rtle\\n\": [", "        \"\\r\\n\"", "      ]", "    \x7d", "  \x7d", "]"] := by
    decide +kernel
  refine ⟨table, assembled, ?_⟩
  rw [(script_laid_out manifest .nested module table assembled).1, routes, of_decide_eq_true shown]
  decide +kernel

end RouteTable

end RouteForge
