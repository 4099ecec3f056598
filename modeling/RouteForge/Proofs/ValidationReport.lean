import RouteForge.Proofs.ModuleTargets
import RouteForge.Proofs.RouteWalks
import RouteForge.Proofs.RunSummary

/-!
What validation reports, as a whole: each group of diagnostics in terms of the entries and routes it is
about, the groups one after another, and the warnings among them as the report of a run shows them.
-/

namespace RouteForge

namespace ReportLine

def warningText? : ReportLine → Option String
  | .warning text => some text
  | _ => none

theorem warningText?_of_isPlain (line : ReportLine) (plain : line.isPlain = true) :
    line.warningText? = none := by
  cases line <;> simp_all [isPlain, warningText?]

end ReportLine

theorem Report.warningText?_lines (report : Report) :
    report.lines.filterMap ReportLine.warningText? = report.warnings := by
  have warnings : (report.warnings.map ReportLine.warning).filterMap ReportLine.warningText? =
      report.warnings := by
    rw [List.filterMap_map]
    exact List.filterMap_some
  have modules : (report.modules.filterMap ReportedModule.failedLine?).filterMap
      ReportLine.warningText? = [] := by
    rw [List.filterMap_filterMap, List.filterMap_eq_nil_iff]
    intro module _
    rw [ReportedModule.failedLine?]
    split <;> rfl
  have body : report.body.filterMap ReportLine.warningText? = report.warnings := by
    rw [ReportLine.filterMap_select ReportLine.warningText?_of_isPlain, filter_body,
      List.filterMap_append, warnings, modules, List.append_nil]
  have summary : report.summaryLines.filterMap ReportLine.warningText? = [] := by
    rw [summaryLines]
    split <;> rfl
  have failures : report.failureLines.filterMap ReportLine.warningText? = [] := by
    rw [failureLines]
    split <;> rfl
  rw [lines_eq, List.filterMap_append, List.filterMap_append, body, List.filterMap_cons, summary,
    failures]
  simp [ReportLine.warningText?]

namespace Rule

def repeatedEntries (modules : List Module) : List Module :=
  modules.zipIdx.filterMap fun (module, index) =>
    if module.name ∈ (modules.take index).map Module.name then some module else none

theorem repeatedModules_eq {seen : List String} {before : List Module}
    (known : ∀ name, name ∈ seen ↔ name ∈ before.map Module.name) (modules : List Module) :
    repeatedModules seen modules =
      ((modules.zipIdx before.length).filterMap fun (module, index) =>
        if module.name ∈ ((before ++ modules).take index).map Module.name then some module
        else none).map fun module => .repeatedModule module.name := by
  -- On the entries still to come. What has been seen holds the names of those before, and a name
  -- that was seen stays known without being added again.
  induction modules generalizing seen before with
  | nil => rfl
  | cons module rest ih =>
      have knownAfter (names : List String) (same : ∀ name, name ∈ names ↔
          name ∈ (before ++ [module]).map Module.name) := ih same
      simp only [List.append_assoc, List.singleton_append, List.length_append,
        List.length_singleton] at knownAfter
      rw [repeatedModules, List.zipIdx_cons, List.filterMap_cons]
      simp only [List.take_left, List.contains_iff_mem, known]
      split
      · next isRepeated =>
          rw [List.map_cons, knownAfter seen]
          intro name
          rw [known, List.map_append, List.mem_append]
          constructor
          · exact Or.inl
          · rintro (earlier | new)
            · exact earlier
            · exact List.mem_singleton.mp new ▸ isRepeated
      · next isNew =>
          rw [knownAfter (module.name :: seen)]
          intro name
          simp [known, or_comm, eq_comm]

theorem findings_duplicateModule (manifest : Manifest) (variant : Variant) :
    findings .duplicateModule manifest variant =
      (repeatedEntries manifest.modules).map fun module => .repeatedModule module.name := by
  have nothing (name : String) : name ∈ ([] : List String) ↔ name ∈ ([] : List Module).map Module.name :=
    Iff.rfl
  exact repeatedModules_eq nothing manifest.modules

theorem nodup_of_repeatedEntries {modules : List Module} (none : repeatedEntries modules = []) :
    (modules.map Module.name).Nodup := by
  rw [List.nodup_iff_pairwise_ne, List.pairwise_map, List.pairwise_iff_getElem]
  intro first second firstBound secondBound before same
  have later : (modules[second], second) ∈ modules.zipIdx := by
    rw [List.mem_zipIdx_iff_getElem?]
    exact List.getElem?_eq_getElem secondBound
  have isNew := List.filterMap_eq_nil_iff.mp none _ later
  have earlier : modules[second].name ∈ (modules.take second).map Module.name := by
    rw [← same]
    exact List.mem_map_of_mem (List.mem_take_iff_getElem.mpr ⟨first, by omega, rfl⟩)
  simp only [earlier, ↓reduceIte, reduceCtorEq] at isNew

/-- What a rule has to report, by the entries and routes that it is about. -/
def diagnostics (manifest : Manifest) (variant : Variant) : Rule → List Diagnostic
  | .duplicateMtype =>
      (repeatedUses manifest.modules).map fun (module, first) =>
        ⟨.error, "validate",
          "duplicate mtype '" ++ module.mtype ++ "' in module '" ++ module.name ++
            "' (already used by module '" ++ first.name ++ "')",
          some ("sub_modules." ++ module.name ++ ".mtype")⟩
  | .duplicateModule =>
      (repeatedEntries manifest.modules).map fun module =>
        ⟨.warning, "validate",
          "module '" ++ module.name ++ "' is declared more than once; its files will be overwritten",
          some ("sub_modules." ++ module.name)⟩
  | .emptyRoutes =>
      (manifest.modules.filter fun module => module.routes.isEmpty).map fun module =>
        ⟨.warning, "validate", "module '" ++ module.name ++ "' has no routes",
          some ("sub_modules." ++ module.name ++ ".module_routes")⟩
  | .layoutLeaf =>
      manifest.modules.flatMap fun module =>
        ((Route.preorderAll module.routes).filter fun route =>
          route.component = "Layout" && route.children.isEmpty).map fun route =>
            ⟨.warning, "validate",
              "route '" ++ route.name ++ "' in module '" ++ module.name ++
                "' uses Layout but has no children",
              some ("sub_modules." ++ module.name ++ "." ++ route.name)⟩
  | .flatChildren =>
      if variant = .flat then
        manifest.modules.flatMap fun module =>
          (module.routes.filter fun route => !route.children.isEmpty).map fun route =>
            ⟨.warning, "validate",
              "route '" ++ route.name ++ "' in module '" ++ module.name ++
                "' has children, which the flat variant ignores",
              some ("sub_modules." ++ module.name ++ "." ++ route.name)⟩
      else []

theorem diagnostics_findings (rule : Rule) (manifest : Manifest) (variant : Variant) :
    (rule.findings manifest variant).map Finding.diagnostic =
      rule.diagnostics manifest variant := by
  cases rule with
  | duplicateMtype =>
      rw [findings_duplicateMtype, List.map_map]
      rfl
  | duplicateModule =>
      rw [findings_duplicateModule, List.map_map]
      rfl
  | emptyRoutes =>
      rw [findings, modulesWithoutRoutes, List.map_map]
      rfl
  | layoutLeaf =>
      rw [findings, diagnostics, List.map_flatMap]
      refine List.flatMap_congr fun module _ => ?_
      rw [emptyLayouts, Module.walk, Route.walkAll_eq_preorderAll, List.map_map]
      simp only [Route.isLayout, Route.hasChildren, Bool.not_not]
      rfl
  | flatChildren =>
      cases variant with
      | nested => rfl
      | flat =>
          rw [findings, diagnostics, if_neg (by decide), if_pos rfl, List.map_flatMap]
          refine List.flatMap_congr fun module _ => ?_
          rw [ignoredChildren, List.map_map]
          rfl

def warnings : List Rule :=
  [.duplicateModule, .emptyRoutes, .layoutLeaf, .flatChildren]

theorem all_eq : all = .duplicateMtype :: warnings :=
  rfl

end Rule

namespace Manifest

theorem warnings_findings (manifest : Manifest) (variant : Variant) :
    (manifest.findings variant).filter (fun finding => !finding.isError) =
      Rule.warnings.flatMap fun rule => rule.findings manifest variant := by
  have errors : (Rule.duplicateMtype.findings manifest variant).filter
      (fun finding => !finding.isError) = [] := by
    rw [Rule.findings_duplicateMtype, List.filter_eq_nil_iff]
    intro finding member
    obtain ⟨use, _, rfl⟩ := List.mem_map.mp member
    simp [Rule.repeatFinding, Finding.isError, Finding.severity]
  rw [findings, Rule.all_eq, List.flatMap_cons, List.filter_append, errors, List.nil_append,
    List.filter_eq_self]
  intro finding member
  obtain ⟨rule, isWarning, found⟩ := List.mem_flatMap.mp member
  have other : rule ≠ .duplicateMtype := by
    rintro rfl
    simp [Rule.warnings] at isWarning
  rw [Rule.isError_findings other found]
  rfl

/-- Validation gives exactly the diagnostics that its rules have to report, one rule after another, and
passes if and only if the first has none. A run that succeeds reports the messages of the others, in
order; what it tells of a module that did not fail are its paths; and unless a name is warned of, all
files of a run have different paths, which lead to different places on every disk. -/
theorem validation_report_exact (source : Source) (manifest : Manifest)
    (accepted : ofSource source = .ok manifest) (variant : Variant) :
    let errors := Rule.duplicateMtype.diagnostics manifest variant
    let nameWarnings := Rule.duplicateModule.diagnostics manifest variant
    let warnings := nameWarnings ++ Rule.emptyRoutes.diagnostics manifest variant ++
      Rule.layoutLeaf.diagnostics manifest variant ++ Rule.flatChildren.diagnostics manifest variant
    (manifest.findings variant).map Finding.diagnostic = errors ++ warnings ∧
      manifest.validate variant = (if errors = [] then .ok (manifest.findings variant)
        else .error ⟨errors.map Diagnostic.message⟩) ∧
      (∀ options disk report, options.variant.getD manifest.effectiveVariant = variant →
        (manifest.run options disk).1 = .ok report →
          report.warnings = warnings.map Diagnostic.message ∧
          report.lines.filterMap ReportLine.warningText? = warnings.map Diagnostic.message) ∧
      (∀ options disk, List.Forall₂
        (fun module outcome => outcome.isFailed = false →
          outcome.paths = module.targets manifest variant options.base)
        manifest.modules (manifest.runModules variant options disk).1) ∧
      (nameWarnings = [] → ∀ base,
        ((manifest.targets variant base).map Path.components).Nodup ∧
          ∀ disk, ((manifest.targets variant base).map (Disk.destination disk)).Nodup) := by
  intro errors nameWarnings warnings
  have ofRules (rules : List Rule) : (rules.flatMap fun rule =>
      rule.findings manifest variant).map Finding.diagnostic =
        rules.flatMap fun rule => rule.diagnostics manifest variant := by
    rw [List.map_flatMap]
    exact List.flatMap_congr fun rule _ => rule.diagnostics_findings manifest variant
  have grouped : (Rule.warnings.flatMap fun rule => rule.diagnostics manifest variant) =
      warnings := by
    simp [Rule.warnings, warnings, nameWarnings]
  have errorMessages : (Rule.repeatedUses manifest.modules).map
      (Finding.message ∘ Rule.repeatFinding) = errors.map Diagnostic.message := by
    simp only [errors, Rule.diagnostics, List.map_map]
    rfl
  refine ⟨?_, ?_, ?_, fun options disk => runModules_paths manifest variant options disk, ?_⟩
  · rw [findings, ofRules, Rule.all_eq, List.flatMap_cons, grouped]
  · have passes : errors = [] ↔ Rule.repeatedUses manifest.modules = [] := by
      simp [errors, Rule.diagnostics]
    simp only [validate, verdict, errors_findings, List.isEmpty_iff, List.map_eq_nil_iff,
      List.map_map, errorMessages, passes]
  · intro options disk report chosen done
    obtain ⟨_, bundle, reported⟩ := run_ok done
    have shown : report.warnings = warnings.map Diagnostic.message := by
      rw [reported, ← grouped, ← ofRules, List.map_map, chosen, warnings_findings]
      rfl
    exact ⟨shown, report.warningText?_lines.trans shown⟩
  · intro none base
    have faultless := nameFault?_of_accepted accepted
    have distinct := Rule.nodup_of_repeatedEntries (List.map_eq_nil_iff.mp none)
    exact ⟨targets_distinct variant base faultless distinct,
      targets_apart variant base faultless distinct⟩

theorem validation_report_exact_of_flat_layouts :
    let document := "\x7b\"module_path\": \"/m\", \"module_name\": \"sys\", \"sub_modules\": [" ++
      "\x7b\"module\": \"x\", \"mtype\": \"a\", \"module_routes\": [" ++
      "\x7b\"name\": \"Root\", \"path\": \"root\", \"component\": \"root\", \"children\": [" ++
      "\x7b\"name\": \"Leaf\", \"path\": \"leaf\", \"component\": \"Layout\"\x7d]\x7d]\x7d, " ++
      "\x7b\"module\": \"y\", \"mtype\": \"b\"\x7d]\x7d"
    let options : RunOptions := ⟨"out", some .flat, true, false, none⟩
    ∃ manifest report, ofSource ⟨document, fileName⟩ = .ok manifest ∧
      (manifest.run options .empty).1 = .ok report ∧
      report.lines.filterMap ReportLine.warningText? = [
        "module 'y' has no routes",
        "route 'Leaf' in module 'x' uses Layout but has no children",
        "route 'Root' in module 'x' has children, which the flat variant ignores"] ∧
      ((manifest.targets .flat "out").map Path.components).Nodup := by
  intro document options
  obtain ⟨manifest, accepted, checked⟩ := exists_ok_of_passes (ofSource ⟨document, fileName⟩)
    (fun manifest => passes (fun _ => true) (manifest.run options .empty).1 &&
      decide (Rule.duplicateModule.diagnostics manifest .flat = [] ∧
        (Rule.duplicateModule.diagnostics manifest .flat ++
          Rule.emptyRoutes.diagnostics manifest .flat ++
          Rule.layoutLeaf.diagnostics manifest .flat ++
          Rule.flatChildren.diagnostics manifest .flat).map Diagnostic.message = [
            "module 'y' has no routes",
            "route 'Leaf' in module 'x' uses Layout but has no children",
            "route 'Root' in module 'x' has children, which the flat variant ignores"]))
    (by decide +kernel)
  obtain ⟨ran, found⟩ := Bool.and_eq_true_iff.mp checked
  obtain ⟨report, done, _⟩ := exists_ok_of_passes _ _ ran
  obtain ⟨distinct, messages⟩ := of_decide_eq_true found
  obtain ⟨_, _, reports, _, apart⟩ := validation_report_exact _ manifest accepted .flat
  exact ⟨manifest, report, accepted, done, (reports options .empty report rfl done).2.trans messages,
    (apart distinct "out").1⟩

end Manifest

end RouteForge
