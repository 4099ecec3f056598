import RouteForge.Proofs.ModuleRuns
import RouteForge.Proofs.ValidationGate

/-!
What the report of a run says about its modules. A dry run shows modules and writes none, any other run
writes modules and shows none; each module that fails has its own line, and the last lines count both
kinds. Only what was shown tells the report that a run was dry.
-/

namespace RouteForge

namespace ReportLine

/-- A line that neither warns nor reports a failure, and that is not blank. -/
def isPlain : ReportLine → Bool
  | .warning _ | .failedItem _ | .newline => false
  | _ => true

theorem filterMap_select {α : Type} {select : ReportLine → Option α}
    (plain : ∀ line, line.isPlain = true → select line = none) (lines : List ReportLine) :
    lines.filterMap select = (lines.filter fun line => !line.isPlain).filterMap select := by
  rw [List.filterMap_filter]
  refine List.filterMap_congr fun line _ => ?_
  cases kind : line.isPlain with
  | true => simp [plain line kind]
  | false => simp

def failedText? : ReportLine → Option String
  | .failedItem text => some text
  | _ => none

theorem failedText?_of_isPlain (line : ReportLine) (plain : line.isPlain = true) :
    line.failedText? = none := by
  cases line <;> simp_all [isPlain, failedText?]

end ReportLine

def ReportedModule.failedLine? (module : ReportedModule) : Option ReportLine :=
  match module.status with
  | .failed chain => some (.failedItem (module.module ++ ": " ++ chainText chain))
  | _ => none

namespace Outcome

def failureText? (outcome : Outcome) : Option String :=
  match outcome.status with
  | .failed failure => some (outcome.module ++ ": " ++ chainText failure.chain)
  | _ => none

theorem isSome_failureText? (outcome : Outcome) :
    outcome.failureText?.isSome = outcome.isFailed := by
  obtain ⟨module, directory, status⟩ := outcome
  cases status <;> rfl

theorem isFailed_reported (outcome : Outcome) :
    outcome.reported.isFailed = outcome.isFailed := by
  obtain ⟨module, directory, status⟩ := outcome
  cases status <;> rfl

end Outcome

theorem length_failures_add (outcomes : List Outcome) :
    (outcomes.filterMap Outcome.failureText?).length +
        (outcomes.filter fun outcome => !outcome.isFailed).length = outcomes.length := by
  have failures : (outcomes.filterMap Outcome.failureText?).length =
      (outcomes.filter Outcome.isFailed).length := by
    rw [← List.countP_eq_length_filter, List.length_filterMap_eq_countP]
    exact List.countP_congr fun outcome _ => by rw [Outcome.isSome_failureText?]
  rw [failures]
  exact (List.length_eq_length_filter_add Outcome.isFailed).symm

/-! The lines of a report. -/

namespace Report

theorem filter_moduleLines (base : String) (module : ReportedModule) :
    ((moduleLines base module).filter fun line => !line.isPlain) = module.failedLine?.toList := by
  obtain ⟨name, status⟩ := module
  cases status with
  | written results =>
      have kept : (((results.filter fun result => !result.isWritten).map (keptLine base)).filter
          fun line => !line.isPlain) = [] := by
        rw [List.filter_eq_nil_iff, List.forall_mem_map]
        exact fun _ _ => Bool.false_ne_true
      rw [moduleLines, List.filter_cons_of_neg Bool.false_ne_true, kept]
      rfl
  | previewed files =>
      rw [moduleLines, List.filter_flatMap]
      exact List.flatMap_eq_nil_iff.mpr fun _ _ => rfl
  | failed chain => rfl

theorem filter_bundleLines (base : String) (bundle : Option ReportedBundle) :
    ((bundleLines base bundle).filter fun line => !line.isPlain) = [] := by
  cases bundle with
  | none => rfl
  | some bundle => cases bundle <;> rfl

def body (report : Report) : List ReportLine :=
  report.warnings.map .warning ++
    .keyValue "Variant" report.variant.name ::
    report.modules.flatMap (moduleLines report.base) ++
    bundleLines report.base report.bundle

theorem lines_eq (report : Report) :
    report.lines = report.body ++ .newline :: report.summaryLines ++ report.failureLines := by
  simp [lines, body]

theorem filter_body (report : Report) :
    (report.body.filter fun line => !line.isPlain) =
      report.warnings.map .warning ++ report.modules.filterMap ReportedModule.failedLine? := by
  have modules : ((report.modules.flatMap (moduleLines report.base)).filter
      fun line => !line.isPlain) = report.modules.filterMap ReportedModule.failedLine? := by
    rw [List.filter_flatMap, List.filterMap_eq_flatMap_toList]
    exact List.flatMap_congr fun module _ => filter_moduleLines report.base module
  have warnings : ((report.warnings.map ReportLine.warning).filter fun line => !line.isPlain) =
      report.warnings.map .warning := by
    rw [List.filter_eq_self, List.forall_mem_map]
    exact fun _ _ => rfl
  rw [body, List.filter_append, List.filter_append, List.filter_cons_of_neg Bool.false_ne_true,
    warnings, modules, filter_bundleLines, List.append_nil]

theorem newline_notMem_body (report : Report) : ReportLine.newline ∉ report.body := by
  intro member
  have marked : ReportLine.newline ∈ report.body.filter fun line => !line.isPlain :=
    List.mem_filter.mpr ⟨member, rfl⟩
  rw [filter_body, List.mem_append, List.mem_map, List.mem_filterMap] at marked
  rcases marked with ⟨_, _, same⟩ | ⟨module, _, same⟩
  · simp at same
  · rw [ReportedModule.failedLine?] at same
    split at same <;> simp at same

theorem failedText?_body {report : Report} {outcomes : List Outcome}
    (modules : report.modules = outcomes.map Outcome.reported) :
    report.body.filterMap ReportLine.failedText? = outcomes.filterMap Outcome.failureText? := by
  have failures (outcome : Outcome) :
      (outcome.reported.failedLine?.bind ReportLine.failedText?) = outcome.failureText? := by
    obtain ⟨module, directory, status⟩ := outcome
    cases status <;> rfl
  have noWarning : (ReportLine.failedText? ∘ ReportLine.warning) = fun _ => none := rfl
  rw [ReportLine.filterMap_select ReportLine.failedText?_of_isPlain, filter_body, modules,
    List.filterMap_append, List.filterMap_map, noWarning, List.filterMap_map,
    List.filterMap_filterMap]
  simp [failures]

end Report

/-! What becomes of modules. -/

structure Outcome.IsOf (isDry : Bool) (module : Module) (outcome : Outcome) : Prop where
  named : outcome.module = module.name
  shown : outcome.reported.isPreviewed = (isDry && !outcome.isFailed)

theorem Module.preview_isOf (manifest : Manifest) (variant : Variant) (base : String)
    (module : Module) : (module.preview manifest variant base).IsOf true module := by
  rw [preview]
  cases module.artifacts manifest variant <;> exact ⟨rfl, rfl⟩

theorem Module.generate_isOf (manifest : Manifest) (variant : Variant) (base : String)
    (module : Module) (disk : Disk) :
    (module.generate manifest variant base disk).1.IsOf false module := by
  rw [generate]
  cases module.artifacts manifest variant with
  | error error => exact ⟨rfl, rfl⟩
  | ok artifacts =>
      dsimp only
      split <;> exact ⟨rfl, rfl⟩

namespace Manifest

theorem runModules_isOf (manifest : Manifest) (variant : Variant) (options : RunOptions)
    (disk : Disk) :
    List.Forall₂ (Outcome.IsOf options.isDry) manifest.modules
      (manifest.runModules variant options disk).1 := by
  rw [runModules]
  cases options.isDry with
  | true =>
      simp only [↓reduceIte, preview, List.forall₂_map_right_iff, List.forall₂_same]
      exact fun module _ => module.preview_isOf manifest variant options.base
  | false =>
      refine (generateFrom_outcomes manifest variant options.base disk).imp ?_
      rintro module outcome ⟨before, rfl⟩
      exact module.generate_isOf manifest variant options.base before

theorem validate_ok_iff (manifest : Manifest) (variant : Variant) (found : List Finding) :
    manifest.validate variant = .ok found ↔
      found = manifest.findings variant ∧ (manifest.modules.map Module.mtype).Nodup := by
  rw [← Rule.repeatedUses_eq_nil_iff, validate, verdict]
  simp only [errors_findings, List.isEmpty_iff, List.map_eq_nil_iff]
  split
  · next passed => simp [passed, eq_comm]
  · next failed => simp [failed]

theorem run_ok {manifest : Manifest} {options : RunOptions} {disk : Disk} {report : Report}
    (done : (manifest.run options disk).1 = .ok report) :
    let variant := options.variant.getD manifest.effectiveVariant
    (manifest.modules.map Module.mtype).Nodup ∧ ∃ bundle, report = {
      base := options.base
      variant
      warnings := ((manifest.findings variant).filter fun finding => !finding.isError).map
        Finding.message
      modules := (manifest.runModules variant options disk).1.map Outcome.reported
      bundle } := by
  intro variant
  cases checked : manifest.validate variant with
  | error failure =>
      rw [run_of_invalid checked] at done
      simp at done
  | ok found =>
      obtain ⟨rfl, distinct⟩ := (validate_ok_iff manifest variant found).mp checked
      refine ⟨distinct, ?_⟩
      simp only [run, show options.variant.getD manifest.effectiveVariant = variant from rfl,
        checked] at done
      split at done
      · simp at done
      · next bundle after bundled => exact ⟨bundle, (Except.ok.inj done).symm⟩

end Manifest

namespace Report

def previewSummary (count : Nat) : List ReportLine :=
  [.divider "Summary", .preformatted (toString count ++ " module(s) would be generated")]

def generatedSummary (count total : Nat) (base : String) : List ReportLine :=
  [.keyValue "Generated" (toString count ++ " of " ++ toString total ++ " module(s) in " ++ base)]

variable {report : Report} {outcomes : List Outcome}
  (modules : report.modules = outcomes.map Outcome.reported)
include modules

theorem failedCount_eq :
    report.failedCount = (outcomes.filterMap Outcome.failureText?).length := by
  rw [failedCount, modules, List.filter_map, List.length_map, List.length_filterMap_eq_countP,
    List.countP_eq_length_filter]
  congr 1
  exact List.filter_congr fun outcome _ => by
    rw [Outcome.isSome_failureText?, ← Outcome.isFailed_reported]
    rfl

theorem isPreview_iff {isDry : Bool}
    (shown : ∀ outcome ∈ outcomes, outcome.reported.isPreviewed = (isDry && !outcome.isFailed)) :
    report.isPreview = true ↔
      isDry = true ∧ 0 < (outcomes.filter fun outcome => !outcome.isFailed).length := by
  rw [isPreview, modules, List.any_map, List.length_pos_iff_exists_mem]
  simp only [List.any_eq_true, Function.comp_apply, List.mem_filter]
  constructor
  · rintro ⟨outcome, member, previewed⟩
    rw [shown outcome member, Bool.and_eq_true] at previewed
    exact ⟨previewed.1, outcome, member, previewed.2⟩
  · rintro ⟨dry, outcome, member, made⟩
    refine ⟨outcome, member, ?_⟩
    rw [shown outcome member, dry, made]
    rfl

end Report

namespace Manifest

/-- A run that succeeds reports every module that failed, in order, and then counts: how many modules
were made or, in a dry run, would be, and how many failed if any did. But a dry run in which none would
be made is summed up like one that made none. -/
theorem summary_of_run (manifest : Manifest) (options : RunOptions) (disk : Disk) (report : Report)
    (done : (manifest.run options disk).1 = .ok report) :
    let outcomes := (manifest.runModules (options.variant.getD manifest.effectiveVariant)
      options disk).1
    let failures := outcomes.filterMap Outcome.failureText?
    let made := (outcomes.filter fun outcome => !outcome.isFailed).length
    let total := manifest.modules.length
    outcomes.map Outcome.module = manifest.modules.map Module.name ∧
      failures.length + made = total ∧
      ∃ body, .newline ∉ body ∧ body.filterMap ReportLine.failedText? = failures ∧
        report.lines = body ++ .newline ::
          (if options.isDry = true ∧ 0 < made then Report.previewSummary made
            else Report.generatedSummary made total options.base) ++
          if failures = [] then []
          else [.failedItem (toString failures.length ++ " module(s) failed")] := by
  intro outcomes failures made total
  obtain ⟨_, bundle, reported⟩ := run_ok done
  have ofModules : List.Forall₂ (Outcome.IsOf options.isDry) manifest.modules outcomes :=
    runModules_isOf manifest _ options disk
  have named : manifest.modules.map Module.name = outcomes.map Outcome.module :=
    map_eq_map_of_related ofModules fun _ _ own => own.named.symm
  have shown : ∀ outcome ∈ outcomes,
      outcome.reported.isPreviewed = (options.isDry && !outcome.isFailed) := by
    intro outcome member
    obtain ⟨_, _, own⟩ := exists_of_mem_right ofModules member
    exact own.shown
  have counted : failures.length + made = total :=
    (length_failures_add outcomes).trans ofModules.length_eq.symm
  have modules : report.modules = outcomes.map Outcome.reported := by rw [reported]
  have base : report.base = options.base := by rw [reported]
  have failed : report.failedCount = failures.length := Report.failedCount_eq modules
  have size : report.modules.length = total := by
    rw [modules, List.length_map]
    exact ofModules.length_eq.symm
  have left : total - failures.length = made := by omega
  have summary : report.summaryLines =
      if options.isDry = true ∧ 0 < made then Report.previewSummary made
      else Report.generatedSummary made total options.base := by
    simp only [Report.summaryLines, Report.isPreview_iff modules shown, failed, size, left, base]
    rfl
  have counts : report.failureLines =
      if failures = [] then []
      else [.failedItem (toString failures.length ++ " module(s) failed")] := by
    simp only [Report.failureLines, failed, List.length_eq_zero_iff]
  refine ⟨named.symm, counted, report.body, report.newline_notMem_body,
    Report.failedText?_body modules, ?_⟩
  rw [Report.lines_eq, summary, counts]

theorem summary_of_run_beside_blocked_module :
    let document := "\x7b\"module_path\": \"/m\", \"module_name\": \"sys\", \"sub_modules\": [" ++
      "\x7b\"module\": \"free\", \"mtype\": \"a\"\x7d, " ++
      "\x7b\"module\": \"blocked\", \"mtype\": \"b\"\x7d]\x7d"
    let disk : Disk := ⟨[(["blocked".toList], .file "mine".toByteArray)], []⟩
    let options : RunOptions := ⟨"", some .flat, false, false, none⟩
    ∃ manifest report body, ofSource ⟨document, fileName⟩ = .ok manifest ∧
      (manifest.run options disk).1 = .ok report ∧ .newline ∉ body ∧
      body.filterMap ReportLine.failedText? =
        ["blocked: failed to create directory 'blocked': File exists (os error 17)"] ∧
      report.lines = body ++ [.newline, .keyValue "Generated" "1 of 2 module(s) in ",
        .failedItem "1 module(s) failed"] := by
  intro document disk options
  obtain ⟨manifest, accepted, checked⟩ := exists_ok_of_passes (ofSource ⟨document, fileName⟩)
    (fun manifest =>
      let outcomes := (manifest.runModules (options.variant.getD manifest.effectiveVariant)
        options disk).1
      passes (fun _ => true) (manifest.run options disk).1 &&
        decide (outcomes.filterMap Outcome.failureText? =
            ["blocked: failed to create directory 'blocked': File exists (os error 17)"] ∧
          (outcomes.filter fun outcome => !outcome.isFailed).length = 1 ∧
          manifest.modules.length = 2))
    (by decide +kernel)
  obtain ⟨ran, counted⟩ := Bool.and_eq_true_iff.mp checked
  obtain ⟨report, done, _⟩ := exists_ok_of_passes _ _ ran
  obtain ⟨failures, made, total⟩ := of_decide_eq_true counted
  obtain ⟨_, _, body, noBlank, failed, lines⟩ := summary_of_run manifest options disk report done
  rw [failures] at failed
  rw [failures, made, total, List.append_assoc] at lines
  exact ⟨manifest, report, body, accepted, done, noBlank, failed, lines⟩

/-- A dry run in which the only module fails is summed up as a run that generated. -/
theorem dry_run_summed_up_as_generated :
    let document := "\x7b\"module_path\": \"/m\", \"module_name\": \"sys\", \"sub_modules\": [" ++
      "\x7b\"module\": \"demo\", \"mtype\": \"demo\", \"module_routes\": [" ++
      "\x7b\"name\": \"class\", \"path\": \"a\", \"component\": \"a\"\x7d]\x7d]\x7d"
    let options : RunOptions := ⟨"app", none, true, false, none⟩
    ∃ manifest report, ofSource ⟨document, fileName⟩ = .ok manifest ∧
      (manifest.run options .empty).1 = .ok report ∧
      report.lines = [.keyValue "Variant" "nested",
        .failedItem ("demo: route 'class' in module 'demo' is not a valid import binding: " ++
          "binding is a reserved word"),
        .newline, .keyValue "Generated" "0 of 1 module(s) in app",
        .failedItem "1 module(s) failed"] ∧
      .divider "Summary" ∉ report.lines := by
  intro document options
  obtain ⟨manifest, accepted, checked⟩ := exists_ok_of_passes (ofSource ⟨document, fileName⟩)
    (fun manifest => passes (fun report : Report => decide (report.lines = [.keyValue "Variant" "nested",
        .failedItem ("demo: route 'class' in module 'demo' is not a valid import binding: " ++
          "binding is a reserved word"),
        .newline, .keyValue "Generated" "0 of 1 module(s) in app",
        .failedItem "1 module(s) failed"]))
      (manifest.run options .empty).1)
    (by decide +kernel)
  obtain ⟨report, done, shown⟩ := exists_ok_of_passes _ _ checked
  have lines := of_decide_eq_true shown
  exact ⟨manifest, report, accepted, done, lines, by simp [lines]⟩

end Manifest

end RouteForge
