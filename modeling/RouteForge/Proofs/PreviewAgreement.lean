import Mathlib.Data.List.Nodup
import RouteForge.Proofs.WrittenFiles
import RouteForge.Run

/-!
A dry run tells what a run would do. Where it shows a failure the run fails the same way; where it
shows files the run writes those files, in this order and with this content, but for files that are
created once and are there already; and where the run fails nonetheless, it failed in writing.
-/

namespace RouteForge

open Disk (Keeps)

/-- A shown file and the result of the run, which started from one disk and ended with another. -/
inductive PreviewFile.Foretells (directory : String) (before after : Disk) (file : PreviewFile) :
    WriteResult → Prop
  | written (holds : after.readFile file.path = .ok file.content) :
      Foretells directory before after file (.written file.path)
  | skipped (once : file = Artifact.requestStub.preview directory) (content : ByteArray)
      (led : after.resolve file.path = .ok (after.destination file.path))
      (was : before.node? (after.destination file.path) = some (.file content))
      (still : after.node? (after.destination file.path) = some (.file content)) :
      Foretells directory before after file (.skipped file.path)

inductive ModuleStatus.Foretells (directory : String) (before after : Disk) :
    ModuleStatus → ModuleStatus → Prop
  | unmade (error : TableError) :
      Foretells directory before after (.failed (.table error)) (.failed (.table error))
  | unwritten (files : List PreviewFile) (error : StoreError) :
      Foretells directory before after (.previewed files) (.failed (.store error))
  | written {files : List PreviewFile} {results : List WriteResult}
      (placed : List.Forall₂ (PreviewFile.Foretells directory before after) files results) :
      Foretells directory before after (.previewed files) (.written results)

structure Outcome.Foretells (before after : Disk) (shown real : Outcome) : Prop where
  module : real.module = shown.module
  directory : real.directory = shown.directory
  status : ModuleStatus.Foretells shown.directory before after shown.status real.status

namespace Module

theorem artifacts_cases {manifest : Manifest} {variant : Variant} {module : Module}
    {artifacts : List Artifact} (made : module.artifacts manifest variant = .ok artifacts) :
    ∃ table : RouteTable,
      artifacts = [table.artifact, Artifact.entryPoint variant, Artifact.requestFile variant] := by
  cases assembled : RouteTable.assemble manifest variant module with
  | error error => simp [Module.artifacts, assembled, bind, Except.bind] at made
  | ok table =>
      simp only [Module.artifacts, assembled, bind, Except.bind, pure, Except.pure,
        Except.ok.injEq] at made
      exact ⟨table, made.symm⟩

section

variable {manifest : Manifest} {variant : Variant} {base : String} {module : Module}
  {artifacts : List Artifact}

theorem destination_own (made : module.artifacts manifest variant = .ok artifacts) (disk : Disk)
    {artifact : Artifact} (member : artifact ∈ artifacts) :
    disk.destination (artifact.path (module.directory base)) =
      disk.destination (module.directory base) ++ Path.pieces artifact.name.toList := by
  have own : artifact.name ∈ fileNames variant :=
    names_of_artifacts made ▸ List.mem_map_of_mem member
  exact Disk.destination_join disk _ (downward_own own)

theorem destinations_apart (made : module.artifacts manifest variant = .ok artifacts)
    (disk : Disk) :
    (artifacts.map fun artifact =>
      disk.destination (artifact.path (module.directory base))).Nodup := by
  have places : (artifacts.map fun artifact =>
      disk.destination (artifact.path (module.directory base))) =
        ((fileNames variant).map fun name => Path.pieces name.toList).map
          (disk.destination (module.directory base) ++ ·) := by
    rw [← names_of_artifacts made, List.map_map, List.map_map]
    exact List.map_congr_left fun artifact member => destination_own made disk member
  rw [places]
  refine List.Nodup.map (fun _ _ => List.append_cancel_left) ?_
  cases variant <;> decide

theorem once_free (made : module.artifacts manifest variant = .ok artifacts) {disk prepared : Disk}
    (ready : Artifact.prepareAll (module.directory base) artifacts disk = (.ok (), prepared))
    {artifact : Artifact} (member : artifact ∈ artifacts)
    (once : artifact.overwrite = .ifMissing) :
    artifact = Artifact.requestStub ∧
      prepared.isDirectory (artifact.path (module.directory base)) = false := by
  obtain ⟨table, rfl⟩ := artifacts_cases made
  have isStub : variant = .flat ∧ artifact = Artifact.requestStub := by
    simp only [List.mem_cons, List.not_mem_nil, or_false] at member
    rcases member with rfl | rfl | rfl
    · simp [RouteTable.artifact] at once
    · simp [Artifact.entryPoint] at once
    · cases variant with
      | nested => simp [Artifact.requestFile, Artifact.requestModule] at once
      | flat => exact ⟨rfl, rfl⟩
  obtain ⟨rfl, rfl⟩ := isStub
  have named : ∀ sibling ∈ [table.artifact, Artifact.entryPoint .flat, Artifact.requestStub],
      Disk.isName sibling.name.toList = true ∧ '/' ∉ sibling.name.toList := by
    simp only [List.mem_cons, List.not_mem_nil, or_false]
    rintro sibling (rfl | rfl | rfl)
    · exact (by decide : Disk.isName RouteTable.fileName.toList = true ∧ '/' ∉ RouteTable.fileName.toList)
    · exact (by decide : Disk.isName Artifact.entryPointName.toList = true ∧
        '/' ∉ Artifact.entryPointName.toList)
    · exact (by decide : Disk.isName Artifact.requestStubName.toList = true ∧
        '/' ∉ Artifact.requestStubName.toList)
  have free := Artifact.prepareAll_free named (congrArg Prod.fst ready)
  rw [show Artifact.requestFile .flat = Artifact.requestStub from rfl] at ready
  rw [ready] at free
  exact ⟨rfl, free _ (by simp)⟩

/-- The disk at the start of a run and the one at its end, beside the one on which a module is
generated: what is below the module's directory is only touched by the module. -/
structure Framed (base : String) (module : Module) (start before after final : Disk) : Prop where
  keeps : Keeps after final
  earlier : ∀ here content, before.destination (module.directory base) <+: here →
    before.node? here = some (.file content) → start.node? here = some (.file content)
  later : ∀ here content, before.destination (module.directory base) <+: here →
    after.node? here = some (.file content) → final.node? here = some (.file content)

section

variable {start before prepared after final : Disk}
  (framed : Framed base module start before after final)
include framed

theorem Framed.readFile (working : after.working = before.working) {path text : String}
    (below : before.destination (module.directory base) <+: before.destination path)
    (held : after.readFile path = .ok text) : final.readFile path = .ok text := by
  obtain ⟨location, content, led, found, decoded⟩ := (Disk.readFile_ok_iff after _ _).mp held
  obtain rfl := Disk.resolve_destination led
  rw [← Disk.destination_of_working working path] at below
  exact (Disk.readFile_ok_iff final _ _).mpr
    ⟨_, content, framed.keeps.resolve led, framed.later _ content below found, decoded⟩

theorem Framed.foretells (made : module.artifacts manifest variant = .ok artifacts)
    (ready : Artifact.prepareAll (module.directory base) artifacts before = (.ok (), prepared))
    {written : Disk.Location → Prop}
    (changes : Disk.Changes prepared after (fun _ => False) written) {artifact : Artifact}
    (member : artifact ∈ artifacts) {result : WriteResult}
    (placed : artifact.Placed (module.directory base) prepared after result) :
    (artifact.preview (module.directory base)).Foretells (module.directory base) start final
      result := by
  have grows := Artifact.prepareAll_grows (module.directory base) artifacts before
  rw [ready] at grows
  have working := changes.working.trans grows.working
  have below : before.destination (module.directory base) <+:
      before.destination (artifact.path (module.directory base)) := by
    rw [destination_own made before member]
    exact List.prefix_append _ _
  cases placed with
  | written holds => exact .written (framed.readFile working below holds)
  | skipped once there same =>
      obtain ⟨rfl, free⟩ := once_free made ready member once
      obtain ⟨parts, endsIn⟩ := Path.endsIn_join_name (module.directory base)
      have ends := endsIn Artifact.requestStubName (by decide) (by decide)
      obtain ⟨content, led, found⟩ := changes.file_of_exists ends there free
      have sameFinal : final.destination (Artifact.requestStub.path (module.directory base)) =
          before.destination (Artifact.requestStub.path (module.directory base)) :=
        Disk.destination_of_working (framed.keeps.working.trans working) _
      rw [Disk.destination_of_working working] at led found
      rw [Disk.destination_of_working grows.working] at same
      have was := (grows.file_iff _ id content).mp (same.symm.trans found)
      refine .skipped rfl content ?_ ?_ ?_ <;> rw [Artifact.preview, sameFinal]
      · exact framed.keeps.resolve led
      · exact framed.earlier _ content below was
      · exact framed.later _ content below found

end

theorem generate_foretold (manifest : Manifest) (variant : Variant) {start disk final : Disk}
    (framed : Framed base module start disk (module.generate manifest variant base disk).2 final) :
    Outcome.Foretells start final (module.preview manifest variant base)
      (module.generate manifest variant base disk).1 := by
  cases made : module.artifacts manifest variant with
  | error error =>
      simp only [generate, preview, made]
      exact ⟨rfl, rfl, .unmade error⟩
  | ok artifacts =>
      cases wrote : Artifact.writeAll artifacts (module.directory base) disk with
      | mk result after =>
          simp only [generate, preview, made, wrote] at framed ⊢
          cases result with
          | error error => exact ⟨rfl, rfl, .unwritten _ error⟩
          | ok results =>
              refine ⟨rfl, rfl, .written ?_⟩
              rw [List.forall₂_map_left_iff]
              obtain ⟨prepared, ready, changes, placed⟩ :=
                Artifact.writeAll_placed (destinations_apart made disk) wrote
              refine ((List.forall₂_and_left artifacts results).mpr
                ⟨fun artifact member => member, placed⟩).imp ?_
              exact fun artifact result own => framed.foretells made ready changes own.1 own.2

end

end Module

namespace Manifest

section

variable (manifest : Manifest) (variant : Variant) (base : String) {modules : List Module}

theorem generateFrom_foretold
    (faultless : ∀ module ∈ modules, DocumentPlace.nameFault? module.name = none)
    (distinct : (modules.map Module.name).Nodup) {start disk : Disk}
    (untouched : ∀ module ∈ modules, ∀ here content,
      disk.destination (module.directory base) <+: here →
        disk.node? here = some (.file content) → start.node? here = some (.file content)) :
    List.Forall₂ (Outcome.Foretells start (manifest.generateFrom variant base modules disk).2)
      (modules.map fun module => module.preview manifest variant base)
      (manifest.generateFrom variant base modules disk).1 := by
  induction modules generalizing disk with
  | nil => exact .nil
  | cons module rest ih =>
      rw [List.forall_mem_cons] at faultless untouched
      rw [List.map_cons, List.nodup_cons] at distinct
      rw [generateFrom_cons, List.map_cons]
      have kept := (Module.generate_changes manifest variant base faultless.1 disk).working
      have apart {other : Module} (member : other ∈ rest) : module.name ≠ other.name := by
        intro same
        exact distinct.1 (same ▸ List.mem_map_of_mem member)
      refine .cons ?_ (ih faultless.2 distinct.2 ?_)
      · have later := generateFrom_changes manifest variant base faultless.2
          (module.generate manifest variant base disk).2
        refine module.generate_foretold manifest variant
          ⟨later.keeps, untouched.1, fun here content inside found => ?_⟩
        rw [← Disk.destination_of_working kept] at inside
        exact (generateFrom_elsewhere manifest variant base faultless.2 _
          (fun other member => Module.directories_apart (apart member).symm faultless.1
            (faultless.2 other member) inside) content).mpr found
      · intro other member here content inside found
        rw [Disk.destination_of_working kept] at inside
        have before := (Module.generate_elsewhere manifest variant base faultless.1 disk
          (Module.directories_apart (apart member) (faultless.2 other member) faultless.1 inside)
          content).mp found
        exact untouched.2 other member here content inside before

end

/-- A dry run changes nothing, and it tells of every module in order what a run from the same disk
does: the same failure if the module cannot be made; otherwise the same files, each with this content
afterwards or, if it is created once and was there, as it was; or a failure in writing them. -/
theorem preview_foretells_run (source : Source) (manifest : Manifest)
    (accepted : ofSource source = .ok manifest)
    (distinct : (manifest.modules.map Module.name).Nodup) (variant : Variant)
    (options : RunOptions) (disk : Disk) :
    let shown := manifest.runModules variant { options with isDry := true } disk
    let real := manifest.runModules variant { options with isDry := false } disk
    shown.2 = disk ∧
      shown.1.map (fun outcome => (outcome.module, outcome.directory)) =
        manifest.modules.map (fun module => (module.name, module.directory options.base)) ∧
      List.Forall₂ (Outcome.Foretells disk real.2) shown.1 real.1 := by
  intro shown real
  have faultless := nameFault?_of_accepted accepted
  have named (module : Module) :
      ((module.preview manifest variant options.base).module,
        (module.preview manifest variant options.base).directory) =
          (module.name, module.directory options.base) := by
    simp only [Module.preview]
    split <;> rfl
  refine ⟨rfl, ?_, ?_⟩
  · change (manifest.preview variant options.base).map _ = _
    rw [preview, List.map_map]
    exact List.map_congr_left fun module _ => named module
  · exact generateFrom_foretold manifest variant options.base faultless distinct
      fun module _ here content _ found => found

theorem preview_foretells_run_over_stub :
    let document := "\x7b\"module_path\": \"/m\", \"module_name\": \"sys\", \"sub_modules\": [" ++
      "\x7b\"module\": \"free\", \"mtype\": \"a\"\x7d, " ++
      "\x7b\"module\": \"blocked\", \"mtype\": \"b\"\x7d]\x7d"
    let disk : Disk :=
      ⟨[(["free".toList], .directory), (["free".toList, "api.js".toList], .file "own".toByteArray),
        (["blocked".toList], .file "mine".toByteArray)], []⟩
    let options : RunOptions := ⟨"", none, false, false, none⟩
    ∃ manifest, ofSource ⟨document, fileName⟩ = .ok manifest ∧
      (manifest.modules.map Module.name).Nodup ∧
      (manifest.runModules .flat options disk).1.map Outcome.status =
        [.written [.written "free/.config.js", .written "free/.index.js", .skipped "free/api.js"],
          .failed (.store (.makeDirectory "blocked" .alreadyExists))] ∧
      List.Forall₂ (Outcome.Foretells disk (manifest.runModules .flat options disk).2)
        (manifest.preview .flat "") (manifest.runModules .flat options disk).1 := by
  intro document disk options
  obtain ⟨manifest, accepted, checked⟩ := exists_ok_of_passes (ofSource ⟨document, fileName⟩)
    (fun manifest => (manifest.modules.map Module.name).Nodup ∧
      (manifest.runModules .flat options disk).1.map Outcome.status =
        [.written [.written "free/.config.js", .written "free/.index.js", .skipped "free/api.js"],
          .failed (.store (.makeDirectory "blocked" .alreadyExists))])
    (by decide +kernel)
  obtain ⟨distinct, outcomes⟩ := of_decide_eq_true checked
  have foretold := preview_foretells_run _ manifest accepted distinct .flat options disk
  exact ⟨manifest, accepted, distinct, outcomes, foretold.2.2⟩

end Manifest

end RouteForge
