import RouteForge.Proofs.RepeatedFailures

/-!
A run made again changes nothing. Each module leaves its places ready or doomed, and what the others
do leaves them so; the second run then puts back, one after the other, what the first left there in
the end. Only a stub that was written is skipped now.
-/

namespace RouteForge

open Disk (Settled Keeps Changes Heads IsTree Ahead)
open Target (Ready Doomed)

inductive WriteResult.Repeats (stub : String) : WriteResult → WriteResult → Prop
  | same (result : WriteResult) : Repeats stub result result
  | skipped : Repeats stub (.written stub) (.skipped stub)

/-- The status of a module that is generated again. On a steady base a failure is the same. -/
inductive ModuleStatus.Repeats (stub : String) (steady : Prop) : ModuleStatus → ModuleStatus → Prop
  | unmade (error : TableError) : Repeats stub steady (.failed (.table error)) (.failed (.table error))
  | unwritten {first second : StoreError} (same : steady → second = first) :
      Repeats stub steady (.failed (.store first)) (.failed (.store second))
  | written {results again : List WriteResult}
      (same : List.Forall₂ (WriteResult.Repeats stub) results again) :
      Repeats stub steady (.written results) (.written again)

structure Outcome.Repeats (steady : Prop) (first second : Outcome) : Prop where
  module : second.module = first.module
  directory : second.directory = first.directory
  status : ModuleStatus.Repeats (Artifact.requestStub.path first.directory) steady first.status
    second.status

theorem Artifact.Placed.repeats {artifact : Artifact} {directory stub : String} {before after : Disk}
    {result : WriteResult} (placed : artifact.Placed directory before after result)
    (once : artifact.overwrite = .ifMissing → artifact.path directory = stub) :
    WriteResult.Repeats stub result (artifact.rewritten directory) := by
  cases placed with
  | written _ =>
      cases rule : artifact.overwrite with
      | always => simpa [rewritten, rule] using .same _
      | ifMissing => simpa [rewritten, rule, once rule] using .skipped
  | skipped rule _ _ => simpa [rewritten, rule] using .same _

theorem Disk.Keeps.between_replayed {disk middle final later : Disk} (kept : Keeps middle final)
    (keptLater : Keeps final later) {here : Disk.Location}
    (between : later.node? here = disk.node? here ∨ later.node? here = final.node? here)
    (added : disk.node? here ≠ none → middle.node? here = disk.node? here) :
    later.node? here = middle.node? here ∨ later.node? here = final.node? here := by
  rcases between with same | same
  · by_cases missing : disk.node? here = none
    · left
      rw [same, missing]
      by_contra present
      exact keptLater.present here (kept.present here (Ne.symm present)) (same.trans missing)
    · exact Or.inl (same.trans (added missing).symm)
  · exact Or.inr same

namespace Module

def ownTargets (variant : Variant) (directory : String) : List Target :=
  [⟨Path.join directory RouteTable.fileName, .always⟩,
    (Artifact.entryPoint variant).target directory, (Artifact.requestFile variant).target directory]

section

variable {manifest : Manifest} {variant : Variant} {base : String} {module : Module}
  {artifacts : List Artifact}

theorem targets_own (made : module.artifacts manifest variant = .ok artifacts) (directory : String) :
    Artifact.targets artifacts directory = ownTargets variant directory := by
  obtain ⟨table, rfl⟩ := artifacts_cases made
  rfl

theorem named_own (made : module.artifacts manifest variant = .ok artifacts) (directory : String) :
    ∀ artifact ∈ artifacts, (artifact.target directory).IsNamed := by
  intro artifact member
  have own : artifact.name ∈ fileNames variant := names_of_artifacts made ▸ List.mem_map_of_mem member
  have down := downward_own own
  have short : ∀ name ∈ Path.pieces artifact.name.toList, Disk.checkName name = .ok () := by
    cases variant with
    | nested | flat =>
        simp only [fileNames, List.mem_cons, List.not_mem_nil, or_false] at own
        rcases own with same | same | same <;> rw [same] <;> decide
  obtain ⟨init, name, ended⟩ := (List.eq_nil_or_concat _).resolve_left down.nonempty
  rw [List.concat_eq_append] at ended
  rw [ended] at down short
  obtain ⟨before, ends⟩ := Path.endsIn_join directory down
  exact ⟨before, name, ends, short name (by simp)⟩

theorem below_own (made : module.artifacts manifest variant = .ok artifacts) (disk : Disk)
    {target : Target} (member : target ∈ ownTargets variant (module.directory base)) :
    disk.destination (module.directory base) <+: disk.destination target.path := by
  rw [← targets_own made] at member
  obtain ⟨artifact, inside, rfl⟩ := List.mem_map.mp member
  rw [show (artifact.target (module.directory base)).path = artifact.path (module.directory base)
    from rfl, destination_own made disk inside]
  exact List.prefix_append _ _

theorem generate_of_artifacts (made : module.artifacts manifest variant = .ok artifacts)
    (base : String) (disk : Disk) :
    module.generate manifest variant base disk =
      (⟨module.name, module.directory base,
        match (Artifact.writeAll artifacts (module.directory base) disk).1 with
        | .error error => .failed (.store error)
        | .ok results => .written results⟩,
        (Artifact.writeAll artifacts (module.directory base) disk).2) := by
  simp only [generate, made]
  cases written : Artifact.writeAll artifacts (module.directory base) disk with
  | mk outcome after => cases outcome <;> rfl

theorem generate_of_unmade {error : TableError}
    (unmade : module.artifacts manifest variant = .error error) (base : String) (disk : Disk) :
    module.generate manifest variant base disk =
      (⟨module.name, module.directory base, .failed (.table error)⟩, disk) := by
  simp only [generate, unmade]

theorem repeats_self (manifest : Manifest) (variant : Variant) (base : String) (module : Module)
    (disk : Disk) {steady : Prop} :
    Outcome.Repeats steady (module.generate manifest variant base disk).1
      (module.generate manifest variant base disk).1 := by
  refine ⟨rfl, rfl, ?_⟩
  cases made : module.artifacts manifest variant with
  | error error =>
      rw [generate_of_unmade made]
      exact .unmade error
  | ok artifacts =>
      rw [generate_of_artifacts made]
      cases (Artifact.writeAll artifacts (module.directory base) disk).1 with
      | error error => exact .unwritten fun _ => rfl
      | ok results => exact .written (List.forall₂_same.mpr fun result _ => .same result)

theorem directory_congr {other : Module} (same : other.name = module.name) (base : String) :
    other.directory base = module.directory base := by
  rw [directory, directory, same]

end

/-! A module's places while other modules are generated. -/

section

variable (manifest : Manifest) {variant : Variant} {base : String} {module other : Module}
  (faultless : DocumentPlace.nameFault? module.name = none)
  (otherFaultless : DocumentPlace.nameFault? other.name = none)
  {artifacts : List Artifact} (made : module.artifacts manifest variant = .ok artifacts)
  {disk : Disk} (tree : disk.IsTree)
include faultless otherFaultless made

theorem generate_still (different : other.name ≠ module.name) {target : Target}
    (member : target ∈ ownTargets variant (module.directory base)) (content : ByteArray)
    (found : disk.node? (disk.destination target.path) = some (.file content)) :
    (other.generate manifest variant base disk).2.node? (disk.destination target.path) =
      some (.file content) :=
  (generate_elsewhere manifest variant base otherFaultless disk
    (directories_apart different faultless otherFaultless (below_own made disk member)) content).mpr
    found

include tree

theorem generate_doomed (doomed : Doomed (ownTargets variant (module.directory base)) disk) :
    Doomed (ownTargets variant (module.directory base))
        (other.generate manifest variant base disk).2 ∧
      (other.name = module.name → (other.generate manifest variant base disk).2 = disk) := by
  by_cases same : other.name = module.name
  · have stays : (other.generate manifest variant base disk).2 = disk := by
      cases madeOther : other.artifacts manifest variant with
      | error error => rw [generate_of_unmade madeOther]
      | ok others =>
          rw [generate_of_artifacts madeOther]
          rw [← directory_congr same, ← targets_own madeOther] at doomed
          obtain ⟨error, failed⟩ := Artifact.writeAll_of_doomed tree
            (named_own madeOther (other.directory base)) (destinations_apart madeOther disk) doomed
          rw [failed]
    rw [stays]
    exact ⟨doomed, fun _ => rfl⟩
  · have changes := generate_changes manifest variant base otherFaultless disk
    refine ⟨doomed.persists changes fun target member content found => ?_, fun impossible =>
      (same impossible).elim⟩
    exact generate_still manifest faultless otherFaultless made same member content found

theorem generate_ready (ready : Ready (ownTargets variant (module.directory base)) disk) :
    Ready (ownTargets variant (module.directory base))
      (other.generate manifest variant base disk).2 := by
  by_cases same : other.name = module.name
  · cases madeOther : other.artifacts manifest variant with
    | error error => rwa [generate_of_unmade madeOther]
    | ok others =>
        rw [generate_of_artifacts madeOther]
        rw [← directory_congr same, ← targets_own madeOther] at ready ⊢
        have named := named_own madeOther (other.directory base)
        have apart : (others.map fun artifact =>
            disk.destination (artifact.path (other.directory base))).Nodup :=
          destinations_apart madeOther disk
        obtain ⟨after, wrote, _⟩ := Artifact.writeAll_of_ready tree named apart ready
        rw [wrote]
        exact Artifact.writeAll_ready named apart
          (fun prepared prepares artifact member once => (once_free madeOther prepares member once).2)
          wrote
  · have changes := generate_changes manifest variant base otherFaultless disk
    refine ready.persists changes fun target member content found => ?_
    exact generate_still manifest faultless otherFaultless made same member content found

end

end Module

namespace Manifest

variable {manifest : Manifest} {variant : Variant} {base : String}

theorem generateFrom_append (first second : List Module) (disk : Disk) :
    (manifest.generateFrom variant base (first ++ second) disk).2 =
      (manifest.generateFrom variant base second
        (manifest.generateFrom variant base first disk).2).2 := by
  induction first generalizing disk with
  | nil => rfl
  | cons module rest ih => simp only [List.cons_append, generateFrom_cons, ih]

/-- The second disk is the first after some modules have been generated on it. -/
def Reached (manifest : Manifest) (variant : Variant) (base : String) (before after : Disk) : Prop :=
  ∃ modules : List Module, (∀ module ∈ modules, DocumentPlace.nameFault? module.name = none) ∧
    (manifest.generateFrom variant base modules before).2 = after

namespace Reached

variable {first second third : Disk}

theorem refl (disk : Disk) : Reached manifest variant base disk disk :=
  ⟨[], by simp, rfl⟩

theorem trans (earlier : Reached manifest variant base first second)
    (later : Reached manifest variant base second third) :
    Reached manifest variant base first third := by
  obtain ⟨modules, faultless, rfl⟩ := earlier
  obtain ⟨others, othersFaultless, rfl⟩ := later
  exact ⟨modules ++ others, List.forall_mem_append.mpr ⟨faultless, othersFaultless⟩,
    generateFrom_append modules others first⟩

theorem single {module : Module} (faultless : DocumentPlace.nameFault? module.name = none)
    (disk : Disk) :
    Reached manifest variant base disk (module.generate manifest variant base disk).2 :=
  ⟨[module], by simpa using faultless, rfl⟩

theorem induct {motive : Disk → Prop} (reached : Reached manifest variant base first second)
    (start : motive first)
    (step : ∀ (module : Module) (disk : Disk), DocumentPlace.nameFault? module.name = none →
      motive disk → motive (module.generate manifest variant base disk).2) : motive second := by
  obtain ⟨modules, faultless, rfl⟩ := reached
  induction modules generalizing first with
  | nil => exact start
  | cons module rest ih =>
      rw [List.forall_mem_cons] at faultless
      rw [generateFrom_cons]
      exact ih (step module first faultless.1 start) faultless.2

theorem keeps (reached : Reached manifest variant base first second) : Keeps first second :=
  reached.induct (Keeps.refl first) fun module disk faultless kept =>
    kept.trans (module.generate_changes manifest variant base faultless disk).keeps

theorem tree (reached : Reached manifest variant base first second) (tree : first.IsTree) :
    second.IsTree :=
  reached.induct tree fun module _ faultless tree =>
    module.generate_tree manifest variant base faultless tree

section

variable {module : Module} (faultless : DocumentPlace.nameFault? module.name = none)
  {artifacts : List Artifact} (made : module.artifacts manifest variant = .ok artifacts)
  (tree : first.IsTree) (reached : Reached manifest variant base first second)
include faultless made tree reached

theorem ready (ready : Ready (Module.ownTargets variant (module.directory base)) first) :
    Ready (Module.ownTargets variant (module.directory base)) second :=
  (reached.induct (motive := fun disk => disk.IsTree ∧
      Ready (Module.ownTargets variant (module.directory base)) disk) ⟨tree, ready⟩
    fun other _ otherFaultless ⟨tree, ready⟩ =>
      ⟨other.generate_tree manifest variant base otherFaultless tree,
        Module.generate_ready manifest faultless otherFaultless made tree ready⟩).2

theorem doomed (doomed : Doomed (Module.ownTargets variant (module.directory base)) first) :
    Doomed (Module.ownTargets variant (module.directory base)) second ∧
      ∀ location names, Heads first base location names →
        Ahead (first.destination (module.directory base)) first second := by
  refine (reached.induct (motive := fun disk => disk.IsTree ∧
    Doomed (Module.ownTargets variant (module.directory base)) disk ∧
      ∀ location names, Heads first base location names →
        Ahead (first.destination (module.directory base)) first disk)
    ⟨tree, doomed, fun _ _ _ => Ahead.refl _ first⟩ ?_).2
  rintro other disk otherFaultless ⟨treeNow, doomedNow, ahead⟩
  have treeNext := other.generate_tree manifest variant base otherFaultless treeNow
  obtain ⟨doomedNext, still⟩ :=
    Module.generate_doomed manifest faultless otherFaultless made treeNow doomedNow
  refine ⟨treeNext, doomedNext, fun location names heads => ?_⟩
  have soFar := ahead location names heads
  by_cases same : other.name = module.name
  · rwa [still same]
  · have next := Module.generate_ahead manifest variant base otherFaultless same faultless treeNow
      (heads.keeps soFar.keeps)
    rw [Disk.destination_of_working soFar.keeps.working] at next
    exact soFar.trans next

end

end Reached

section

variable {module : Module} (faultless : DocumentPlace.nameFault? module.name = none)
  {artifacts : List Artifact} (made : module.artifacts manifest variant = .ok artifacts)
  {disk after later : Disk} (tree : disk.IsTree)
include faultless made tree

theorem failed_again {error : StoreError}
    (failed : Artifact.writeAll artifacts (module.directory base) disk = (.error error, after))
    (reached : Reached manifest variant base after later) :
    ∃ again, Artifact.writeAll artifacts (module.directory base) later = (.error again, later) ∧
      ((∃ location names, Heads disk base location names) → again = error) := by
  have treeAfter := module.generate_tree manifest variant base faultless tree
  have keeps := (module.generate_changes manifest variant base faultless disk).keeps
  rw [Module.generate_of_artifacts made, failed] at treeAfter keeps
  have treeLater := reached.tree treeAfter
  have named := Module.named_own made (module.directory base)
  have doomed := Artifact.writeAll_doomed tree named (Module.destinations_apart made disk)
    (congrArg Prod.fst failed)
  rw [Module.targets_own made, failed] at doomed
  obtain ⟨doomedLater, ahead⟩ := reached.doomed faultless made treeAfter doomed
  rw [← Module.targets_own made] at doomedLater
  obtain ⟨again, failedAgain⟩ := Artifact.writeAll_of_doomed treeLater named
    (Module.destinations_apart made later) doomedLater
  refine ⟨again, failedAgain, fun ⟨location, names, heads⟩ => ?_⟩
  have headsAfter := heads.keeps keeps
  have compared : Module.Compared base module after later location names :=
    ⟨faultless, treeAfter, treeLater, headsAfter, ahead location names headsAfter⟩
  have same := (compared.writeAll (Module.names_of_artifacts made)).result
  rw [Module.writeAll_again faultless made tree heads failed, failedAgain] at same
  exact Except.error.inj same

theorem written_again {results : List WriteResult}
    (wrote : Artifact.writeAll artifacts (module.directory base) disk = (.ok results, after))
    (reached : Reached manifest variant base after later) :
    ∃ again final, Artifact.writeAll artifacts (module.directory base) later = (.ok again, final) ∧
      List.Forall₂ (WriteResult.Repeats (Artifact.requestStub.path (module.directory base)))
        results again ∧
      ∀ here, final.node? here = after.node? here ∨ final.node? here = later.node? here ∧
        (disk.node? here ≠ none → after.node? here = disk.node? here) := by
  have treeAfter := module.generate_tree manifest variant base faultless tree
  rw [Module.generate_of_artifacts made, wrote] at treeAfter
  have named := Module.named_own made (module.directory base)
  have apart (disk : Disk) : (artifacts.map fun artifact =>
      disk.destination (artifact.path (module.directory base))).Nodup :=
    Module.destinations_apart made disk
  have ready := Artifact.writeAll_ready named (apart disk)
    (fun prepared prepares artifact member once =>
      (Module.once_free made prepares member once).2) wrote
  rw [Module.targets_own made] at ready
  have readyLater := reached.ready faultless made treeAfter ready
  rw [← Module.targets_own made] at readyLater
  obtain ⟨final, wroteLater, unchanged⟩ :=
    Artifact.writeAll_of_ready (reached.tree treeAfter) named (apart later) readyLater
  refine ⟨_, final, wroteLater, ?_, fun here => ?_⟩
  · obtain ⟨prepared, prepares, _, placed⟩ := Artifact.writeAll_placed (apart disk) wrote
    have onlyStub : ∀ artifact ∈ artifacts, artifact.overwrite = .ifMissing →
        artifact = Artifact.requestStub :=
      fun artifact member once => (Module.once_free made prepares member once).1
    rw [List.forall₂_map_right_iff]
    refine (((List.forall₂_and_left _ _).mpr ⟨onlyStub, placed⟩).imp ?_).flip
    rintro artifact result ⟨isStub, isPlaced⟩
    exact isPlaced.repeats fun once => by rw [isStub once]
  · have spares := Artifact.writeAll_spares artifacts (module.directory base) disk
    have working := (Artifact.writeAll_changes artifacts (module.directory base) disk).working
    rw [wrote] at spares working
    have samePlace : later.working = disk.working := reached.keeps.working.trans working
    by_cases replaced : Artifact.IsReplaced artifacts (module.directory base) later here
    · left
      obtain ⟨artifact, member, always, rfl⟩ := replaced
      rw [Artifact.writeAll_content (apart later) wroteLater member always,
        Disk.destination_of_working samePlace,
        Artifact.writeAll_content (apart disk) wrote member always]
    · right
      exact ⟨unchanged here replaced, spares.nodes here fun there => replaced (there.congr samePlace)⟩

end

section

variable (steady : Prop) {disk later final : Disk} (tree : disk.IsTree)
  (heads : steady → ∃ location names, Heads disk base location names)
include tree heads

/-- One module of the second run. Wherever the second run is not yet as the first one was at this
module, it is as the first one left it in the end; and so it is at the next module. -/
theorem generate_replayed {module : Module}
    (faultless : DocumentPlace.nameFault? module.name = none)
    (reachedFinal : Reached manifest variant base (module.generate manifest variant base disk).2 final)
    (reached : Reached manifest variant base final later)
    (between : ∀ here, later.node? here = disk.node? here ∨ later.node? here = final.node? here) :
    Outcome.Repeats steady (module.generate manifest variant base disk).1
        (module.generate manifest variant base later).1 ∧
      ∀ here, (module.generate manifest variant base later).2.node? here =
          (module.generate manifest variant base disk).2.node? here ∨
        (module.generate manifest variant base later).2.node? here = final.node? here := by
  have stays (here : Disk.Location) :=
    Disk.Keeps.between_replayed reachedFinal.keeps reached.keeps (between here)
  cases made : module.artifacts manifest variant with
  | error error =>
      simp only [Module.generate_of_unmade made]
      exact ⟨⟨rfl, rfl, .unmade error⟩, between⟩
  | ok artifacts =>
      rw [Module.generate_of_artifacts made] at reachedFinal stays ⊢
      rw [Module.generate_of_artifacts made]
      cases wrote : Artifact.writeAll artifacts (module.directory base) disk with
      | mk outcome after =>
          rw [wrote] at reachedFinal stays
          have reachedLater := reachedFinal.trans reached
          cases outcome with
          | error error =>
              obtain ⟨again, failedAgain, same⟩ := failed_again faultless made tree wrote reachedLater
              rw [failedAgain]
              have spares := (Artifact.prepareAll_grows (module.directory base) artifacts disk).spares
                fun _ => True
              rw [← Artifact.writeAll_error (congrArg Prod.fst wrote), wrote] at spares
              exact ⟨⟨rfl, rfl, .unwritten fun isSteady => same (heads isSteady)⟩,
                fun here => stays here (spares.nodes here trivial)⟩
          | ok results =>
              obtain ⟨again, last, wroteAgain, repeats, placed⟩ :=
                written_again faultless made tree wrote reachedLater
              rw [wroteAgain]
              refine ⟨⟨rfl, rfl, .written repeats⟩, fun here => ?_⟩
              rcases placed here with same | ⟨same, kept⟩
              · exact Or.inl same
              · rw [same]
                exact stays here kept

theorem generateFrom_replayed {modules : List Module}
    (faultless : ∀ module ∈ modules, DocumentPlace.nameFault? module.name = none)
    (ends : (manifest.generateFrom variant base modules disk).2 = final)
    (reached : Reached manifest variant base final later)
    (between : ∀ here, later.node? here = disk.node? here ∨ later.node? here = final.node? here) :
    List.Forall₂ (Outcome.Repeats steady) (manifest.generateFrom variant base modules disk).1
        (manifest.generateFrom variant base modules later).1 ∧
      ∀ here, (manifest.generateFrom variant base modules later).2.node? here = final.node? here := by
  induction modules generalizing disk later with
  | nil =>
      obtain rfl : disk = final := ends
      exact ⟨.nil, fun here => (between here).elim id id⟩
  | cons module rest ih =>
      rw [List.forall_mem_cons] at faultless
      rw [generateFrom_cons] at ends
      have keeps := (module.generate_changes manifest variant base faultless.1 disk).keeps
      obtain ⟨repeats, betweenNow⟩ := generate_replayed steady tree heads faultless.1
        ⟨rest, faultless.2, ends⟩ reached between
      obtain ⟨others, places⟩ := ih
        (module.generate_tree manifest variant base faultless.1 tree)
        (fun isSteady => by
          obtain ⟨location, names, leads⟩ := heads isSteady
          exact ⟨location, names, leads.keeps keeps⟩)
        faultless.2 ends (reached.trans (Reached.single faultless.1 later)) betweenNow
      rw [generateFrom_cons, generateFrom_cons]
      exact ⟨.cons repeats others, places⟩

end

/-- A run that is made again ends where the first one did. The same entries fail, and where the base
steps up from nothing that is missing they fail with the same error; of the other entries only the
stubs that were written are skipped now. -/
theorem generate_again (source : Source) (manifest : Manifest)
    (accepted : ofSource source = .ok manifest) (variant : Variant) (base : String) (disk : Disk)
    (tree : disk.IsTree) :
    let first := manifest.generate variant base disk
    let second := manifest.generate variant base first.2
    second.2.working = first.2.working ∧
      (∀ location, second.2.node? location = first.2.node? location) ∧
      List.Forall₂ (Outcome.Repeats (disk.ClimbsFromPresent base)) first.1 second.1 := by
  intro first second
  have faultless := nameFault?_of_accepted accepted
  have reached : Reached manifest variant base first.2 second.2 := ⟨manifest.modules, faultless, rfl⟩
  refine ⟨reached.keeps.working, ?_⟩
  have ends : (manifest.generateFrom variant base manifest.modules disk).2 = first.2 := rfl
  have replayed (heads : disk.ClimbsFromPresent base → ∃ location names, Heads disk base location names) :=
    generateFrom_replayed (disk.ClimbsFromPresent base) tree heads faultless ends
      (Reached.refl first.2) fun _ => Or.inr rfl
  by_cases steady : disk.ClimbsFromPresent base
  · rcases tree.heads_or_stuck steady with heads | ⟨front, cause, initial, stopped, present⟩
    · exact (replayed fun _ => heads).symm
    · -- Nothing can be made below such a base, so the second run is the first one.
      have still (module : Module) (member : module ∈ manifest.modules) :=
        module.generate_stuck manifest variant (faultless module member) initial stopped present
      have once : first = (_, disk) := generateFrom_still manifest variant base still
      have again : second = first := by
        rw [show second = manifest.generate variant base first.2 from rfl, once]
        exact once
      rw [again, once]
      refine ⟨fun _ => rfl, ?_⟩
      rw [List.forall₂_map_left_iff, List.forall₂_map_right_iff, List.forall₂_same]
      exact fun module _ => module.repeats_self manifest variant base disk
  · exact (replayed fun isSteady => (steady isSteady).elim).symm

theorem generate_again_beside_blocked_modules :
    let document := "\x7b\"module_path\": \"/m\", \"module_name\": \"sys\", \"sub_modules\": [" ++
      "\x7b\"module\": \"demo\", \"mtype\": \"a\"\x7d, " ++
      "\x7b\"module\": \"blocked\", \"mtype\": \"b\"\x7d, " ++
      "\x7b\"module\": \"blocked\", \"mtype\": \"c\"\x7d]\x7d"
    let disk : Disk :=
      ⟨[(["out".toList], .directory), (["out".toList, "blocked".toList], .file "mine".toByteArray)], []⟩
    ∃ manifest, ofSource ⟨document, fileName⟩ = .ok manifest ∧ disk.IsTree ∧
      disk.ClimbsFromPresent "out" ∧
      (let first := manifest.generate .flat "out" disk
       let second := manifest.generate .flat "out" first.2
       first.1.map Outcome.isFailed = [false, true, true] ∧
         (∀ location, second.2.node? location = first.2.node? location) ∧
         List.Forall₂ (Outcome.Repeats (disk.ClimbsFromPresent "out")) first.1 second.1) := by
  intro document disk
  obtain ⟨manifest, accepted, checked⟩ := exists_ok_of_passes (ofSource ⟨document, fileName⟩)
    (fun manifest =>
      (manifest.generate .flat "out" disk).1.map Outcome.isFailed = [false, true, true])
    (by decide +kernel)
  have tree : disk.IsTree := Disk.isTree_of_entries (by decide) (by decide)
  have steady : disk.ClimbsFromPresent "out" := by
    intro front initial
    have inside := initial.subset (List.mem_append_right front (List.mem_singleton_self _))
    exact absurd inside (by decide)
  obtain ⟨_, places, outcomes⟩ := generate_again _ manifest accepted .flat "out" disk tree
  exact ⟨manifest, accepted, tree, steady, of_decide_eq_true checked, places, outcomes⟩

/-- Above a missing directory a run that fails makes that directory on its way, and the next one
fails further on for another reason. -/
theorem generate_again_above_missing :
    let document := "\x7b\"module_path\": \"/m\", \"module_name\": \"sys\", \"sub_modules\": [" ++
      "\x7b\"module\": \"x\", \"mtype\": \"a\"\x7d]\x7d"
    let disk : Disk := ⟨[(["f".toList], .file "mine".toByteArray)], []⟩
    ∃ manifest, ofSource ⟨document, fileName⟩ = .ok manifest ∧ disk.IsTree ∧
      (let first := manifest.generate .flat "a/../f" disk
       let second := manifest.generate .flat "a/../f" first.2
       first.1.map Outcome.status = [.failed (.store (.makeDirectory "a/../f/x" .alreadyExists))] ∧
         second.1.map Outcome.status =
           [.failed (.store (.makeDirectory "a/../f/x" .notDirectory))]) := by
  intro document disk
  obtain ⟨manifest, accepted, checked⟩ := exists_ok_of_passes (ofSource ⟨document, fileName⟩)
    (fun manifest =>
      (manifest.generate .flat "a/../f" disk).1.map Outcome.status =
          [.failed (.store (.makeDirectory "a/../f/x" .alreadyExists))] ∧
        (manifest.generate .flat "a/../f" (manifest.generate .flat "a/../f" disk).2).1.map
            Outcome.status =
          [.failed (.store (.makeDirectory "a/../f/x" .notDirectory))])
    (by decide +kernel)
  exact ⟨manifest, accepted, Disk.isTree_of_entries (by decide) (by decide), of_decide_eq_true checked⟩

end Manifest

end RouteForge
