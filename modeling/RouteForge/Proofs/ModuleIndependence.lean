import RouteForge.Proofs.MissingDirectories
import RouteForge.Proofs.Regeneration

/-!
Modules are independent of one another, whatever the base is like. What the others leave behind does
not differ in the files that a module finds on its way, and of directories it differs only in those
on the way to the base, which each module makes first. So a module is written after the others if and
only if it is written alone, and then its directory ends up the same.
-/

namespace RouteForge

open Disk (Agree Covers IsTree Region SameEffect Settled Within)

/-- The same status, but that on an unsteady base the files may fail to be written for another
reason. -/
inductive ModuleStatus.Alike (steady : Prop) : ModuleStatus → ModuleStatus → Prop
  | same (status : ModuleStatus) : Alike steady status status
  | unwritten (unsteady : ¬steady) (first second : StoreError) :
      Alike steady (.failed (.store first)) (.failed (.store second))

structure Outcome.Alike (steady : Prop) (first second : Outcome) : Prop where
  module : second.module = first.module
  directory : second.directory = first.directory
  status : ModuleStatus.Alike steady first.status second.status

section

variable {steady : Prop}

theorem ModuleStatus.Alike.symm {first second : ModuleStatus}
    (alike : ModuleStatus.Alike steady first second) : ModuleStatus.Alike steady second first := by
  cases alike with
  | same => exact .same _
  | unwritten unsteady => exact .unwritten unsteady _ _

theorem ModuleStatus.Alike.trans {first second third : ModuleStatus}
    (earlier : ModuleStatus.Alike steady first second)
    (later : ModuleStatus.Alike steady second third) : ModuleStatus.Alike steady first third := by
  cases earlier with
  | same => exact later
  | unwritten unsteady =>
      cases later with
      | same => exact .unwritten unsteady _ _
      | unwritten => exact .unwritten unsteady _ _

variable {first second third : Outcome}

theorem Outcome.Alike.refl (steady : Prop) (outcome : Outcome) : Outcome.Alike steady outcome outcome :=
  ⟨rfl, rfl, .same _⟩

theorem Outcome.Alike.symm (alike : Outcome.Alike steady first second) :
    Outcome.Alike steady second first :=
  ⟨alike.module.symm, alike.directory.symm, alike.status.symm⟩

theorem Outcome.Alike.trans (earlier : Outcome.Alike steady first second)
    (later : Outcome.Alike steady second third) : Outcome.Alike steady first third :=
  ⟨later.module.trans earlier.module, later.directory.trans earlier.directory,
    earlier.status.trans later.status⟩

theorem Outcome.Alike.forall₂ {α : Type} {expected : α → Outcome} {items : List α}
    {outcomes others : List Outcome}
    (alike : List.Forall₂ (fun item => Outcome.Alike steady (expected item)) items outcomes)
    (likewise : List.Forall₂ (fun item => Outcome.Alike steady (expected item)) items others) :
    List.Forall₂ (Outcome.Alike steady) outcomes others := by
  induction alike generalizing others with
  | nil =>
      cases likewise
      exact .nil
  | cons here _ ih =>
      cases likewise with
      | cons there rest => exact .cons (here.symm.trans there) (ih rest)

end

namespace Disk

/-- Two disks that do not differ, on the way to a directory below the base and below it, but in
directories on the way to the base. -/
structure Beside (base own : String) (first second : Disk) : Prop where
  working : second.working = first.working
  files : ∀ here, Region first own here → ∀ content,
    second.node? here = some (.file content) ↔ first.node? here = some (.file content)
  nodes : ∀ here, Region first own here → here ∉ first.trail base →
    second.node? here = first.node? here

namespace Beside

variable {base own : String} {first second third : Disk}

theorem refl (disk : Disk) : Beside base own disk disk :=
  ⟨rfl, fun _ _ _ => Iff.rfl, fun _ _ _ => rfl⟩

theorem symm (beside : Beside base own first second) : Beside base own second first := by
  have working := beside.working
  refine ⟨working.symm, ?_, ?_⟩
  · rw [region_congr working]
    exact fun here inside content => (beside.files here inside content).symm
  · rw [region_congr working, trail_congr working]
    exact fun here inside off => (beside.nodes here inside off).symm

theorem trans (earlier : Beside base own first second) (later : Beside base own second third) :
    Beside base own first third := by
  obtain ⟨working, files, nodes⟩ := later
  rw [region_congr earlier.working] at files nodes
  rw [trail_congr earlier.working] at nodes
  refine ⟨working.trans earlier.working, ?_, ?_⟩
  · exact fun here inside content =>
      (files here inside content).trans (earlier.files here inside content)
  · exact fun here inside off => (nodes here inside off).trans (earlier.nodes here inside off)

end Beside

end Disk

namespace Artifact

theorem prepareAll_within {region : Disk.Location → Prop} {directory : String}
    {artifacts : List Artifact} {disk ready : Disk} (tree : disk.IsTree)
    (within : Within region disk ready) (working : ready.working = disk.working)
    (covers : ∀ artifact ∈ artifacts, Covers region disk (artifact.path directory))
    (named : ∀ artifact ∈ artifacts, (artifact.target directory).IsNamed)
    (filled : Target.Ready (targets artifacts directory) ready) :
    (prepareAll directory artifacts disk).1 = .ok () := by
  induction artifacts generalizing disk with
  | nil => rw [prepareAll_nil]
  | cons artifact rest ih =>
      rw [List.forall_mem_cons] at covers named
      rw [Target.Ready, targets, List.map_cons, List.forall_mem_cons] at filled
      obtain ⟨before, name, ends, _⟩ := named.1
      obtain ⟨settled, _, content, isFile, _⟩ := filled.1
      have free : disk.isDirectory (artifact.path directory) = false := by
        rw [Bool.eq_false_iff]
        intro there
        obtain ⟨location, led, found⟩ := (Disk.isDirectory_iff disk _).mp there
        obtain rfl := Disk.resolve_destination led
        have kept := within.directories _ (covers.1 _ (Disk.destination_mem_trail disk _)) found
        rw [target, Disk.destination_of_working working] at isFile
        simp [isFile] at kept
      obtain ⟨next, ensured, withinNext⟩ :=
        within.ensureParent tree working covers.1 ends settled
      have treeNext := Disk.ensureParent_tree tree (artifact.path directory)
      have kept := (Disk.ensureParent_grows disk (artifact.path directory)).working
      rw [ensured] at treeNext kept
      have prepared : artifact.prepare directory disk = (.ok (), next) := by
        simp [prepare, free, ensured]
      rw [prepareAll_cons, prepared]
      exact ih treeNext withinNext (working.trans kept.symm)
        (fun other member => (covers.2 other member).congr kept) named.2 filled.2

end Artifact

namespace Module

variable {manifest : Manifest} {variant : Variant} {base : String} {module : Module}
  {artifacts : List Artifact} {first second : Disk}

theorem trail_base (faultless : DocumentPlace.nameFault? module.name = none) (disk : Disk)
    {here : Disk.Location} (passing : here ∈ disk.trail base) :
    here ∈ disk.trail (module.directory base) := by
  obtain ⟨named, whole, _⟩ := isName_of_nameFault? faultless
  have down := Path.downward_name named whole
  rw [Disk.mem_trail_iff] at passing ⊢
  obtain ⟨front, initial, rfl⟩ := passing
  refine ⟨front, ?_, by rw [directory, Disk.origin_join disk base down]⟩
  rw [directory, Path.moves_join base down]
  exact initial.trans (List.prefix_append _ _)

section

variable (faultless : DocumentPlace.nameFault? module.name = none)
include faultless

theorem trail_of_settled (made : module.artifacts manifest variant = .ok artifacts) {disk : Disk}
    (settled : ∀ artifact ∈ artifacts, Settled disk (artifact.path (module.directory base))) :
    ∀ here ∈ disk.trail (module.directory base), disk.node? here = some .directory := by
  obtain ⟨parent, above, madeAt⟩ := exists_madeAt base faultless
  obtain ⟨table, rfl⟩ := artifacts_cases made
  obtain ⟨final, entered⟩ := madeAt.settled (settled table.artifact (by simp))
  exact Disk.trail_of_enter entered

theorem trail_of_written (made : module.artifacts manifest variant = .ok artifacts)
    {disk after : Disk} {results : List WriteResult}
    (wrote : Artifact.writeAll artifacts (module.directory base) disk = (.ok results, after)) :
    ∀ here ∈ after.trail (module.directory base), after.node? here = some .directory := by
  obtain ⟨prepared, prepares, changes, _⟩ :=
    Artifact.writeAll_placed (destinations_apart made disk) wrote
  have settled := Artifact.prepareAll_ok _ artifacts disk (by rw [prepares])
  rw [prepares] at settled
  exact trail_of_settled faultless made fun artifact member =>
    (settled artifact member).keeps changes.keeps

theorem below_of_region {disk : Disk} {here : Disk.Location}
    (inside : Region disk (module.directory base) here) (off : here ∉ disk.trail base) :
    disk.destination (module.directory base) <+: here := by
  rcases inside with passing | below
  · obtain ⟨named, whole, _⟩ := isName_of_nameFault? faultless
    have down := Path.downward_name named whole
    obtain ⟨front, initial, rfl⟩ := (Disk.mem_trail_iff disk _ here).mp passing
    have moves := Path.moves_join base down
    rw [← directory] at moves
    rw [moves, List.prefix_concat_iff, ← moves] at initial
    rcases initial with rfl | shorter
    · exact List.prefix_rfl
    · refine (off ((Disk.mem_trail_iff disk base _).mpr ⟨front, shorter, ?_⟩)).elim
      rw [directory, Disk.origin_join disk base down]
  · exact below

theorem trail_of_generated {disk : Disk} {results : List WriteResult}
    (written : (module.generate manifest variant base disk).1 =
      ⟨module.name, module.directory base, .written results⟩) :
    ∀ here ∈ disk.trail base,
      (module.generate manifest variant base disk).2.node? here = some .directory := by
  intro here passing
  have working := (generate_changes manifest variant base faultless disk).working
  cases made : module.artifacts manifest variant with
  | error error => simp [generate_of_unmade made] at written
  | ok artifacts =>
      rw [generate_of_artifacts made] at written working ⊢
      cases wrote : Artifact.writeAll artifacts (module.directory base) disk with
      | mk outcome after =>
          rw [wrote] at written working
          cases outcome with
          | error error => simp at written
          | ok _ =>
              refine trail_of_written faultless made wrote here ?_
              rw [Disk.trail_congr working]
              exact trail_base faultless disk passing

variable (base) in
theorem other_apart {other : Module} (different : other.name ≠ module.name)
    (otherFaultless : DocumentPlace.nameFault? other.name = none) (disk : Disk)
    (more : Disk.Location) :
    ¬disk.destination (module.directory base) <+:
      disk.destination base ++ other.name.toList :: more := by
  intro inside
  apply directories_apart different faultless otherFaultless inside
  rw [destination_directory disk base otherFaultless]
  simp

theorem off_base_apart {other : Module} (different : other.name ≠ module.name)
    (otherFaultless : DocumentPlace.nameFault? other.name = none) {disk after : Disk}
    (working : after.working = disk.working) {here : Disk.Location}
    (onTheWay : IsOnTheWay variant base other after here) (off : here ∉ disk.trail base) :
    ¬disk.destination (module.directory base) <+: here := by
  have samePlace := Disk.destination_of_working working
  have apart := other_apart base faultless different otherFaultless disk
  obtain ⟨path, led, along⟩ := onTheWay
  rw [Disk.resolve_destination led, samePlace]
  rcases along with ofBase | ofOwn | ⟨_, ofUtils⟩
  · have passed := Disk.AtPrefix.mem_trail ⟨path, ofBase, led⟩
    rw [Disk.trail_congr working] at passed
    exact absurd passed off
  · rw [Disk.destination_congr disk ofOwn, destination_directory disk base otherFaultless]
    exact apart []
  · have down := Path.downward_name (by decide : Disk.isName "utils".toList = true) (by decide)
    rw [Disk.destination_congr disk ofUtils, Disk.destination_join disk _ down,
      destination_directory disk base otherFaultless, List.append_assoc]
    exact apart _

theorem generate_other {other : Module} (different : other.name ≠ module.name)
    (otherFaultless : DocumentPlace.nameFault? other.name = none) (disk : Disk) :
    Disk.Beside base (module.directory base) disk (other.generate manifest variant base disk).2 := by
  have changes := generate_changes manifest variant base otherFaultless disk
  have written (here : Disk.Location) (inside : Region disk (module.directory base) here)
      (own : IsOwnFile variant base other (other.generate manifest variant base disk).2 here) :
      here ∈ disk.trail base := by
    by_contra off
    obtain ⟨more, _, rfl⟩ := own.location otherFaultless
    rw [Disk.destination_of_working changes.working] at inside off
    exact other_apart base faultless different otherFaultless disk more
      (below_of_region faultless inside off)
  refine ⟨changes.working, fun here inside content => ?_, fun here inside off => ?_⟩
  · rcases changes.nodes here with same | ⟨missing, isDirectory, _⟩ | ⟨_, ⟨⟨_, wrote⟩, own⟩, _, isFile⟩
    · rw [same]
    · simp [missing, isDirectory]
    · have isDirectory := trail_of_generated otherFaultless wrote here (written here inside own)
      simp [isFile] at isDirectory
  · rcases changes.nodes here with same | ⟨_, _, onTheWay⟩ | ⟨_, ⟨_, own⟩, _, _⟩
    · exact same
    · exact absurd (below_of_region faultless inside off)
        (off_base_apart faultless different otherFaultless changes.working onTheWay off)
    · exact absurd (written here inside own) off

variable (beside : Disk.Beside base (module.directory base) first second)
include beside

theorem prepared_agree (made : module.artifacts manifest variant = .ok artifacts)
    (ok : (Artifact.prepareAll (module.directory base) artifacts first).1 = .ok ())
    (okSecond : (Artifact.prepareAll (module.directory base) artifacts second).1 = .ok ()) :
    Agree (Region first (module.directory base))
      (Artifact.prepareAll (module.directory base) artifacts first).2
      (Artifact.prepareAll (module.directory base) artifacts second).2 := by
  have settled := Artifact.prepareAll_ok _ artifacts first ok
  have settledSecond := Artifact.prepareAll_ok _ artifacts second okSecond
  have grows := Artifact.prepareAll_grows (module.directory base) artifacts first
  have growsSecond := Artifact.prepareAll_grows (module.directory base) artifacts second
  have named := named_own made (module.directory base)
  have onTheWay := trail_of_settled faultless made settled
  have onTheWaySecond := trail_of_settled faultless made settledSecond
  generalize (Artifact.prepareAll (module.directory base) artifacts first).2 = one at *
  generalize (Artifact.prepareAll (module.directory base) artifacts second).2 = other at *
  have working : other.working = one.working := by
    rw [growsSecond.working, beside.working, grows.working]
  rw [Disk.trail_congr grows.working] at onTheWay
  rw [Disk.trail_congr (working.trans grows.working)] at onTheWaySecond
  have made {disk after : Disk} {here : Disk.Location} (same : after.working = disk.working)
      (ready : ∀ artifact ∈ artifacts, Settled after (artifact.path (module.directory base)))
      (prepared : Artifact.Prepared artifacts (module.directory base) disk here) :
      after.node? here = some .directory := by
    obtain ⟨artifact, member, led⟩ := prepared
    obtain ⟨before, name, ends, _⟩ := named artifact member
    obtain ⟨parent, found, _⟩ := ends.parent
    exact (ready artifact member).directory_at same found led
  refine ⟨working, fun here inside => ?_⟩
  by_cases passing : here ∈ first.trail base
  · have along := trail_base faultless first passing
    rw [onTheWay here along, onTheWaySecond here along]
  · rcases grows.nodes here with same | ⟨missing, isDirectory, prepared⟩ | ⟨_, impossible, _⟩
    · rcases growsSecond.nodes here with sameSecond | ⟨_, isDirectory, prepared⟩ | ⟨_, impossible, _⟩
      · rw [same, sameSecond, beside.nodes here inside passing]
      · rw [isDirectory, made working.symm settled prepared]
      · exact impossible.elim
    · rw [isDirectory, made working settledSecond prepared]
    · exact impossible.elim

theorem writeAll_beside (tree : second.IsTree)
    (made : module.artifacts manifest variant = .ok artifacts) {results : List WriteResult}
    {after : Disk}
    (wrote : Artifact.writeAll artifacts (module.directory base) first = (.ok results, after)) :
    SameEffect (Agree (Region first (module.directory base)))
      (Artifact.writeAll artifacts (module.directory base) first)
      (Artifact.writeAll artifacts (module.directory base) second) := by
  have named := named_own made (module.directory base)
  have covers : ∀ artifact ∈ artifacts, Covers (Region first (module.directory base)) first
      (artifact.path (module.directory base)) := covers_own (names_of_artifacts made) first
  have ready := Artifact.writeAll_ready named (destinations_apart made first)
    (fun prepared prepares artifact member once => (once_free made prepares member once).2) wrote
  have changes := Artifact.writeAll_changes artifacts (module.directory base) first
  have onTheWay := trail_of_written faultless made wrote
  rw [wrote] at changes
  rw [Disk.trail_congr changes.working] at onTheWay
  have within : Within (Region first (module.directory base)) second after := by
    refine ⟨fun here inside found => ?_, fun here inside content found => ?_⟩
    · by_cases passing : here ∈ first.trail base
      · exact onTheWay here (trail_base faultless first passing)
      · rw [beside.nodes here inside passing] at found
        exact changes.keeps.directory here found
    · exact changes.file ((beside.files here inside content).mp found)
  obtain ⟨prepared, prepares, _⟩ := Artifact.writeAll_placed (destinations_apart made first) wrote
  have okSecond := Artifact.prepareAll_within tree within
    (changes.working.trans beside.working.symm)
    (fun artifact member => (covers artifact member).congr beside.working) named ready
  have agree := prepared_agree faultless beside made (by rw [prepares]) okSecond
  refine Artifact.writeAll_agree ?_ covers
  rw [prepares] at agree ⊢
  rw [show Artifact.prepareAll (module.directory base) artifacts second =
    (.ok (), (Artifact.prepareAll (module.directory base) artifacts second).2) from
      Prod.ext okSecond rfl]
  exact .same _ agree

variable (manifest) (variant) (tree : first.IsTree) (treeSecond : second.IsTree)
include tree treeSecond

theorem generate_beside {steady : Prop} (unsteady : ¬steady) :
    Outcome.Alike steady (module.generate manifest variant base first).1
        (module.generate manifest variant base second).1 ∧
      (∀ here, first.destination (module.directory base) <+: here → ∀ content,
        (module.generate manifest variant base second).2.node? here = some (.file content) ↔
          (module.generate manifest variant base first).2.node? here = some (.file content)) ∧
      ((module.generate manifest variant base first).1.isFailed = false →
        Agree (Region first (module.directory base)) (module.generate manifest variant base first).2
            (module.generate manifest variant base second).2 ∧
          ∀ here ∈ first.trail base,
            (module.generate manifest variant base first).2.node? here = some .directory) := by
  have bothFailed (one : (module.generate manifest variant base first).1.isFailed = true)
      (other : (module.generate manifest variant base second).1.isFailed = true)
      (here : Disk.Location) (below : first.destination (module.directory base) <+: here)
      (content : ByteArray) := calc
    (module.generate manifest variant base second).2.node? here = some (.file content)
      ↔ second.node? here = some (.file content) :=
        files_of_failed manifest variant base faultless other here content
    _ ↔ first.node? here = some (.file content) := beside.files here (Or.inr below) content
    _ ↔ (module.generate manifest variant base first).2.node? here = some (.file content) :=
        (files_of_failed manifest variant base faultless one here content).symm
  cases made : module.artifacts manifest variant with
  | error error =>
      simp only [generate_of_unmade made] at bothFailed ⊢
      refine ⟨.refl steady _, bothFailed rfl rfl, fun impossible => ?_⟩
      simp [Outcome.isFailed] at impossible
  | ok artifacts =>
      simp only [generate_of_artifacts made] at bothFailed ⊢
      have forth := @writeAll_beside _ variant base module artifacts first second faultless beside
        treeSecond made
      have back := @writeAll_beside _ variant base module artifacts second first faultless beside.symm
        tree made
      have onTheWay := @trail_of_written _ variant base module artifacts faultless made first
      have working := (Artifact.writeAll_changes artifacts (module.directory base) first).working
      generalize Artifact.writeAll artifacts (module.directory base) first = one at *
      generalize Artifact.writeAll artifacts (module.directory base) second = other at *
      obtain ⟨outcome, after⟩ := one
      obtain ⟨outcomeSecond, afterSecond⟩ := other
      cases outcome with
      | ok results =>
          have effect := forth rfl
          obtain rfl : outcomeSecond = .ok results := effect.result
          refine ⟨.refl steady _, fun here below content => ?_, fun _ => ⟨effect.disks, ?_⟩⟩
          · rw [effect.disks.nodes here (Or.inr below)]
          · intro here passing
            refine onTheWay rfl here ?_
            rw [Disk.trail_congr working]
            exact trail_base faultless first passing
      | error error =>
          cases outcomeSecond with
          | ok results => simpa using (back rfl).result
          | error errorSecond =>
              refine ⟨⟨rfl, rfl, .unwritten unsteady error errorSecond⟩, bothFailed rfl rfl, ?_⟩
              intro impossible
              simp [Outcome.isFailed] at impossible

end

end Module

namespace Manifest

section

variable {manifest : Manifest} {variant : Variant} {base : String} {modules : List Module}

theorem generateFrom_others {module : Module}
    (faultless : ∀ other ∈ modules, DocumentPlace.nameFault? other.name = none)
    (faultlessModule : DocumentPlace.nameFault? module.name = none)
    (different : module.name ∉ modules.map Module.name) (disk : Disk) :
    Disk.Beside base (module.directory base) disk
      (manifest.generateFrom variant base modules disk).2 := by
  induction modules generalizing disk with
  | nil => exact .refl disk
  | cons other rest ih =>
      rw [List.forall_mem_cons] at faultless
      rw [List.map_cons, List.mem_cons, not_or] at different
      exact (Module.generate_other faultlessModule (Ne.symm different.1) faultless.1 disk).trans
        (ih faultless.2 different.2 _)

theorem generateFrom_beside {steady : Prop} (unsteady : ¬steady)
    (faultless : ∀ module ∈ modules, DocumentPlace.nameFault? module.name = none)
    (distinct : (modules.map Module.name).Nodup) {start disk : Disk} (tree : start.IsTree)
    (treeNow : disk.IsTree)
    (beside : ∀ module ∈ modules, Disk.Beside base (module.directory base) start disk) :
    List.Forall₂ (fun module outcome =>
        Outcome.Alike steady (module.generate manifest variant base start).1 outcome)
        modules (manifest.generateFrom variant base modules disk).1 ∧
      ∀ module ∈ modules, ∀ here, start.destination (module.directory base) <+: here →
        (∀ content, (manifest.generateFrom variant base modules disk).2.node? here =
            some (.file content) ↔
          (module.generate manifest variant base start).2.node? here = some (.file content)) ∧
        ((module.generate manifest variant base start).1.isFailed = false →
          (manifest.generateFrom variant base modules disk).2.node? here =
            (module.generate manifest variant base start).2.node? here) := by
  -- By induction on the modules: each of them has still before it what matters to it, and the later
  -- ones leave it what it has written.
  induction modules generalizing disk with
  | nil => exact ⟨.nil, by simp⟩
  | cons module rest ih =>
      rw [List.forall_mem_cons] at faultless beside
      rw [List.map_cons, List.nodup_cons] at distinct
      have keeps := (module.generate_changes manifest variant base faultless.1 disk).keeps
      have working := keeps.working.trans beside.1.working
      obtain ⟨outcome, files, agrees⟩ := Module.generate_beside manifest variant faultless.1 beside.1
        tree treeNow unsteady
      obtain ⟨outcomes, places⟩ := ih faultless.2 distinct.2
        (module.generate_tree manifest variant base faultless.1 treeNow) fun other member =>
          (beside.2 other member).trans <| Module.generate_other (faultless.2 other member)
            (fun same => distinct.1 (same ▸ List.mem_map_of_mem member)) faultless.1 disk
      have left := @generateFrom_others manifest variant base rest module faultless.2 faultless.1
        distinct.1 (module.generate manifest variant base disk).2
      have kept := (generateFrom_changes manifest variant base faultless.2
        (module.generate manifest variant base disk).2).keeps
      rw [generateFrom_cons]
      refine ⟨.cons outcome outcomes, ?_⟩
      rw [List.forall_mem_cons]
      refine ⟨fun here below => ?_, places⟩
      have inside : Region (module.generate manifest variant base disk).2
          (module.directory base) here := by
        rw [Disk.region_congr working]
        exact Or.inr below
      refine ⟨fun content => (left.files here inside content).trans (files here below content),
        fun written => ?_⟩
      obtain ⟨agree, directories⟩ := agrees written
      have same := agree.nodes here (Or.inr below)
      by_cases passing : here ∈ start.trail base
      · rw [directories here passing] at same ⊢
        exact kept.directory here same
      · rw [← Disk.trail_congr working] at passing
        exact (left.nodes here inside passing).trans same

end

def alone (manifest : Manifest) (module : Module) : Manifest :=
  { manifest with modules := [module] }

theorem generate_module (manifest : Manifest) (variant : Variant) (base : String) (module : Module)
    (disk : Disk) : (module.generate manifest variant base disk).1.module = module.name := by
  simp only [Module.generate]
  split
  · rfl
  · split <;> rfl

theorem generateFrom_independent_everywhere (manifest : Manifest) (variant : Variant) (base : String)
    {modules : List Module}
    (faultless : ∀ module ∈ modules, DocumentPlace.nameFault? module.name = none)
    (distinct : (modules.map Module.name).Nodup) {disk : Disk} (tree : disk.IsTree) :
    List.Forall₂ (fun module outcome => Outcome.Alike (disk.ClimbsFromPresent base)
        (module.generate manifest variant base disk).1 outcome)
        modules (manifest.generateFrom variant base modules disk).1 ∧
      ∀ module ∈ modules, ∀ here, disk.destination (module.directory base) <+: here →
        (∀ content, (manifest.generateFrom variant base modules disk).2.node? here =
            some (.file content) ↔
          (module.generate manifest variant base disk).2.node? here = some (.file content)) ∧
        (disk.ClimbsFromPresent base ∨
            (module.generate manifest variant base disk).1.isFailed = false →
          (manifest.generateFrom variant base modules disk).2.node? here =
            (module.generate manifest variant base disk).2.node? here) := by
  by_cases steady : disk.ClimbsFromPresent base
  · obtain ⟨outcomes, places⟩ :=
      generateFrom_independent manifest variant base faultless distinct tree steady
    rw [outcomes, List.forall₂_map_right_iff, List.forall₂_same]
    refine ⟨fun module _ => .refl _ _, fun module member here below => ?_⟩
    rw [places module member here below]
    exact ⟨fun _ => Iff.rfl, fun _ => rfl⟩
  · obtain ⟨outcomes, places⟩ := generateFrom_beside steady faultless distinct tree tree
      fun module _ => Disk.Beside.refl disk
    refine ⟨outcomes, fun module member here below => ?_⟩
    obtain ⟨files, nodes⟩ := places module member here below
    exact ⟨files, fun unharmed => nodes (unharmed.resolve_left steady)⟩

/-- On a file system, and for any base, modules with different names are independent. A run reports
one outcome for each module in order; the outcome and the files in the module's directory are those
of a run over this module alone, and so are the directories there if it does not fail. Where the base
steps up from something that is missing, a failure may have another error. Modules in another order
have the same outcomes, and the files are the same everywhere. -/
theorem generate_independent (source : Source) (manifest : Manifest)
    (accepted : ofSource source = .ok manifest)
    (distinct : (manifest.modules.map Module.name).Nodup) (variant : Variant) (base : String)
    (disk : Disk) (tree : disk.IsTree) :
    let steady := disk.ClimbsFromPresent base
    let whole := manifest.generate variant base disk
    let single := fun module => (manifest.alone module).generate variant base disk
    whole.1.map Outcome.module = manifest.modules.map Module.name ∧
      List.Forall₂ (fun module outcome =>
        ∃ alone, (single module).1 = [alone] ∧ Outcome.Alike steady alone outcome)
        manifest.modules whole.1 ∧
      (∀ module ∈ manifest.modules, ∀ location,
        disk.destination (module.directory base) <+: location →
          (∀ content, whole.2.node? location = some (.file content) ↔
            (single module).2.node? location = some (.file content)) ∧
          (steady ∨ (single module).1.any Outcome.isFailed = false →
            whole.2.node? location = (single module).2.node? location)) ∧
      ∀ modules, modules.Perm manifest.modules →
        let permuted := { manifest with modules }.generate variant base disk
        permuted.1.map Outcome.module = modules.map Module.name ∧
          (∃ outcomes, outcomes.Perm whole.1 ∧
            List.Forall₂ (Outcome.Alike steady) outcomes permuted.1) ∧
          ∀ location content, permuted.2.node? location = some (.file content) ↔
            whole.2.node? location = some (.file content) := by
  intro steady whole single
  have faultless := nameFault?_of_accepted accepted
  have single_eq (module : Module) : single module =
      ([(module.generate manifest variant base disk).1],
        (module.generate manifest variant base disk).2) := rfl
  have modulesOf {modules : List Module} {outcomes : List Outcome}
      (alike : List.Forall₂ (fun module outcome => Outcome.Alike steady
        (module.generate manifest variant base disk).1 outcome) modules outcomes) :
      outcomes.map Outcome.module = modules.map Module.name :=
    (map_eq_map_of_related alike fun module outcome same =>
      (generate_module manifest variant base module disk).symm.trans same.module.symm).symm
  obtain ⟨outcomes, places⟩ :=
    generateFrom_independent_everywhere manifest variant base faultless distinct tree
  rw [← generate] at outcomes places
  refine ⟨modulesOf outcomes, ?_, ?_, fun modules perm => ?_⟩
  · exact outcomes.imp fun module outcome same => ⟨_, rfl, same⟩
  · simp only [single_eq, List.any_cons, List.any_nil, Bool.or_false]
    exact places
  intro permuted
  have faultlessToo : ∀ module ∈ modules, DocumentPlace.nameFault? module.name = none :=
    fun module member => faultless module (perm.mem_iff.mp member)
  have distinctToo := (perm.map Module.name).nodup_iff.mpr distinct
  obtain ⟨outcomesToo, placesToo⟩ :=
    generateFrom_independent_everywhere manifest variant base faultlessToo distinctToo tree
  have same : permuted = manifest.generateFrom variant base modules disk :=
    generateFrom_modules manifest variant base modules disk
  rw [same]
  refine ⟨modulesOf outcomesToo, ?_, fun location content => ?_⟩
  · obtain ⟨reordered, alike, reorders⟩ := List.perm_comp_forall₂ perm outcomes
    exact ⟨reordered, reorders, Outcome.Alike.forall₂ alike outcomesToo⟩
  · by_cases inside : ∃ module ∈ modules, disk.destination (module.directory base) <+: location
    · obtain ⟨module, member, below⟩ := inside
      exact ((placesToo module member location below).1 content).trans
        ((places module (perm.mem_iff.mp member) location below).1 content).symm
    · have elsewhere : ∀ module ∈ modules, ¬disk.destination (module.directory base) <+: location :=
        fun module member below => inside ⟨module, member, below⟩
      rw [generateFrom_elsewhere manifest variant base faultlessToo disk elsewhere]
      exact (generateFrom_elsewhere manifest variant base faultless disk (fun module member =>
        elsewhere module (perm.mem_iff.mpr member)) content).symm

theorem generate_independent_beside_blocked_module :
    let document := "\x7b\"module_path\": \"/m\", \"module_name\": \"sys\", \"sub_modules\": [" ++
      "\x7b\"module\": \"free\", \"mtype\": \"a\"\x7d, " ++
      "\x7b\"module\": \"blocked\", \"mtype\": \"b\"\x7d]\x7d"
    let disk : Disk :=
      ⟨[(["out".toList], .directory), (["out".toList, "blocked".toList], .file "mine".toByteArray)], []⟩
    let base := "gone/../out"
    ∃ manifest, ofSource ⟨document, fileName⟩ = .ok manifest ∧
      (manifest.modules.map Module.name).Nodup ∧ disk.IsTree ∧ ¬disk.ClimbsFromPresent base ∧
      (manifest.generate .nested base disk).1.map Outcome.isFailed = [false, true] ∧
      List.Forall₂ (fun module outcome =>
        ∃ alone, ((manifest.alone module).generate .nested base disk).1 = [alone] ∧
          Outcome.Alike (disk.ClimbsFromPresent base) alone outcome)
        manifest.modules (manifest.generate .nested base disk).1 := by
  intro document disk base
  obtain ⟨manifest, accepted, checked⟩ := exists_ok_of_passes (ofSource ⟨document, fileName⟩)
    (fun manifest => (manifest.modules.map Module.name).Nodup ∧
      (manifest.generate .nested base disk).1.map Outcome.isFailed = [false, true])
    (by decide +kernel)
  obtain ⟨distinct, failed⟩ := of_decide_eq_true checked
  have tree : disk.IsTree := Disk.isTree_of_entries (by decide) (by decide)
  have unsteady : ¬disk.ClimbsFromPresent base := fun steady =>
    steady ["gone".toList] (by decide) (by decide)
  have independent := generate_independent _ manifest accepted distinct .nested base disk tree
  exact ⟨manifest, accepted, distinct, tree, unsteady, failed, independent.2.1⟩

/-- Below a step up from a missing directory modules are not independent: the first one makes that
directory, and the second one finds a file further on for another reason than it would have. -/
theorem generate_dependent_above_missing :
    let document := "\x7b\"module_path\": \"/m\", \"module_name\": \"sys\", \"sub_modules\": [" ++
      "\x7b\"module\": \"x\", \"mtype\": \"a\"\x7d, " ++
      "\x7b\"module\": \"y\", \"mtype\": \"b\"\x7d]\x7d"
    let disk : Disk := ⟨[(["f".toList], .file "mine".toByteArray)], []⟩
    ∃ manifest, ofSource ⟨document, fileName⟩ = .ok manifest ∧
      (manifest.modules.map Module.name).Nodup ∧ disk.IsTree ∧
      (manifest.generate .flat "a/../f" disk).1.map (fun outcome => [outcome]) ≠
        manifest.modules.map fun module =>
          ((manifest.alone module).generate .flat "a/../f" disk).1 := by
  intro document disk
  obtain ⟨manifest, accepted, checked⟩ := exists_ok_of_passes (ofSource ⟨document, fileName⟩)
    (fun manifest => (manifest.modules.map Module.name).Nodup ∧
      (manifest.generate .flat "a/../f" disk).1.map (fun outcome => [outcome]) ≠
        manifest.modules.map fun module =>
          ((manifest.alone module).generate .flat "a/../f" disk).1)
    (by decide +kernel)
  obtain ⟨distinct, differ⟩ := of_decide_eq_true checked
  have tree : disk.IsTree := Disk.isTree_of_entries (by decide) (by decide)
  exact ⟨manifest, accepted, distinct, tree, differ⟩

end Manifest

end RouteForge
