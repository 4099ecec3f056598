import Mathlib.Data.List.Forall2
import RouteForge.Proofs.ModuleLocality

/-!
Runs over modules, one after the other. Different names lead to different directories, so what one
module leaves behind, whether it was written or failed, is beside the directory of every other or on
the way to it. Where the base leads down by names, each module fares as it would have alone.
-/

namespace RouteForge

open Disk (Heads IsTree Ahead)

namespace Disk

/-- No step up of a path starts from something that is missing. -/
def ClimbsFromPresent (disk : Disk) (path : String) : Prop :=
  ∀ front, front ++ [['.', '.']] <+: Path.moves path →
    disk.enter (disk.origin path.toList) front ≠ .error .notFound

theorem isName_of_isMove {piece : Path.Piece} (moved : Path.isMove piece = true)
    (inner : piece ≠ ['.', '.']) : isName piece = true := by
  simp only [Path.isMove, Path.innerComponent?] at moved
  simp only [isName]
  grind

theorem climb_then_names {parts : List Path.Piece} (moved : ∀ piece ∈ parts, Path.isMove piece = true) :
    ∃ climb names, parts = climb ++ names ∧ (∀ name ∈ names, isName name = true) ∧
      (climb = [] ∨ ∃ front, climb = front ++ [['.', '.']]) := by
  induction parts using List.reverseRecOn with
  | nil => exact ⟨[], [], rfl, by simp, Or.inl rfl⟩
  | append_singleton before last ih =>
      rw [List.forall_mem_append] at moved
      by_cases up : last = ['.', '.']
      · exact ⟨before ++ [last], [], by simp, by simp, Or.inr ⟨before, by rw [up]⟩⟩
      · obtain ⟨climb, names, rfl, named, ended⟩ := ih moved.1
        refine ⟨climb, names ++ [last], by simp, ?_, ended⟩
        rw [List.forall_mem_append]
        exact ⟨named, by simpa using isName_of_isMove (by simpa using moved.2) up⟩

/-- A path that climbs from what is present leads down from a directory, or it is blocked. -/
theorem IsTree.heads_or_stuck {disk : Disk} (tree : disk.IsTree) {path : String}
    (steady : disk.ClimbsFromPresent path) :
    (∃ location names, Heads disk path location names) ∨
      ∃ front cause, front <+: Path.moves path ∧
        disk.enter (disk.origin path.toList) front = .error cause ∧ cause ≠ .notFound := by
  have moved : ∀ piece ∈ Path.moves path, Path.isMove piece = true := by
    intro piece member
    rw [← Path.filter_isMove_pieces] at member
    exact (List.mem_filter.mp member).2
  obtain ⟨climb, names, split, named, rfl | ⟨front, rfl⟩⟩ := climb_then_names moved
  · exact Or.inl ⟨_, names, named, [], split,
      (enter_ok_iff disk _ _ []).mpr ⟨rfl, tree.origin path.toList⟩⟩
  · have initial : front ++ [['.', '.']] <+: Path.moves path := by simp [split]
    cases entered : disk.enter (disk.origin path.toList) front with
    | error cause =>
        refine Or.inr ⟨front, cause, (List.prefix_append _ _).trans initial, entered, ?_⟩
        rintro rfl
        exact steady front initial entered
    | ok reached =>
        have here := ((enter_ok_iff disk _ reached front).mp entered).2
        have above : disk.node? reached.dropLast = some .directory := by
          by_cases root : reached = []
          · simp [root, node?_root]
          · exact tree.parents reached root (by simp [here])
        refine Or.inl ⟨reached.dropLast, names, named, _, split, ?_⟩
        rw [enter_append, entered]
        refine (enter_ok_iff disk _ _ _).mpr ⟨?_, above⟩
        rw [follow_cons_ok_iff]
        refine ⟨reached.dropLast, ?_, (follow_nil_ok_iff disk _ _).mpr rfl⟩
        exact (step_ok_iff disk _ _ _).mpr ⟨here, by simp [passed], by simp [isName]⟩

theorem destination_congr (disk : Disk) {path other : String}
    (same : Path.components path = Path.components other) :
    disk.destination path = disk.destination other := by
  have absolute : Path.isAbsolute path.toList = Path.isAbsolute other.toList := by
    rw [Bool.eq_iff_iff, Path.isAbsolute_iff_head, Path.isAbsolute_iff_head, same]
  simp [destination, origin, absolute, Path.moves, same]

theorem Heads.missing_initial {disk : Disk} (tree : disk.IsTree) {base path : String}
    {location : Location} {names : List Path.Piece} (heads : Heads disk base location names)
    (initial : Path.components path <+: Path.components base)
    (missing : disk.node? (disk.destination path) = none) :
    disk.destination path <+: disk.destination base := by
  by_cases empty : Path.components path = []
  · have present := tree.origin path.toList
    simp [Disk.destination, Path.moves, empty, movedBy, present] at missing
  · have absolute : Path.isAbsolute path.toList = Path.isAbsolute base.toList := by
      obtain ⟨rest, whole⟩ := initial
      rw [Bool.eq_iff_iff, Path.isAbsolute_iff_head, Path.isAbsolute_iff_head, ← whole]
      cases all : Path.components path with
      | nil => exact (empty all).elim
      | cons component others => simp
    have sameOrigin : disk.origin path.toList = disk.origin base.toList := by
      rw [origin, origin, absolute]
    obtain ⟨climb, split, entered⟩ := heads.climbed
    have shorter : Path.moves path <+: climb ++ names := split ▸ initial.filterMap _
    rcases List.prefix_or_prefix_of_prefix shorter (List.prefix_append climb names) with
      inClimb | ⟨further, down⟩
    · have passing := (mem_trailFrom_iff (disk.origin base.toList) (disk.destination path) climb).mpr
        ⟨Path.moves path, inClimb, by rw [Disk.destination, sameOrigin]⟩
      simp [enter_trail entered _ passing] at missing
    · rw [← down, List.prefix_append_right_inj] at shorter
      have led := follow_ok ((enter_ok_iff disk _ location climb).mp entered).1
      rw [heads.destination, Disk.destination, sameOrigin, ← down, movedBy_append, ← led,
        movedBy_names _ fun name member => heads.named name (shorter.subset member)]
      exact (List.prefix_append_right_inj location).mpr shorter

end Disk

namespace Module

variable {variant : Variant} {base : String} {module : Module}

/-! Where a module's files and directories are. -/

theorem destination_directory (disk : Disk) (base : String)
    (faultless : DocumentPlace.nameFault? module.name = none) :
    disk.destination (module.directory base) = disk.destination base ++ [module.name.toList] := by
  obtain ⟨named, whole, _⟩ := isName_of_nameFault? faultless
  exact Disk.destination_join disk base (Path.downward_name named whole)

theorem IsOwnFile.location (faultless : DocumentPlace.nameFault? module.name = none) {disk : Disk}
    {here : Disk.Location} (own : IsOwnFile variant base module disk here) :
    ∃ more, more ≠ [] ∧ here = disk.destination base ++ module.name.toList :: more := by
  obtain ⟨name, member, led⟩ := own
  have down := downward_own member
  refine ⟨_, down.nonempty, ?_⟩
  rw [Disk.resolve_destination led, Disk.destination_join disk _ down,
    destination_directory disk base faultless]
  simp

theorem IsOnTheWay.location (faultless : DocumentPlace.nameFault? module.name = none)
    {before after : Disk} (tree : before.IsTree) {start : Disk.Location}
    {names : List Path.Piece} (heads : Heads before base start names)
    (working : after.working = before.working) {here : Disk.Location}
    (onTheWay : IsOnTheWay variant base module after here) (missing : before.node? here = none) :
    here <+: before.destination base ∨
      ∃ more, here = before.destination base ++ module.name.toList :: more := by
  obtain ⟨path, led, along⟩ := onTheWay
  have place : here = before.destination path := by
    rw [Disk.resolve_destination led, Disk.destination_of_working working]
  subst place
  rcases along with ofBase | own | ⟨_, below⟩
  · exact Or.inl (heads.missing_initial tree ofBase missing)
  · refine Or.inr ⟨[], ?_⟩
    rw [Disk.destination_congr before own, destination_directory before base faultless]
  · have down := Path.downward_name (by decide : Disk.isName "utils".toList = true) (by decide)
    refine Or.inr ⟨["utils".toList], ?_⟩
    rw [Disk.destination_congr before below, Disk.destination_join before _ down,
      destination_directory before base faultless]
    simp

theorem directories_apart {neighbour : Module} (different : neighbour.name ≠ module.name)
    (faultless : DocumentPlace.nameFault? module.name = none)
    (neighbourFaultless : DocumentPlace.nameFault? neighbour.name = none) {disk : Disk}
    {here : Disk.Location} (inside : disk.destination (module.directory base) <+: here) :
    ¬disk.destination (neighbour.directory base) <+: here := by
  intro below
  rw [destination_directory disk base faultless] at inside
  rw [destination_directory disk base neighbourFaultless] at below
  have same := List.prefix_of_prefix_length_le below inside (by simp)
  rw [List.prefix_append_right_inj, List.cons_prefix_cons, String.toList_inj] at same
  exact different same.1

/-! What generating one module leaves as it is. -/

section

variable (manifest : Manifest) (variant : Variant) (base : String)
  (faultless : DocumentPlace.nameFault? module.name = none)
include faultless

theorem generate_tree {disk : Disk} (tree : disk.IsTree) :
    (module.generate manifest variant base disk).2.IsTree := by
  refine (generate_changes manifest variant base faultless disk).tree tree ?_
  rintro here (⟨path, led, _⟩ | ⟨_, name, _, led⟩)
  · exact ⟨path, led⟩
  · exact ⟨_, led⟩

theorem generate_elsewhere (disk : Disk) {here : Disk.Location}
    (elsewhere : ¬disk.destination (module.directory base) <+: here) (content : ByteArray) :
    (module.generate manifest variant base disk).2.node? here = some (.file content) ↔
      disk.node? here = some (.file content) := by
  have changes := generate_changes manifest variant base faultless disk
  refine changes.file_iff here ?_ content
  rintro ⟨_, own⟩
  obtain ⟨more, _, place⟩ := own.location faultless
  apply elsewhere
  rw [destination_directory disk base faultless, place,
    Disk.destination_of_working changes.working]
  simp

theorem generate_ahead {other : Module} (different : module.name ≠ other.name)
    (otherFaultless : DocumentPlace.nameFault? other.name = none) {disk : Disk}
    (tree : disk.IsTree) {start : Disk.Location} {names : List Path.Piece}
    (heads : Heads disk base start names) :
    Ahead (disk.destination (other.directory base)) disk
      (module.generate manifest variant base disk).2 := by
  have changes := generate_changes manifest variant base faultless disk
  have place := destination_directory disk base otherFaultless
  have apart (more : Disk.Location) : ¬disk.destination (other.directory base) <+:
      disk.destination base ++ module.name.toList :: more := by
    intro inside
    apply directories_apart different otherFaultless faultless inside
    rw [destination_directory disk base faultless]
    simp
  refine Ahead.of_changes changes ?_ ?_
  · intro here missing onTheWay inside
    rcases onTheWay.location faultless tree heads changes.working missing with
      above | ⟨more, rfl⟩
    · have shorter := (inside.trans above).length_le
      simp only [place, List.length_append, List.length_singleton] at shorter
      omega
    · exact apart more inside
  · rintro here ⟨_, own⟩
    obtain ⟨more, nonempty, rfl⟩ := own.location faultless
    rw [Disk.destination_of_working changes.working]
    refine ⟨apart more, fun above => ?_⟩
    have shorter := above.length_le
    have longer := List.length_pos_iff.mpr nonempty
    simp only [place, List.length_append, List.length_cons, List.length_nil] at shorter
    omega

end

end Module

/-! Modules and their outcomes, side by side. -/

section

variable {α β γ : Type} {related : α → β → Prop} {first : List α} {second : List β}
  (alike : List.Forall₂ related first second)
include alike

theorem exists_of_mem_right {right : β} (member : right ∈ second) :
    ∃ left ∈ first, related left right := by
  induction alike with
  | nil => simp at member
  | cons here _ ih =>
      rcases List.mem_cons.mp member with rfl | later
      · exact ⟨_, List.mem_cons_self, here⟩
      · obtain ⟨left, known, relatedTo⟩ := ih later
        exact ⟨left, List.mem_cons_of_mem _ known, relatedTo⟩

theorem map_eq_map_of_related {left : α → γ} {right : β → γ}
    (same : ∀ a b, related a b → left a = right b) : first.map left = second.map right := by
  have equal : List.Forall₂ (· = ·) (first.map left) (second.map right) := by
    rw [List.forall₂_map_left_iff, List.forall₂_map_right_iff]
    exact alike.imp same
  rwa [List.forall₂_eq_eq_eq] at equal

end

namespace Manifest

section

variable (manifest : Manifest) (variant : Variant) (base : String) {modules : List Module}

theorem generateFrom_cons (module : Module) (rest : List Module) (disk : Disk) :
    manifest.generateFrom variant base (module :: rest) disk =
      ((module.generate manifest variant base disk).1 ::
        (manifest.generateFrom variant base rest (module.generate manifest variant base disk).2).1,
        (manifest.generateFrom variant base rest
          (module.generate manifest variant base disk).2).2) :=
  rfl

theorem generateFrom_outcomes (disk : Disk) :
    List.Forall₂
      (fun module outcome => ∃ before, outcome = (module.generate manifest variant base before).1)
      modules (manifest.generateFrom variant base modules disk).1 := by
  induction modules generalizing disk with
  | nil => exact .nil
  | cons module rest ih =>
      rw [generateFrom_cons]
      exact .cons ⟨disk, rfl⟩ (ih _)

theorem generateFrom_modules (others : List Module) (disk : Disk) :
    { manifest with modules := others }.generateFrom variant base modules disk =
      manifest.generateFrom variant base modules disk := by
  induction modules generalizing disk with
  | nil => rfl
  | cons module rest ih =>
      rw [generateFrom_cons, generateFrom_cons, ih]
      rfl

theorem generateFrom_ahead
    (faultless : ∀ module ∈ modules, DocumentPlace.nameFault? module.name = none) {other : Module}
    (otherFaultless : DocumentPlace.nameFault? other.name = none)
    (different : other.name ∉ modules.map Module.name) {disk : Disk} (tree : disk.IsTree)
    {start : Disk.Location} {names : List Path.Piece} (heads : Heads disk base start names) :
    Ahead (disk.destination (other.directory base)) disk
      (manifest.generateFrom variant base modules disk).2 := by
  induction modules generalizing disk with
  | nil => exact Ahead.refl _ disk
  | cons module rest ih =>
      rw [List.forall_mem_cons] at faultless
      rw [List.map_cons, List.mem_cons, not_or] at different
      have first := Module.generate_ahead manifest variant base faultless.1 (Ne.symm different.1)
        otherFaultless tree heads
      have later := ih faultless.2 different.2
        (Module.generate_tree manifest variant base faultless.1 tree) (heads.keeps first.keeps)
      rw [Disk.destination_of_working first.keeps.working] at later
      exact first.trans later

/-- Each module fares as it would have at the start. -/
theorem generateFrom_alone
    (faultless : ∀ module ∈ modules, DocumentPlace.nameFault? module.name = none)
    (distinct : (modules.map Module.name).Nodup) {start disk : Disk} (tree : start.IsTree)
    (treeNow : disk.IsTree) {location : Disk.Location} {names : List Path.Piece}
    (heads : Heads start base location names)
    (ahead : ∀ module ∈ modules, Ahead (start.destination (module.directory base)) start disk) :
    (manifest.generateFrom variant base modules disk).1 =
        modules.map (fun module => (module.generate manifest variant base start).1) ∧
      ∀ module ∈ modules, ∀ here, start.destination (module.directory base) <+: here →
        (manifest.generateFrom variant base modules disk).2.node? here =
          (module.generate manifest variant base start).2.node? here := by
  induction modules generalizing disk with
  | nil => exact ⟨rfl, by simp⟩
  | cons module rest ih =>
      rw [List.forall_mem_cons] at faultless ahead
      rw [List.map_cons, List.nodup_cons] at distinct
      have compared : Module.Compared base module start disk location names :=
        ⟨faultless.1, tree, treeNow, heads, ahead.1⟩
      have alike := compared.generate manifest variant
      have headsNow := heads.keeps ahead.1.keeps
      have samePlace := Disk.destination_of_working ahead.1.keeps.working
      have treeAfter := Module.generate_tree manifest variant base faultless.1 treeNow
      have passedBy (other : Module) (member : other ∈ rest) :
          Ahead (start.destination (other.directory base)) disk
            (module.generate manifest variant base disk).2 := by
        rw [← samePlace]
        refine Module.generate_ahead manifest variant base faultless.1 ?_
          (faultless.2 other member) treeNow headsNow
        intro same
        exact distinct.1 (same ▸ List.mem_map_of_mem member)
      obtain ⟨outcomes, places⟩ := ih faultless.2 distinct.2 treeAfter fun other member =>
        (ahead.2 other member).trans (passedBy other member)
      have keeps := (Module.generate_changes manifest variant base faultless.1 disk).keeps
      have left := generateFrom_ahead manifest variant base faultless.2 faultless.1 distinct.1
        treeAfter (headsNow.keeps keeps)
      rw [Disk.destination_of_working keeps.working, samePlace] at left
      rw [generateFrom_cons]
      refine ⟨by rw [List.map_cons, outcomes, alike.result], ?_⟩
      rw [List.forall_mem_cons]
      refine ⟨fun here inside => ?_, places⟩
      calc (manifest.generateFrom variant base rest
              (module.generate manifest variant base disk).2).2.node? here
          = (module.generate manifest variant base disk).2.node? here := left.below here inside
        _ = (module.generate manifest variant base start).2.node? here := alike.disks.nodes here inside

theorem generateFrom_still {disk : Disk}
    (still : ∀ module ∈ modules, (module.generate manifest variant base disk).2 = disk) :
    manifest.generateFrom variant base modules disk =
      (modules.map (fun module => (module.generate manifest variant base disk).1), disk) := by
  induction modules with
  | nil => rfl
  | cons module rest ih =>
      rw [List.forall_mem_cons] at still
      rw [generateFrom_cons, still.1, ih still.2, List.map_cons]

/-- Whatever the base is like, as long as it climbs from what is present. -/
theorem generateFrom_independent
    (faultless : ∀ module ∈ modules, DocumentPlace.nameFault? module.name = none)
    (distinct : (modules.map Module.name).Nodup) {disk : Disk} (tree : disk.IsTree)
    (steady : disk.ClimbsFromPresent base) :
    (manifest.generateFrom variant base modules disk).1 =
        modules.map (fun module => (module.generate manifest variant base disk).1) ∧
      ∀ module ∈ modules, ∀ here, disk.destination (module.directory base) <+: here →
        (manifest.generateFrom variant base modules disk).2.node? here =
          (module.generate manifest variant base disk).2.node? here := by
  rcases tree.heads_or_stuck steady with
    ⟨location, names, heads⟩ | ⟨front, cause, initial, stopped, present⟩
  · exact generateFrom_alone manifest variant base faultless distinct tree tree heads
      fun module _ => Ahead.refl _ disk
  · have still (module : Module) (member : module ∈ modules) :
        (module.generate manifest variant base disk).2 = disk :=
      module.generate_stuck manifest variant (faultless module member) initial stopped present
    rw [generateFrom_still manifest variant base still]
    refine ⟨rfl, fun module member here _ => ?_⟩
    rw [still module member]

theorem generateFrom_elsewhere
    (faultless : ∀ module ∈ modules, DocumentPlace.nameFault? module.name = none) (disk : Disk)
    {here : Disk.Location}
    (elsewhere : ∀ module ∈ modules, ¬disk.destination (module.directory base) <+: here)
    (content : ByteArray) :
    (manifest.generateFrom variant base modules disk).2.node? here = some (.file content) ↔
      disk.node? here = some (.file content) := by
  induction modules generalizing disk with
  | nil => rfl
  | cons module rest ih =>
      rw [List.forall_mem_cons] at faultless elsewhere
      have working := (Module.generate_changes manifest variant base faultless.1 disk).working
      have elsewhereLater : ∀ other ∈ rest,
          ¬(module.generate manifest variant base disk).2.destination (other.directory base) <+: here := by
        intro other member
        rw [Disk.destination_of_working working]
        exact elsewhere.2 other member
      rw [generateFrom_cons]
      exact (ih faultless.2 _ elsewhereLater).trans
        (Module.generate_elsewhere manifest variant base faultless.1 disk elsewhere.1 content)

end

end Manifest

end RouteForge
