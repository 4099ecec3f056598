import RouteForge.Proofs.Confinement
import RouteForge.Proofs.DirectoryChains
import RouteForge.Proofs.Locality

/-!
What happens to a module depends on its own directory only. A disk on which other modules have been
generated has what was there before, and it may have more directories on the way to the module's;
making those directories first or finding them made comes to the same.
-/

namespace RouteForge

open Disk (Heads IsTree Keeps Agree Covers SameEffect SameOrMade)

namespace Disk

/-- The second disk has kept what the first had. From a place down it is the same, and on the way
to the place it may have directories that the first is missing. -/
structure Ahead (place : Location) (first second : Disk) : Prop where
  keeps : Keeps first second
  way : ∀ here, here <+: place → SameOrMade first second here
  below : ∀ here, place <+: here → second.node? here = first.node? here

theorem Ahead.refl (place : Location) (disk : Disk) : Ahead place disk disk :=
  ⟨Keeps.refl disk, fun _ _ => Or.inl rfl, fun _ _ => rfl⟩

theorem Ahead.trans {place : Location} {first second third : Disk}
    (earlier : Ahead place first second) (later : Ahead place second third) :
    Ahead place first third := by
  refine ⟨earlier.keeps.trans later.keeps, ?_, ?_⟩
  · intro here above
    rcases later.way here above with same | ⟨missing, made⟩
    · rw [SameOrMade, same]
      exact earlier.way here above
    · rcases earlier.way here above with same | ⟨_, wasMade⟩
      · exact Or.inr ⟨same.symm.trans missing, made⟩
      · simp [wasMade] at missing
  · intro here inside
    rw [later.below here inside, earlier.below here inside]

theorem Ahead.of_changes {place : Location} {before after : Disk} {made written : Location → Prop}
    (changes : Changes before after made written)
    (madeAway : ∀ here, before.node? here = none → made here → ¬place <+: here)
    (writtenAway : ∀ here, written here → ¬place <+: here ∧ ¬here <+: place) :
    Ahead place before after := by
  refine ⟨changes.keeps, ?_, ?_⟩
  · intro here above
    rcases changes.nodes here with same | ⟨missing, made, _⟩ | ⟨_, isWritten, _⟩
    · exact Or.inl same
    · exact Or.inr ⟨missing, made⟩
    · exact ((writtenAway here isWritten).2 above).elim
  · intro here inside
    rcases changes.nodes here with same | ⟨missing, _, isMade⟩ | ⟨_, isWritten, _⟩
    · exact same
    · exact (madeAway here missing isMade inside).elim
    · exact ((writtenAway here isWritten).1 inside).elim

/-! The part of a disk that a directory is concerned with: the way there, and what is below. -/

def Region (disk : Disk) (path : String) (here : Location) : Prop :=
  here ∈ disk.trail path ∨ disk.destination path <+: here

theorem region_congr {first second : Disk} (same : second.working = first.working) (path : String) :
    Region second path = Region first path := by
  funext here
  simp [Region, trail_congr same, destination_of_working same]

theorem covers_join (disk : Disk) (directory : String) {child : String} {names : List Path.Piece}
    (down : Path.Downward child names) :
    Covers (Region disk directory) disk (Path.join directory child) :=
  fun _ passing => mem_trail_join disk directory down passing

theorem trail_of_enter {disk : Disk} {path : String} {final : Location}
    (entered : disk.enter (disk.origin path.toList) (Path.moves path) = .ok final) :
    ∀ here ∈ disk.trail path, disk.node? here = some .directory := by
  intro here passing
  rw [trail, ← mem_trailFrom_filter, Path.filter_isMove_pieces] at passing
  exact enter_trail entered here passing

theorem agree_of_entered {first second : Disk} {path : String} {final finalSecond : Location}
    (working : second.working = first.working)
    (entered : first.enter (first.origin path.toList) (Path.moves path) = .ok final)
    (enteredSecond : second.enter (second.origin path.toList) (Path.moves path) = .ok finalSecond)
    (below : ∀ here, first.destination path <+: here → second.node? here = first.node? here) :
    Agree (Region first path) first second := by
  refine ⟨working, ?_⟩
  rintro here (passing | inside)
  · have passingSecond : here ∈ second.trail path := by rwa [trail_congr working]
    rw [trail_of_enter entered here passing, trail_of_enter enteredSecond here passingSecond]
  · exact below here inside

theorem enter_of_isDirectory_join {disk : Disk} {directory child : String}
    {names : List Path.Piece} (down : Path.Downward child names)
    (there : disk.isDirectory (Path.join directory child) = true) :
    ∃ final, disk.enter (disk.origin directory.toList) (Path.moves directory) = .ok final := by
  obtain ⟨location, led, found⟩ := (isDirectory_iff disk _).mp there
  have checked := ((resolve_ok_iff disk _ location).mp led).1
  obtain ⟨final, entered⟩ := (isDirectory_iff_enter disk checked).mp there
  rw [origin_join disk directory down, Path.moves_join directory down, enter_append] at entered
  cases reached : disk.enter (disk.origin directory.toList) (Path.moves directory) with
  | error cause => simp [reached, Except.bind] at entered
  | ok middle => exact ⟨middle, rfl⟩

theorem ensureDirectory_alike {first second : Disk} (tree : first.IsTree)
    (treeSecond : second.IsTree) {path : String} {location : Location}
    {front before : List Path.Piece} {name : Path.Piece}
    (heads : Heads first path location (front ++ [name])) (ends : Path.EndsIn path before name)
    (ahead : Ahead (location ++ (front ++ [name])) first second) :
    SameEffect (Agree (location ++ (front ++ [name]) <+: ·)) (first.ensureDirectory path)
      (second.ensureDirectory path) := by
  cases checked : checkPath path.toList with
  | error cause =>
      rw [ensureDirectory_of_refused first ends checked, ensureDirectory_of_refused second ends checked]
      exact .same _ ⟨ahead.keeps.working, ahead.below⟩
  | ok _ =>
      rw [ensureDirectory_eq tree heads ends checked,
        ensureDirectory_eq treeSecond (heads.keeps ahead.keeps) ends checked]
      have alike := makeDown_alike
        (fun front shorter => ahead.way _ ((List.prefix_append_right_inj location).mpr shorter))
        (fun rest => ahead.below _ (List.prefix_append _ rest))
      have kept := (makeDown_keeps first location (front ++ [name])).working
      have keptSecond := (makeDown_keeps second location (front ++ [name])).working
      generalize first.makeDown location (front ++ [name]) = one at alike kept ⊢
      generalize second.makeDown location (front ++ [name]) = other at alike keptSecond ⊢
      obtain ⟨result, after⟩ := one
      obtain ⟨resultSecond, afterSecond⟩ := other
      obtain ⟨rfl, below⟩ := alike
      have agree : Agree (location ++ (front ++ [name]) <+: ·) after afterSecond := by
        refine ⟨keptSecond.trans (ahead.keeps.working.trans kept.symm), ?_⟩
        rintro here ⟨rest, rfl⟩
        exact below rest
      cases resultSecond with
      | error cause => exact .same _ agree
      | ok _ => exact .same _ agree

end Disk

namespace Module

open Disk (Ahead Region)

theorem downward_own {variant : Variant} {name : String} (own : name ∈ fileNames variant) :
    Path.Downward name (Path.pieces name.toList) := by
  refine ⟨rfl, ?_⟩
  cases variant with
  | nested | flat =>
      simp only [fileNames, List.mem_cons, List.not_mem_nil, or_false] at own
      rcases own with rfl | rfl | rfl <;> decide

structure MadeAt (base : String) (module : Module) (parent : String) (above : List Path.Piece) :
    Prop where
  found : Path.parent? (Path.join (module.directory base) RouteTable.fileName) = some parent
  ends : Path.EndsIn parent above module.name.toList
  moves : Path.moves parent = Path.moves (module.directory base)
  origin : ∀ disk : Disk, disk.origin parent.toList = disk.origin (module.directory base).toList

theorem exists_madeAt (base : String) {module : Module}
    (faultless : DocumentPlace.nameFault? module.name = none) :
    ∃ parent above, MadeAt base module parent above := by
  obtain ⟨named, whole, _⟩ := isName_of_nameFault? faultless
  have down := Path.downward_name named whole
  have downFile : Path.Downward RouteTable.fileName [RouteTable.fileName.toList] :=
    Path.downward_name (by decide) (by decide)
  obtain ⟨before, endsIn⟩ := Path.endsIn_join_name (module.directory base)
  have ends := endsIn RouteTable.fileName (by decide) (by decide)
  obtain ⟨parent, found, _, moves, ending⟩ := ends.parent
  have same : Path.moves parent = Path.moves (module.directory base) := by
    have whole := ends.moves_eq
    rw [Path.moves_join _ downFile] at whole
    rw [moves, (List.append_inj' whole rfl).1]
  obtain ⟨above, parentEnds⟩ := ending (Path.moves base) module.name.toList
    (by rw [same]; exact Path.moves_join base down) named
  refine ⟨parent, above, found, parentEnds, same, fun disk => ?_⟩
  rw [Disk.origin_parent disk found, Disk.origin_join disk _ downFile]

section

variable {variant : Variant} {base : String} {module : Module}

section

variable {parent : String} {above : List Path.Piece} (madeAt : MadeAt base module parent above)
  {disk : Disk}
include madeAt

theorem MadeAt.enter (there : disk.isDirectory parent = true) :
    ∃ final, disk.enter (disk.origin (module.directory base).toList)
      (Path.moves (module.directory base)) = .ok final := by
  obtain ⟨here, led, _⟩ := (Disk.isDirectory_iff disk parent).mp there
  have checked := ((Disk.resolve_ok_iff disk parent here).mp led).1
  rw [← madeAt.origin, ← madeAt.moves]
  exact (Disk.isDirectory_iff_enter disk checked).mp there

theorem MadeAt.nonempty : parent ≠ "" := by
  rintro rfl
  exact Disk.nonempty_of_endsIn madeAt.ends rfl

theorem MadeAt.entered (made : (disk.ensureDirectory parent).1 = .ok ()) :
    ∃ final, (disk.ensureDirectory parent).2.enter
      ((disk.ensureDirectory parent).2.origin (module.directory base).toList)
      (Path.moves (module.directory base)) = .ok final :=
  madeAt.enter ((Disk.ensureDirectory_ok disk parent made).resolve_left madeAt.nonempty)

theorem MadeAt.settled
    (settled : Disk.Settled disk (Path.join (module.directory base) RouteTable.fileName)) :
    ∃ final, disk.enter (disk.origin (module.directory base).toList)
      (Path.moves (module.directory base)) = .ok final :=
  madeAt.enter ((settled parent madeAt.found).resolve_left madeAt.nonempty)

end

theorem covers_own {artifacts : List Artifact}
    (own : artifacts.map Artifact.name = fileNames variant) (disk : Disk) :
    ∀ artifact ∈ artifacts, Covers (Region disk (module.directory base)) disk
      (artifact.path (module.directory base)) := by
  intro artifact member
  exact Disk.covers_join disk _ (downward_own (own ▸ List.mem_map_of_mem member))

theorem MadeAt.prepare_first {parent : String} {above : List Path.Piece}
    (madeAt : MadeAt base module parent above) {artifacts : List Artifact}
    (own : artifacts.map Artifact.name = fileNames variant) :
    ∃ first rest, artifacts = first :: rest ∧ ∀ (disk : Disk) (cause : Disk.Cause),
      disk.enter (disk.origin (module.directory base).toList)
        (Path.moves (module.directory base)) = .error cause →
      first.prepare (module.directory base) disk = disk.ensureDirectory parent := by
  have down : Path.Downward RouteTable.fileName [RouteTable.fileName.toList] :=
    Path.downward_name (by decide) (by decide)
  cases artifacts with
  | nil => cases variant <;> simp [fileNames] at own
  | cons first rest =>
      have isFirst : first.name = RouteTable.fileName := by
        cases variant <;> exact (List.cons.inj own).1
      refine ⟨first, rest, rfl, fun disk cause stopped => ?_⟩
      have notThere : disk.isDirectory (first.path (module.directory base)) = false := by
        rw [Bool.eq_false_iff, Artifact.path, isFirst]
        intro there
        obtain ⟨final, entered⟩ := Disk.enter_of_isDirectory_join down there
        simp [stopped] at entered
      simp only [Artifact.prepare, notThere, Bool.false_eq_true, ↓reduceIte]
      simp only [Artifact.path, isFirst, Disk.ensureParent, madeAt.found]

/-- Two file systems on which a module is generated, the second one ahead of the first. The base
leads down from a directory by names. -/
structure Compared (base : String) (module : Module) (first second : Disk)
    (location : Disk.Location) (names : List Path.Piece) : Prop where
  faultless : DocumentPlace.nameFault? module.name = none
  tree : first.IsTree
  treeSecond : second.IsTree
  heads : Heads first base location names
  ahead : Ahead (first.destination (module.directory base)) first second

namespace Compared

variable {first second : Disk} {location : Disk.Location} {names : List Path.Piece}
  (compared : Compared base module first second location names)
include compared

theorem headsOwn :
    Heads first (module.directory base) location (names ++ [module.name.toList]) := by
  obtain ⟨named, whole, _⟩ := isName_of_nameFault? compared.faultless
  exact compared.heads.join (Path.downward_name named whole)

theorem stoppedSecond {cause : Disk.Cause}
    (stopped : first.enter location (names ++ [module.name.toList]) = .error cause) :
    ∃ cause, second.enter location (names ++ [module.name.toList]) = .error cause := by
  have heads := compared.headsOwn
  cases entered : second.enter location (names ++ [module.name.toList]) with
  | error cause => exact ⟨cause, rfl⟩
  | ok final =>
      obtain ⟨led, there⟩ := (Disk.enter_ok_iff second _ final _).mp entered
      rw [Disk.follow_ok led, Disk.movedBy_names _ heads.named, ← heads.destination,
        compared.ahead.below _ List.prefix_rfl, heads.destination] at there
      simp [compared.tree.enter_alike heads.directory heads.named entered there] at stopped

theorem ensureDirectory {parent : String} {above : List Path.Piece}
    (madeAt : MadeAt base module parent above) :
    SameEffect (Agree (first.destination (module.directory base) <+: ·)) (first.ensureDirectory parent)
        (second.ensureDirectory parent) ∧
      ((first.ensureDirectory parent).1 = .ok () →
        Agree (Region first (module.directory base)) (first.ensureDirectory parent).2
          (second.ensureDirectory parent).2) := by
  have headsOwn := compared.headsOwn
  have headsParent : Heads first parent location (names ++ [module.name.toList]) := by
    obtain ⟨climb, climbs, entered⟩ := headsOwn.climbed
    exact ⟨headsOwn.named, climb, madeAt.moves.trans climbs, by rw [madeAt.origin]; exact entered⟩
  have place := headsOwn.destination
  have effect := Disk.ensureDirectory_alike compared.tree compared.treeSecond headsParent
    madeAt.ends (place ▸ compared.ahead)
  rw [← place] at effect
  refine ⟨effect, fun ok => ?_⟩
  obtain ⟨final, entered⟩ := madeAt.entered ok
  obtain ⟨finalSecond, enteredSecond⟩ := madeAt.entered (effect.result.trans ok)
  have kept := (Disk.ensureDirectory_grows first parent).working
  rw [← Disk.region_congr kept]
  refine Disk.agree_of_entered effect.disks.working entered enteredSecond fun here below => ?_
  apply effect.disks.nodes
  rwa [Disk.destination_of_working kept] at below

theorem prepareAll {artifacts : List Artifact}
    (own : artifacts.map Artifact.name = fileNames variant) :
    SameEffect (Agree (Region first (module.directory base)))
        (Artifact.prepareAll (module.directory base) artifacts first)
        (Artifact.prepareAll (module.directory base) artifacts second) ∨
      ∃ error after afterSecond,
        Artifact.prepareAll (module.directory base) artifacts first = (.error error, after) ∧
        Artifact.prepareAll (module.directory base) artifacts second = (.error error, afterSecond) ∧
        Agree (first.destination (module.directory base) <+: ·) after afterSecond := by
  have heads := compared.headsOwn
  have ahead := compared.ahead
  have headsSecond := heads.keeps ahead.keeps
  cases entered : first.enter location (names ++ [module.name.toList]) with
  | ok final =>
      have agree := Disk.agree_of_entered ahead.keeps.working (heads.enter.trans entered)
        (headsSecond.enter.trans (ahead.keeps.enter entered)) ahead.below
      exact Or.inl (Artifact.prepareAll_alike (Agree.likeness _) agree (covers_own own first))
  | error cause =>
      obtain ⟨causeSecond, enteredSecond⟩ := compared.stoppedSecond entered
      obtain ⟨parent, above, madeAt⟩ := exists_madeAt base compared.faultless
      obtain ⟨artifact, rest, rfl, prepares⟩ := madeAt.prepare_first own
      rw [Artifact.prepareAll_cons, Artifact.prepareAll_cons,
        prepares first cause (heads.enter.trans entered),
        prepares second causeSecond (headsSecond.enter.trans enteredSecond)]
      obtain ⟨effect, agreeOk⟩ := compared.ensureDirectory madeAt
      have kept := (Disk.ensureDirectory_grows first parent).working
      generalize first.ensureDirectory parent = one at effect agreeOk kept ⊢
      generalize second.ensureDirectory parent = other at effect agreeOk ⊢
      cases effect with
      | @same result after afterSecond agree =>
          cases result with
          | error error => exact Or.inr ⟨error, after, afterSecond, rfl, rfl, agree⟩
          | ok _ =>
              refine Or.inl ?_
              refine Artifact.prepareAll_alike (Agree.likeness _) (agreeOk rfl) fun later member => ?_
              exact (covers_own own first later (List.mem_cons_of_mem _ member)).congr kept

theorem writeAll {artifacts : List Artifact}
    (own : artifacts.map Artifact.name = fileNames variant) :
    SameEffect (Agree (first.destination (module.directory base) <+: ·))
      (Artifact.writeAll artifacts (module.directory base) first)
      (Artifact.writeAll artifacts (module.directory base) second) := by
  rcases compared.prepareAll own with
    prepared | ⟨error, after, afterSecond, failed, failedSecond, agree⟩
  · exact (Artifact.writeAll_agree prepared (covers_own own first)).imp
      fun _ _ agree => agree.weaken fun _ below => Or.inr below
  · simp only [Artifact.writeAll, failed, failedSecond]
    exact .same _ agree

/-- On a disk that is ahead a module has the same outcome, and its directory ends up the same. -/
theorem generate (manifest : Manifest) (variant : Variant) :
    SameEffect (Agree (first.destination (module.directory base) <+: ·))
      (module.generate manifest variant base first)
      (module.generate manifest variant base second) := by
  cases made : module.artifacts manifest variant with
  | error error =>
      simp only [Module.generate, made]
      exact .same _ ⟨compared.ahead.keeps.working, compared.ahead.below⟩
  | ok artifacts =>
      have wrote := compared.writeAll (names_of_artifacts made)
      simp only [Module.generate, made]
      generalize Artifact.writeAll artifacts (module.directory base) first = one at wrote ⊢
      generalize Artifact.writeAll artifacts (module.directory base) second = other at wrote ⊢
      cases wrote with
      | same result agree =>
          cases result with
          | error error => exact .same _ agree
          | ok results => exact .same _ agree

end Compared

theorem enter_directory_stuck (faultless : DocumentPlace.nameFault? module.name = none)
    {disk : Disk} {front : List Path.Piece} (initial : front <+: Path.moves base)
    {cause : Disk.Cause} (stopped : disk.enter (disk.origin base.toList) front = .error cause) :
    disk.enter (disk.origin base.toList) (Path.moves base) = .error cause ∧
      disk.enter (disk.origin (module.directory base).toList) (Path.moves (module.directory base)) =
        .error cause := by
  obtain ⟨named, whole, _⟩ := isName_of_nameFault? faultless
  have down := Path.downward_name named whole
  have ofBase : disk.enter (disk.origin base.toList) (Path.moves base) = .error cause := by
    obtain ⟨rest, split⟩ := initial
    rw [← split, Disk.enter_append, stopped]
    rfl
  refine ⟨ofBase, ?_⟩
  rw [directory, Path.moves_join base down, Disk.origin_join disk base down, Disk.enter_append,
    ofBase]
  rfl

theorem MadeAt.stuck {parent : String} {above : List Path.Piece}
    (madeAt : MadeAt base module parent above)
    (faultless : DocumentPlace.nameFault? module.name = none) {disk : Disk}
    {front : List Path.Piece} (initial : front <+: Path.moves base) {cause : Disk.Cause}
    (stopped : disk.enter (disk.origin base.toList) front = .error cause)
    (present : cause ≠ .notFound) :
    ∃ error, disk.ensureDirectory parent = (.error error, disk) := by
  obtain ⟨named, whole, _⟩ := isName_of_nameFault? faultless
  have down := Path.downward_name named whole
  obtain ⟨baseStopped, ownStopped⟩ := enter_directory_stuck faultless initial stopped
  cases checked : Disk.checkPath parent.toList with
  | error refusal => exact ⟨_, Disk.ensureDirectory_of_refused disk madeAt.ends checked⟩
  | ok _ =>
      have beforeMoves : above.filter Path.isMove = Path.moves base := by
        have all := madeAt.ends.moves_eq
        rw [madeAt.moves, directory, Path.moves_join base down] at all
        exact (List.append_inj' all rfl).1.symm
      have attempt : disk.makeDirectory parent = .error cause := by
        rw [Disk.makeDirectory_eq disk madeAt.ends checked, ← Disk.enter_filter, beforeMoves,
          madeAt.origin, directory, Disk.origin_join disk base down, baseStopped]
        rfl
      have notThere : disk.isDirectory parent = false := by
        rw [Bool.eq_false_iff, Ne, Disk.isDirectory_iff_enter disk checked, madeAt.origin,
          madeAt.moves, ownStopped]
        simp
      exact ⟨_, Disk.ensureDirectory_stuck (Disk.nonempty_of_endsIn madeAt.ends) attempt present
        notThere⟩

theorem generate_stuck (manifest : Manifest) (variant : Variant)
    (faultless : DocumentPlace.nameFault? module.name = none) {disk : Disk}
    {front : List Path.Piece} (initial : front <+: Path.moves base) {cause : Disk.Cause}
    (stopped : disk.enter (disk.origin base.toList) front = .error cause)
    (present : cause ≠ .notFound) : (module.generate manifest variant base disk).2 = disk := by
  obtain ⟨parent, above, madeAt⟩ := exists_madeAt base faultless
  obtain ⟨error, failed⟩ := madeAt.stuck faultless initial stopped present
  cases made : module.artifacts manifest variant with
  | error error => simp only [generate, made]
  | ok artifacts =>
      obtain ⟨first, rest, rfl, prepares⟩ := madeAt.prepare_first (names_of_artifacts made)
      simp only [generate, made, Artifact.writeAll, Artifact.prepareAll_cons,
        prepares disk cause (enter_directory_stuck faultless initial stopped).2, failed]

end

end Module

end RouteForge
