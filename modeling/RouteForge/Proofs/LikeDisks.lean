import RouteForge.Proofs.Atomicity
import RouteForge.Proofs.Destinations

/-!
What is done along a path depends only on the kinds of the nodes that the path passes. On two disks
that have the same kinds there it has one answer, and the disks are still alike afterwards, in
whatever sense they were.
-/

namespace RouteForge

namespace Disk

def SameKind (first second : Option Node) : Prop :=
  (second = none ↔ first = none) ∧ (second = some .directory ↔ first = some .directory)

def Covers (region : Location → Prop) (disk : Disk) (path : String) : Prop :=
  ∀ location ∈ disk.trail path, region location

/-- A relation of disks with the same kinds of nodes in a region, which is kept when a node is placed
on both. -/
structure Likeness (region : Location → Prop) (alike : Disk → Disk → Prop) : Prop where
  working {first second : Disk} (like : alike first second) : second.working = first.working
  kinds {first second : Disk} (like : alike first second) {location : Location}
    (here : region location) : SameKind (first.node? location) (second.node? location)
  place {first second : Disk} (like : alike first second) {location : Location}
    (named : location ≠ []) (node : Node) :
    alike (first.place location node) (second.place location node)

/-- The same result, and disks that are alike. -/
inductive SameEffect {α : Type} (alike : Disk → Disk → Prop) : α × Disk → α × Disk → Prop
  | same (result : α) {first second : Disk} (like : alike first second) :
      SameEffect alike (result, first) (result, second)

/-- The same failure, or a node placed at one location of both disks. -/
inductive SamePlacing (first second : Disk) (location : Location) (node : Node) :
    Except Cause Disk → Except Cause Disk → Prop
  | failed (cause : Cause) : SamePlacing first second location node (.error cause) (.error cause)
  | placed (named : location ≠ []) :
      SamePlacing first second location node (.ok (first.place location node))
        (.ok (second.place location node))

namespace SameEffect

variable {α : Type} {alike other : Disk → Disk → Prop} {first second : α × Disk}
  (effect : SameEffect alike first second)
include effect

theorem result : second.1 = first.1 := by
  cases effect
  rfl

theorem disks : alike first.2 second.2 := by
  cases effect with
  | same result like => exact like

theorem imp (implied : ∀ first second, alike first second → other first second) :
    SameEffect other first second := by
  cases effect with
  | same result like => exact .same result (implied _ _ like)

end SameEffect

theorem trail_congr {first second : Disk} (same : second.working = first.working) (path : String) :
    second.trail path = first.trail path := by
  simp [trail, origin, same]

section

variable {region : Location → Prop} {disk : Disk} {path : String} (covers : Covers region disk path)
include covers

theorem Covers.congr {second : Disk} (same : second.working = disk.working) :
    Covers region second path := by
  rw [Covers, trail_congr same]
  exact covers

theorem Covers.parent {parent : String} (found : Path.parent? path = some parent) :
    Covers region disk parent :=
  fun location passing => covers location (trail_parent disk found passing)

theorem Covers.lastStep {directory : Location} {name : Path.Piece} {slashed : Bool}
    (taken : disk.lastStep path = .ok ⟨directory, some name, slashed⟩) :
    region (directory ++ [name]) := by
  obtain ⟨_, named, _, before, count, pieces, led, _⟩ := lastStep_pieces taken
  apply covers
  rw [trail, pieces, mem_trailFrom_iff]
  refine ⟨before ++ [name], by simp, ?_⟩
  rw [movedBy_append, ← follow_ok led]
  exact (passed_name named directory).symm

end

namespace Likeness

variable {region : Location → Prop} {alike : Disk → Disk → Prop} (likeness : Likeness region alike)
  {first second : Disk} (like : alike first second)
include likeness like

theorem origin (path : List Char) : second.origin path = first.origin path := by
  rw [Disk.origin, Disk.origin, likeness.working like]

theorem checkDirectory {location : Location} (here : region location) :
    second.checkDirectory location = first.checkDirectory location := by
  obtain ⟨missing, directory⟩ := likeness.kinds like here
  rw [Disk.checkDirectory, Disk.checkDirectory]
  grind

theorem step {location : Location} {piece : Path.Piece} (here : region location)
    (there : region (passed location piece)) :
    second.step location piece = first.step location piece := by
  rw [Disk.step, Disk.step, likeness.checkDirectory like here]
  by_cases plain : piece.isEmpty || piece = ['.']
  · simp [plain]
  · by_cases above : piece = ['.', '.']
    · simp [above]
    · have named : isName piece = true := by
        simp only [isName]
        grind
      rw [passed_name named] at there
      obtain ⟨missing, _⟩ := likeness.kinds like there
      cases one : first.node? (location ++ [piece]) with
      | none => simp only [one, missing.mpr one]
      | some node =>
          cases other : second.node? (location ++ [piece]) with
          | none => simp [missing.mp other] at one
          | some node => simp only [one, other]

theorem follow {location : Location} {pieces : List Path.Piece}
    (covered : ∀ here ∈ trailFrom location pieces, region here) :
    second.follow location pieces = first.follow location pieces := by
  induction pieces generalizing location with
  | nil => rfl
  | cons piece rest ih =>
      rw [trailFrom, List.forall_mem_cons] at covered
      have there : region (passed location piece) :=
        covered.2 _ ((mem_trailFrom_iff _ _ _).mpr ⟨[], List.nil_prefix, rfl⟩)
      have stepped := likeness.step like covered.1 there
      rw [Disk.follow, Disk.follow, stepped]
      cases outcome : first.step location piece with
      | error cause => rfl
      | ok next =>
          obtain ⟨_, rfl, _⟩ := (step_ok_iff first location next piece).mp outcome
          exact ih covered.2

variable {path : String} (covers : Covers region first path)
include covers

theorem resolve : second.resolve path = first.resolve path := by
  rw [Disk.resolve, Disk.resolve, likeness.origin like, likeness.follow like covers]

theorem isDirectory : second.isDirectory path = first.isDirectory path := by
  rw [Disk.isDirectory, Disk.isDirectory, likeness.resolve like covers]
  cases led : first.resolve path with
  | error cause => rfl
  | ok location =>
      have inRegion := covers _ (destination_mem_trail first path)
      rw [← resolve_destination led] at inRegion
      simp [(likeness.kinds like inRegion).2]

theorem exists? : second.exists? path = first.exists? path := by
  rw [Disk.exists?, Disk.exists?, likeness.resolve like covers]

theorem lastStep : second.lastStep path = first.lastStep path := by
  obtain ⟨count, ending⟩ := pieces_end (Path.pieces path.toList)
  simp only [Disk.lastStep, likeness.origin like, bind, Except.bind, pure, Except.pure]
  cases steps : (Path.pieces path.toList).reverse.dropWhile List.isEmpty with
  | nil => rfl
  | cons piece before =>
      have pieces : Path.pieces path.toList =
          before.reverse ++ (piece :: List.replicate count []) := by
        rw [steps] at ending
        simpa using congrArg List.reverse ending
      have initial : before.reverse <+: Path.pieces path.toList := by simp [pieces]
      have covered : ∀ here ∈ trailFrom (first.origin path.toList) before.reverse, region here := by
        intro here passing
        obtain ⟨front, shorter, rfl⟩ := (mem_trailFrom_iff _ _ _).mp passing
        exact covers _ ((mem_trailFrom_iff _ _ _).mpr ⟨front, shorter.trans initial, rfl⟩)
      simp only [likeness.follow like covered]
      cases led : first.follow (first.origin path.toList) before.reverse with
      | error cause => rfl
      | ok directory =>
          have inRegion := covered _ ((mem_trailFrom_iff _ _ _).mpr ⟨_, List.prefix_rfl, rfl⟩)
          rw [← follow_ok led] at inRegion
          simp only [likeness.checkDirectory like inRegion]

theorem settled (settled : Settled first path) : Settled second path := by
  intro parent found
  rw [likeness.isDirectory like (covers.parent found)]
  exact settled parent found

theorem unlessDirectory (cause : Cause) :
    second.unlessDirectory path cause = first.unlessDirectory path cause := by
  rw [Disk.unlessDirectory, Disk.unlessDirectory, likeness.isDirectory like covers]

/-! Operations that change a node. -/

theorem writeFile (content : ByteArray) :
    SamePlacing first second (first.destination path) (.file content)
      (first.writeFile path content) (second.writeFile path content) := by
  simp only [Disk.writeFile, likeness.lastStep like covers, bind, Except.bind, pure, Except.pure]
  cases taken : first.lastStep path with
  | error cause => exact .failed cause
  | ok last =>
      obtain ⟨directory, name, slashed⟩ := last
      cases name with
      | none => exact .failed .isDirectory
      | some name =>
          cases slashed with
          | true => exact .failed .isDirectory
          | false =>
              cases short : checkName name with
              | error cause => simpa [short] using .failed cause
              | ok _ =>
                  have names : Names first path directory name false := ⟨taken, short⟩
                  have inTheWay := (likeness.kinds like (covers.lastStep taken)).2
                  simp only [short, ← names.destination, Bool.false_eq_true, ↓reduceIte]
                  split <;> split
                  · exact .failed .isDirectory
                  · next _ there _ free => exact (free (inTheWay.mpr there)).elim
                  · next _ free _ there => exact (free (inTheWay.mp there)).elim
                  · exact .placed (by simp)

theorem makeDirectory :
    SamePlacing first second (first.destination path) .directory
      (first.makeDirectory path) (second.makeDirectory path) := by
  simp only [Disk.makeDirectory, likeness.lastStep like covers, bind, Except.bind, pure, Except.pure]
  cases taken : first.lastStep path with
  | error cause => exact .failed cause
  | ok last =>
      obtain ⟨directory, name, slashed⟩ := last
      cases name with
      | none => exact .failed .alreadyExists
      | some name =>
          cases short : checkName name with
          | error cause => simpa [short] using .failed cause
          | ok _ =>
              have names : Names first path directory name slashed := ⟨taken, short⟩
              have free := (likeness.kinds like (covers.lastStep taken)).1
              simp only [short, ← names.destination]
              split <;> split
              · exact .failed .alreadyExists
              · next found _ missing => simp [free.mp missing] at found
              · next missing _ _ found => simp [free.mpr missing] at found
              · exact .placed (by simp)

end Likeness

namespace Likeness

variable {region : Location → Prop} {alike : Disk → Disk → Prop} (likeness : Likeness region alike)
include likeness

theorem makeDirectoriesFrom {first second : Disk} (like : alike first second) {path : String}
    (covers : Covers region first path) (fuel : Nat) :
    SameEffect alike (Disk.makeDirectoriesFrom fuel first path)
      (Disk.makeDirectoriesFrom fuel second path) := by
  induction fuel generalizing first second path with
  | zero => exact .same _ like
  | succ fuel ih =>
      have attempt := likeness.makeDirectory like covers
      simp only [Disk.makeDirectoriesFrom]
      split
      · exact .same _ like
      · generalize first.makeDirectory path = one at attempt ⊢
        generalize second.makeDirectory path = other at attempt ⊢
        cases attempt with
        | placed named => exact .same _ (likeness.place like named .directory)
        | failed cause =>
            cases cause with
            | notFound =>
                cases found : Path.parent? path with
                | none => exact .same _ like
                | some parent =>
                    have parents := ih like (covers.parent found)
                    have kept := (makeDirectoriesFrom_grows fuel first parent).working
                    simp only
                    generalize Disk.makeDirectoriesFrom fuel first parent = one at parents kept ⊢
                    generalize Disk.makeDirectoriesFrom fuel second parent = other at parents ⊢
                    cases parents with
                    | @same result after afterSecond likeAfter =>
                        cases result with
                        | error cause => exact .same _ likeAfter
                        | ok _ =>
                            have coversAfter := covers.congr kept
                            have again := likeness.makeDirectory likeAfter coversAfter
                            simp only [likeness.unlessDirectory likeAfter coversAfter]
                            generalize after.makeDirectory path = one at again ⊢
                            generalize afterSecond.makeDirectory path = other at again ⊢
                            cases again with
                            | placed named => exact .same _ (likeness.place likeAfter named .directory)
                            | failed cause => exact .same _ likeAfter
            | _ =>
                simp only [likeness.unlessDirectory like covers]
                exact .same _ like

variable {first second : Disk} (like : alike first second) {path : String}
  (covers : Covers region first path)
include like covers

theorem ensureDirectory :
    SameEffect alike (first.ensureDirectory path) (second.ensureDirectory path) := by
  have made := likeness.makeDirectoriesFrom like covers (path.length + 1)
  simp only [Disk.ensureDirectory, likeness.isDirectory like covers, makeDirectories]
  split
  · exact .same _ like
  · generalize Disk.makeDirectoriesFrom _ first path = one at made ⊢
    generalize Disk.makeDirectoriesFrom _ second path = other at made ⊢
    cases made with
    | same result likeAfter =>
        cases result with
        | error cause => exact .same _ likeAfter
        | ok _ => exact .same _ likeAfter

theorem ensureParent :
    SameEffect alike (first.ensureParent path) (second.ensureParent path) := by
  simp only [Disk.ensureParent]
  cases found : Path.parent? path with
  | none => exact .same _ like
  | some parent => exact likeness.ensureDirectory like (covers.parent found)

end Likeness

end Disk

namespace Artifact

open Disk (Covers Likeness SameEffect)

theorem prepareAll_nil (directory : String) (disk : Disk) :
    prepareAll directory [] disk = (.ok (), disk) := by
  exact prepareAll.eq_def directory [] disk

theorem prepareAll_cons (directory : String) (artifact : Artifact) (rest : List Artifact)
    (disk : Disk) :
    prepareAll directory (artifact :: rest) disk =
      match artifact.prepare directory disk with
      | (.error error, after) => (.error error, after)
      | (.ok _, after) => prepareAll directory rest after := by
  exact prepareAll.eq_def directory (artifact :: rest) disk

section

variable {region : Disk.Location → Prop} {alike : Disk → Disk → Prop}
  (likeness : Likeness region alike) {first second : Disk} (like : alike first second)
  {directory : String}
include likeness like

theorem prepare_alike {artifact : Artifact} (covers : Covers region first (artifact.path directory)) :
    SameEffect alike (artifact.prepare directory first) (artifact.prepare directory second) := by
  simp only [prepare, likeness.isDirectory like covers]
  split
  · exact .same _ like
  · exact likeness.ensureParent like covers

theorem prepareAll_alike {artifacts : List Artifact}
    (covers : ∀ artifact ∈ artifacts, Covers region first (artifact.path directory)) :
    SameEffect alike (prepareAll directory artifacts first)
      (prepareAll directory artifacts second) := by
  induction artifacts generalizing first second with
  | nil =>
      rw [prepareAll_nil, prepareAll_nil]
      exact .same _ like
  | cons artifact rest ih =>
      rw [List.forall_mem_cons] at covers
      have prepared := prepare_alike likeness like covers.1
      have kept := (prepare_grows artifact directory first).working
      rw [prepareAll_cons, prepareAll_cons]
      generalize artifact.prepare directory first = one at prepared kept ⊢
      generalize artifact.prepare directory second = other at prepared ⊢
      cases prepared with
      | same result likeAfter =>
          cases result with
          | error error => exact .same _ likeAfter
          | ok _ => exact ih likeAfter fun other member => (covers.2 other member).congr kept

end

end Artifact

end RouteForge
