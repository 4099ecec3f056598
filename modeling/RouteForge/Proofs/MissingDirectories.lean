import RouteForge.Proofs.RepeatedWrites

/-!
Two disks, of which the first is behind: the second has all of the first and some directories
besides. A path that does not step up leads to the same file on both, and what has been made for it on
the second can be made on the first.
-/

namespace RouteForge

namespace Path

theorem components_ne_nil {path : String} (nonempty : path.toList ≠ []) : components path ≠ [] := by
  cases split : pieces path.toList with
  | nil => exact (pieces_ne_nil _ split).elim
  | cons first rest =>
      rw [components_eq path split]
      by_cases blank : first = []
      · have more : rest ≠ [] := by
          rintro rfl
          rw [blank, pieces_eq_blank_iff] at split
          exact nonempty split
        simp [firstComponent?, blank, more]
      · obtain ⟨component, isFirst, _⟩ := firstComponent?_nonblank blank rest
        simp [isFirst]

theorem isAbsolute_of_initial {shorter longer : String}
    (initial : components shorter <+: components longer) (nonempty : shorter.toList ≠ []) :
    isAbsolute shorter.toList = isAbsolute longer.toList := by
  obtain ⟨rest, whole⟩ := initial
  rw [Bool.eq_iff_iff, isAbsolute_iff_head, isAbsolute_iff_head, ← whole,
    List.head?_append_of_ne_nil _ (components_ne_nil nonempty)]

theorem parent_mem_components {path : String} (member : ['.', '.'] ∈ pieces path.toList) :
    Component.parent ∈ components path := by
  cases split : pieces path.toList with
  | nil => exact (pieces_ne_nil _ split).elim
  | cons first rest =>
      rw [split, List.mem_cons] at member
      rw [components_eq path split, List.mem_append]
      rcases member with rfl | member
      · exact Or.inl (by simp [firstComponent?, innerComponent?])
      · exact Or.inr (List.mem_filterMap.mpr ⟨_, member, by simp [innerComponent?]⟩)

theorem isName_of_mem_moves {path : String} (level : Component.parent ∉ components path) :
    ∀ piece ∈ moves path, Disk.isName piece = true := by
  intro piece member
  rcases Disk.isMove_cases (isMove_of_mem_moves member) with named | ⟨rfl, _⟩
  · exact named
  · rw [← filter_isMove_pieces, List.mem_filter] at member
    exact (level (parent_mem_components member.1)).elim

end Path

namespace Disk

theorem AtPrefix.mem_trail {disk : Disk} {path : String} {location : Location}
    (led : AtPrefix disk (Path.components path) location) : location ∈ disk.trail path := by
  obtain ⟨shorter, initial, resolved⟩ := led
  have checked := ((resolve_ok_iff disk shorter location).mp resolved).1
  have start := Path.isAbsolute_of_initial initial (nonempty_of_checkPath checked)
  rw [resolve_destination resolved, destination, mem_trail_iff]
  exact ⟨Path.moves shorter, initial.filterMap _, by rw [origin, origin, start]⟩

theorem AtPrefix.directory_above {disk other : Disk} {path : String} {location : Location}
    (led : AtPrefix disk (Path.components path) location)
    (level : Path.Component.parent ∉ Path.components path) (tree : other.IsTree)
    (working : disk.working = other.working) (present : other.node? (other.destination path) ≠ none)
    (apart : location ≠ other.destination path) : other.node? location = some .directory := by
  obtain ⟨front, ⟨more, whole⟩, rfl⟩ := (mem_trail_iff disk path location).mp led.mem_trail
  have same : disk.origin path.toList = other.origin path.toList := by
    rw [origin, origin, working]
  have named : ∀ name ∈ more, isName name = true := fun name member =>
    Path.isName_of_mem_moves level name (whole ▸ List.mem_append_right front member)
  have down : other.destination path = movedBy (disk.origin path.toList) front ++ more := by
    rw [destination, ← whole, ← same, movedBy_append, movedBy_names _ named]
  rw [down] at present apart
  refine tree.above ?_ present
  rintro rfl
  exact apart (by simp)

theorem ne_directory_of_resolve {disk : Disk} {path : String} {location : Location}
    (led : disk.resolve path = .ok location) (free : disk.isDirectory path = false) :
    disk.node? location ≠ some .directory := by
  intro found
  simp [(isDirectory_iff disk path).mpr ⟨location, led, found⟩] at free

theorem isDirectory_trail {disk : Disk} {path : String} (there : disk.isDirectory path = true) :
    ∀ location ∈ disk.trail path, disk.node? location = some .directory := by
  obtain ⟨final, led, _⟩ := (isDirectory_iff disk path).mp there
  obtain ⟨location, entered⟩ :=
    (isDirectory_iff_enter disk ((resolve_ok_iff disk path final).mp led).1).mp there
  rw [← Path.filter_isMove_pieces, enter_filter] at entered
  exact enter_trail entered

theorem IsTree.present_of_follow {disk : Disk} (tree : disk.IsTree) {location final : Location}
    {pieces : List Path.Piece} (here : disk.node? location ≠ none)
    (led : disk.follow location pieces = .ok final) : disk.node? final ≠ none := by
  induction pieces generalizing location with
  | nil => rwa [(follow_nil_ok_iff disk location final).mp led]
  | cons piece rest ih =>
      obtain ⟨next, stepped, finished⟩ := (follow_cons_ok_iff disk location final piece rest).mp led
      obtain ⟨_, rfl, named⟩ := (step_ok_iff disk location next piece).mp stepped
      refine ih ?_ finished
      by_cases isNamed : isName piece = true
      · exact (named isNamed).2
      · simp only [passed, isNamed, Bool.false_eq_true, ↓reduceIte]
        split
        · by_cases root : location = []
          · simp [root, node?_root]
          · simp [tree.parents location root here]
        · exact here

theorem IsTree.present {disk : Disk} (tree : disk.IsTree) {path : String} {location : Location}
    (led : disk.resolve path = .ok location) : disk.node? location ≠ none :=
  tree.present_of_follow (by simp [tree.origin])
    ((resolve_ok_iff disk path location).mp led).2

theorem ensureParent_tree {disk : Disk} (tree : disk.IsTree) (path : String) :
    (disk.ensureParent path).2.IsTree := by
  refine (ensureParent_grows disk path).tree tree ?_
  rintro location (⟨shorter, _, led⟩ | impossible)
  · exact ⟨shorter, led⟩
  · exact impossible.elim

section

variable {disk other : Disk} (working : other.working = disk.working) {path : String}
  (settled : Settled other path) {location : Location}
include working settled

theorem Settled.directory_at {parent : String} (found : Path.parent? path = some parent)
    (led : AtPrefix disk (Path.components path).dropLast location) :
    other.node? location = some .directory := by
  rw [← Path.components_parent found] at led
  rcases settled parent found with rfl | there
  · obtain ⟨shorter, initial, resolved⟩ := led
    have checked := ((resolve_ok_iff disk shorter location).mp resolved).1
    exact (Path.components_ne_nil (nonempty_of_checkPath checked) (List.prefix_nil.mp initial)).elim
  · have passed := led.mem_trail
    rw [← trail_congr working] at passed
    exact isDirectory_trail there location passed

theorem ensureParent_made
    (found : (disk.ensureParent path).2.node? location = some .directory) :
    disk.node? location = some .directory ∨ other.node? location = some .directory := by
  have grows := ensureParent_grows disk path
  rcases grows.nodes location with same | ⟨_, _, led⟩ | ⟨_, impossible, _⟩
  · exact Or.inl (same ▸ found)
  · cases parentEq : Path.parent? path with
    | none =>
        rw [ensureParent, parentEq] at found
        exact Or.inl found
    | some parent =>
        exact Or.inr (settled.directory_at (working.trans grows.working.symm) parentEq led)
  · exact impossible.elim

end

/-- What is in a region of the first disk is on the second as well, and of the same kind. -/
structure Within (region : Location → Prop) (first second : Disk) : Prop where
  directories : ∀ here, region here → first.node? here = some .directory →
    second.node? here = some .directory
  files : ∀ here, region here → ∀ content, first.node? here = some (.file content) →
    ∃ other, second.node? here = some (.file other)

theorem Grows.within {first second : Disk} {made : Location → Prop}
    (grows : Grows first second made) (region : Location → Prop) : Within region first second :=
  ⟨fun here _ found => grows.keeps.directory here found,
    fun here _ content found => ⟨content, (grows.file_iff here id content).mpr found⟩⟩

namespace Within

variable {region : Location → Prop} {first second : Disk} (within : Within region first second)
include within

theorem step {location next : Location} {piece : Path.Piece} (here : region location)
    (stepped : second.step location piece = .ok next) :
    first.step location piece = .ok next ∨ first.step location piece = .error .notFound := by
  obtain ⟨there, rfl, named⟩ := (step_ok_iff second location next piece).mp stepped
  cases found : first.node? location with
  | none =>
      right
      simp [Disk.step, checkDirectory, found, bind, Except.bind]
  | some node =>
      cases node with
      | file content =>
          obtain ⟨other, isFile⟩ := within.files location here content found
          simp [there] at isFile
      | directory =>
          have checked := (checkDirectory_ok_iff first location).mpr found
          by_cases present : isName piece = true → first.node? (location ++ [piece]) ≠ none
          · left
            refine (step_ok_iff first location _ piece).mpr ⟨found, rfl, fun isName => ?_⟩
            have short := (named isName).1
            rw [passed_name isName]
            exact ⟨short, present isName⟩
          · right
            simp only [Classical.not_imp, ne_eq, not_not] at present
            obtain ⟨isNamed, missing⟩ := present
            have plain : (piece.isEmpty || piece = ['.']) = false := by
              simp only [isName] at isNamed
              grind
            have inner : piece ≠ ['.', '.'] := by
              rintro rfl
              simp [isName] at isNamed
            simp [Disk.step, checked, plain, inner, (named isNamed).1, missing, bind, Except.bind,
              throw, throwThe, MonadExceptOf.throw]

theorem enter {location final : Location} {pieces : List Path.Piece}
    (covered : ∀ here ∈ trailFrom location pieces, region here)
    (entered : second.enter location pieces = .ok final) :
    first.enter location pieces = .ok final ∨ first.enter location pieces = .error .notFound := by
  induction pieces generalizing location with
  | nil =>
      have here := covered location (by simp [trailFrom])
      have there := enter_trail entered location (by simp [trailFrom])
      obtain ⟨led, _⟩ := (enter_ok_iff second location final []).mp entered
      obtain rfl := (follow_nil_ok_iff second location final).mp led
      cases found : first.node? final with
      | none => simp [Disk.enter, Disk.follow, checkDirectory, found, bind, Except.bind]
      | some node =>
          cases node with
          | directory => exact Or.inl ((enter_ok_iff first final final []).mpr ⟨led, found⟩)
          | file content =>
              obtain ⟨other, isFile⟩ := within.files final here content found
              simp [there] at isFile
  | cons piece rest ih =>
      rw [trailFrom, List.forall_mem_cons] at covered
      rw [enter_cons] at entered ⊢
      cases stepped : second.step location piece with
      | error cause => simp [stepped, Except.bind] at entered
      | ok next =>
          rw [stepped] at entered
          rcases within.step covered.1 stepped with same | missing
          · obtain ⟨_, rfl, _⟩ := (step_ok_iff second location next piece).mp stepped
            rw [same]
            exact ih covered.2 entered
          · rw [missing]
            exact Or.inr rfl

/-- Where the second disk has the directory of a path, it can be made on the first. -/
theorem ensureParent (tree : first.IsTree) (working : second.working = first.working) {path : String}
    (covers : Covers region first path) {before : List Path.Piece} {name : Path.Piece}
    (ends : Path.EndsIn path before name) (settled : Settled second path) :
    ∃ next, first.ensureParent path = (.ok (), next) ∧ Within region next second := by
  have growth := ensureParent_grows first path
  have onTheWay := @ensureParent_made first second working path settled
  have reached : Within region (first.ensureParent path).2 second :=
    ⟨fun here inside found => (onTheWay found).elim (within.directories here inside) id,
      fun here inside content found =>
        within.files here inside content ((growth.file_iff here id content).mp found)⟩
  obtain ⟨parent, parentEq, _, _, trimmed⟩ :=
    Path.parent_of_move ends.pieces (Path.isMove_of_isName ends.named)
  refine ⟨(first.ensureParent path).2, Prod.ext ?_ rfl, reached⟩
  cases outcome : (first.ensureParent path).1 with
  | ok _ => rfl
  | error error =>
      have coversParent := (covers.congr growth.working).parent parentEq
      rw [Disk.ensureParent, parentEq] at outcome reached coversParent
      have stopped := ensureDirectory_blocked tree trimmed outcome
      have origin := (ensureDirectory_grows first parent).keeps.origin parent.toList
      generalize (first.ensureDirectory parent).2 = next at reached coversParent stopped origin
      rcases settled parent parentEq with rfl | there
      · have ready : Settled first path := by simp [Settled, parentEq]
        have ensured := ready.ensureParent
        rw [Disk.ensureParent, parentEq] at ensured
        simp [ensured] at outcome
      · -- What keeps the parent from being made would stand in its way on the second disk.
        obtain ⟨location, led, _⟩ := (isDirectory_iff second parent).mp there
        have checked := ((resolve_ok_iff second parent location).mp led).1
        cases stopped with
        | refused _ refusal => simp [checked] at refusal
        | obstructed _ stopped present =>
            obtain ⟨final, entered⟩ := (isDirectory_iff_enter second checked).mp there
            have sameOrigin : second.origin parent.toList = next.origin parent.toList := by
              rw [origin, Disk.origin, Disk.origin, working]
            rw [sameOrigin] at entered
            have covered : ∀ here ∈ trailFrom (next.origin parent.toList) (Path.moves parent),
                region here := by
              intro here passing
              rw [← Path.filter_isMove_pieces, mem_trailFrom_filter] at passing
              exact coversParent here passing
            rcases reached.enter covered entered with same | missing
            · simp [same] at stopped
            · rw [missing] at stopped
              exact (present (Except.error.inj stopped).symm).elim

end Within

theorem writeFile_tree {disk after : Disk} {path : String} {content : ByteArray}
    (tree : disk.IsTree) (wrote : disk.writeFile path content = .ok after) : after.IsTree := by
  refine (writeFile_changes wrote).tree tree ?_
  rintro location (impossible | led)
  · exact impossible.elim
  · exact ⟨path, led⟩

theorem Names.endsIn {disk : Disk} {path : String} {directory : Location} {name : Path.Piece}
    (names : Names disk path directory name false) :
    ∃ before, Path.EndsIn path before name := by
  obtain ⟨_, named, _, before, count, pieces, _, slashes⟩ := lastStep_pieces names.last
  obtain rfl : count = 0 := by simpa using slashes
  exact ⟨before, by simpa using pieces, named⟩

theorem endsIn_of_resolve {disk : Disk} {path : String}
    (level : Path.Component.parent ∉ Path.components path) {location : Location}
    (led : disk.resolve path = .ok location)
    (notDirectory : disk.node? location ≠ some .directory) :
    ∃ before name, Path.EndsIn path before name := by
  obtain ⟨before, last, split⟩ : ∃ before last, Path.pieces path.toList = before ++ [last] :=
    ⟨_, _, (List.dropLast_concat_getLast (Path.pieces_ne_nil path.toList)).symm⟩
  have followed := ((resolve_ok_iff disk path location).mp led).2
  rw [split, follow_append_ok_iff] at followed
  obtain ⟨middle, _, ended⟩ := followed
  obtain ⟨next, stepped, stays⟩ := (follow_cons_ok_iff disk middle location last []).mp ended
  obtain rfl := (follow_nil_ok_iff disk next location).mp stays
  obtain ⟨directory, rfl, _⟩ := (step_ok_iff disk middle _ last).mp stepped
  cases moved : Path.isMove last with
  | false =>
      rw [passed_of_not_isMove moved] at notDirectory
      exact (notDirectory directory).elim
  | true =>
      refine ⟨before, last, split, Path.isName_of_mem_moves level last ?_⟩
      rw [← Path.filter_isMove_pieces, split]
      simp [moved]

section

variable {behind ahead : Disk} {made : Location → Prop} (tree : behind.IsTree)
  (grows : Grows behind ahead made) {path : String}
include tree grows

theorem ensureParent_behind {before : List Path.Piece} {name : Path.Piece}
    (ends : Path.EndsIn path before name) (settled : Settled ahead path) :
    ∃ next, behind.ensureParent path = (.ok (), next) ∧ Grows next ahead fun _ => True := by
  obtain ⟨next, ensured, within⟩ := (grows.within fun _ => True).ensureParent tree grows.working
    (fun _ _ => trivial) ends settled
  have growth := ensureParent_grows behind path
  rw [ensured] at growth
  refine ⟨next, ensured, grows.working.trans growth.working.symm, fun location => ?_⟩
  rcases growth.nodes location with same | ⟨_, isDirectory, _⟩ | ⟨_, impossible, _⟩
  · rw [same]
    exact (grows.weaken fun _ _ => trivial).nodes location
  · exact Or.inl ((within.directories location trivial isDirectory).trans isDirectory.symm)
  · exact impossible.elim

theorem writeFile_behind {content : ByteArray} {after : Disk} (settled : Settled ahead path)
    (wrote : ahead.writeFile path content = .ok after) :
    ∃ made later, behind.ensureParent path = (.ok (), made) ∧
      made.writeFile path content = .ok later ∧ Grows later after fun _ => True := by
  obtain ⟨parent, name, names, notDirectory, rfl⟩ := (writeFile_ok_iff ahead after path _).mp wrote
  obtain ⟨before, ends⟩ := names.endsIn
  obtain ⟨made, ensured, reached⟩ := ensureParent_behind tree grows ends settled
  have madeTree := ensureParent_tree tree path
  have madeSettled := ensureParent_ok behind path (by rw [ensured])
  rw [ensured] at madeTree madeSettled
  obtain ⟨directory, last, (madeNames : Names made path directory last false)⟩ :=
    @Settled.names made madeTree ⟨path, .always⟩ ⟨before, name, ends, names.short⟩
      (lastStep_pieces names.last).1 madeSettled
  have samePlace : parent ++ [name] = directory ++ [last] := by
    rw [names.destination, madeNames.destination, destination_of_working reached.working]
  rw [samePlace] at notDirectory ⊢
  refine ⟨made, made.place (directory ++ [last]) (.file content), ensured, ?_, reached.working, ?_⟩
  · refine (writeFile_ok_iff made _ path _).mpr ⟨directory, last, madeNames, ?_, rfl⟩
    exact fun found => notDirectory (reached.keeps.directory _ found)
  · intro location
    rw [node?_place made _ (by simp), node?_place ahead _ (by simp)]
    split
    · exact Or.inl rfl
    · exact reached.nodes location

/-- What a path that does not step up leads to is the same behind, unless it is a directory. -/
theorem resolve_behind (level : Path.Component.parent ∉ Path.components path) {location : Location}
    (led : ahead.resolve path = .ok location)
    (notDirectory : ahead.node? location ≠ some .directory) : behind.resolve path = .ok location := by
  obtain ⟨before, name, ends⟩ := endsIn_of_resolve level led notDirectory
  obtain ⟨checked, followed⟩ := (resolve_ok_iff ahead path location).mp led
  rw [ends.pieces, follow_append_ok_iff] at followed
  obtain ⟨middle, onTheWay, last⟩ := followed
  obtain ⟨next, stepped, stays⟩ := (follow_cons_ok_iff ahead middle location name []).mp last
  obtain rfl := (follow_nil_ok_iff ahead next location).mp stays
  obtain ⟨directory, rfl, present⟩ := (step_ok_iff ahead middle _ name).mp stepped
  obtain ⟨short, found⟩ := present ends.named
  have same : behind.node? (passed middle name) = ahead.node? (passed middle name) := by
    rcases grows.nodes (passed middle name) with same | ⟨_, isDirectory, _⟩ | ⟨_, impossible, _⟩
    · exact same.symm
    · exact (notDirectory isDirectory).elim
    · exact impossible.elim
  -- The names on the way stand in directories that cannot be missing then.
  have parent : behind.node? middle = some .directory := by
    have above := tree.parents (passed middle name) (by simp [passed_name ends.named])
      (by rwa [same])
    rwa [passed_name ends.named, List.dropLast_concat] at above
  have named : ∀ piece ∈ before.filter Path.isMove, isName piece = true := by
    intro piece member
    refine Path.isName_of_mem_moves level piece ?_
    rw [ends.moves_eq]
    exact List.mem_append_left _ member
  have entered := (enter_ok_iff ahead _ middle before).mpr ⟨onTheWay, directory⟩
  rw [← enter_filter, grows.keeps.origin] at entered
  have whole := follow_ok ((enter_ok_iff ahead _ middle _).mp entered).1
  rw [movedBy_names _ named] at whole
  have enteredBehind := tree.enter_alike (tree.origin path.toList) named entered (whole ▸ parent)
  rw [enter_filter] at enteredBehind
  refine (resolve_ok_iff behind path _).mpr ⟨checked, ?_⟩
  rw [ends.pieces, follow_append_ok_iff]
  refine ⟨middle, ((enter_ok_iff behind _ middle before).mp enteredBehind).1, ?_⟩
  rw [follow_cons_ok_iff]
  refine ⟨passed middle name, ?_, (follow_nil_ok_iff behind _ _).mpr rfl⟩
  exact (step_ok_iff behind middle _ name).mpr ⟨parent, rfl, fun _ => ⟨short, same ▸ found⟩⟩

end

end Disk

end RouteForge
