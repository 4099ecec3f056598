import RouteForge.Proofs.DirectoryChains

/-!
What is left when the directories of a path could not be made. The way to the path ends at a file or
at a name that is too long, or the path itself is refused. From then on the attempt fails before it
makes anything, for as long as files stay files.
-/

namespace RouteForge

namespace Path

/-- Nothing follows the last move of the path. A path as a parent is written is of this kind. -/
def Trimmed (path : String) : Prop :=
  ∀ front last, moves path = front ++ [last] → ∃ before, pieces path.toList = before ++ [last]

theorem isMove_of_mem_moves {path : String} {piece : Piece} (member : piece ∈ moves path) :
    isMove piece = true := by
  rw [← filter_isMove_pieces] at member
  exact (List.mem_filter.mp member).2

theorem Trimmed.cases {path : String} (trimmed : Trimmed path) :
    moves path = [] ∨ ∃ before last, pieces path.toList = before ++ [last] ∧
      isMove last = true ∧ moves path = before.filter isMove ++ [last] := by
  rcases List.eq_nil_or_concat (moves path) with still | ⟨front, last, ended⟩
  · exact Or.inl still
  · rw [List.concat_eq_append] at ended
    obtain ⟨before, split⟩ := trimmed front last ended
    have moved : isMove last = true := isMove_of_mem_moves (ended ▸ List.mem_concat_self)
    refine Or.inr ⟨before, last, split, moved, ?_⟩
    rw [← filter_isMove_pieces, split]
    simp [moved]

end Path

namespace Disk

/-- The directory of a path cannot be made, and not for the reason that something is missing. -/
inductive Blocked (disk : Disk) (path : String) : Prop
  | refused (nonempty : path.toList ≠ []) {cause : Cause}
      (refusal : checkPath path.toList = .error cause)
  | obstructed {cause : Cause} (checked : checkPath path.toList = .ok ())
      (stopped : disk.enter (disk.origin path.toList) (Path.moves path) = .error cause)
      (present : cause ≠ .notFound)

theorem enter_origin {disk : Disk} (tree : disk.IsTree) (path : List Char) :
    disk.enter (disk.origin path) [] = .ok (disk.origin path) :=
  (enter_ok_iff disk _ _ []).mpr ⟨rfl, tree.origin path⟩

theorem isMove_cases {piece : Path.Piece} (moved : Path.isMove piece = true) :
    isName piece = true ∨ piece = ['.', '.'] ∧ isName piece = false := by
  simp only [Path.isMove, Path.innerComponent?] at moved
  simp only [isName]
  grind

theorem enter_above {disk : Disk} (tree : disk.IsTree) {location : Location}
    (here : disk.node? location = some .directory) :
    disk.enter location [['.', '.']] = .ok location.dropLast := by
  have above : disk.node? location.dropLast = some .directory := by
    by_cases root : location = []
    · simp [root, node?_root]
    · exact tree.parents location root (by simp [here])
  refine (enter_ok_iff disk _ _ _).mpr ⟨?_, above⟩
  rw [follow_cons_ok_iff]
  refine ⟨location.dropLast, ?_, (follow_nil_ok_iff disk _ _).mpr rfl⟩
  exact (step_ok_iff disk _ _ _).mpr ⟨here, by simp [passed], by simp [isName]⟩

section

variable {disk : Disk} {path : String} {before : List Path.Piece} {last : Path.Piece}

/-- Trying to make a directory is stopped where entering is stopped. Where its parent is there,
nothing is missing any more, unless the directory could be made. -/
theorem makeDirectory_cases (tree : disk.IsTree) (split : Path.pieces path.toList = before ++ [last])
    (moved : Path.isMove last = true) (checked : checkPath path.toList = .ok ()) :
    (∃ cause, disk.enter (disk.origin path.toList) before = .error cause ∧
        disk.makeDirectory path = .error cause) ∨
      ∃ directory, disk.enter (disk.origin path.toList) before = .ok directory ∧
        disk.makeDirectory path ≠ .error .notFound ∧
        ((∃ made, disk.makeDirectory path = .ok made) ↔
          disk.enter directory [last] = .error .notFound) := by
  rw [makeDirectory_of_move disk split moved checked]
  cases entered : disk.enter (disk.origin path.toList) before with
  | error cause => exact Or.inl ⟨cause, rfl, rfl⟩
  | ok directory =>
      have here := ((enter_ok_iff disk _ directory before).mp entered).2
      refine Or.inr ⟨directory, rfl, ?_⟩
      simp only [Except.bind]
      rcases isMove_cases moved with named | ⟨rfl, unnamed⟩
      · rw [if_pos named, enter_name here named]
        cases short : checkName last with
        | error cause =>
            have notFound : cause ≠ .notFound := by
              rintro rfl
              exact checkName_ne_notFound last short
            simp [notFound]
        | ok _ =>
            cases found : disk.node? (directory ++ [last]) with
            | none => simp
            | some node =>
                cases node <;> simp [found, enter, follow, checkDirectory, bind, Except.bind, pure,
                  Except.pure]
      · simp [unnamed, enter_above tree here]

theorem makeDirectory_of_still (tree : disk.IsTree) (still : Path.moves path = [])
    (checked : checkPath path.toList = .ok ()) :
    disk.makeDirectory path = .error .alreadyExists := by
  obtain ⟨count, ending⟩ := pieces_end (Path.pieces path.toList)
  rw [← Path.filter_isMove_pieces] at still
  have last : ∃ directory slashed, disk.lastStep path = .ok ⟨directory, none, slashed⟩ := by
    cases steps : (Path.pieces path.toList).reverse.dropWhile List.isEmpty with
    | nil => exact ⟨[], decide ((Path.pieces path.toList).reverse.headD [] = []),
        (lastStep_ok_iff disk path ⟨[], none, _⟩).mpr ⟨checked, rfl, by simp [steps]⟩⟩
    | cons piece before =>
        rw [steps] at ending
        have whole : Path.pieces path.toList = before.reverse ++ piece :: List.replicate count [] := by
          simpa using congrArg List.reverse ending
        have stays : (before.reverse).filter Path.isMove = [] := by
          rw [whole, List.filter_append, List.append_eq_nil_iff] at still
          exact still.1
        have unnamed : isName piece = false := by
          rw [Bool.eq_false_iff]
          intro named
          rw [whole, List.filter_eq_nil_iff] at still
          exact still piece (by simp) (Path.isMove_of_isName named)
        have entered := enter_origin tree path.toList
        rw [← stays, enter_filter] at entered
        obtain ⟨led, found⟩ := (enter_ok_iff disk _ _ _).mp entered
        refine ⟨disk.origin path.toList, decide ((Path.pieces path.toList).reverse.headD [] = []),
          (lastStep_ok_iff disk path ⟨_, none, _⟩).mpr ⟨checked, rfl, ?_⟩⟩
        simp [steps, led, found, unnamed]
  obtain ⟨directory, slashed, taken⟩ := last
  simp [makeDirectory, taken, bind, Except.bind, throw, throwThe, MonadExceptOf.throw]

theorem blocked_of_attempt (tree : disk.IsTree) (trimmed : Path.Trimmed path)
    (nonempty : path.toList ≠ []) {cause : Cause} (failed : disk.makeDirectory path = .error cause)
    (present : cause ≠ .notFound) (notThere : disk.isDirectory path = false) :
    Blocked disk path := by
  cases checked : checkPath path.toList with
  | error refusal => exact .refused nonempty checked
  | ok _ =>
      have there := isDirectory_iff_enter disk checked
      rw [notThere] at there
      cases stopped : disk.enter (disk.origin path.toList) (Path.moves path) with
      | ok location => simp [stopped] at there
      | error reason =>
          refine .obstructed checked stopped ?_
          rintro rfl
          rcases trimmed.cases with still | ⟨before, last, split, moved, moves⟩
          · simp [still, enter_origin tree] at stopped
          · rw [moves, enter_append, enter_filter] at stopped
            rcases makeDirectory_cases tree split moved checked with
              ⟨reason, entered, tried⟩ | ⟨directory, entered, _, made⟩
            · obtain rfl : reason = .notFound := by simpa [entered, Except.bind] using stopped
              rw [failed] at tried
              exact present (Except.error.inj tried)
            · rw [entered] at stopped
              obtain ⟨after, done⟩ := made.mpr stopped
              simp [failed] at done

theorem Blocked.ensureDirectory (blocked : Blocked disk path) (tree : disk.IsTree)
    (trimmed : Path.Trimmed path) :
    ∃ error, disk.ensureDirectory path = (.error error, disk) := by
  cases blocked with
  | @refused nonempty cause refusal =>
      refine ⟨_, ensureDirectory_stuck nonempty (makeDirectory_of_refused disk refusal) ?_
        (isDirectory_of_refused disk refusal)⟩
      rintro rfl
      exact checkPath_ne_notFound nonempty refusal
  | @obstructed cause checked stopped present =>
      have notThere : disk.isDirectory path = false := by
        rw [Bool.eq_false_iff, Ne, isDirectory_iff_enter disk checked, stopped]
        simp
      rcases trimmed.cases with still | ⟨before, last, split, moved, moves⟩
      · simp [still, enter_origin tree] at stopped
      · rw [moves, enter_append, enter_filter] at stopped
        have attempt : ∃ reason, disk.makeDirectory path = .error reason ∧ reason ≠ .notFound := by
          rcases makeDirectory_cases tree split moved checked with
            ⟨reason, entered, tried⟩ | ⟨directory, entered, notMissing, made⟩
          · obtain rfl : reason = cause := by simpa [entered, Except.bind] using stopped
            exact ⟨reason, tried, present⟩
          · cases tried : disk.makeDirectory path with
            | error reason =>
                refine ⟨reason, rfl, ?_⟩
                rintro rfl
                exact notMissing tried
            | ok after =>
                have missing := made.mp ⟨after, tried⟩
                rw [entered] at stopped
                exact (present (Except.error.inj (stopped.symm.trans missing))).elim
        obtain ⟨reason, tried, notMissing⟩ := attempt
        exact ⟨_, ensureDirectory_stuck (nonempty_of_checkPath checked) tried notMissing notThere⟩

end

theorem makeDirectoriesFrom_tree (fuel : Nat) {disk : Disk} (tree : disk.IsTree) (path : String) :
    (makeDirectoriesFrom fuel disk path).2.IsTree := by
  refine (makeDirectoriesFrom_grows fuel disk path).tree tree ?_
  rintro location (⟨shorter, _, led⟩ | impossible)
  · exact ⟨shorter, led⟩
  · exact impossible.elim

section

variable {disk : Disk} (tree : disk.IsTree) {path : String}

theorem checkPath_of_missing (nonempty : path.toList ≠ [])
    (missing : disk.makeDirectory path = .error .notFound) : checkPath path.toList = .ok () := by
  cases checked : checkPath path.toList with
  | ok _ => rfl
  | error refusal =>
      rw [makeDirectory_of_refused disk checked] at missing
      obtain rfl := Except.error.inj missing
      exact (checkPath_ne_notFound nonempty checked).elim

include tree

theorem makeDirectory_missing_iff {before : List Path.Piece} {last : Path.Piece}
    (split : Path.pieces path.toList = before ++ [last]) (moved : Path.isMove last = true)
    (checked : checkPath path.toList = .ok ()) :
    disk.makeDirectory path = .error .notFound ↔
      disk.enter (disk.origin path.toList) before = .error .notFound := by
  rcases makeDirectory_cases tree split moved checked with
    ⟨cause, entered, tried⟩ | ⟨directory, entered, notMissing, _⟩
  · rw [entered, tried, Except.error.injEq, Except.error.injEq]
  · simp [entered, notMissing]

theorem blocked_of_verdict (trimmed : Path.Trimmed path) (nonempty : path.toList ≠ [])
    (notMissing : disk.makeDirectory path ≠ .error .notFound) {cause : Cause}
    (failed : (match disk.makeDirectory path with
      | .ok made => ((.ok (), made) : Except Cause Unit × Disk)
      | .error cause => (disk.unlessDirectory path cause, disk)).1 = .error cause) :
    Blocked (match disk.makeDirectory path with
      | .ok made => ((.ok (), made) : Except Cause Unit × Disk)
      | .error cause => (disk.unlessDirectory path cause, disk)).2 path := by
  cases tried : disk.makeDirectory path with
  | ok made => simp [tried] at failed
  | error reason =>
      simp only [tried, unlessDirectory] at failed ⊢
      have notThere : disk.isDirectory path = false := by
        rw [Bool.eq_false_iff]
        intro isThere
        simp [isThere] at failed
      refine blocked_of_attempt tree trimmed nonempty tried ?_ notThere
      rintro rfl
      exact notMissing tried

end

theorem Blocked.of_parent {disk : Disk} {path parent : String} (blocked : Blocked disk parent)
    (checked : checkPath path.toList = .ok ()) (found : Path.parent? path = some parent)
    (initial : parent.toList <+: path.toList) (nonempty : parent.toList ≠ [])
    {last : Path.Piece} (moves : Path.moves path = Path.moves parent ++ [last]) :
    Blocked disk path := by
  cases blocked with
  | refused _ refusal => simp [checkPath_initial initial nonempty checked] at refusal
  | obstructed _ stopped present =>
      refine .obstructed checked ?_ present
      rw [moves, enter_append, ← origin_parent disk found, stopped]
      rfl

theorem makeDirectoriesFrom_blocked {disk : Disk} (tree : disk.IsTree) {path : String}
    (trimmed : Path.Trimmed path) (fuel : Nat) (fueled : 0 < fuel)
    (enough : (Path.moves path).length ≤ fuel) {cause : Cause}
    (failed : (makeDirectoriesFrom fuel disk path).1 = .error cause) :
    Blocked (makeDirectoriesFrom fuel disk path).2 path := by
  -- By induction along the parents: where an attempt fails for good, all paths that go on from
  -- there are blocked.
  induction fuel generalizing path cause with
  | zero => omega
  | succ fuel ih =>
      by_cases empty : path.toList = []
      · obtain rfl : path = "" := by simpa using empty
        simp [makeDirectoriesFrom] at failed
      · by_cases missing : disk.makeDirectory path = .error .notFound
        · have checked := checkPath_of_missing empty missing
          rcases trimmed.cases with still | ⟨before, last, split, moved, moves⟩
          · simp [makeDirectory_of_still tree still checked] at missing
          · obtain ⟨parent, found, initial, parentMoves, parentTrimmed⟩ :=
              Path.parent_of_move split moved
            have goesOn : before.filter Path.isMove ≠ [] := by
              intro nothing
              have stopped := (makeDirectory_missing_iff tree split moved checked).mp missing
              rw [← enter_filter, nothing, enter_origin tree] at stopped
              simp at stopped
            have parentNonempty : parent.toList ≠ [] := by
              intro blank
              obtain rfl : parent = "" := by simpa using blank
              rw [← parentMoves] at goesOn
              exact goesOn (by decide)
            have parents := makeDirectoriesFrom_tree fuel tree parent
            have there := makeDirectoriesFrom_ok fuel disk parent
            have parentBlocked := @ih parent parentTrimmed
            rw [parentMoves] at parentBlocked
            rw [moves, List.length_append, List.length_singleton] at enough
            have longer := List.length_pos_iff.mpr goesOn
            rw [makeDirectoriesFrom_missing fuel empty missing found] at failed ⊢
            generalize makeDirectoriesFrom fuel disk parent = result at *
            obtain ⟨outcome, after⟩ := result
            cases outcome with
            | error reason =>
                rw [← parentMoves] at moves
                exact (parentBlocked (by omega) (by omega) rfl).of_parent checked found initial
                  parentNonempty moves
            | ok _ =>
                have isThere : after.isDirectory parent = true :=
                  (there rfl).resolve_left fun blank => parentNonempty (by simp [blank])
                have parentChecked := checkPath_initial initial parentNonempty checked
                have entered := (isDirectory_iff_enter after parentChecked).mp isThere
                rw [parentMoves, enter_filter, origin_parent after found] at entered
                refine blocked_of_verdict parents trimmed empty (fun again => ?_) failed
                rw [makeDirectory_missing_iff parents split moved checked] at again
                simp [again] at entered
        · rw [makeDirectoriesFrom_present fuel empty missing] at failed ⊢
          exact blocked_of_verdict tree trimmed empty missing failed

theorem ensureDirectory_blocked {disk : Disk} (tree : disk.IsTree) {path : String}
    (trimmed : Path.Trimmed path) {error : StoreError}
    (failed : (disk.ensureDirectory path).1 = .error error) :
    Blocked (disk.ensureDirectory path).2 path := by
  have enough : (Path.moves path).length ≤ path.length + 1 := by
    have fewer := List.length_filter_le Path.isMove (Path.pieces path.toList)
    rw [Path.filter_isMove_pieces] at fewer
    have most := Path.length_pieces_le path.toList
    rw [String.length_toList] at most
    omega
  have blocked := @makeDirectoriesFrom_blocked disk tree path trimmed (path.length + 1) (by omega) enough
  simp only [ensureDirectory, makeDirectories] at failed ⊢
  generalize makeDirectoriesFrom (path.length + 1) disk path = result at blocked failed ⊢
  obtain ⟨outcome, after⟩ := result
  split at failed
  · simp at failed
  · next notThere =>
      cases outcome with
      | ok _ => simp at failed
      | error cause => simpa [notThere] using blocked rfl

/-! What stands in the way stays in the way. -/

section

variable {before after : Disk} {made written : Location → Prop}
  (changes : Changes before after made written) {location : Location} {cause : Cause}
  (present : cause ≠ .notFound)
include changes

theorem Changes.file {content : ByteArray} (found : before.node? location = some (.file content)) :
    ∃ other, after.node? location = some (.file other) := by
  rcases changes.nodes location with same | ⟨missing, _⟩ | ⟨_, _, other, wrote⟩
  · exact ⟨content, same.trans found⟩
  · simp [missing] at found
  · exact ⟨other, wrote⟩

include present

theorem Changes.checkDirectory_error (refused : before.checkDirectory location = .error cause) :
    after.checkDirectory location = .error cause := by
  cases found : before.node? location with
  | none => simp [checkDirectory, found, present.symm] at refused
  | some node =>
      cases node with
      | directory => simp [checkDirectory, found] at refused
      | file content =>
          obtain ⟨other, wrote⟩ := changes.file found
          simpa [checkDirectory, found, wrote] using refused

theorem Changes.step_error {piece : Path.Piece}
    (stopped : before.step location piece = .error cause) :
    after.step location piece = .error cause := by
  cases checked : before.checkDirectory location with
  | error reason =>
      obtain rfl : reason = cause := by simpa [step, checked, bind, Except.bind] using stopped
      simp [step, changes.checkDirectory_error present checked, bind, Except.bind]
  | ok _ =>
      have here := (checkDirectory_ok_iff before location).mp checked
      have there := (checkDirectory_ok_iff after location).mpr
        (changes.keeps.directory location here)
      simp only [step, checked, there, bind, Except.bind] at stopped ⊢
      by_cases plain : piece.isEmpty || piece = ['.']
      · simp [plain, pure, Except.pure] at stopped
      · by_cases above : piece = ['.', '.']
        · simp [above, pure, Except.pure] at stopped
        · simp only [plain, above, Bool.false_eq_true, ↓reduceIte] at stopped ⊢
          cases short : checkName piece with
          | error reason => simpa [short] using stopped
          | ok _ =>
              cases found : before.node? (location ++ [piece]) with
              | none =>
                  simp [short, found, throw, throwThe, MonadExceptOf.throw, present.symm] at stopped
              | some node => simp [short, found, pure, Except.pure] at stopped

theorem Changes.enter_error {pieces : List Path.Piece}
    (stopped : before.enter location pieces = .error cause) :
    after.enter location pieces = .error cause := by
  induction pieces generalizing location with
  | nil =>
      cases checked : before.checkDirectory location with
      | error reason =>
          obtain rfl : reason = cause := by
            simpa [enter, follow, checked, bind, Except.bind] using stopped
          simp [enter, follow, changes.checkDirectory_error present checked, bind, Except.bind]
      | ok _ => simp [enter, follow, checked, bind, Except.bind, pure, Except.pure] at stopped
  | cons piece rest ih =>
      rw [enter_cons] at stopped ⊢
      cases stepped : before.step location piece with
      | ok next =>
          rw [stepped] at stopped
          rw [changes.keeps.step stepped]
          exact ih stopped
      | error reason =>
          obtain rfl : reason = cause := by simpa [stepped, Except.bind] using stopped
          rw [changes.step_error present stepped]
          rfl

end

theorem Blocked.persists {before after : Disk} {made written : Location → Prop} {path : String}
    (blocked : Blocked before path) (changes : Changes before after made written) :
    Blocked after path := by
  cases blocked with
  | refused nonempty refusal => exact .refused nonempty refusal
  | obstructed checked stopped present =>
      refine .obstructed checked ?_ present
      rw [changes.keeps.origin]
      exact changes.enter_error present stopped

end Disk

end RouteForge
