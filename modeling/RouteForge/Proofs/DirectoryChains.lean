import RouteForge.Proofs.DirectoryTrees

/-!
What making the directories of a path does. The parent of a missing directory is made when the
attempt without it has failed; where the rest of the path goes down by names only, that is the same
as making what is missing from the top.
-/

namespace RouteForge

theorem Path.length_pieces_le (path : List Char) : (pieces path).length ≤ path.length + 1 := by
  fun_induction pieces path with
  | case1 => simp
  | case2 rest ih => simpa using ih
  | case3 char rest _ none ih => simp
  | case4 char rest _ piece others split ih =>
      rw [split] at ih
      simp at ih ⊢
      omega

namespace Disk

theorem Keeps.trans {first second third : Disk} (earlier : Keeps first second)
    (later : Keeps second third) : Keeps first third :=
  ⟨later.working.trans earlier.working,
    fun location found => later.directory location (earlier.directory location found),
    fun location found => later.present location (earlier.present location found)⟩

/-! Making directories from the top. -/

/-- Goes down by names and makes each directory that is missing. -/
def makeDown (disk : Disk) (location : Location) :
    List Path.Piece → Except Cause Unit × Disk
  | [] => (.ok (), disk)
  | name :: rest =>
      match checkName name with
      | .error cause => (.error cause, disk)
      | .ok _ =>
          match disk.node? (location ++ [name]) with
          | some (.file _) => (.error (if rest = [] then .alreadyExists else .notDirectory), disk)
          | some .directory => disk.makeDown (location ++ [name]) rest
          | none =>
              (disk.place (location ++ [name]) .directory).makeDown (location ++ [name]) rest

theorem node?_place_below (disk : Disk) (location : Location) (name : Path.Piece) (node : Node)
    {rest : Location} (more : rest ≠ []) :
    (disk.place (location ++ [name]) node).node? (location ++ [name] ++ rest) =
      disk.node? (location ++ [name] ++ rest) := by
  simp [node?_place, more]

theorem makeDown_keeps (disk : Disk) (location : Location) (names : List Path.Piece) :
    Keeps disk (disk.makeDown location names).2 := by
  fun_induction makeDown disk location names with
  | case1 disk | case2 disk | case3 disk => exact Keeps.refl disk
  | case4 disk location name rest _ _ _ ih => exact ih
  | case5 disk location name rest _ _ missing ih =>
      exact (keeps_place disk (by simp) fun _ => rfl).trans ih

theorem makeDown_of_enter {disk : Disk} {location final : Location} {names : List Path.Piece}
    (named : ∀ name ∈ names, isName name = true) (entered : disk.enter location names = .ok final)
    (more : List Path.Piece) :
    disk.makeDown location (names ++ more) = disk.makeDown final more := by
  induction names generalizing location with
  | nil =>
      have same := ((enter_ok_iff disk location final []).mp entered).1
      rw [(follow_nil_ok_iff disk location final).mp same, List.nil_append]
  | cons name rest ih =>
      rw [List.forall_mem_cons] at named
      have here : disk.node? location = some .directory :=
        enter_trail entered location (by simp [trailFrom])
      rw [enter_name here named.1] at entered
      cases short : checkName name with
      | error cause => simp [short] at entered
      | ok _ =>
          cases found : disk.node? (location ++ [name]) with
          | none => simp [short, found] at entered
          | some node =>
              simp only [short, found] at entered
              have next : disk.node? (location ++ [name]) = some .directory :=
                enter_trail entered _ (by cases rest <;> simp [trailFrom])
              simp only [List.cons_append, makeDown, short, next]
              exact ih named.2 entered

theorem makeDown_of_obstacle {disk : Disk} {location : Location} {names more : List Path.Piece}
    {cause : Cause} (here : disk.node? location = some .directory)
    (named : ∀ name ∈ names, isName name = true) (stopped : disk.enter location names = .error cause)
    (obstacle : cause ≠ .notFound) (further : more ≠ []) :
    disk.makeDown location (names ++ more) = (.error cause, disk) := by
  induction names generalizing location with
  | nil =>
      have entered := (enter_ok_iff disk location location []).mpr ⟨rfl, here⟩
      simp [entered] at stopped
  | cons name rest ih =>
      rw [List.forall_mem_cons] at named
      rw [enter_name here named.1] at stopped
      cases short : checkName name with
      | error shortCause =>
          obtain rfl : shortCause = cause := by simpa [short] using stopped
          simp [makeDown, short]
      | ok _ =>
          simp only [short] at stopped
          cases found : disk.node? (location ++ [name]) with
          | none => exact (obstacle (by simpa [found, eq_comm] using stopped)).elim
          | some node =>
              simp only [found] at stopped
              cases node with
              | directory =>
                  simp only [List.cons_append, makeDown, short, found]
                  exact ih found named.2 stopped
              | file content =>
                  have outside : disk.checkDirectory (location ++ [name]) = .error .notDirectory := by
                    simp [checkDirectory, found]
                  rw [← enter_checked, outside] at stopped
                  obtain rfl : Cause.notDirectory = cause := by
                    simpa [Except.bind] using stopped
                  simp [makeDown, short, found, further]

/-- Unless a file stands at its end, a way is made in two parts. -/
theorem makeDown_append {disk : Disk} {location : Location} {front : List Path.Piece}
    (noFile : ∀ content, disk.node? (location ++ front) ≠ some (.file content))
    (more : List Path.Piece) :
    disk.makeDown location (front ++ more) =
      match disk.makeDown location front with
      | (.error cause, after) => (.error cause, after)
      | (.ok _, after) => after.makeDown (location ++ front) more := by
  induction front generalizing disk location with
  | nil => simp [makeDown]
  | cons name rest ih =>
      have whole : location ++ name :: rest = location ++ [name] ++ rest := by simp
      rw [whole] at noFile ⊢
      simp only [List.cons_append, makeDown]
      cases checkName name with
      | error cause => rfl
      | ok _ =>
          simp only
          cases found : disk.node? (location ++ [name]) with
          | none =>
              refine ih fun content => ?_
              by_cases last : rest = []
              · simp [last, node?_place]
              · rw [node?_place_below disk location name _ last]
                exact noFile content
          | some node =>
              cases node with
              | directory => exact ih noFile
              | file content =>
                  have further : rest ≠ [] := by
                    rintro rfl
                    exact noFile content (by simpa using found)
                  simp [further]

theorem makeDown_ok {disk after : Disk} {location : Location} {names : List Path.Piece}
    (here : disk.node? location = some .directory) (named : ∀ name ∈ names, isName name = true)
    (made : disk.makeDown location names = (.ok (), after)) :
    after.enter location names = .ok (location ++ names) := by
  induction names generalizing disk location with
  | nil =>
      obtain rfl : disk = after := by simpa [makeDown] using made
      exact (enter_ok_iff disk location _ []).mpr (by simpa [follow_nil_ok_iff] using here)
  | cons name rest ih =>
      have keeps := makeDown_keeps disk location (name :: rest)
      rw [made] at keeps
      rw [List.forall_mem_cons] at named
      rw [enter_name (keeps.directory location here) named.1]
      simp only [makeDown] at made
      cases short : checkName name with
      | error cause => simp [short] at made
      | ok _ =>
          simp only [short] at made
          have entered : after.enter (location ++ [name]) rest = .ok (location ++ [name] ++ rest) := by
            cases found : disk.node? (location ++ [name]) with
            | none =>
                simp only [found] at made
                exact ih (by simp [node?_place]) named.2 made
            | some node =>
                simp only [found] at made
                cases node with
                | directory => exact ih found named.2 made
                | file content => simp at made
          have next : after.node? (location ++ [name]) = some .directory :=
            enter_trail entered _ (by cases rest <;> simp [trailFrom])
          simpa [next] using entered

/-! A path that leads down by names from a directory that is there. -/

structure Heads (disk : Disk) (path : String) (location : Location) (names : List Path.Piece) :
    Prop where
  named : ∀ name ∈ names, isName name = true
  climbed : ∃ climb, Path.moves path = climb ++ names ∧
    disk.enter (disk.origin path.toList) climb = .ok location

theorem Keeps.enter {before after : Disk} (keeps : Keeps before after)
    {location final : Location} {pieces : List Path.Piece}
    (entered : before.enter location pieces = .ok final) :
    after.enter location pieces = .ok final := by
  rw [enter_ok_iff] at entered ⊢
  exact ⟨keeps.follow entered.1, keeps.directory final entered.2⟩

namespace Heads

variable {disk : Disk} {path : String} {location : Location} {names : List Path.Piece}

theorem directory (heads : Heads disk path location names) :
    disk.node? location = some .directory := by
  obtain ⟨climb, _, entered⟩ := heads.climbed
  exact ((enter_ok_iff disk _ location climb).mp entered).2

theorem keeps {after : Disk} (heads : Heads disk path location names) (keeps : Keeps disk after) :
    Heads after path location names := by
  obtain ⟨climb, moves, entered⟩ := heads.climbed
  refine ⟨heads.named, climb, moves, ?_⟩
  rw [keeps.origin]
  exact keeps.enter entered

theorem enter (heads : Heads disk path location names) :
    disk.enter (disk.origin path.toList) (Path.moves path) = disk.enter location names := by
  obtain ⟨climb, moves, entered⟩ := heads.climbed
  rw [moves, enter_append, entered]
  rfl

theorem destination (heads : Heads disk path location names) :
    disk.destination path = location ++ names := by
  obtain ⟨climb, moves, entered⟩ := heads.climbed
  have led := ((enter_ok_iff disk _ location climb).mp entered).1
  rw [Disk.destination, moves, movedBy_append, ← follow_ok led, movedBy_names location heads.named]

theorem join (heads : Heads disk path location names) {child : String} {further : List Path.Piece}
    (down : Path.Downward child further) :
    Heads disk (Path.join path child) location (names ++ further) := by
  obtain ⟨climb, moves, entered⟩ := heads.climbed
  refine ⟨?_, climb, ?_, ?_⟩
  · rw [List.forall_mem_append]
    exact ⟨heads.named, down.named⟩
  · rw [Path.moves_join path down, moves, List.append_assoc]
  · rw [origin_join disk path down]
    exact entered

section

variable {front before : List Path.Piece} {name : Path.Piece}

theorem moves_before (heads : Heads disk path location (front ++ [name]))
    (ends : Path.EndsIn path before name) :
    ∃ climb, before.filter Path.isMove = climb ++ front ∧
      disk.enter (disk.origin path.toList) climb = .ok location := by
  obtain ⟨climb, moves, entered⟩ := heads.climbed
  rw [ends.moves_eq, ← List.append_assoc] at moves
  exact ⟨climb, (List.append_inj' moves rfl).1, entered⟩

theorem enter_before (heads : Heads disk path location (front ++ [name]))
    (ends : Path.EndsIn path before name) :
    disk.enter (disk.origin path.toList) before = disk.enter location front := by
  obtain ⟨climb, parts, entered⟩ := heads.moves_before ends
  rw [← enter_filter, parts, enter_append, entered]
  rfl

theorem parent {last : Path.Piece} (heads : Heads disk path location (front ++ [last] ++ [name]))
    (ends : Path.EndsIn path before name) :
    ∃ parent above, Path.parent? path = some parent ∧ parent.toList <+: path.toList ∧
      Path.EndsIn parent above last ∧ Heads disk parent location (front ++ [last]) := by
  obtain ⟨climb, parts, entered⟩ := heads.moves_before ends
  obtain ⟨parent, found, initial, moves, ending⟩ := ends.parent
  have named := (List.forall_mem_append.mp heads.named).1
  obtain ⟨above, parentEnds⟩ := ending (climb ++ front) last
    (by rw [moves, parts, List.append_assoc]) (named last (by simp))
  exact ⟨parent, above, found, initial, parentEnds, named, climb, moves.trans parts,
    by rw [origin_parent disk found]; exact entered⟩

end

end Heads

/-! The operations on directories, by the way they enter. -/

theorem isDirectory_iff_enter (disk : Disk) {path : String} (checked : checkPath path.toList = .ok ()) :
    disk.isDirectory path = true ↔
      ∃ location, disk.enter (disk.origin path.toList) (Path.moves path) = .ok location := by
  rw [isDirectory_iff, ← Path.filter_isMove_pieces, enter_filter]
  simp only [resolve_ok_iff, checked, true_and, enter_ok_iff]

theorem isDirectory_of_refused (disk : Disk) {path : String} {cause : Cause}
    (refused : checkPath path.toList = .error cause) : disk.isDirectory path = false := by
  simp [isDirectory, resolve, refused, bind, Except.bind]

section

variable {path : String} {before : List Path.Piece} {name : Path.Piece}

theorem makeDirectory_of_refused (disk : Disk) {cause : Cause}
    (refused : checkPath path.toList = .error cause) :
    disk.makeDirectory path = .error cause := by
  simp [makeDirectory, lastStep, refused, bind, Except.bind]

theorem makeDirectory_of_move (disk : Disk) {last : Path.Piece}
    (split : Path.pieces path.toList = before ++ [last]) (moved : Path.isMove last = true)
    (checked : checkPath path.toList = .ok ()) :
    disk.makeDirectory path =
      (disk.enter (disk.origin path.toList) before).bind fun directory =>
        if isName last then
          (checkName last).bind fun _ =>
            match disk.node? (directory ++ [last]) with
            | some _ => .error .alreadyExists
            | none => .ok (disk.place (directory ++ [last]) .directory)
        else
          .error .alreadyExists := by
  have nonblank : last ≠ [] := by
    rintro rfl
    simp [Path.isMove, Path.innerComponent?] at moved
  simp only [makeDirectory, lastStep, checked, split, enter, List.reverse_append,
    List.reverse_cons, List.reverse_nil, List.nil_append, List.singleton_append, List.headD_cons,
    List.dropWhile_cons, List.isEmpty_iff, nonblank, ↓reduceIte, List.reverse_reverse, bind,
    Except.bind, pure, Except.pure]
  cases disk.follow (disk.origin path.toList) before with
  | error cause => rfl
  | ok directory =>
      simp only
      cases disk.checkDirectory directory with
      | error cause => rfl
      | ok _ =>
          cases isName last with
          | false => rfl
          | true =>
              simp only [↓reduceIte]
              cases checkName last with
              | error cause => rfl
              | ok _ =>
                  simp only
                  cases disk.node? (directory ++ [last]) <;> rfl

theorem makeDirectory_eq (disk : Disk) (ends : Path.EndsIn path before name)
    (checked : checkPath path.toList = .ok ()) :
    disk.makeDirectory path =
      (disk.enter (disk.origin path.toList) before).bind fun directory =>
        (checkName name).bind fun _ =>
          match disk.node? (directory ++ [name]) with
          | some _ => .error .alreadyExists
          | none => .ok (disk.place (directory ++ [name]) .directory) := by
  rw [makeDirectory_of_move disk ends.pieces (Path.isMove_of_isName ends.named) checked]
  simp only [ends.named, ↓reduceIte]

theorem checkName_ne_notFound (name : Path.Piece) : checkName name ≠ .error .notFound := by
  rw [checkName]
  split <;> simp

theorem makeDirectory_tried {disk : Disk} {directory : Location} (ends : Path.EndsIn path before name)
    (checked : checkPath path.toList = .ok ())
    (entered : disk.enter (disk.origin path.toList) before = .ok directory) :
    disk.makeDirectory path ≠ .error .notFound ∧
      disk.makeDown directory [name] =
        match disk.makeDirectory path with
        | .ok made => (.ok (), made)
        | .error cause => (disk.unlessDirectory path cause, disk) := by
  have here := ((enter_ok_iff disk _ directory before).mp entered).2
  have there := isDirectory_iff_enter disk checked
  rw [ends.moves_eq, enter_append, enter_filter, entered, Except.bind,
    enter_name here ends.named] at there
  rw [makeDirectory_eq disk ends checked, entered]
  simp only [Except.bind, makeDown, unlessDirectory]
  cases short : checkName name with
  | error cause =>
      have notFound : cause ≠ .notFound := by
        rintro rfl
        exact checkName_ne_notFound name short
      have notThere : disk.isDirectory path = false := by simpa [short] using there
      simp [notThere, notFound]
  | ok _ =>
      cases found : disk.node? (directory ++ [name]) with
      | none => simp
      | some node =>
          cases node with
          | directory =>
              have isThere : disk.isDirectory path = true := by
                rw [there]
                simpa [short, found] using
                  ⟨directory ++ [name], (enter_ok_iff disk _ _ []).mpr ⟨rfl, found⟩⟩
              simp [isThere]
          | file content =>
              have notThere : disk.isDirectory path = false := by
                rw [Bool.eq_false_iff, Ne, there]
                simp [short, found, enter, follow, checkDirectory, bind, Except.bind]
              simp [notThere]

end

theorem nonempty_of_checkPath {path : List Char} (checked : checkPath path = .ok ()) :
    path ≠ [] := by
  rintro rfl
  exact absurd checked (by decide)

theorem checkPath_ne_notFound {path : List Char} (nonempty : path ≠ []) :
    checkPath path ≠ .error .notFound := by
  have named : path.isEmpty = false := by simpa [List.isEmpty_iff] using nonempty
  simp only [checkPath, named]
  grind

theorem nonempty_of_endsIn {path : String} {before : List Path.Piece} {name : Path.Piece}
    (ends : Path.EndsIn path before name) : path.toList ≠ [] := by
  intro empty
  have blank := ends.pieces
  have unnamed := ends.named
  rw [empty, Path.pieces, List.singleton_eq_append_iff] at blank
  rcases blank with ⟨_, same⟩ | ⟨_, same⟩ <;> simp at same
  simp [← same, isName] at unnamed

theorem checkPath_initial {shorter longer : List Char} (isPrefix : shorter <+: longer)
    (nonempty : shorter ≠ []) (checked : checkPath longer = .ok ()) :
    checkPath shorter = .ok () := by
  obtain ⟨rest, rfl⟩ := isPrefix
  simp only [checkPath] at checked ⊢
  grind [Text.byteCount_append, List.isEmpty_iff]

theorem IsTree.no_file {disk : Disk} (tree : disk.IsTree) {location : Location}
    {names : List Path.Piece} (here : disk.node? location = some .directory)
    (named : ∀ name ∈ names, isName name = true)
    (missing : disk.enter location names = .error .notFound) (content : ByteArray) :
    disk.node? (location ++ names) ≠ some (.file content) := by
  intro found
  induction names generalizing location with
  | nil => simp [here] at found
  | cons name rest ih =>
      rw [List.forall_mem_cons] at named
      rw [enter_name here named.1] at missing
      have whole : location ++ name :: rest = location ++ [name] ++ rest := by simp
      rw [whole] at found
      cases short : checkName name with
      | error cause =>
          simp only [short, Except.error.injEq] at missing
          exact checkName_ne_notFound name (missing ▸ short)
      | ok _ =>
          simp only [short] at missing
          by_cases last : rest = []
          · subst last
            rw [List.append_nil] at found
            simp [found, enter, follow, checkDirectory, bind, Except.bind] at missing
          · have next := tree.above last (by rw [found]; simp)
            rw [next] at missing
            exact ih next named.2 missing found

/-- Unless something is missing on the way to it, only the directory itself is tried. -/
theorem makeDirectoriesFrom_present {disk : Disk} {path : String} (fuel : Nat)
    (nonempty : path.toList ≠ []) (present : disk.makeDirectory path ≠ .error .notFound) :
    makeDirectoriesFrom (fuel + 1) disk path =
      match disk.makeDirectory path with
      | .ok made => (.ok (), made)
      | .error cause => (disk.unlessDirectory path cause, disk) := by
  have named : path.isEmpty = false := by simpa [Bool.eq_false_iff, String.isEmpty_iff] using nonempty
  simp only [makeDirectoriesFrom, named, Bool.false_eq_true, ↓reduceIte]
  split
  · next made => rw [made]
  · next missing => exact (present missing).elim
  · next failed => rw [failed]

theorem makeDirectoriesFrom_missing {disk : Disk} {path parent : String} (fuel : Nat)
    (nonempty : path.toList ≠ []) (missing : disk.makeDirectory path = .error .notFound)
    (found : Path.parent? path = some parent) :
    makeDirectoriesFrom (fuel + 1) disk path =
      match makeDirectoriesFrom fuel disk parent with
      | (.error cause, after) => (.error cause, after)
      | (.ok _, after) =>
          match after.makeDirectory path with
          | .ok made => (.ok (), made)
          | .error cause => (after.unlessDirectory path cause, after) := by
  have named : path.isEmpty = false := by simpa [Bool.eq_false_iff, String.isEmpty_iff] using nonempty
  have unfolded := makeDirectoriesFrom.eq_def (fuel + 1) disk path
  simp only [named, missing, found, Bool.false_eq_true, ↓reduceIte] at unfolded
  exact unfolded

theorem ensureDirectory_stuck {disk : Disk} {path : String} {cause : Cause}
    (nonempty : path.toList ≠ []) (failed : disk.makeDirectory path = .error cause)
    (present : cause ≠ .notFound) (notThere : disk.isDirectory path = false) :
    disk.ensureDirectory path = (.error (.makeDirectory path cause), disk) := by
  have made := makeDirectoriesFrom_present path.length nonempty
    (by simpa [failed] using present : disk.makeDirectory path ≠ .error .notFound)
  simp only [failed, unlessDirectory, notThere, Bool.false_eq_true, ↓reduceIte] at made
  simp only [ensureDirectory, notThere, makeDirectories, made, Bool.false_eq_true, ↓reduceIte]

theorem ensureDirectory_of_refused (disk : Disk) {path : String} {before : List Path.Piece}
    {name : Path.Piece} (ends : Path.EndsIn path before name) {cause : Cause}
    (refused : checkPath path.toList = .error cause) :
    disk.ensureDirectory path = (.error (.makeDirectory path cause), disk) := by
  have nonempty := nonempty_of_endsIn ends
  refine ensureDirectory_stuck nonempty (makeDirectory_of_refused disk refused) ?_
    (isDirectory_of_refused disk refused)
  rintro rfl
  exact checkPath_ne_notFound nonempty refused

/-- Making the directories of a path from its end upwards makes them from the top. -/
theorem makeDirectoriesFrom_eq {disk : Disk} (tree : disk.IsTree) {path : String}
    {location : Location} {front before : List Path.Piece} {name : Path.Piece} (fuel : Nat)
    (heads : Heads disk path location (front ++ [name])) (ends : Path.EndsIn path before name)
    (checked : checkPath path.toList = .ok ()) (enough : front.length < fuel) :
    makeDirectoriesFrom fuel disk path = disk.makeDown location (front ++ [name]) := by
  induction fuel generalizing path before name front with
  | zero => omega
  | succ fuel ih =>
      have named := (List.forall_mem_append.mp heads.named).1
      have here := heads.directory
      have way := heads.enter_before ends
      have nonempty := nonempty_of_checkPath checked
      cases entered : disk.enter location front with
      | ok directory =>
          obtain ⟨present, tried⟩ := makeDirectory_tried ends checked (way.trans entered)
          rw [makeDown_of_enter named entered, tried]
          exact makeDirectoriesFrom_present fuel nonempty present
      | error cause =>
          have failed : disk.makeDirectory path = .error cause := by
            rw [makeDirectory_eq disk ends checked, way, entered]
            rfl
          by_cases missing : cause = .notFound
          · -- The parent is made first, and then the last name in it.
            subst missing
            have more : front ≠ [] := by
              rintro rfl
              simp [(enter_ok_iff disk location location []).mpr ⟨rfl, here⟩] at entered
            obtain ⟨shorter, last, rfl⟩ : ∃ shorter last, front = shorter ++ [last] :=
              ⟨_, _, (List.dropLast_concat_getLast more).symm⟩
            obtain ⟨parent, above, found, initial, parentEnds, parentHeads⟩ := heads.parent ends
            have parentChecked := checkPath_initial initial (nonempty_of_endsIn parentEnds) checked
            have parents := ih parentHeads parentEnds parentChecked (by simp at enough; omega)
            rw [makeDown_append (tree.no_file here named entered) [name],
              makeDirectoriesFrom_missing fuel nonempty failed found, parents]
            cases made : disk.makeDown location (shorter ++ [last]) with
            | mk result after =>
                cases result with
                | error cause => rfl
                | ok _ =>
                    have keeps := makeDown_keeps disk location (shorter ++ [last])
                    rw [made] at keeps
                    have reached := (heads.keeps keeps).enter_before ends
                    rw [makeDown_ok here named made] at reached
                    obtain ⟨_, tried⟩ := makeDirectory_tried ends checked reached
                    exact tried.symm
          · have stopped := makeDown_of_obstacle here named entered missing (List.cons_ne_nil name [])
            have notThere : disk.isDirectory path = false := by
              rw [Bool.eq_false_iff, Ne, isDirectory_iff_enter disk checked, heads.enter,
                enter_append, entered]
              simp [Except.bind]
            rw [stopped, makeDirectoriesFrom_present fuel nonempty (by simpa [failed] using missing),
              failed]
            simp [unlessDirectory, notThere]

theorem ensureDirectory_eq {disk : Disk} (tree : disk.IsTree) {path : String} {location : Location}
    {front before : List Path.Piece} {name : Path.Piece}
    (heads : Heads disk path location (front ++ [name])) (ends : Path.EndsIn path before name)
    (checked : checkPath path.toList = .ok ()) :
    disk.ensureDirectory path =
      match disk.makeDown location (front ++ [name]) with
      | (.error cause, after) => (.error (.makeDirectory path cause), after)
      | (.ok _, after) => (.ok (), after) := by
  cases there : disk.isDirectory path with
  | true =>
      obtain ⟨final, entered⟩ := (isDirectory_iff_enter disk checked).mp there
      rw [heads.enter] at entered
      have made := makeDown_of_enter heads.named entered []
      rw [List.append_nil] at made
      simp [ensureDirectory, there, made, makeDown]
  | false =>
      have enough : front.length < path.length + 1 := by
        obtain ⟨climb, moves, _⟩ := heads.climbed
        have fewer := List.length_filter_le Path.isMove (Path.pieces path.toList)
        rw [Path.filter_isMove_pieces, moves] at fewer
        have most := Path.length_pieces_le path.toList
        simp only [List.length_append, List.length_cons, List.length_nil, String.length_toList]
          at fewer most
        omega
      have made := makeDirectoriesFrom_eq tree _ heads ends checked enough
      simp only [ensureDirectory, there, makeDirectories, made, Bool.false_eq_true, ↓reduceIte]
      cases disk.makeDown location (front ++ [name]) with
      | mk result after => cases result <;> rfl

/-! Two disks, of which the second may have directories on the way that the first is missing. -/

def SameOrMade (first second : Disk) (location : Location) : Prop :=
  second.node? location = first.node? location ∨
    first.node? location = none ∧ second.node? location = some .directory

theorem makeDown_alike {first second : Disk} {location : Location} {names : List Path.Piece}
    (way : ∀ front, front <+: names → SameOrMade first second (location ++ front))
    (below : ∀ rest, second.node? (location ++ names ++ rest) =
      first.node? (location ++ names ++ rest)) :
    (second.makeDown location names).1 = (first.makeDown location names).1 ∧
      ∀ rest, (second.makeDown location names).2.node? (location ++ names ++ rest) =
        (first.makeDown location names).2.node? (location ++ names ++ rest) := by
  induction names generalizing first second location with
  | nil => exact ⟨rfl, below⟩
  | cons name rest ih =>
      have whole : location ++ name :: rest = location ++ [name] ++ rest := by simp
      rw [whole] at below ⊢
      have further (front : List Path.Piece) (shorter : front <+: rest) :
          SameOrMade first second (location ++ [name] ++ front) := by
        have longer := way (name :: front) (List.cons_prefix_cons.mpr ⟨rfl, shorter⟩)
        simpa using longer
      have here := further [] List.nil_prefix
      rw [List.append_nil] at here
      simp only [makeDown]
      cases checkName name with
      | error cause => exact ⟨rfl, below⟩
      | ok _ =>
          simp only
          cases found : first.node? (location ++ [name]) with
          | none =>
              have named : location ++ [name] ≠ [] := by simp
              rcases here with same | ⟨_, made⟩
              · rw [found] at same
                simp only [same]
                refine ih (fun front shorter => ?_) fun more => ?_
                · simp only [SameOrMade, node?_place _ _ named]
                  split
                  · exact Or.inl rfl
                  · exact further front shorter
                · rw [node?_place _ _ named, node?_place _ _ named, below more]
              · have last : rest ≠ [] := by
                  rintro rfl
                  have same := below []
                  simp [found, made] at same
                simp only [made]
                refine ih (fun front shorter => ?_) fun more => ?_
                · by_cases empty : front = []
                  · simp [empty, SameOrMade, made, node?_place]
                  · rw [SameOrMade, node?_place_below first location name _ empty]
                    exact further front shorter
                · have longer : rest ++ more ≠ [] := by simp [last]
                  rw [List.append_assoc, node?_place_below first location name _ longer,
                    ← List.append_assoc]
                  exact below more
          | some node =>
              have same : second.node? (location ++ [name]) = some node := by
                simpa [SameOrMade, found] using here
              cases node with
              | directory => simpa only [same] using ih further below
              | file content =>
                  simp only [same]
                  exact ⟨trivial, below⟩

end Disk

end RouteForge
