import RouteForge.Disk.Footprint
import RouteForge.Disk.Operations

/-!
What paths lead to as a disk changes. A disk keeps another when no directory and no place with
something in it was lost; every path that led somewhere then still leads there.
-/

namespace RouteForge.Disk

/-! Nodes after placing and erasing. -/

theorem node?_root (disk : Disk) : disk.node? [] = some .directory := by
  simp [node?]

theorem node?_of_ne (disk : Disk) {location : Location} (named : location ≠ []) :
    disk.node? location = disk.entries.lookup location := by
  simp [node?, named]

theorem lookup_placeIn (location here : Location) (node : Node)
    (entries : List (Location × Node)) :
    (placeIn location node entries).lookup here =
      if here = location then some node else entries.lookup here := by
  induction entries with
  | nil => simp only [placeIn, List.lookup_cons, List.lookup_nil]; grind
  | cons entry rest ih =>
      obtain ⟨place, old⟩ := entry
      by_cases same : place = location
      · simp only [placeIn, same, ↓reduceIte, List.lookup_cons]
        grind
      · simp only [placeIn, same, ↓reduceIte, List.lookup_cons, ih]
        grind

theorem node?_place (disk : Disk) (location : Location) (named : location ≠ []) (node : Node)
    (here : Location) :
    (disk.place location node).node? here =
      if here = location then some node else disk.node? here := by
  by_cases root : here = []
  · subst root
    simp [node?_root, named.symm]
  · rw [node?_of_ne _ root, node?_of_ne _ root]
    exact lookup_placeIn location here node disk.entries

theorem placeIn_placeIn (location : Location) (new old : Node)
    (entries : List (Location × Node)) (found : entries.lookup location = some old) :
    placeIn location old (placeIn location new entries) = entries := by
  induction entries with
  | nil => simp at found
  | cons entry rest ih =>
      obtain ⟨place, node⟩ := entry
      by_cases same : place = location
      · subst same
        simp only [List.lookup_cons, beq_self_eq_true, Option.some.injEq] at found
        simp [placeIn, found]
      · have elsewhere : (location == place) = false := by simpa using Ne.symm same
        simp only [List.lookup_cons, elsewhere] at found
        simp [placeIn, same, ih found]

theorem place_place_old (disk : Disk) {location : Location} (named : location ≠ [])
    {old : Node} (found : disk.node? location = some old) (new : Node) :
    (disk.place location new).place location old = disk := by
  rw [node?_of_ne disk named] at found
  simp [place, placeIn_placeIn location new old disk.entries found]

theorem filter_placeIn (location : Location) (node : Node) (entries : List (Location × Node))
    (missing : entries.lookup location = none) :
    (placeIn location node entries).filter (fun entry => !decide (entry.1 = location)) =
      entries := by
  induction entries with
  | nil => simp [placeIn]
  | cons entry rest ih =>
      obtain ⟨place, old⟩ := entry
      by_cases same : place = location
      · subst same
        simp at missing
      · have elsewhere : (location == place) = false := by simpa using Ne.symm same
        simp only [List.lookup_cons, elsewhere] at missing
        simpa [placeIn, same] using ih missing

theorem erase_place_missing (disk : Disk) {location : Location} (named : location ≠ [])
    (missing : disk.node? location = none) (node : Node) :
    (disk.place location node).erase location = disk := by
  rw [node?_of_ne disk named] at missing
  simp [place, erase, filter_placeIn location node disk.entries missing]

/-! Disks that keep what was there. -/

structure Keeps (before after : Disk) : Prop where
  working : after.working = before.working
  directory : ∀ location, before.node? location = some .directory →
    after.node? location = some .directory
  present : ∀ location, before.node? location ≠ none → after.node? location ≠ none

theorem Keeps.refl (disk : Disk) : Keeps disk disk :=
  ⟨rfl, fun _ found => found, fun _ found => found⟩

theorem keeps_place (disk : Disk) {location : Location} (named : location ≠ []) {node : Node}
    (safe : disk.node? location = some .directory → node = .directory) :
    Keeps disk (disk.place location node) := by
  refine ⟨rfl, ?_, ?_⟩
  · intro here found
    rw [node?_place disk location named]
    by_cases same : here = location
    · subst same
      simp [safe found]
    · simpa [same] using found
  · intro here found
    rw [node?_place disk location named]
    by_cases same : here = location
    · simp [same]
    · simpa [same] using found

theorem checkDirectory_ok_iff (disk : Disk) (location : Location) :
    disk.checkDirectory location = .ok () ↔ disk.node? location = some .directory := by
  rw [checkDirectory]
  split <;> simp_all

/-- Everything that a step can do. -/
theorem step_ok_iff (disk : Disk) (location next : Location) (piece : Path.Piece) :
    disk.step location piece = .ok next ↔
      disk.node? location = some .directory ∧ next = passed location piece ∧
        (isName piece = true → checkName piece = .ok () ∧ disk.node? next ≠ none) := by
  rw [← checkDirectory_ok_iff]
  cases checked : disk.checkDirectory location with
  | error cause => simp [step, checked, bind, Except.bind]
  | ok _ =>
      simp only [step, checked, bind, Except.bind, passed, pure, Except.pure]
      by_cases plain : piece.isEmpty || piece = ['.']
      · have unnamed : isName piece = false := by
          simp only [isName]
          grind
        have inner : piece ≠ ['.', '.'] := by
          rintro rfl
          simp at plain
        simp [plain, unnamed, inner, eq_comm]
      · by_cases above : piece = ['.', '.']
        · subst above
          simp [isName, eq_comm]
        · have named : isName piece = true := by
            simp only [isName]
            grind
          simp only [plain, above, named, ↓reduceIte, Bool.false_eq_true, true_implies]
          cases length : checkName piece with
          | error cause => simp
          | ok _ =>
              cases found : disk.node? (location ++ [piece]) with
              | none =>
                  simp only [reduceCtorEq, true_and, false_iff, not_and]
                  rintro rfl
                  simp [found]
              | some node =>
                  simp only [Except.ok.injEq, true_and]
                  constructor
                  · rintro rfl
                    simp [found]
                  · rintro ⟨rfl, _⟩
                    rfl

theorem follow_nil_ok_iff (disk : Disk) (location next : Location) :
    disk.follow location [] = .ok next ↔ next = location := by
  simp [follow, eq_comm]

theorem follow_cons_ok_iff (disk : Disk) (location final : Location) (piece : Path.Piece)
    (rest : List Path.Piece) :
    disk.follow location (piece :: rest) = .ok final ↔
      ∃ next, disk.step location piece = .ok next ∧ disk.follow next rest = .ok final := by
  cases stepped : disk.step location piece <;> simp [follow, stepped, bind, Except.bind]

theorem follow_append_ok_iff (disk : Disk) (location final : Location)
    (first second : List Path.Piece) :
    disk.follow location (first ++ second) = .ok final ↔
      ∃ middle, disk.follow location first = .ok middle ∧
        disk.follow middle second = .ok final := by
  induction first generalizing location with
  | nil => simp [follow_nil_ok_iff]
  | cons piece rest ih =>
      simp only [List.cons_append, follow_cons_ok_iff, ih]
      constructor
      · rintro ⟨next, stepped, middle, led, finished⟩
        exact ⟨middle, ⟨next, stepped, led⟩, finished⟩
      · rintro ⟨middle, ⟨next, stepped, led⟩, finished⟩
        exact ⟨next, stepped, middle, led, finished⟩

theorem Keeps.step {before after : Disk} (keeps : Keeps before after)
    {location next : Location} {piece : Path.Piece}
    (stepped : before.step location piece = .ok next) :
    after.step location piece = .ok next := by
  rw [step_ok_iff] at stepped ⊢
  obtain ⟨directory, led, named⟩ := stepped
  refine ⟨keeps.directory location directory, led, ?_⟩
  intro isNamed
  exact ⟨(named isNamed).1, keeps.present next (named isNamed).2⟩

theorem Keeps.follow {before after : Disk} (keeps : Keeps before after)
    {location final : Location} {pieces : List Path.Piece}
    (led : before.follow location pieces = .ok final) :
    after.follow location pieces = .ok final := by
  induction pieces generalizing location with
  | nil => simpa [follow_nil_ok_iff] using led
  | cons piece rest ih =>
      rw [follow_cons_ok_iff] at led ⊢
      obtain ⟨next, stepped, finished⟩ := led
      exact ⟨next, keeps.step stepped, ih finished⟩

theorem Keeps.origin {before after : Disk} (keeps : Keeps before after) (path : List Char) :
    after.origin path = before.origin path := by
  simp [Disk.origin, keeps.working]

theorem resolve_ok_iff (disk : Disk) (path : String) (location : Location) :
    disk.resolve path = .ok location ↔
      checkPath path.toList = .ok () ∧
        disk.follow (disk.origin path.toList) (Path.pieces path.toList) = .ok location := by
  cases checked : checkPath path.toList <;> simp [resolve, checked, bind, Except.bind]

theorem Keeps.resolve {before after : Disk} (keeps : Keeps before after) {path : String}
    {location : Location} (led : before.resolve path = .ok location) :
    after.resolve path = .ok location := by
  rw [resolve_ok_iff] at led ⊢
  rw [keeps.origin]
  exact ⟨led.1, keeps.follow led.2⟩

theorem isDirectory_iff (disk : Disk) (path : String) :
    disk.isDirectory path = true ↔
      ∃ location, disk.resolve path = .ok location ∧ disk.node? location = some .directory := by
  cases led : disk.resolve path <;> simp [isDirectory, led]

theorem exists?_iff (disk : Disk) (path : String) :
    disk.exists? path = true ↔ ∃ location, disk.resolve path = .ok location := by
  cases led : disk.resolve path <;> simp [exists?, led]

theorem Keeps.isDirectory {before after : Disk} (keeps : Keeps before after) {path : String}
    (directory : before.isDirectory path = true) : after.isDirectory path = true := by
  rw [isDirectory_iff] at directory ⊢
  obtain ⟨location, led, found⟩ := directory
  exact ⟨location, keeps.resolve led, keeps.directory location found⟩

/-! Places that a path names: the last step is a name, taken in a directory. -/

structure Names (disk : Disk) (path : String) (directory : Location) (name : Path.Piece)
    (slashed : Bool) : Prop where
  last : disk.lastStep path = .ok ⟨directory, some name, slashed⟩
  short : checkName name = .ok ()

/-- A list of pieces ends in empty ones, and in nothing else before the last piece that is not. -/
theorem pieces_end (pieces : List Path.Piece) :
    ∃ count, pieces.reverse =
      List.replicate count [] ++ pieces.reverse.dropWhile List.isEmpty := by
  refine ⟨(pieces.reverse.takeWhile List.isEmpty).length, ?_⟩
  have blanks : pieces.reverse.takeWhile List.isEmpty =
      List.replicate (pieces.reverse.takeWhile List.isEmpty).length [] := by
    rw [List.eq_replicate_iff]
    refine ⟨rfl, ?_⟩
    intro piece member
    simpa using List.all_eq_true.mp (List.all_takeWhile (l := pieces.reverse)) piece member
  rw [← blanks, List.takeWhile_append_dropWhile]

theorem lastStep_ok_iff (disk : Disk) (path : String) (last : LastStep) :
    disk.lastStep path = .ok last ↔
      checkPath path.toList = .ok () ∧
        last.slashed = decide ((Path.pieces path.toList).reverse.headD [] = []) ∧
        match (Path.pieces path.toList).reverse.dropWhile List.isEmpty with
        | [] => last.directory = [] ∧ last.name = none
        | piece :: before =>
            disk.follow (disk.origin path.toList) before.reverse = .ok last.directory ∧
              disk.node? last.directory = some .directory ∧
              last.name = if isName piece then some piece else none := by
  obtain ⟨directory, name, slashed⟩ := last
  cases checked : checkPath path.toList with
  | error cause => simp [lastStep, checked, bind, Except.bind]
  | ok _ =>
      simp only [lastStep, checked, bind, Except.bind, pure, Except.pure, true_and]
      cases (Path.pieces path.toList).reverse.dropWhile List.isEmpty with
      | nil =>
          simp only [Except.ok.injEq, LastStep.mk.injEq]
          constructor
          · rintro ⟨rfl, rfl, rfl⟩
            exact ⟨rfl, rfl, rfl⟩
          · rintro ⟨rfl, rfl, rfl⟩
            exact ⟨rfl, rfl, rfl⟩
      | cons piece before =>
          cases led : disk.follow (disk.origin path.toList) before.reverse with
          | error cause => simp [led]
          | ok reached =>
              cases directoryCheck : disk.checkDirectory reached with
              | error cause =>
                  have notDirectory : disk.node? reached ≠ some .directory := by
                    intro found
                    simp [(checkDirectory_ok_iff disk reached).mpr found] at directoryCheck
                  simp only [led, directoryCheck, reduceCtorEq, false_iff]
                  rintro ⟨_, same, found, _⟩
                  exact notDirectory (Except.ok.inj same ▸ found)
              | ok _ =>
                  have found := (checkDirectory_ok_iff disk reached).mp directoryCheck
                  simp only [led, directoryCheck, Except.ok.injEq, LastStep.mk.injEq]
                  constructor
                  · rintro ⟨rfl, rfl, rfl⟩
                    exact ⟨rfl, rfl, found, rfl⟩
                  · rintro ⟨rfl, rfl, _, rfl⟩
                    exact ⟨rfl, rfl, rfl⟩

theorem lastStep_pieces {disk : Disk} {path : String} {directory : Location} {name : Path.Piece}
    {slashed : Bool} (taken : disk.lastStep path = .ok ⟨directory, some name, slashed⟩) :
    checkPath path.toList = .ok () ∧ isName name = true ∧
      disk.node? directory = some .directory ∧
      ∃ before count, Path.pieces path.toList = before ++ name :: List.replicate count [] ∧
        disk.follow (disk.origin path.toList) before = .ok directory ∧
        slashed = decide (0 < count) := by
  obtain ⟨count, ending⟩ := pieces_end (Path.pieces path.toList)
  obtain ⟨checked, slashes, outcome⟩ := (lastStep_ok_iff disk path _).mp taken
  cases rest : (Path.pieces path.toList).reverse.dropWhile List.isEmpty with
  | nil => simp [rest] at outcome
  | cons piece before =>
      simp only [rest] at outcome ending
      obtain ⟨led, found, named⟩ := outcome
      have isNamed : isName piece = true := by
        cases isNamed : isName piece <;> simp [isNamed] at named
        rfl
      simp only [isNamed, ↓reduceIte, Option.some.injEq] at named
      subst named
      have nonempty : name ≠ [] := by
        rintro rfl
        simp [isName] at isNamed
      refine ⟨checked, isNamed, found, before.reverse, count, ?_, led, ?_⟩
      · rw [← List.reverse_reverse (Path.pieces path.toList), ending]
        simp
      · refine slashes.trans ?_
        rw [ending]
        cases count with
        | zero => simp [nonempty]
        | succ count => simp [List.replicate_succ]

theorem Keeps.lastStep {before after : Disk} (keeps : Keeps before after) {path : String}
    {last : LastStep} (taken : before.lastStep path = .ok last) :
    after.lastStep path = .ok last := by
  rw [lastStep_ok_iff] at taken ⊢
  obtain ⟨checked, slashes, outcome⟩ := taken
  refine ⟨checked, slashes, ?_⟩
  split at outcome
  · exact outcome
  · obtain ⟨led, found, named⟩ := outcome
    rw [keeps.origin]
    exact ⟨keeps.follow led, keeps.directory last.directory found, named⟩

theorem Keeps.names {before after : Disk} (keeps : Keeps before after) {path : String}
    {directory : Location} {name : Path.Piece} {slashed : Bool}
    (names : Names before path directory name slashed) :
    Names after path directory name slashed :=
  ⟨keeps.lastStep names.last, names.short⟩

theorem follow_blanks_ok_iff (disk : Disk) (location final : Location) (count : Nat) :
    disk.follow location (List.replicate count []) = .ok final ↔
      final = location ∧ (0 < count → disk.node? location = some .directory) := by
  induction count with
  | zero => simp [follow_nil_ok_iff]
  | succ count ih =>
      rw [List.replicate_succ, follow_cons_ok_iff]
      constructor
      · rintro ⟨next, stepped, finished⟩
        rw [step_ok_iff] at stepped
        obtain ⟨directory, stays, _⟩ := stepped
        have same : next = location := stays
        rw [same, ih] at finished
        exact ⟨finished.1, fun _ => directory⟩
      · rintro ⟨rfl, directory⟩
        refine ⟨final, ?_, ih.mpr ⟨rfl, fun _ => directory (by omega)⟩⟩
        rw [step_ok_iff]
        exact ⟨directory (by omega), rfl, by simp [isName]⟩

/-- A path that names a place leads there if something is there, which has to be a directory if
slashes follow the name. -/
theorem Names.resolve_ok_iff {disk : Disk} {path : String} {directory : Location}
    {name : Path.Piece} {slashed : Bool} (names : Names disk path directory name slashed)
    (location : Location) :
    disk.resolve path = .ok location ↔
      location = directory ++ [name] ∧ disk.node? location ≠ none ∧
        (slashed = true → disk.node? location = some .directory) := by
  obtain ⟨checked, isNamed, isDirectory, before, count, pieces, led, slashes⟩ :=
    lastStep_pieces names.last
  have reached : passed directory name = directory ++ [name] := by
    have inner : name ≠ ['.', '.'] := by
      rintro rfl
      simp [isName] at isNamed
    simp [passed, inner, isNamed]
  rw [Disk.resolve_ok_iff, pieces, follow_append_ok_iff]
  simp only [led, follow_cons_ok_iff, follow_blanks_ok_iff, step_ok_iff, Except.ok.injEq]
  constructor
  · rintro ⟨_, middle, rfl, next, ⟨_, led, present⟩, rfl, slashDirectory⟩
    refine ⟨led.trans reached, (present isNamed).2, ?_⟩
    intro slashEq
    exact slashDirectory (by simpa [slashes] using slashEq)
  · rintro ⟨rfl, present, slashDirectory⟩
    refine ⟨checked, directory, rfl, directory ++ [name],
      ⟨isDirectory, reached.symm, fun _ => ⟨names.short, present⟩⟩, rfl, ?_⟩
    intro more
    exact slashDirectory (by simpa [slashes] using more)

theorem Names.exists?_iff {disk : Disk} {path : String} {directory : Location}
    {name : Path.Piece} (names : Names disk path directory name false) :
    disk.exists? path = true ↔ disk.node? (directory ++ [name]) ≠ none := by
  rw [Disk.exists?_iff]
  simp [names.resolve_ok_iff]

/-! What the operations on single nodes do. -/

theorem writeFile_ok_iff (disk after : Disk) (path : String) (content : ByteArray) :
    disk.writeFile path content = .ok after ↔
      ∃ directory name, Names disk path directory name false ∧
        disk.node? (directory ++ [name]) ≠ some .directory ∧
        after = disk.place (directory ++ [name]) (.file content) := by
  constructor
  · intro wrote
    cases taken : disk.lastStep path with
    | error cause => simp [writeFile, taken, bind, Except.bind] at wrote
    | ok last =>
        obtain ⟨directory, name, slashed⟩ := last
        simp only [writeFile, taken, bind, Except.bind, pure, Except.pure] at wrote
        cases name with
        | none => simp [throw, throwThe, MonadExceptOf.throw] at wrote
        | some name =>
            cases slashed with
            | true => simp [throw, throwThe, MonadExceptOf.throw] at wrote
            | false =>
                cases short : checkName name with
                | error cause => simp [short] at wrote
                | ok _ =>
                    refine ⟨directory, name, ⟨taken, short⟩, ?_⟩
                    simp only [short, Bool.false_eq_true, ↓reduceIte] at wrote
                    split at wrote
                    · simp [throw, throwThe, MonadExceptOf.throw] at wrote
                    · next notDirectory =>
                        exact ⟨notDirectory, (Except.ok.inj wrote).symm⟩
  · rintro ⟨directory, name, names, notDirectory, rfl⟩
    simp only [writeFile, names.last, names.short, bind, Except.bind, pure, Except.pure,
      Bool.false_eq_true, ↓reduceIte]

theorem makeDirectory_ok_iff (disk after : Disk) (path : String) :
    disk.makeDirectory path = .ok after ↔
      ∃ directory name slashed, Names disk path directory name slashed ∧
        disk.node? (directory ++ [name]) = none ∧
        after = disk.place (directory ++ [name]) .directory := by
  constructor
  · intro made
    cases taken : disk.lastStep path with
    | error cause => simp [makeDirectory, taken, bind, Except.bind] at made
    | ok last =>
        obtain ⟨directory, name, slashed⟩ := last
        simp only [makeDirectory, taken, bind, Except.bind, pure, Except.pure] at made
        cases name with
        | none => simp [throw, throwThe, MonadExceptOf.throw] at made
        | some name =>
            cases short : checkName name with
            | error cause => simp [short] at made
            | ok _ =>
                refine ⟨directory, name, slashed, ⟨taken, short⟩, ?_⟩
                simp only [short] at made
                split at made
                · simp [throw, throwThe, MonadExceptOf.throw] at made
                · next missing => exact ⟨missing, (Except.ok.inj made).symm⟩
  · rintro ⟨directory, name, slashed, names, missing, rfl⟩
    simp [makeDirectory, names.last, names.short, missing, bind, Except.bind, pure, Except.pure]

theorem removeFile_of_names {disk : Disk} {path : String} {directory : Location}
    {name : Path.Piece} (names : Names disk path directory name false) {content : ByteArray}
    (found : disk.node? (directory ++ [name]) = some (.file content)) :
    disk.removeFile path = .ok (disk.erase (directory ++ [name])) := by
  simp [removeFile, names.last, names.short, found, bind, Except.bind, pure, Except.pure]

theorem readFile_ok_iff (disk : Disk) (path text : String) :
    disk.readFile path = .ok text ↔
      ∃ location content, disk.resolve path = .ok location ∧
        disk.node? location = some (.file content) ∧ String.fromUTF8? content = some text := by
  cases led : disk.resolve path with
  | error cause => simp [readFile, led, bind, Except.bind]
  | ok location =>
      simp only [readFile, led, bind, Except.bind, pure, Except.pure, Except.ok.injEq]
      constructor
      · intro wasRead
        split at wasRead
        · next content found =>
            cases decoded : String.fromUTF8? content with
            | none => simp [decoded, throw, throwThe, MonadExceptOf.throw] at wasRead
            | some decodedText =>
                simp only [decoded, Except.ok.injEq] at wasRead
                subst wasRead
                exact ⟨location, content, rfl, found, decoded⟩
        · simp [throw, throwThe, MonadExceptOf.throw] at wasRead
        · simp [throw, throwThe, MonadExceptOf.throw] at wasRead
      · rintro ⟨here, content, rfl, found, decoded⟩
        simp [found, decoded]

end RouteForge.Disk
