import Mathlib.Data.List.Induction
import RouteForge.Proofs.Destinations
import RouteForge.Proofs.DirectoryMaking

/-!
Disks on which everything stands in a directory, and how a directory is entered on them: each piece
of the way is a step from a directory, and a name that is missing ends the way.
-/

namespace RouteForge.Disk

/-- A disk as a file system has it: everything stands in a directory, and so does the work. -/
structure IsTree (disk : Disk) : Prop where
  working : disk.node? disk.working = some .directory
  parents : ∀ location, location ≠ [] → disk.node? location ≠ none →
    disk.node? location.dropLast = some .directory

theorem isTree_of_entries {disk : Disk} (working : disk.node? disk.working = some .directory)
    (parents : ∀ entry ∈ disk.entries, disk.node? entry.1.dropLast = some .directory) :
    disk.IsTree := by
  refine ⟨working, fun location named present => ?_⟩
  rw [node?_of_ne disk named, Ne, List.lookup_eq_none_iff] at present
  simp only [bne_iff_ne, ne_eq, not_forall, Decidable.not_not] at present
  obtain ⟨entry, member, rfl⟩ := present
  exact parents entry member

theorem IsTree.above {disk : Disk} (tree : disk.IsTree) {front rest : Location} (more : rest ≠ [])
    (present : disk.node? (front ++ rest) ≠ none) : disk.node? front = some .directory := by
  induction rest using List.reverseRecOn with
  | nil => exact (more rfl).elim
  | append_singleton rest last ih =>
      have parent : disk.node? (front ++ rest) = some .directory := by
        have found := tree.parents _ (by simp) present
        rwa [← List.append_assoc, List.dropLast_concat] at found
      by_cases first : rest = []
      · simpa [first] using parent
      · exact ih first (by simp [parent])

theorem IsTree.origin {disk : Disk} (tree : disk.IsTree) (path : List Char) :
    disk.node? (disk.origin path) = some .directory := by
  rw [Disk.origin]
  split
  · exact node?_root disk
  · exact tree.working

theorem follow_parent {disk : Disk} {location final : Location} {pieces : List Path.Piece}
    (led : disk.follow location pieces = .ok final) :
    final <+: location ∨ disk.node? final.dropLast = some .directory := by
  induction pieces generalizing location with
  | nil =>
      rw [(follow_nil_ok_iff disk location final).mp led]
      exact Or.inl List.prefix_rfl
  | cons piece rest ih =>
      obtain ⟨next, stepped, finished⟩ := (follow_cons_ok_iff disk location final piece rest).mp led
      obtain ⟨directory, rfl, _⟩ := (step_ok_iff disk location next piece).mp stepped
      rcases ih finished with above | parent
      · simp only [passed] at above
        split at above
        · exact Or.inl (above.trans (List.dropLast_prefix location))
        · split at above
          · rcases List.prefix_concat_iff.mp above with same | above
            · exact Or.inr (by simpa [same] using directory)
            · exact Or.inl above
          · exact Or.inl above
      · exact Or.inr parent

/-- Changes at places that paths lead to keep a tree. -/
theorem Changes.tree {before after : Disk} {made written : Location → Prop}
    (changes : Changes before after made written) (tree : before.IsTree)
    (reached : ∀ location, made location ∨ written location →
      ∃ path, after.resolve path = .ok location) : after.IsTree := by
  have keeps := changes.keeps
  refine ⟨?_, ?_⟩
  · rw [changes.working]
    exact keeps.directory _ tree.working
  · intro location named present
    by_cases wasPresent : before.node? location = none
    · have led : ∃ path, after.resolve path = .ok location := by
        rcases changes.nodes location with same | ⟨_, _, isMade⟩ | ⟨_, isWritten, _⟩
        · exact (present (same.trans wasPresent)).elim
        · exact reached location (Or.inl isMade)
        · exact reached location (Or.inr isWritten)
      obtain ⟨path, resolved⟩ := led
      rcases follow_parent ((resolve_ok_iff after path location).mp resolved).2 with above | parent
      · -- What is above the start was there before.
        have origin := tree.origin path.toList
        rw [keeps.origin] at above
        obtain ⟨rest, whole⟩ := above
        rw [← whole] at origin
        by_cases here : rest = []
        · simp [here, wasPresent] at origin
        · have directory : before.node? location = some .directory :=
            tree.above here (by rw [origin]; simp)
          simp [wasPresent] at directory
      · exact parent
    · exact keeps.directory _ (tree.parents location named wasPresent)

/-! Going to a directory. -/

def enter (disk : Disk) (location : Location) (pieces : List Path.Piece) :
    Except Cause Location := do
  let reached ← disk.follow location pieces
  disk.checkDirectory reached
  return reached

theorem enter_cons (disk : Disk) (location : Location) (piece : Path.Piece)
    (rest : List Path.Piece) :
    disk.enter location (piece :: rest) =
      (disk.step location piece).bind fun next => disk.enter next rest := by
  simp only [enter, follow, bind]
  cases disk.step location piece <;> rfl

theorem enter_checked (disk : Disk) (location : Location) (pieces : List Path.Piece) :
    ((disk.checkDirectory location).bind fun _ => disk.enter location pieces) =
      disk.enter location pieces := by
  cases checked : disk.checkDirectory location with
  | ok _ => rfl
  | error cause =>
      cases pieces with
      | nil => simp [enter, follow, checked, bind, Except.bind]
      | cons piece rest => simp [enter_cons, step, checked, bind, Except.bind]

theorem enter_ok_iff (disk : Disk) (location final : Location) (pieces : List Path.Piece) :
    disk.enter location pieces = .ok final ↔
      disk.follow location pieces = .ok final ∧ disk.node? final = some .directory := by
  cases led : disk.follow location pieces with
  | error cause => simp [enter, led, bind, Except.bind]
  | ok reached =>
      cases checked : disk.checkDirectory reached with
      | error cause =>
          have notDirectory : disk.node? reached ≠ some .directory := by
            rw [Ne, ← checkDirectory_ok_iff, checked]
            simp
          simp only [enter, led, checked, bind, Except.bind, reduceCtorEq, Except.ok.injEq, false_iff]
          rintro ⟨rfl, found⟩
          exact notDirectory found
      | ok _ =>
          have directory := (checkDirectory_ok_iff disk reached).mp checked
          simp only [enter, led, checked, bind, Except.bind, pure, Except.pure, Except.ok.injEq]
          constructor
          · rintro rfl
            exact ⟨rfl, directory⟩
          · exact And.left

theorem enter_still {piece : Path.Piece} (still : Path.isMove piece = false) (disk : Disk)
    (location : Location) (rest : List Path.Piece) :
    disk.enter location (piece :: rest) = disk.enter location rest := by
  have plain : (piece.isEmpty || piece = ['.']) = true := by
    simp only [Path.isMove, Path.innerComponent?] at still
    grind
  have stays : disk.step location piece = (disk.checkDirectory location).map fun _ => location := by
    cases checked : disk.checkDirectory location <;>
      simp [step, checked, plain, bind, Except.bind, Except.map, pure, Except.pure]
  rw [enter_cons, stays, ← enter_checked disk location rest]
  cases disk.checkDirectory location <;> rfl

theorem enter_filter (disk : Disk) (location : Location) (pieces : List Path.Piece) :
    disk.enter location (pieces.filter Path.isMove) = disk.enter location pieces := by
  induction pieces generalizing location with
  | nil => rfl
  | cons piece rest ih =>
      cases moved : Path.isMove piece with
      | true => simp only [List.filter_cons_of_pos moved, enter_cons, ih]
      | false => rw [List.filter_cons_of_neg (by simp [moved]), ih, enter_still moved]

theorem enter_append (disk : Disk) (location : Location) (first second : List Path.Piece) :
    disk.enter location (first ++ second) =
      (disk.enter location first).bind fun middle => disk.enter middle second := by
  induction first generalizing location with
  | nil =>
      rw [List.nil_append, ← enter_checked disk location second]
      cases checked : disk.checkDirectory location <;>
        simp [enter, follow, checked, bind, Except.bind, pure, Except.pure]
  | cons piece rest ih =>
      rw [List.cons_append, enter_cons, enter_cons]
      cases disk.step location piece with
      | error cause => rfl
      | ok next => exact ih next

theorem enter_trail {disk : Disk} {location final : Location} {pieces : List Path.Piece}
    (entered : disk.enter location pieces = .ok final) :
    ∀ here ∈ trailFrom location pieces, disk.node? here = some .directory := by
  induction pieces generalizing location with
  | nil =>
      obtain ⟨led, found⟩ := (enter_ok_iff disk location final []).mp entered
      rw [(follow_nil_ok_iff disk location final).mp led] at found
      simpa [trailFrom] using found
  | cons piece rest ih =>
      rw [trailFrom, List.forall_mem_cons]
      rw [enter_cons] at entered
      cases stepped : disk.step location piece with
      | error cause => simp [stepped, Except.bind] at entered
      | ok next =>
          obtain ⟨directory, rfl, _⟩ := (step_ok_iff disk location next piece).mp stepped
          exact ⟨directory, ih (by simpa [stepped, Except.bind] using entered)⟩

theorem enter_name {disk : Disk} {location : Location} {name : Path.Piece}
    (directory : disk.node? location = some .directory) (named : isName name = true)
    (rest : List Path.Piece) :
    disk.enter location (name :: rest) =
      match checkName name with
      | .error cause => .error cause
      | .ok _ =>
          match disk.node? (location ++ [name]) with
          | none => .error .notFound
          | some _ => disk.enter (location ++ [name]) rest := by
  have plain : (name.isEmpty || name = ['.']) = false := by
    simp only [isName] at named
    grind
  have inner : name ≠ ['.', '.'] := by
    rintro rfl
    simp [isName] at named
  have checked := (checkDirectory_ok_iff disk location).mpr directory
  rw [enter_cons]
  cases short : checkName name with
  | error cause => simp [step, checked, plain, inner, short, bind, Except.bind]
  | ok _ =>
      cases found : disk.node? (location ++ [name]) <;>
        simp [step, checked, plain, inner, short, found, bind, Except.bind, pure, Except.pure, throw,
          throwThe, MonadExceptOf.throw]

theorem IsTree.enter_alike {first second : Disk} (tree : first.IsTree) {location final : Location}
    {names : List Path.Piece} (here : first.node? location = some .directory)
    (named : ∀ name ∈ names, isName name = true) (entered : second.enter location names = .ok final)
    (found : first.node? (location ++ names) = some .directory) :
    first.enter location names = .ok final := by
  induction names generalizing location with
  | nil =>
      obtain ⟨same, _⟩ := (enter_ok_iff second location final []).mp entered
      rw [(follow_nil_ok_iff second location final).mp same]
      exact (enter_ok_iff first location location []).mpr ⟨rfl, here⟩
  | cons name rest ih =>
      rw [List.forall_mem_cons] at named
      have whole : location ++ name :: rest = location ++ [name] ++ rest := by simp
      rw [whole] at found
      have next : first.node? (location ++ [name]) = some .directory := by
        by_cases last : rest = []
        · simpa [last] using found
        · exact tree.above last (by rw [found]; simp)
      have hereSecond := enter_trail entered location (by simp [trailFrom])
      rw [enter_name hereSecond named.1] at entered
      rw [enter_name here named.1]
      cases short : checkName name with
      | error cause => simp [short] at entered
      | ok _ =>
          cases there : second.node? (location ++ [name]) with
          | none => simp [short, there] at entered
          | some node =>
              simp only [short, there] at entered
              simp only [next]
              exact ih next named.2 entered found

end RouteForge.Disk
