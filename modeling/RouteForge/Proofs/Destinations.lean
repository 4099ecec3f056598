import RouteForge.Proofs.DiskResolution
import RouteForge.Proofs.PathComponents

/-!
Where paths lead, whether or not something is there. Only the names and the steps up of a path
move; they fix the locations that the path passes, and a path that resolves leads to the last one.
-/

namespace RouteForge

namespace Path

/-- The piece by which a component moves from one location to another. -/
def Component.move? : Component → Option Piece
  | .root | .current => none
  | .parent => some ['.', '.']
  | .name piece => some piece

def moves (path : String) : List Piece :=
  (components path).filterMap Component.move?

def isMove (piece : Piece) : Bool :=
  (innerComponent? piece).isSome

theorem move?_innerComponent? (piece : Piece) :
    (innerComponent? piece).bind Component.move? = if isMove piece then some piece else none := by
  simp only [isMove, innerComponent?]
  split
  · rfl
  · split
    · next above => simp [Component.move?, above]
    · rfl

theorem filterMap_move? (parts : List Piece) :
    (innerComponents parts).filterMap Component.move? = parts.filter isMove := by
  rw [innerComponents, List.filterMap_filterMap]
  induction parts with
  | nil => rfl
  | cons piece rest ih =>
      rw [List.filterMap_cons, move?_innerComponent?, ih]
      cases moved : isMove piece <;> simp [moved]

theorem move?_firstComponent? (first : Piece) (rest : List Piece) :
    (firstComponent? first rest).bind Component.move? =
      if isMove first then some first else none := by
  rw [← move?_innerComponent?, firstComponent?]
  by_cases blank : first = []
  · subst blank
    cases rest <;> simp [innerComponent?, Component.move?]
  · by_cases current : first = ['.']
    · simp [current, innerComponent?, Component.move?]
    · simp [blank, current]

theorem filter_isMove_pieces (path : String) :
    (pieces path.toList).filter isMove = moves path := by
  cases split : pieces path.toList with
  | nil => exact (pieces_ne_nil _ split).elim
  | cons first rest =>
      rw [moves, components_eq path split, List.filterMap_append, filterMap_move?]
      have leading : (firstComponent? first rest).toList.filterMap Component.move? =
          (if isMove first then some first else none).toList := by
        rw [← move?_firstComponent? first rest]
        cases firstComponent? first rest with
        | none => rfl
        | some component => cases moved : component.move? <;> simp [moved]
      rw [leading]
      cases moved : isMove first <;> simp [moved]

theorem isMove_of_isName {piece : Piece} (named : Disk.isName piece = true) :
    isMove piece = true := by
  simp [isMove, innerComponent?_of_isName named]

/-- A path of names alone: it goes down from wherever it starts. -/
structure Downward (path : String) (names : List Piece) : Prop where
  pieces : pieces path.toList = names
  named : ∀ name ∈ names, Disk.isName name = true

theorem downward_name {name : String} (named : Disk.isName name.toList = true)
    (whole : '/' ∉ name.toList) : Downward name [name.toList] :=
  ⟨pieces_of_slash_notMem name.toList whole, by simpa using named⟩

theorem Downward.nonempty {path : String} {names : List Piece} (down : Downward path names) :
    names ≠ [] := by
  rw [← down.pieces]
  exact pieces_ne_nil path.toList

theorem filter_isMove_names {names : List Piece} (named : ∀ name ∈ names, Disk.isName name = true) :
    names.filter isMove = names :=
  List.filter_eq_self.mpr fun name member => isMove_of_isName (named name member)

theorem components_join_down (base : String) {child : String} {names : List Piece}
    (down : Downward child names) :
    components (join base child) = components base ++ innerComponents names := by
  cases names with
  | nil => exact (down.nonempty rfl).elim
  | cons first rest => exact components_join base child down.pieces (down.named first (by simp))

theorem moves_join (base : String) {child : String} {names : List Piece}
    (down : Downward child names) : moves (join base child) = moves base ++ names := by
  rw [moves, components_join_down base down, List.filterMap_append, filterMap_move?,
    filter_isMove_names down.named, moves]

theorem moves_parent {path parent : String} (found : parent? path = some parent) :
    moves parent <+: moves path := by
  rw [moves, components_parent found]
  exact (List.dropLast_prefix _).filterMap _

/-! Absolute paths start at the root. -/

theorem firstComponent?_nonblank {first : Piece} (nonblank : first ≠ []) (rest : List Piece) :
    ∃ component, firstComponent? first rest = some component ∧ component ≠ .root := by
  by_cases current : first = ['.']
  · exact ⟨.current, by simp [firstComponent?, current], by simp⟩
  · by_cases above : first = ['.', '.']
    · exact ⟨.parent, by simp [firstComponent?, innerComponent?, above], by simp⟩
    · exact ⟨.name first, by simp [firstComponent?, innerComponent?, nonblank, current, above],
        by simp⟩

theorem isAbsolute_iff_head (path : String) :
    isAbsolute path.toList = true ↔ (components path).head? = some .root := by
  cases chars : path.toList with
  | nil => simp [isAbsolute, components, chars, pieces, firstComponent?, innerComponent?]
  | cons char others =>
      by_cases slash : char = '/'
      · subst slash
        have split : pieces path.toList = [] :: pieces others := by rw [chars, pieces_cons_slash]
        simp [isAbsolute, components_eq path split, firstComponent?, pieces_ne_nil]
      · have split : pieces path.toList =
            (char :: (pieces others).headD []) :: (pieces others).tail := by
          rw [chars, pieces, if_neg slash]
          cases more : pieces others with
          | nil => exact (pieces_ne_nil others more).elim
          | cons piece rest => rfl
        obtain ⟨component, first, notRoot⟩ := firstComponent?_nonblank
          (List.cons_ne_nil char ((pieces others).headD [])) (pieces others).tail
        rw [components_eq path split, first]
        simp [isAbsolute, slash, notRoot]

theorem isAbsolute_join (base : String) {child : String} {names : List Piece}
    (down : Downward child names) :
    isAbsolute (join base child).toList = isAbsolute base.toList := by
  rw [Bool.eq_iff_iff, isAbsolute_iff_head, isAbsolute_iff_head, components_join_down base down]
  cases all : components base with
  | nil =>
      cases names with
      | nil => simp [innerComponents]
      | cons first rest =>
          simp [innerComponents, innerComponent?_of_isName (down.named first (by simp))]
  | cons component others => simp

theorem components_of_parent {path parent : String} (found : parent? path = some parent) :
    components path ≠ [.root] := by
  intro root
  cases split : pieces path.toList with
  | nil => exact (pieces_ne_nil _ split).elim
  | cons first rest =>
      rw [components_eq path split] at root
      have blank : first = [] := by
        refine Decidable.byContradiction fun nonblank => ?_
        obtain ⟨component, isFirst, notRoot⟩ := firstComponent?_nonblank nonblank rest
        simp [isFirst, notRoot] at root
      have nothing : innerComponents (dropTrailing rest) = [] := by
        rw [innerComponents_dropTrailing]
        subst blank
        cases rest with
        | nil => rfl
        | cons next others => simpa [firstComponent?] using root
      simp only [parent?, split] at found
      cases reversed : (dropTrailing rest).reverse with
      | nil => simp [reversed, blank] at found
      | cons last others =>
          have dropped : dropTrailing rest = others.reverse ++ [last] := by
            simpa using congrArg List.reverse reversed
          obtain ⟨component, isComponent⟩ := innerComponent?_last_dropTrailing dropped
          rw [dropped, innerComponents_append] at nothing
          simp [innerComponents, isComponent] at nothing

theorem isAbsolute_parent {path parent : String} (found : parent? path = some parent) :
    isAbsolute parent.toList = isAbsolute path.toList := by
  have notRoot := components_of_parent found
  rw [Bool.eq_iff_iff, isAbsolute_iff_head, isAbsolute_iff_head, components_parent found]
  match all : components path with
  | [] => simp
  | [component] => simpa [all, eq_comm] using notRoot
  | first :: second :: rest => simp

/-! Paths that end in a name. -/

theorem ofPieces_pieces (path : List Char) : ofPieces (pieces path) = path := by
  fun_induction pieces path with
  | case1 => rfl
  | case2 rest ih =>
      cases split : pieces rest with
      | nil => exact (pieces_ne_nil rest split).elim
      | cons piece others => rw [split] at ih; simp [ofPieces, ih]
  | case3 char rest _ none ih => exact (pieces_ne_nil rest none).elim
  | case4 char rest _ piece others split ih =>
      rw [split] at ih
      cases others <;> simp_all [ofPieces]

theorem ofPieces_append (first second : List Piece) (nonempty : first ≠ []) :
    ofPieces first <+: ofPieces (first ++ second) := by
  induction first with
  | nil => exact (nonempty rfl).elim
  | cons piece rest ih =>
      cases rest with
      | nil => cases second <;> simp [ofPieces]
      | cons next others => simpa [ofPieces, List.prefix_append_right_inj] using ih (by simp)

structure EndsIn (path : String) (before : List Piece) (name : Piece) : Prop where
  pieces : pieces path.toList = before ++ [name]
  named : Disk.isName name = true

theorem EndsIn.moves_eq {path : String} {before : List Piece} {name : Piece}
    (ends : EndsIn path before name) : moves path = before.filter isMove ++ [name] := by
  rw [← filter_isMove_pieces, ends.pieces]
  simp [isMove_of_isName ends.named]

theorem dropTrailing_initial (parts : List Piece) : dropTrailing parts <+: parts := by
  have dropped := List.dropWhile_suffix (fun piece => (innerComponent? piece).isNone)
    (l := parts.reverse)
  simpa [dropTrailing] using List.reverse_prefix.mpr dropped

theorem pieces_written {parts : List Piece} (nonempty : parts ≠ []) (notRoot : parts ≠ [[]])
    (whole : ∀ piece ∈ parts, '/' ∉ piece) : Path.pieces (written parts).toList = parts := by
  simpa [written, notRoot] using pieces_ofPieces parts nonempty whole

theorem written_initial {path : String} {first : Piece} {kept rest : List Piece}
    (split : Path.pieces path.toList = first :: rest) (more : rest ≠ []) (kept_rest : kept <+: rest) :
    (written (first :: kept)).toList <+: path.toList := by
  obtain ⟨others, rfl⟩ := kept_rest
  rw [← ofPieces_pieces path.toList, split]
  by_cases root : first :: kept = [[]]
  · obtain ⟨rfl, rfl⟩ : first = [] ∧ kept = [] := by simpa using root
    cases others with
    | nil => exact (more rfl).elim
    | cons next others => simp [written, ofPieces]
  · simpa [written, root] using ofPieces_append (first :: kept) others (by simp)

theorem filter_isMove_dropTrailing (parts : List Piece) :
    (dropTrailing parts).filter isMove = parts.filter isMove := by
  rw [← filterMap_move?, ← filterMap_move?, innerComponents_dropTrailing]

theorem slash_notMem_kept {path : String} {first : Piece} {middle rest : List Piece}
    (split : pieces path.toList = first :: (middle ++ rest)) :
    ∀ piece ∈ first :: dropTrailing middle, '/' ∉ piece := by
  intro piece member
  have kept := ((dropTrailing_initial middle).sublist.cons_cons first).subset member
  apply slash_notMem_of_mem_pieces path.toList
  rw [split]
  exact (List.sublist_append_left (first :: middle) rest).subset kept

theorem moves_written {path : String} {first : Piece} {middle rest : List Piece}
    (split : pieces path.toList = first :: (middle ++ rest)) :
    moves (written (first :: dropTrailing middle)) = (first :: middle).filter isMove := by
  by_cases root : first :: dropTrailing middle = [[]]
  · obtain ⟨rfl, nothing⟩ : first = [] ∧ dropTrailing middle = [] := by simpa using root
    have still : middle.filter isMove = [] := by
      rw [← filter_isMove_dropTrailing, nothing]
      rfl
    rw [root, ← filter_isMove_pieces]
    simpa [written, pieces, isMove, innerComponent?] using still
  · rw [← filter_isMove_pieces, pieces_written (by simp) root (slash_notMem_kept split), List.filter_cons,
      List.filter_cons, filter_isMove_dropTrailing]

theorem pieces_end_written {path : String} {first : Piece} {middle rest front : List Piece}
    {last : Piece} (split : pieces path.toList = first :: (middle ++ rest))
    (lasts : moves (written (first :: dropTrailing middle)) = front ++ [last]) :
    ∃ above, Path.pieces (written (first :: dropTrailing middle)).toList = above ++ [last] := by
  have notRoot : first :: dropTrailing middle ≠ [[]] := by
    intro root
    rw [root] at lasts
    simp [written, moves, components, pieces, firstComponent?, innerComponent?,
      List.filterMap_cons, Component.move?] at lasts
  have parts := pieces_written (by simp) notRoot (slash_notMem_kept split)
  rw [← filter_isMove_pieces, parts] at lasts
  cases kept : (dropTrailing middle).reverse with
  | nil =>
      have nothing : dropTrailing middle = [] := by simpa using kept
      rw [nothing] at lasts parts ⊢
      have same : first = last := by
        cases moved : isMove first <;> simp [moved, List.singleton_eq_append_iff] at lasts
        exact lasts.2.symm
      exact ⟨[], by simpa [same] using parts⟩
  | cons final others =>
      have dropped : dropTrailing middle = others.reverse ++ [final] := by
        simpa using congrArg List.reverse kept
      obtain ⟨component, isComponent⟩ := innerComponent?_last_dropTrailing dropped
      have moved : isMove final = true := by simp [isMove, isComponent]
      rw [dropped] at lasts parts ⊢
      rw [← List.cons_append, List.filter_append, List.filter_cons_of_pos moved] at lasts
      have same : final = last := by simpa using (List.append_inj' lasts rfl).2
      exact ⟨first :: others.reverse, by simpa [same] using parts⟩

theorem parent_of_move {path : String} {before : List Piece} {last : Piece}
    (split : Path.pieces path.toList = before ++ [last]) (moved : isMove last = true) :
    ∃ parent, parent? path = some parent ∧ parent.toList <+: path.toList ∧
      moves parent = before.filter isMove ∧
      ∀ front final, moves parent = front ++ [final] →
        ∃ above, Path.pieces parent.toList = above ++ [final] := by
  obtain ⟨component, inner⟩ := Option.isSome_iff_exists.mp moved
  cases before with
  | nil =>
      have nonblank : last ≠ [] := by
        rintro rfl
        simp [isMove, innerComponent?] at moved
      have nothing : moves "" = [] := by
        simp [moves, components, Path.pieces, firstComponent?, innerComponent?]
      exact ⟨"", by simp [parent?, split, dropTrailing, nonblank], by simp, nothing,
        by simp [nothing]⟩
  | cons first middle =>
      have found : parent? path = some (written (first :: dropTrailing middle)) := by
        simp [parent?, split, dropTrailing, inner]
      have prefixed := written_initial split (by simp)
        ((dropTrailing_initial middle).trans (List.prefix_append middle [last]))
      exact ⟨_, found, prefixed, moves_written split, fun _ _ => pieces_end_written split⟩

theorem EndsIn.parent {path : String} {before : List Piece} {name : Piece}
    (ends : EndsIn path before name) :
    ∃ parent, parent? path = some parent ∧ parent.toList <+: path.toList ∧
      moves parent = before.filter isMove ∧
      ∀ front last, moves parent = front ++ [last] → Disk.isName last = true →
        ∃ above, EndsIn parent above last := by
  obtain ⟨parent, found, initial, moves, ending⟩ :=
    parent_of_move ends.pieces (isMove_of_isName ends.named)
  refine ⟨parent, found, initial, moves, fun front last lasts named => ?_⟩
  obtain ⟨above, pieces⟩ := ending front last lasts
  exact ⟨above, pieces, named⟩

theorem join_lead (base : String) :
    ∃ lead : List Char, (lead = [] ∨ ∃ before, lead = before ++ ['/']) ∧
      ∀ child : String, isAbsolute child.toList = false →
        (join base child).toList = lead ++ child.toList := by
  by_cases glued : (base.isEmpty || endsInSlash base.toList) = true
  · refine ⟨base.toList, ?_, fun child relative => ?_⟩
    · rw [Bool.or_eq_true] at glued
      rcases glued with empty | slashed
      · exact Or.inl (by simp [String.isEmpty_iff.mp empty])
      · rw [endsInSlash, decide_eq_true_eq] at slashed
        exact Or.inr (List.getLast?_eq_some_iff.mp slashed)
    · rw [join, relative, if_neg Bool.false_ne_true, if_pos glued, String.toList_append]
  · refine ⟨base.toList ++ ['/'], Or.inr ⟨_, rfl⟩, fun child relative => ?_⟩
    rw [join, relative, if_neg Bool.false_ne_true, if_neg glued]
    simp

theorem endsIn_join_name (base : String) :
    ∃ before, ∀ name : String, Disk.isName name.toList = true → '/' ∉ name.toList →
      EndsIn (join base name) before name.toList := by
  obtain ⟨lead, ended, joined⟩ := join_lead base
  have relative (name : String) (named : Disk.isName name.toList = true)
      (whole : '/' ∉ name.toList) : isAbsolute name.toList = false := by
    refine isAbsolute_of_named (pieces_of_slash_notMem name.toList whole) ?_
    intro blank
    simp [blank, Disk.isName] at named
  rcases ended with rfl | ⟨before, rfl⟩
  · refine ⟨[], fun name named whole => ⟨?_, named⟩⟩
    rw [joined name (relative name named whole)]
    exact pieces_of_slash_notMem name.toList whole
  · refine ⟨pieces before, fun name named whole => ⟨?_, named⟩⟩
    rw [joined name (relative name named whole), List.append_assoc, List.singleton_append,
      pieces_append_slash, pieces_of_slash_notMem name.toList whole]

theorem EndsIn.parent?_congr {path other : String} {before : List Piece} {name otherName : Piece}
    (ends : EndsIn path before name) (otherEnds : EndsIn other before otherName) :
    parent? path = parent? other := by
  have inner := innerComponent?_of_isName ends.named
  have otherInner := innerComponent?_of_isName otherEnds.named
  have nonblank {piece : Piece} (named : Disk.isName piece = true) : piece ≠ [] := by
    rintro rfl
    simp [Disk.isName] at named
  cases before with
  | nil =>
      simp [parent?, ends.pieces, otherEnds.pieces, dropTrailing, nonblank ends.named,
        nonblank otherEnds.named]
  | cons first middle =>
      simp [parent?, ends.pieces, otherEnds.pieces, dropTrailing, inner, otherInner]

end Path

namespace Disk

/-! The locations that a path passes. -/

def movedBy (location : Location) (pieces : List Path.Piece) : Location :=
  pieces.foldl passed location

/-- Where a path leads when all that it names is there. -/
def destination (disk : Disk) (path : String) : Location :=
  movedBy (disk.origin path.toList) (Path.moves path)

theorem destination_of_working {first second : Disk} (same : second.working = first.working)
    (path : String) : second.destination path = first.destination path := by
  rw [destination, destination, origin, origin, same]

theorem movedBy_append (location : Location) (first second : List Path.Piece) :
    movedBy location (first ++ second) = movedBy (movedBy location first) second := by
  simp [movedBy]

theorem passed_of_not_isMove {piece : Path.Piece} (still : Path.isMove piece = false)
    (location : Location) : passed location piece = location := by
  have plain : piece.isEmpty = true ∨ piece = ['.'] := by
    simp only [Path.isMove, Path.innerComponent?] at still
    grind
  rcases plain with blank | rfl
  · simp [List.isEmpty_iff.mp blank, passed, isName]
  · simp [passed, isName]

theorem movedBy_filter (location : Location) (pieces : List Path.Piece) :
    movedBy location (pieces.filter Path.isMove) = movedBy location pieces := by
  induction pieces generalizing location with
  | nil => rfl
  | cons piece rest ih =>
      cases moved : Path.isMove piece with
      | true => simpa [movedBy, moved] using ih (passed location piece)
      | false => simpa [movedBy, moved, passed_of_not_isMove moved] using ih location

theorem passed_name {name : Path.Piece} (named : isName name = true) (location : Location) :
    passed location name = location ++ [name] := by
  have inner : name ≠ ['.', '.'] := by
    rintro rfl
    simp [isName] at named
  simp [passed, inner, named]

theorem movedBy_names (location : Location) {names : List Path.Piece}
    (named : ∀ name ∈ names, isName name = true) : movedBy location names = location ++ names := by
  induction names generalizing location with
  | nil => simp [movedBy]
  | cons name rest ih =>
      rw [List.forall_mem_cons] at named
      have moved := ih (passed location name) named.2
      rw [passed_name named.1] at moved
      simpa [movedBy, passed_name named.1] using moved

theorem mem_trailFrom_iff (location here : Location) (pieces : List Path.Piece) :
    here ∈ trailFrom location pieces ↔ ∃ front, front <+: pieces ∧ here = movedBy location front := by
  induction pieces generalizing location with
  | nil => simp [trailFrom, movedBy]
  | cons piece rest ih =>
      rw [trailFrom, List.mem_cons, ih]
      constructor
      · rintro (rfl | ⟨front, isPrefix, rfl⟩)
        · exact ⟨[], List.nil_prefix, rfl⟩
        · exact ⟨piece :: front, List.cons_prefix_cons.mpr ⟨rfl, isPrefix⟩, rfl⟩
      · rintro ⟨front, isPrefix, rfl⟩
        cases front with
        | nil => exact Or.inl rfl
        | cons next more =>
            obtain ⟨rfl, shorter⟩ := List.cons_prefix_cons.mp isPrefix
            exact Or.inr ⟨more, shorter, rfl⟩

theorem mem_trailFrom_filter (location here : Location) (pieces : List Path.Piece) :
    here ∈ trailFrom location (pieces.filter Path.isMove) ↔ here ∈ trailFrom location pieces := by
  induction pieces generalizing location with
  | nil => simp
  | cons piece rest ih =>
      cases moved : Path.isMove piece with
      | true => simp [moved, trailFrom, ih]
      | false =>
          have first : location ∈ trailFrom location rest := by cases rest <;> simp [trailFrom]
          rw [List.filter_cons_of_neg (by simp [moved]), ih, trailFrom, List.mem_cons,
            passed_of_not_isMove moved]
          constructor
          · exact Or.inr
          · rintro (rfl | member)
            · exact first
            · exact member

theorem mem_trail_iff (disk : Disk) (path : String) (here : Location) :
    here ∈ disk.trail path ↔
      ∃ front, front <+: Path.moves path ∧ here = movedBy (disk.origin path.toList) front := by
  rw [trail, ← mem_trailFrom_filter, Path.filter_isMove_pieces, mem_trailFrom_iff]

theorem destination_mem_trail (disk : Disk) (path : String) :
    disk.destination path ∈ disk.trail path :=
  (mem_trail_iff disk path _).mpr ⟨Path.moves path, List.prefix_rfl, rfl⟩

theorem follow_ok {disk : Disk} {location final : Location} {pieces : List Path.Piece}
    (led : disk.follow location pieces = .ok final) : final = movedBy location pieces := by
  induction pieces generalizing location with
  | nil => exact (follow_nil_ok_iff disk location final).mp led
  | cons piece rest ih =>
      obtain ⟨next, stepped, finished⟩ := (follow_cons_ok_iff disk location final piece rest).mp led
      obtain ⟨_, rfl, _⟩ := (step_ok_iff disk location next piece).mp stepped
      exact ih finished

theorem resolve_destination {disk : Disk} {path : String} {location : Location}
    (led : disk.resolve path = .ok location) : location = disk.destination path := by
  obtain ⟨_, followed⟩ := (resolve_ok_iff disk path location).mp led
  rw [follow_ok followed, destination, ← Path.filter_isMove_pieces, movedBy_filter]

theorem Names.destination {disk : Disk} {path : String} {directory : Location}
    {name : Path.Piece} {slashed : Bool} (names : Names disk path directory name slashed) :
    directory ++ [name] = disk.destination path := by
  obtain ⟨_, named, _, before, count, pieces, led, _⟩ := lastStep_pieces names.last
  have blanks (location : Location) : movedBy location (List.replicate count []) = location := by
    rw [← movedBy_filter]
    simp [movedBy, Path.isMove, Path.innerComponent?]
  calc directory ++ [name]
      = movedBy (passed directory name) (List.replicate count []) := by
        rw [blanks, passed_name named]
    _ = movedBy (disk.origin path.toList) (before ++ name :: List.replicate count []) := by
        rw [movedBy_append, ← follow_ok led]
        rfl
    _ = disk.destination path := by
        rw [← pieces, ← movedBy_filter, Path.filter_isMove_pieces, Disk.destination]

theorem origin_join (disk : Disk) (base : String) {child : String} {names : List Path.Piece}
    (down : Path.Downward child names) :
    disk.origin (Path.join base child).toList = disk.origin base.toList := by
  rw [origin, origin, Path.isAbsolute_join base down]

theorem destination_join (disk : Disk) (base : String) {child : String} {names : List Path.Piece}
    (down : Path.Downward child names) :
    disk.destination (Path.join base child) = disk.destination base ++ names := by
  rw [destination, destination, origin_join disk base down, Path.moves_join base down, movedBy_append,
    movedBy_names _ down.named]

theorem origin_parent (disk : Disk) {path parent : String}
    (found : Path.parent? path = some parent) :
    disk.origin parent.toList = disk.origin path.toList := by
  rw [origin, origin, Path.isAbsolute_parent found]

theorem trail_parent (disk : Disk) {path parent : String}
    (found : Path.parent? path = some parent) {here : Location} (passing : here ∈ disk.trail parent) :
    here ∈ disk.trail path := by
  rw [mem_trail_iff] at passing ⊢
  obtain ⟨front, isPrefix, rfl⟩ := passing
  exact ⟨front, isPrefix.trans (Path.moves_parent found), by rw [origin_parent disk found]⟩

/-- Going on by names passes what was passed before, and then goes down. -/
theorem mem_trail_join (disk : Disk) (base : String) {child : String} {names : List Path.Piece}
    (down : Path.Downward child names) {here : Location}
    (passing : here ∈ disk.trail (Path.join base child)) :
    here ∈ disk.trail base ∨ disk.destination base <+: here := by
  rw [mem_trail_iff, Path.moves_join base down, origin_join disk base down] at passing
  obtain ⟨front, isPrefix, rfl⟩ := passing
  rcases List.prefix_or_prefix_of_prefix isPrefix (List.prefix_append (Path.moves base) names) with
    shorter | ⟨further, rfl⟩
  · exact Or.inl ((mem_trail_iff disk base _).mpr ⟨front, shorter, rfl⟩)
  · refine Or.inr ?_
    have isNames := (List.prefix_append_right_inj _).mp isPrefix
    rw [movedBy_append, movedBy_names _ fun name member =>
      down.named name (isNames.subset member)]
    exact List.prefix_append _ further

end Disk

end RouteForge
