import RouteForge.Disk.Basic

/-!
Paths by their components. Joining appends the components of the child, and the parent of a path
has all its components but the last.
-/

namespace RouteForge.Path

theorem pieces_ne_nil (path : List Char) : pieces path ≠ [] := by
  fun_cases pieces path <;> simp

theorem pieces_cons_slash (rest : List Char) : pieces ('/' :: rest) = [] :: pieces rest := by
  simp [pieces]

theorem pieces_append_slash (before after : List Char) :
    pieces (before ++ '/' :: after) = pieces before ++ pieces after := by
  induction before with
  | nil => simp [pieces]
  | cons char rest ih =>
      by_cases slash : char = '/'
      · simp [pieces, slash, ih]
      · simp only [List.cons_append, pieces, slash, ↓reduceIte, ih]
        cases split : pieces rest with
        | nil => exact (pieces_ne_nil rest split).elim
        | cons piece others => simp

theorem slash_notMem_of_mem_pieces (path : List Char) :
    ∀ piece ∈ pieces path, '/' ∉ piece := by
  fun_induction pieces path with
  | case1 => simp
  | case2 rest ih => simpa using ih
  | case3 char rest notSlash none ih => exact (pieces_ne_nil rest none).elim
  | case4 char rest notSlash piece others split ih =>
      simp only [split, List.forall_mem_cons] at ih ⊢
      exact ⟨by simp [Ne.symm notSlash, ih.1], ih.2⟩

theorem pieces_of_slash_notMem (piece : List Char) (whole : '/' ∉ piece) :
    pieces piece = [piece] := by
  induction piece with
  | nil => rfl
  | cons char rest ih =>
      simp only [List.mem_cons, not_or] at whole
      simp [pieces, Ne.symm whole.1, ih whole.2]

theorem pieces_ofPieces (parts : List Piece) (nonempty : parts ≠ [])
    (whole : ∀ piece ∈ parts, '/' ∉ piece) : pieces (ofPieces parts) = parts := by
  induction parts with
  | nil => exact (nonempty rfl).elim
  | cons piece rest ih =>
      simp only [List.forall_mem_cons] at whole
      cases rest with
      | nil => exact pieces_of_slash_notMem piece whole.1
      | cons next others =>
          rw [ofPieces, pieces_append_slash, pieces_of_slash_notMem piece whole.1,
            ih (by simp) whole.2]
          · rfl
          · simp

def innerComponents (parts : List Piece) : List Component :=
  parts.filterMap innerComponent?

theorem components_eq (path : String) {first : Piece} {rest : List Piece}
    (split : pieces path.toList = first :: rest) :
    components path = (firstComponent? first rest).toList ++ innerComponents rest := by
  simp [components, split, innerComponents]

theorem innerComponents_cons (piece : Piece) (rest : List Piece) :
    innerComponents (piece :: rest) = (innerComponent? piece).toList ++ innerComponents rest := by
  cases found : innerComponent? piece <;> simp [innerComponents, found]

theorem innerComponents_append (first second : List Piece) :
    innerComponents (first ++ second) = innerComponents first ++ innerComponents second := by
  simp [innerComponents]

theorem firstComponent?_congr (first : Piece) {rest others : List Piece}
    (same : first = [] → (rest = [] ↔ others = [])) :
    firstComponent? first rest = firstComponent? first others := by
  by_cases blank : first = []
  · have emptiness : rest.isEmpty = others.isEmpty := by
      rw [Bool.eq_iff_iff, List.isEmpty_iff, List.isEmpty_iff]
      exact same blank
    simp [firstComponent?, emptiness]
  · simp [firstComponent?, blank]

/-! Joining. -/

theorem pieces_eq_blank_iff (path : List Char) : pieces path = [[]] ↔ path = [] := by
  constructor
  · intro split
    cases path with
    | nil => rfl
    | cons char rest =>
        simp only [pieces] at split
        split at split
        · simp [pieces_ne_nil] at split
        · split at split <;> simp at split
  · rintro rfl
    rfl

theorem components_append_slash (base child : List Char) :
    components (String.ofList (base ++ '/' :: child)) =
      components (String.ofList (base ++ ['/'])) ++ innerComponents (pieces child) := by
  cases split : pieces base with
  | nil => exact (pieces_ne_nil base split).elim
  | cons first rest =>
      have whole : pieces (String.ofList (base ++ '/' :: child)).toList =
          first :: (rest ++ pieces child) := by
        simp [pieces_append_slash, split]
      have ended : pieces (String.ofList (base ++ ['/'])).toList = first :: (rest ++ [[]]) := by
        simp [pieces_append_slash, split, pieces]
      have same : firstComponent? first (rest ++ pieces child) =
          firstComponent? first (rest ++ [[]]) := by
        apply firstComponent?_congr
        intro _
        simp [pieces_ne_nil]
      rw [components_eq _ whole, components_eq _ ended, same]
      simp [innerComponents, innerComponent?]

theorem components_slash_end (base : List Char) (nonempty : base ≠ []) :
    components (String.ofList (base ++ ['/'])) = components (String.ofList base) := by
  cases split : pieces base with
  | nil => exact (pieces_ne_nil base split).elim
  | cons first rest =>
      have ended : pieces (String.ofList (base ++ ['/'])).toList = first :: (rest ++ [[]]) := by
        simp [pieces_append_slash, split, pieces]
      have same : firstComponent? first (rest ++ [[]]) = firstComponent? first rest := by
        apply firstComponent?_congr
        rintro rfl
        cases rest with
        | nil => exact (nonempty ((pieces_eq_blank_iff base).mp split)).elim
        | cons next others => simp
      rw [components_eq _ ended, components_eq (String.ofList base) (by simpa using split), same]
      simp [innerComponents, innerComponent?]

theorem isAbsolute_of_named {child : String} {first : Piece} {rest : List Piece}
    (split : pieces child.toList = first :: rest) (nonblank : first ≠ []) :
    isAbsolute child.toList = false := by
  cases chars : child.toList with
  | nil => simp [isAbsolute]
  | cons char others =>
      have notSlash : char ≠ '/' := by
        rintro rfl
        rw [chars, pieces_cons_slash] at split
        exact nonblank (List.cons.inj split).1.symm
      simp [isAbsolute, notSlash]

theorem components_join_relative {base child : String} (relative : isAbsolute child.toList = false)
    (nonempty : base ≠ "") :
    components (join base child) = components base ++ innerComponents (pieces child.toList) := by
  have present : base.toList ≠ [] := by simpa using nonempty
  rw [join, relative]
  simp only [Bool.false_eq_true, ↓reduceIte]
  by_cases slashed : endsInSlash base.toList
  · obtain ⟨before, ended⟩ : ∃ before, base.toList = before ++ ['/'] := by
      rw [endsInSlash, decide_eq_true_eq] at slashed
      exact List.getLast?_eq_some_iff.mp slashed
    have joined : base ++ child = String.ofList (before ++ '/' :: child.toList) := by
      rw [← String.toList_inj]
      simp [ended]
    have same : base = String.ofList (before ++ ['/']) := by
      rw [← String.toList_inj]
      simp [ended]
    simp only [slashed, Bool.or_true, ↓reduceIte]
    rw [joined, components_append_slash, ← same]
  · have unslashed : (base.isEmpty || endsInSlash base.toList) = false := by
      simp [nonempty, slashed]
    have joined : base ++ "/" ++ child = String.ofList (base.toList ++ '/' :: child.toList) := by
      rw [← String.toList_inj]
      simp
    rw [unslashed]
    simp only [Bool.false_eq_true, ↓reduceIte]
    rw [joined, components_append_slash, components_slash_end _ present, String.ofList_toList]

/-- A child that starts with a name adds its components to those of its base. -/
theorem components_join (base child : String) {first : Piece} {rest : List Piece}
    (split : pieces child.toList = first :: rest) (named : Disk.isName first = true) :
    components (join base child) = components base ++ innerComponents (first :: rest) := by
  have nonblank : first ≠ [] := by
    rintro rfl
    simp [Disk.isName] at named
  have notCurrent : first ≠ ['.'] := by
    rintro rfl
    simp [Disk.isName] at named
  have relative := isAbsolute_of_named split nonblank
  by_cases empty : base = ""
  · subst empty
    have firstInner : firstComponent? first rest = innerComponent? first := by
      simp [firstComponent?, nonblank, notCurrent]
    have nothing : components "" = [] := by
      simp [components, pieces, firstComponent?, innerComponent?]
    rw [nothing, innerComponents_cons, ← firstInner, ← components_eq child split]
    simp [join, relative]
  · rw [← split]
    exact components_join_relative relative empty

theorem innerComponent?_of_isName {piece : Piece} (named : Disk.isName piece = true) :
    innerComponent? piece = some (.name piece) := by
  simp only [Disk.isName, Bool.and_eq_true, Bool.not_eq_true', decide_eq_true_eq] at named
  simp [innerComponent?, named]

theorem components_join_name (base name : String) (named : Disk.isName name.toList = true)
    (whole : '/' ∉ name.toList) :
    components (join base name) = components base ++ [.name name.toList] := by
  rw [components_join base name (pieces_of_slash_notMem name.toList whole) named]
  simp [innerComponents, innerComponent?_of_isName named]

/-! Parents. -/

theorem dropTrailing_sublist (parts : List Piece) : (dropTrailing parts).Sublist parts := by
  have dropped := List.dropWhile_sublist (fun piece => (innerComponent? piece).isNone)
    (l := parts.reverse)
  simpa [dropTrailing] using dropped.reverse

theorem innerComponents_dropTrailing (parts : List Piece) :
    innerComponents (dropTrailing parts) = innerComponents parts := by
  have split := List.takeWhile_append_dropWhile
    (p := fun piece => (innerComponent? piece).isNone) (l := parts.reverse)
  have nothing : innerComponents
      (parts.reverse.takeWhile fun piece => (innerComponent? piece).isNone).reverse = [] := by
    rw [innerComponents, List.filterMap_eq_nil_iff]
    intro piece member
    have all := List.all_eq_true.mp (List.all_takeWhile (l := parts.reverse)
      (p := fun piece => (innerComponent? piece).isNone)) piece (by simpa using member)
    simpa using all
  calc innerComponents (dropTrailing parts)
      = innerComponents (dropTrailing parts ++
          (parts.reverse.takeWhile fun piece => (innerComponent? piece).isNone).reverse) := by
        rw [innerComponents_append, nothing, List.append_nil]
    _ = innerComponents parts := by
        rw [dropTrailing, ← List.reverse_append, split, List.reverse_reverse]

theorem innerComponent?_last_dropTrailing {parts before : List Piece} {last : Piece}
    (dropped : dropTrailing parts = before ++ [last]) :
    ∃ component, innerComponent? last = some component := by
  have head : (parts.reverse.dropWhile fun piece => (innerComponent? piece).isNone) =
      last :: before.reverse := by
    have reversed := congrArg List.reverse dropped
    simpa [dropTrailing] using reversed
  have kept := List.head?_dropWhile_not (fun piece => (innerComponent? piece).isNone) parts.reverse
  rw [head] at kept
  exact Option.isSome_iff_exists.mp (by simpa using kept)

theorem components_written {first : Piece} {rest : List Piece}
    (whole : ∀ piece ∈ first :: rest, '/' ∉ piece) :
    components (written (first :: rest)) =
      (if first = [] then some .root else firstComponent? first rest).toList ++
        innerComponents rest := by
  by_cases root : first :: rest = [[]]
  · obtain ⟨rfl, rfl⟩ : first = [] ∧ rest = [] := by simpa using root
    simp [written, components, pieces, firstComponent?, innerComponents, innerComponent?]
  · have split : pieces (written (first :: rest)).toList = first :: rest := by
      simpa [written, root] using pieces_ofPieces (first :: rest) (by simp) whole
    rw [components_eq _ split]
    by_cases blank : first = []
    · have more : rest ≠ [] := by simpa [blank] using root
      simp [blank, firstComponent?, more]
    · simp [blank]

theorem dropTrailing_initial_sublist {rest others : List Piece} {last : Piece}
    (dropped : dropTrailing rest = others.reverse ++ [last]) :
    (dropTrailing others.reverse).Sublist rest := by
  apply (dropTrailing_sublist _).trans
  apply (List.sublist_append_left _ [last]).trans
  rw [← dropped]
  exact dropTrailing_sublist rest

/-- The first component stays, since a blank piece that something followed is the root. -/
theorem firstComponent?_initial (first : Piece) {rest initial : List Piece} (more : rest ≠ []) :
    (if first = [] then some .root else firstComponent? first initial) =
      firstComponent? first rest := by
  by_cases blank : first = []
  · simp [blank, firstComponent?, more]
  · simp only [blank, ↓reduceIte]
    exact firstComponent?_congr first fun isBlank => (blank isBlank).elim

theorem components_parent {path parent : String} (found : parent? path = some parent) :
    components parent = (components path).dropLast := by
  cases split : pieces path.toList with
  | nil => exact (pieces_ne_nil _ split).elim
  | cons first rest =>
      rw [components_eq path split, ← innerComponents_dropTrailing rest]
      simp only [parent?, split] at found
      cases reversed : (dropTrailing rest).reverse with
      | nil =>
          have dropped : dropTrailing rest = [] := by simpa using reversed
          simp only [reversed] at found
          by_cases blank : first = []
          · simp [blank] at found
          · simp only [List.isEmpty_iff, blank, ↓reduceIte, Option.some.injEq] at found
            subst found
            cases firstComponent? first rest <;>
              simp [dropped, innerComponents, components, pieces, firstComponent?,
                innerComponent?]
      | cons last others =>
          have dropped : dropTrailing rest = others.reverse ++ [last] := by
            simpa using congrArg List.reverse reversed
          have more : rest ≠ [] := by
            rintro rfl
            simp [dropTrailing] at dropped
          obtain ⟨component, isComponent⟩ := innerComponent?_last_dropTrailing dropped
          have whole : ∀ piece ∈ first :: dropTrailing others.reverse, '/' ∉ piece := by
            intro piece member
            have among := ((dropTrailing_initial_sublist dropped).cons_cons first).subset member
            exact slash_notMem_of_mem_pieces path.toList piece (split ▸ among)
          simp only [reversed, Option.some.injEq] at found
          rw [← found, components_written whole, firstComponent?_initial first more,
            innerComponents_dropTrailing, dropped, innerComponents_append]
          simp [innerComponents, isComponent, ← List.append_assoc]

end RouteForge.Path
