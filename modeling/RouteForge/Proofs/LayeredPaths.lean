import Mathlib.Data.List.DropRight
import Mathlib.Data.List.Infix
import RouteForge.Proofs.Layering

/-!
What any number of layers give at the end of a path. A layer that has something other than an
object on the way hides all layers below it there; those above the last such layer are merged as if
each of them were only what it has at the path.
-/

namespace RouteForge.Json

/-! The way to the end of a path. -/

/-- Something other than an object stands below the layer itself and before the end of the path. -/
def Value.Obstructs (path : List String) (layer : Value) : Prop :=
  ∃ way, way <+: path ∧ way ≠ [] ∧ way ≠ path ∧
    ∃ value, layer.at? way = some value ∧ value.isObject = false

instance (path : List String) (layer : Value) : Decidable (layer.Obstructs path) :=
  decidable_of_iff
    (∃ way ∈ path.inits, way ≠ [] ∧ way ≠ path ∧
      ((layer.at? way).any fun value => !value.isObject) = true)
    (by simp [Value.Obstructs, Option.any_eq_true])

theorem Value.isOpen_iff (path : List String) (value : Value) :
    value.IsOpen path ↔
      ∀ way, way <+: path → way ≠ path → ∀ inner, value.at? way = some inner →
        inner.isObject = true := by
  induction path generalizing value with
  | nil => simp [IsOpen]
  | cons key path ih =>
      constructor
      · rintro ⟨object, inside⟩ way start other inner reached
        cases way with
        | nil =>
            obtain rfl := Option.some.inj reached
            exact object
        | cons first way =>
            obtain ⟨rfl, below⟩ := List.cons_prefix_cons.mp start
            obtain ⟨next, found, reached⟩ := Option.bind_eq_some_iff.mp reached
            exact (ih next).mp (inside next found) way below (by simpa using other) inner reached
      · intro objects
        refine ⟨objects [] List.nil_prefix (by simp) value rfl, fun next found => ?_⟩
        refine (ih next).mpr fun way start other inner reached => ?_
        refine objects (key :: way) ((List.prefix_cons_inj key).mpr start) (by simpa using other) inner ?_
        rw [at?, found]
        exact reached

theorem Value.isOpen_iff_not_obstructs {layer : Value} (object : layer.isObject = true)
    (path : List String) : layer.IsOpen path ↔ ¬layer.Obstructs path := by
  rw [isOpen_iff]
  constructor
  · rintro objects ⟨way, start, _, other, value, reached, noObject⟩
    rw [objects way start other value reached] at noObject
    cases noObject
  · intro free way start other inner reached
    by_cases here : way = []
    · subst here
      obtain rfl := Option.some.inj reached
      exact object
    · by_contra noObject
      exact free ⟨way, start, here, other, inner, reached, by simpa using noObject⟩

theorem Value.at?_of_not_isOpen {path : List String} {value : Value} (closed : ¬value.IsOpen path) :
    value.at? path = none := by
  induction path generalizing value with
  | nil => exact absurd trivial closed
  | cons key path ih =>
      rw [at?]
      cases found : value.members.get? key with
      | none => rfl
      | some inner =>
          have object : value.isObject = true := by
            by_contra other
            simp [members_of_not_isObject other, Members.get?] at found
          refine ih fun way => closed ⟨object, fun next same => ?_⟩
          obtain rfl := Option.some.inj (found.symm.trans same)
          exact way

theorem Value.KeysDistinct.at? {path : List String} {value inner : Value}
    (distinct : value.KeysDistinct) (reached : value.at? path = some inner) : inner.KeysDistinct := by
  induction path generalizing value with
  | nil => exact Option.some.inj reached ▸ distinct
  | cons key path ih =>
      obtain ⟨next, found, reached⟩ := Option.bind_eq_some_iff.mp reached
      exact ih (distinct.inner found) reached

/-! One more layer. -/

theorem not_isOpen_merge {path : List String} {upper : Value} (closed : ¬upper.IsOpen path)
    (distinct : upper.KeysDistinct) (lower : Value) : ¬(merge lower upper).IsOpen path := by
  induction path generalizing lower upper with
  | nil => exact absurd trivial closed
  | cons key path ih =>
      rintro ⟨object, inside⟩
      rw [isObject_merge] at object
      refine closed ⟨object, fun inner found => ?_⟩
      by_contra stop
      have result := get?_merge object distinct lower key
      rw [found] at result
      cases below : lower.members.get? key with
      | none =>
          rw [below] at result
          exact stop (inside inner result)
      | some value =>
          rw [below] at result
          exact ih stop (distinct.inner found) value (inside _ result)

def laidOver : List Value → Option Value
  | [] => none
  | first :: rest => some (rest.foldl merge first)

theorem laidOver_concat (values : List Value) (last : Value) :
    laidOver (values ++ [last]) = overlaid (laidOver values) (some last) := by
  cases values with
  | nil => rfl
  | cons first rest => simp [laidOver, overlaid]

theorem mergeLayers_concat (layers : List Value) (last : Value) :
    mergeLayers (layers ++ [last]) = merge (mergeLayers layers) last := by
  simp [mergeLayers]

/-! All layers. -/

def layersInSight (path : List String) (layers : List Value) : List Value :=
  layers.rtakeWhile fun layer => ¬layer.Obstructs path

theorem at?_mergeLayers {layers : List Value} (objects : ∀ layer ∈ layers, layer.isObject = true)
    (distinct : ∀ layer ∈ layers, layer.KeysDistinct) {path : List String} (nonempty : path ≠ []) :
    (mergeLayers layers).at? path =
      laidOver ((layersInSight path layers).filterMap (Value.at? path)) := by
  induction layers using List.reverseRecOn with
  | nil =>
      cases path with
      | nil => exact absurd rfl nonempty
      | cons key path => rfl
  | append_singleton layers last ih =>
      have lower := ih (fun layer member => objects layer (by simp [member]))
        fun layer member => distinct layer (by simp [member])
      have object := objects last (by simp)
      have lastDistinct := distinct last (by simp)
      rw [mergeLayers_concat, layersInSight, List.rtakeWhile_concat]
      by_cases obstructs : last.Obstructs path
      · have closed : ¬last.IsOpen path := fun way =>
          (Value.isOpen_iff_not_obstructs object path).mp way obstructs
        rw [if_neg (by simpa using obstructs),
          Value.at?_of_not_isOpen (not_isOpen_merge closed lastDistinct _)]
        rfl
      · have way := (Value.isOpen_iff_not_obstructs object path).mpr obstructs
        rw [if_pos (by simpa using obstructs), at?_merge way lastDistinct, lower, ← layersInSight,
          List.filterMap_append]
        cases reached : last.at? path with
        | none => simp [reached]
        | some value => simp [reached, laidOver_concat]

/-! Keys. -/

def keysOf (values : List Value) : List String :=
  values.flatMap fun value => value.members.keys

theorem eraseDups_append_of_nodup (source : List String) {more : List String} (distinct : more.Nodup) :
    (source ++ more).eraseDups = source.eraseDups ++ more.filter fun key => key ∉ source.eraseDups := by
  have unchanged (keys : List String) (distinct : keys.Nodup) : keys.eraseDups = keys := by
    induction keys with
    | nil => rfl
    | cons key rest ih =>
        obtain ⟨fresh, distinct⟩ := List.nodup_cons.mp distinct
        have others : (rest.filter fun other => !other == key) = rest :=
          List.filter_eq_self.mpr fun other member => by
            simpa using fun same : other = key => fresh (same ▸ member)
        rw [List.eraseDups_cons, others, ih distinct]
  rw [List.eraseDups_append, List.removeAll, unchanged _ (distinct.filter _)]
  congr 1
  exact List.filter_congr fun key _ => by simp

theorem keys_foldl_merge (first : Value) {rest : List Value}
    (objects : ∀ value ∈ rest, value.isObject = true)
    (firstDistinct : first.KeysDistinct) (distinct : ∀ value ∈ rest, value.KeysDistinct) :
    (rest.foldl merge first).members.keys = (keysOf (first :: rest)).eraseDups := by
  induction rest using List.reverseRecOn with
  | nil =>
      have alone := eraseDups_append_of_nodup [] firstDistinct.keys_members
      simpa [keysOf] using alone.symm
  | append_singleton rest last ih =>
      have lower := ih (fun value member => objects value (by simp [member]))
        fun value member => distinct value (by simp [member])
      have more := (distinct last (by simp)).keys_members
      have keys : keysOf (first :: (rest ++ [last])) = keysOf (first :: rest) ++ last.members.keys := by
        simp [keysOf]
      rw [List.foldl_append, List.foldl_cons, List.foldl_nil,
        keys_merge (objects last (by simp)) (distinct last (by simp)), lower, keys,
        eraseDups_append_of_nodup _ more]

/-- What stands at the end of a path, from the values that layers have there. -/
structure IsLaidOver (values : List Value) (result : Option Value) : Prop where
  absent : result = none ↔ values = []
  merged : ∀ first rest, values = first :: rest → result = some (rest.foldl merge first)
  keys : (∀ value ∈ values, value.isObject = true) → ∀ found, result = some found →
    found.isObject = true ∧ found.members.keys = (keysOf values).eraseDups

theorem isObject_foldl_merge {first : Value} {rest : List Value}
    (objects : ∀ value ∈ first :: rest, value.isObject = true) :
    (rest.foldl merge first).isObject = true := by
  induction rest using List.reverseRecOn with
  | nil => exact objects first (by simp)
  | append_singleton rest last =>
      rw [List.foldl_append, List.foldl_cons, List.foldl_nil, isObject_merge]
      exact objects last (by simp)

theorem isLaidOver_laidOver {values : List Value} (distinct : ∀ value ∈ values, value.KeysDistinct) :
    IsLaidOver values (laidOver values) := by
  cases values with
  | nil => exact ⟨by simp [laidOver], by simp, by simp [laidOver]⟩
  | cons first rest =>
      obtain ⟨firstDistinct, restDistinct⟩ := List.forall_mem_cons.mp distinct
      refine ⟨by simp [laidOver], ?_, ?_⟩
      · rintro _ _ ⟨⟩
        rfl
      · rintro objects _ ⟨⟩
        have above := (List.forall_mem_cons.mp objects).2
        exact ⟨isObject_foldl_merge objects, keys_foldl_merge first above firstDistinct restDistinct⟩

/-- At every path, layers of objects give what those have there that no later layer obstructs,
merged from the lowest on. Keys, also those of the whole, come in the order in which they first
came. -/
theorem layered_at_every_path (layers : List Value)
    (objects : ∀ layer ∈ layers, layer.isObject = true)
    (distinct : ∀ layer ∈ layers, layer.KeysDistinct) :
    (∀ path, path ≠ [] →
      IsLaidOver ((layersInSight path layers).filterMap (Value.at? path))
        ((mergeLayers layers).at? path)) ∧
    (mergeLayers layers).isObject = true ∧
    (mergeLayers layers).members.keys = (keysOf layers).eraseDups := by
  have bottom : (Value.object []).KeysDistinct := .object List.nodup_nil (by simp)
  refine ⟨?_, ?_, ?_⟩
  · intro path nonempty
    rw [at?_mergeLayers objects distinct nonempty]
    refine isLaidOver_laidOver fun value member => ?_
    obtain ⟨layer, inSight, reached⟩ := List.mem_filterMap.mp member
    exact (distinct layer ((List.rtakeWhile_suffix _ _).subset inSight)).at? reached
  · exact isObject_foldl_merge (List.forall_mem_cons.mpr ⟨rfl, objects⟩)
  · exact keys_foldl_merge _ objects bottom distinct

theorem layered_at_every_path_obstructed :
    let layers : List Value := [
      .object [("output", .object [("a", .null), ("path", .object [("c", .null)])])],
      .object [("output", .bool false)],
      .object [("output", .object [("path", .object [("z", .null), ("b", .null)])])],
      .object [("mode", .null)],
      .object [("output", .object [("path", .object [("b", .bool true), ("y", .null)])])]]
    let value := mergeLayers layers
    value.at? ["output", "path"] =
        some (.object [("z", .null), ("b", .bool true), ("y", .null)]) ∧
      value.at? ["output", "a"] = none ∧
      value.members.keys = ["output", "mode"] := by
  intro layers value
  have everywhere := layered_at_every_path layers (by decide) (by decide +kernel)
  have path := everywhere.1 ["output", "path"] (by decide)
  have other := everywhere.1 ["output", "a"] (by decide)
  have merged := path.merged (.object [("z", .null), ("b", .null)])
    [.object [("b", .bool true), ("y", .null)]] rfl
  exact ⟨merged, other.absent.mpr (by decide +kernel),
    everywhere.2.2.trans (by decide +kernel)⟩

end RouteForge.Json
