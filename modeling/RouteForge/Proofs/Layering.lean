import RouteForge.Artifact.Bundle
import RouteForge.Proofs.RecordReading

/-!
What one layer leaves of the layers below it, key by key, and from this what a user's layer can do
to the configuration of a bundle: anything, but for the rules that no module is built without.
-/

namespace RouteForge

namespace Json

/-! What a value holds. -/

def Value.members : Value → Members
  | .object members => members
  | _ => []

def Value.items : Value → List Value
  | .array items => items
  | _ => []

theorem Value.members_of_not_isObject {value : Value} (other : ¬value.isObject = true) :
    value.members = [] := by
  cases value with
  | object members => exact absurd rfl other
  | _ => rfl

/-- The value that is reached by going from key to key. -/
def Value.at? : List String → Value → Option Value
  | [], value => some value
  | key :: path, value => (value.members.get? key).bind (at? path)

mutual

def Value.checkKeys : Value → Bool
  | .array items => checkItems items
  | .object members => decide (Members.keys members).Nodup && checkMembers members
  | _ => true

def checkItems : List Value → Bool
  | [] => true
  | item :: rest => item.checkKeys && checkItems rest

def checkMembers : List (String × Value) → Bool
  | [] => true
  | (_, value) :: rest => value.checkKeys && checkMembers rest

end

mutual

theorem Value.checkKeys_iff : (value : Value) → (value.checkKeys = true ↔ value.KeysDistinct)
  | .null => ⟨fun _ => .null, fun _ => rfl⟩
  | .bool flag => ⟨fun _ => .bool flag, fun _ => rfl⟩
  | .number number => ⟨fun _ => .number number, fun _ => rfl⟩
  | .string text => ⟨fun _ => .string text, fun _ => rfl⟩
  | .array items => by
      rw [Value.checkKeys, checkItems_iff items]
      exact ⟨.array, fun | .array inside => inside⟩
  | .object members => by
      rw [Value.checkKeys, Bool.and_eq_true, decide_eq_true_eq, checkMembers_iff members]
      exact ⟨fun both => .object both.1 both.2, fun | .object distinct inside => ⟨distinct, inside⟩⟩

theorem checkItems_iff : (items : List Value) →
    (checkItems items = true ↔ ∀ item ∈ items, item.KeysDistinct)
  | [] => by simp [checkItems]
  | item :: rest => by
      rw [checkItems, Bool.and_eq_true, item.checkKeys_iff, checkItems_iff rest,
        List.forall_mem_cons]

theorem checkMembers_iff : (members : List (String × Value)) →
    (checkMembers members = true ↔ ∀ member ∈ members, member.2.KeysDistinct)
  | [] => by simp [checkMembers]
  | (_, value) :: rest => by
      rw [checkMembers, Bool.and_eq_true, value.checkKeys_iff, checkMembers_iff rest,
        List.forall_mem_cons]

end

instance : DecidablePred Value.KeysDistinct := fun value =>
  decidable_of_iff _ value.checkKeys_iff

theorem Value.KeysDistinct.keys_members {value : Value} (distinct : value.KeysDistinct) :
    value.members.keys.Nodup := by
  cases distinct with
  | object distinctHere _ => exact distinctHere
  | _ => exact List.nodup_nil

theorem Members.mem_of_get? {key : String} {members : Members} {value : Value}
    (found : members.get? key = some value) : (key, value) ∈ members := by
  induction members with
  | nil => simp [get?] at found
  | cons member rest ih =>
      obtain ⟨name, first⟩ := member
      by_cases same : name = key
      · subst same
        simp only [get?, ↓reduceIte, Option.some.injEq] at found
        simp [found]
      · simp only [get?, same, ↓reduceIte] at found
        exact List.mem_cons_of_mem _ (ih found)

theorem Value.KeysDistinct.inner {value inner : Value} (distinct : value.KeysDistinct) {key : String}
    (found : value.members.get? key = some inner) : inner.KeysDistinct := by
  have member := Members.mem_of_get? found
  cases distinct with
  | object _ inside => exact inside _ member
  | _ => simp [Value.members] at member

/-! One layer over another. -/

def overlaid : Option Value → Option Value → Option Value
  | some lower, some upper => some (merge lower upper)
  | some lower, none => some lower
  | none, upper => upper

@[simp] theorem overlaid_none_left (upper : Option Value) : overlaid none upper = upper := rfl

@[simp] theorem overlaid_none_right (lower : Option Value) : overlaid lower none = lower := by
  cases lower <;> rfl

theorem mergeMembers_cons (lower rest : Members) (key : String) (upper : Value) :
    mergeMembers lower ((key, upper) :: rest) =
      mergeMembers
        (lower.put key (((lower.get? key).map fun value => merge value upper).getD upper)) rest := by
  rw [mergeMembers]
  cases lower.get? key <;> rfl

theorem mergeMembers_new {lower upper : Members} (distinct : (Members.keys (lower ++ upper)).Nodup) :
    mergeMembers lower upper = lower ++ upper := by
  induction upper generalizing lower with
  | nil => simp [mergeMembers]
  | cons member rest ih =>
      obtain ⟨key, value⟩ := member
      have missing : key ∉ lower.keys := by
        simp only [Members.keys, List.map_append, List.map_cons] at distinct ⊢
        exact fun present => (List.nodup_append.mp distinct).2.2 key present key (by simp) rfl
      have later := @ih (lower ++ [(key, value)]) (by simpa using distinct)
      rw [mergeMembers_cons, Members.get?_eq_none_iff.mpr missing, Option.map_none,
        Option.getD_none, Members.put_of_notMem missing, later, List.append_assoc]
      rfl

theorem get?_mergeMembers {upper : Members} (distinct : upper.keys.Nodup) (lower : Members)
    (key : String) :
    (mergeMembers lower upper).get? key = overlaid (lower.get? key) (upper.get? key) := by
  induction upper generalizing lower with
  | nil => simp [mergeMembers, Members.get?]
  | cons member rest ih =>
      obtain ⟨name, value⟩ := member
      obtain ⟨fresh, distinctRest⟩ := List.nodup_cons.mp distinct
      rw [mergeMembers_cons, ih distinctRest, Members.get?_put]
      by_cases same : key = name
      · subst same
        have later : Members.get? key rest = none := Members.get?_eq_none_iff.mpr fresh
        cases found : lower.get? key <;> simp [Members.get?, later, overlaid]
      · simp [Members.get?, same, Ne.symm same]

theorem keys_mergeMembers {upper : Members} (distinct : upper.keys.Nodup) (lower : Members) :
    (mergeMembers lower upper).keys =
      lower.keys ++ upper.keys.filter fun key => key ∉ lower.keys := by
  induction upper generalizing lower with
  | nil => simp [mergeMembers, Members.keys]
  | cons member rest ih =>
      obtain ⟨name, value⟩ := member
      obtain ⟨fresh, distinctRest⟩ := List.nodup_cons.mp distinct
      have keys : Members.keys ((name, value) :: rest) = name :: Members.keys rest := rfl
      rw [mergeMembers_cons, ih distinctRest, Members.keys_put, keys]
      by_cases present : name ∈ lower.keys
      · simp [present]
      · have others : ∀ key ∈ Members.keys rest, key ≠ name := fun key member same =>
          fresh (same ▸ member)
        simp only [present, ↓reduceIte, not_false_eq_true, decide_true, List.filter_cons_of_pos,
          List.append_assoc, List.singleton_append]
        congr 2
        refine List.filter_congr fun key member => ?_
        simp [others key member]

section

variable {upper : Value} (object : upper.isObject = true) (distinct : upper.KeysDistinct)
  (lower : Value)
include object distinct

theorem get?_merge (key : String) :
    (merge lower upper).members.get? key =
      overlaid (lower.members.get? key) (upper.members.get? key) := by
  cases upper with
  | object members =>
      cases lower with
      | object others =>
          rw [merge]
          exact get?_mergeMembers distinct.keys_members others key
      | _ => simp [merge, Value.members, Members.get?]
  | _ => simp [Value.isObject] at object

theorem keys_merge :
    (merge lower upper).members.keys =
      lower.members.keys ++ upper.members.keys.filter fun key => key ∉ lower.members.keys := by
  cases upper with
  | object members =>
      cases lower with
      | object others =>
          rw [merge]
          exact keys_mergeMembers distinct.keys_members others
      | _ => simp [merge, Value.members, Members.keys]
  | _ => simp [Value.isObject] at object

end

theorem isObject_merge (lower upper : Value) : (merge lower upper).isObject = upper.isObject := by
  cases upper <;> cases lower <;> simp [merge, Value.isObject]

theorem merge_array (lower : Value) (upper : List Value) :
    merge lower (.array upper) = .array (lower.items ++ upper) := by
  cases lower <;> simp [merge, Value.items]

theorem overlaid_array (lower : Option Value) (upper : List Value) :
    overlaid lower (some (.array upper)) = some (.array ((lower.getD .null).items ++ upper)) := by
  cases lower with
  | none => rfl
  | some value => rw [overlaid, merge_array, Option.getD_some]

/-! Along a path. -/

/-- Every value on the way, from the value itself to the last before the end, is an object. -/
def Value.IsOpen : List String → Value → Prop
  | [], _ => True
  | key :: path, value =>
      value.isObject = true ∧ ∀ inner, value.members.get? key = some inner → inner.IsOpen path

/-- An upper layer that is open along a path is laid over what lies below at its end. -/
theorem at?_merge {path : List String} {upper : Value} (way : upper.IsOpen path)
    (distinct : upper.KeysDistinct) (lower : Value) :
    (merge lower upper).at? path = overlaid (lower.at? path) (upper.at? path) := by
  induction path generalizing lower upper with
  | nil => rfl
  | cons key path ih =>
      obtain ⟨object, inside⟩ := way
      simp only [Value.at?, get?_merge object distinct]
      cases above : upper.members.get? key with
      | none => simp
      | some inner =>
          cases below : lower.members.get? key with
          | none => simp
          | some value => exact ih (inside inner above) (distinct.inner above) value

theorem at?_merge_of_absent {path : List String} {lower upper : Value}
    (absent : lower.at? path = none) (distinct : upper.KeysDistinct) :
    (merge lower upper).at? path = upper.at? path := by
  induction path generalizing lower upper with
  | nil => simp [Value.at?] at absent
  | cons key path ih =>
      rw [Value.at?] at absent
      by_cases object : upper.isObject = true
      · simp only [Value.at?, get?_merge object distinct]
        cases above : upper.members.get? key with
        | none => simpa using absent
        | some inner =>
            cases below : lower.members.get? key with
            | none => simp
            | some value =>
                rw [below] at absent
                exact ih absent (distinct.inner above)
      · have result : ¬(merge lower upper).isObject = true := by rwa [isObject_merge]
        simp [Value.at?, Value.members_of_not_isObject object,
          Value.members_of_not_isObject result]

end Json

namespace Bundle

open Json (Value Members overlaid)

def userRules (user : Value) : List Value :=
  ((user.at? ["module", "rules"]).getD .null).items

/-- What a configuration has from the base layer, from the user's and from the bundle itself. -/
structure IsLayered (base user : Value) (required : List Value) (value : Value) : Prop where
  isObject : value.isObject = true
  rules : value.at? ["module", "rules"] = some (.array (userRules user ++ required))
  settings : ∀ key, key ≠ "rules" → value.at? ["module", key] = user.at? ["module", key]
  others : user.isObject = true → ∀ key, key ≠ "module" →
    value.at? [key] = overlaid (base.at? [key]) (user.at? [key])
  keys : user.isObject = true → value.members.keys =
    base.members.keys ++ user.members.keys.filter fun key => key ∉ base.members.keys

theorem keys_baseLayer (bundle : Bundle) :
    bundle.baseLayer.members.keys =
      ["entry", "output", "module", "plugins", "resolve", "externals", "optimization", "devtool"] :=
  rfl

theorem value_withUser (bundle : Bundle) (user : Value) :
    (bundle.withUser user).value =
      Json.merge (Json.merge bundle.baseLayer user) frameworkLayer := by
  have distinct : bundle.baseLayer.members.keys.Nodup := by
    rw [keys_baseLayer]
    decide
  have bottom : Json.merge (.object []) bundle.baseLayer = bundle.baseLayer := by
    rw [baseLayer, Json.merge, Json.mergeMembers_new distinct]
    rfl
  rw [value, Json.mergeLayers]
  simp only [List.foldl_cons, List.foldl_nil]
  rw [show (bundle.withUser user).baseLayer = bundle.baseLayer from rfl, bottom]
  rfl

theorem keysDistinct_frameworkLayer : frameworkLayer.KeysDistinct := by
  decide +kernel

theorem at?_frameworkLayer {key : String} (other : key ≠ "module") :
    frameworkLayer.at? [key] = none := by
  simp [Value.at?, frameworkLayer, Value.members, Members.get?, other.symm]

theorem at?_frameworkLayer_module {key : String} (other : key ≠ "rules") :
    frameworkLayer.at? ["module", key] = none := by
  simp [Value.at?, frameworkLayer, Value.members, Members.get?, other.symm]

theorem at?_module (bundle : Bundle) {user : Value} (distinct : user.KeysDistinct) (key : String) :
    (bundle.withUser user).value.at? ["module", key] =
      overlaid (user.at? ["module", key]) (frameworkLayer.at? ["module", key]) := by
  have absent : bundle.baseLayer.at? ["module", key] = none := rfl
  have way : frameworkLayer.IsOpen ["module", key] := by
    refine ⟨rfl, fun inner found => ⟨?_, fun _ _ => trivial⟩⟩
    obtain rfl : Value.object [("rules", .array requiredRules)] = inner := Option.some.inj found
    rfl
  rw [value_withUser, Json.at?_merge way keysDistinct_frameworkLayer,
    Json.at?_merge_of_absent absent distinct]

theorem at?_other (bundle : Bundle) {user : Value} (distinct : user.KeysDistinct)
    (object : user.isObject = true) {key : String} (other : key ≠ "module") :
    (bundle.withUser user).value.at? [key] =
      overlaid (bundle.baseLayer.at? [key]) (user.at? [key]) := by
  have framework : frameworkLayer.IsOpen [key] := ⟨rfl, fun _ _ => trivial⟩
  have way : user.IsOpen [key] := ⟨object, fun _ _ => trivial⟩
  rw [value_withUser, Json.at?_merge framework keysDistinct_frameworkLayer,
    at?_frameworkLayer other, Json.overlaid_none_right, Json.at?_merge way distinct]

theorem keys_value (bundle : Bundle) {user : Value} (distinct : user.KeysDistinct)
    (object : user.isObject = true) :
    (bundle.withUser user).value.members.keys =
      bundle.baseLayer.members.keys ++
        user.members.keys.filter fun key => key ∉ bundle.baseLayer.members.keys := by
  have framework : frameworkLayer.members.keys = ["module"] := rfl
  have present : "module" ∈ bundle.baseLayer.members.keys := by
    rw [keys_baseLayer]
    decide
  rw [value_withUser, Json.keys_merge rfl keysDistinct_frameworkLayer,
    Json.keys_merge object distinct, framework]
  simp [present]

/-- No user's layer drops or reorders the rules of the bundle itself: they come last, after those
of the user. Else the user's layer is laid over the base layer, and the bundle adds nothing. -/
theorem rules_come_last (base : String) (manifest : Manifest) (user : Value)
    (distinct : user.KeysDistinct) :
    let bundle := ofManifest base manifest
    let required : List Value := [
      .object [("test", .string "\\.vue$"), ("loader", .string "vue-loader")],
      .object [
        ("test", .string "\\.js$"),
        ("loader", .string "babel-loader"),
        ("exclude", .string "node_modules")],
      .object [
        ("test", .string "\\.(css|scss)$"),
        ("use", .array [.string "style-loader", .string "css-loader", .string "sass-loader"])]]
    IsLayered bundle.baseLayer user required (bundle.withUser user).value := by
  intro bundle required
  refine ⟨?_, ?_, ?_, ?_, ?_⟩
  · rw [value_withUser, Json.isObject_merge]
    rfl
  · rw [at?_module bundle distinct, userRules]
    have above : frameworkLayer.at? ["module", "rules"] = some (.array required) := rfl
    rw [above, Json.overlaid_array]
  · intro key other
    rw [at?_module bundle distinct, at?_frameworkLayer_module other, Json.overlaid_none_right]
  · intro object key other
    exact at?_other bundle distinct object other
  · exact keys_value bundle distinct

theorem rules_come_last_after_own :
    let user : Value := .object [
      ("devtool", .bool false),
      ("module", .object [("noParse", .string "lib"), ("rules", .array [.string "own"])]),
      ("mode", .string "production")]
    let bundle := ofManifest "app" ⟨"/m", "sys", "/", none, [⟨"demo", "demo", []⟩]⟩
    let value := (bundle.withUser user).value
    user.KeysDistinct ∧
      value.at? ["module", "rules"] = some (.array [
        .string "own",
        .object [("test", .string "\\.vue$"), ("loader", .string "vue-loader")],
        .object [
          ("test", .string "\\.js$"),
          ("loader", .string "babel-loader"),
          ("exclude", .string "node_modules")],
        .object [
          ("test", .string "\\.(css|scss)$"),
          ("use", .array [.string "style-loader", .string "css-loader", .string "sass-loader"])]]) ∧
      value.at? ["module", "noParse"] = some (.string "lib") ∧
      value.at? ["devtool"] = some (.bool false) ∧
      value.members.keys = ["entry", "output", "module", "plugins", "resolve", "externals",
        "optimization", "devtool", "mode"] := by
  intro user bundle value
  have distinct : user.KeysDistinct := by decide +kernel
  have layered :=
    rules_come_last "app" ⟨"/m", "sys", "/", none, [⟨"demo", "demo", []⟩]⟩ user distinct
  refine ⟨distinct, layered.rules, layered.settings "noParse" (by decide), ?_, ?_⟩
  · exact layered.others rfl "devtool" (by decide)
  · exact layered.keys rfl

end Bundle

end RouteForge
