import RouteForge.Proofs.NestingLimit
import RouteForge.Proofs.ShortDecimals

/-!
The document of a manifest, and which manifests have one that is accepted: those in whose routes no
more brackets are open at a time than may be opened and every number is the value of a numeral.
-/

namespace RouteForge

open Json (Value Members MaybeGiven DefaultGiven)

/-! Documents with their keys as declared, but those that have nothing to say. -/

def given (key : String) : Option Value → Members
  | none => []
  | some value => [(key, value)]

namespace Route

mutual

def document : Route → Value
  | ⟨name, path, component, redirect, hidden, alwaysShow, attributes, children, entry⟩ =>
      .object ([("name", .string name), ("path", .string path), ("component", .string component)] ++
        given "redirect" (redirect.map .string) ++ given "hidden" (hidden.map .bool) ++
        given "alwaysShow" (alwaysShow.map .bool) ++ given "meta" (attributes.map .object) ++
        given "children" (if children.isEmpty then none else some (.array (documents children))) ++
        given "entry" (entry.map .bool))

def documents : List Route → List Value
  | [] => []
  | route :: rest => document route :: documents rest

end

theorem documents_eq (routes : List Route) : documents routes = routes.map document := by
  induction routes with
  | nil => rfl
  | cons route rest ih => rw [documents, ih, List.map_cons]

end Route

namespace Module

def document (module : Module) : Value :=
  .object ([("module", .string module.name), ("mtype", .string module.mtype)] ++
    given "module_routes"
      (if module.routes.isEmpty then none else some (.array (module.routes.map Route.document))))

end Module

namespace Manifest

def document (manifest : Manifest) : Value :=
  .object ([("module_path", .string manifest.modulePath),
      ("module_name", .string manifest.moduleName), ("public_path", .string manifest.publicPath)] ++
    given "variant" (manifest.variant.map fun variant => .string variant.name) ++
    [("sub_modules", .array (manifest.modules.map Module.document))])

/-- Every object in the attributes of a route has different keys. -/
def KeysDistinct (manifest : Manifest) : Prop :=
  manifest.EachBag fun content => (Value.object content).KeysDistinct

end Manifest

/-! They spell what they are documents of. -/

@[simp] theorem get?_append (key : String) (first second : Members) :
    Members.get? key (first ++ second) = (first.get? key).or (second.get? key) := by
  induction first with
  | nil => rfl
  | cons member rest ih =>
      obtain ⟨name, value⟩ := member
      by_cases same : name = key <;> simp [Members.get?, same, ih]

@[simp] theorem get?_given (key name : String) (value : Option Value) :
    Members.get? key (given name value) = if name = key then value else none := by
  cases value <;> simp [given, Members.get?]

@[simp] theorem keys_append (first second : Members) :
    Members.keys (first ++ second) = first.keys ++ second.keys :=
  List.map_append

theorem keys_given (key : String) (value : Option Value) :
    (Members.keys (given key value)).Sublist [key] := by
  cases value <;> simp [given, Members.keys]

theorem askedOnce_of_sublist {keys : List String} {members : Members}
    (sub : members.keys.Sublist keys) (distinct : keys.Nodup) : AskedOnce keys members :=
  fun key _ => List.nodup_iff_count_le_one.mp (sub.nodup distinct) key

theorem isText_string (content : String) : IsText content (.string content) :=
  rfl

theorem isFlag_bool (content : Bool) : IsFlag content (.bool content) :=
  rfl

theorem maybeGiven_map {α : Type} {spells : α → Value → Prop} {write : α → Value}
    {content : Option α} (writes : ∀ inner ∈ content, spells inner (write inner)) :
    MaybeGiven spells content (content.map write) := by
  cases content with
  | none => exact .absent
  | some inner => exact .given (writes inner rfl)

namespace Route

theorem document_spelledWith {budget : Nat} {spells : List Route → Value → Prop} {route : Route}
    (fits : bagBrackets route.attributes ≤ budget)
    (distinct : ∀ content ∈ route.attributes, (Value.object content).KeysDistinct)
    (children : route.children ≠ [] →
      spells route.children (.array (route.children.map document))) :
    SpelledWith budget spells route route.document := by
  obtain ⟨name, path, component, redirect, hidden, alwaysShow, attributes, inner, entry⟩ := route
  rw [document, documents_eq]
  refine .intro ?_ ?_ ?_ ?_ ?_ ?_ ?_ ?_ ?_ ?_
  · refine askedOnce_of_sublist ?_ (by decide)
    simp only [keys_append]
    exact (((((List.Sublist.refl ["name", "path", "component"]).append (keys_given _ _)).append
      (keys_given _ _)).append (keys_given _ _)).append (keys_given _ _)).append (keys_given _ _)
        |>.append (keys_given _ _)
  · simp [Members.get?]
  · simp [Members.get?]
  · simp [Members.get?]
  · simpa [Members.get?] using maybeGiven_map fun content _ => isText_string content
  · simpa [Members.get?] using maybeGiven_map fun content _ => isFlag_bool content
  · simpa [Members.get?] using maybeGiven_map fun content _ => isFlag_bool content
  · simpa [Members.get?] using maybeGiven_map fun content here => by
      obtain rfl := Option.mem_def.mp here
      exact ⟨rfl, distinct content rfl, fits⟩
  · cases inner with
    | nil => simpa [Members.get?] using .absent
    | cons first rest => simpa [Members.get?] using .given (children (by simp))
  · simpa [Members.get?] using maybeGiven_map fun content _ => isFlag_bool content

theorem document_spelled : ∀ {budget : Nat} {route : Route}, route.brackets ≤ budget →
    route.EachBag (fun content => (Value.object content).KeysDistinct) →
      route.IsSpelledBy budget route.document
  | 0, route, fits, _ => by
      rw [brackets_eq] at fits
      omega
  | 1, route, fits, .intro attributes _ => by
      rw [brackets_eq] at fits
      refine document_spelledWith (by omega) attributes fun some => some ?_
      have few := childrenBrackets_le.mp (by omega : childrenBrackets route.children ≤ 0)
      exact List.eq_nil_iff_forall_not_mem.mpr fun child member =>
        absurd (few child member) (by omega)
  | budget + 2, route, fits, .intro attributes children => by
      rw [brackets_eq] at fits
      refine document_spelledWith (by omega) attributes fun _ => ⟨_, rfl, ?_⟩
      rw [List.forall₂_map_right_iff, List.forall₂_same]
      intro child member
      have few := childrenBrackets_le.mp (by omega : childrenBrackets route.children ≤ budget + 1)
      exact document_spelled (Nat.le_of_succ_le_succ (few child member)) (children child member)

end Route

theorem Module.document_spelled {budget : Nat} {module : Module}
    (fits : ∀ route ∈ module.routes, route.brackets ≤ budget)
    (distinct : module.EachBag fun content => (Value.object content).KeysDistinct) :
    module.IsSpelledBy budget module.document := by
  refine .intro (askedOnce_of_sublist ?_ (by decide : Module.keys.Nodup)) ?_ ?_ ?_
  · simp only [keys_append]
    exact (List.Sublist.refl ["module", "mtype"]).append (keys_given _ _)
  · simp [Members.get?]
  · simp [Members.get?]
  · cases given : module.routes with
    | nil => simpa [Members.get?] using .absent
    | cons first rest =>
        have spelled : IsListOf (Route.IsSpelledBy budget) module.routes
            (.array (module.routes.map Route.document)) := by
          refine ⟨_, rfl, ?_⟩
          rw [List.forall₂_map_right_iff, List.forall₂_same]
          exact fun route member => Route.document_spelled (fits route member) (distinct route member)
        rw [given] at spelled
        simpa [Members.get?] using .given spelled

theorem isVariantWord_name (variant : Variant) : IsVariantWord variant (.string variant.name) := by
  cases variant <;> exact Or.inl rfl

namespace Manifest

theorem document_spelled {budget : Nat} {manifest : Manifest}
    (fits : ∀ module ∈ manifest.modules, ∀ route ∈ module.routes, route.brackets ≤ budget)
    (distinct : manifest.KeysDistinct) : manifest.IsSpelledBy budget manifest.document := by
  refine @IsSpelledBy.intro budget manifest _
    (askedOnce_of_sublist ?_ (by decide : Manifest.keys.Nodup)) ?_ ?_ ?_ ?_
    (manifest.modules.map Module.document) ?_ ?_
  · simp only [keys_append]
    exact ((List.Sublist.refl ["module_path", "module_name", "public_path"]).append
      (keys_given _ _)).append (List.Sublist.refl ["sub_modules"])
  · simp [Members.get?]
  · simp [Members.get?]
  · simpa [Members.get?] using .given (isText_string manifest.publicPath)
  · simpa [Members.get?] using maybeGiven_map fun variant _ => isVariantWord_name variant
  · simp [Members.get?]
  · rw [List.forall₂_map_right_iff, List.forall₂_same]
    exact fun module member => Module.document_spelled (fits module member) (distinct module member)

theorem IsSpelledBy.cons_unknown {budget : Nat} {manifest : Manifest} {members : Members}
    (spelled : manifest.IsSpelledBy budget (.object members)) {key : String} (unknown : key ∉ keys)
    (value : Value) : manifest.IsSpelledBy budget (.object ((key, value) :: members)) := by
  cases spelled with
  | intro once modulePath moduleName publicPath variant found modules =>
      have passes {asked : String} (isKey : asked ∈ keys) :
          Members.get? asked ((key, value) :: members) = members.get? asked := by
        have differs : key ≠ asked := fun same => unknown (same ▸ isKey)
        simp [Members.get?, differs]
      refine .intro (fun asked isKey => ?_) ?_ ?_ ?_ ?_ ?_ modules
      · have differs : key ≠ asked := fun same => unknown (same ▸ isKey)
        simpa [Members.keys, List.count_cons, differs] using once asked isKey
      · rwa [passes (by decide)]
      · rwa [passes (by decide)]
      · rwa [passes (by decide)]
      · rwa [passes (by decide)]
      · rwa [passes (by decide)]

/-! The numbers of the document are those of the attributes. -/

end Manifest

theorem forall_mem_given {holds : String × Value → Prop} {key : String} {value : Option Value} :
    (∀ member ∈ given key value, holds member) ↔ ∀ content ∈ value, holds (key, content) := by
  cases value <;> simp [given]

section

variable {holds : Json.Number → Prop}

theorem Route.document_numbers {route : Route}
    (numbers : route.EachBag fun content => (Value.object content).EachNumber holds) :
    route.document.EachNumber holds := by
  induction numbers with
  | @intro route attributes _ ih =>
      obtain ⟨name, path, component, redirect, hidden, alwaysShow, bag, children, entry⟩ := route
      rw [Route.document, documents_eq]
      refine .object ?_
      simp only [List.forall_mem_append, List.forall_mem_cons, forall_mem_given, Option.mem_def,
        Option.map_eq_some_iff]
      refine ⟨⟨⟨⟨⟨⟨⟨.string _, .string _, .string _, by simp⟩, ?_⟩, ?_⟩, ?_⟩, ?_⟩, ?_⟩, ?_⟩
      · rintro _ ⟨word, _, rfl⟩
        exact .string word
      · rintro _ ⟨flag, _, rfl⟩
        exact .bool flag
      · rintro _ ⟨flag, _, rfl⟩
        exact .bool flag
      · rintro _ ⟨content, here, rfl⟩
        exact attributes content here
      · intro content here
        split at here
        · simp at here
        · obtain rfl := Option.some.inj here
          exact .array (List.forall_mem_map.mpr ih)
      · rintro _ ⟨flag, _, rfl⟩
        exact .bool flag

theorem Module.document_numbers {module : Module}
    (numbers : module.EachBag fun content => (Value.object content).EachNumber holds) :
    module.document.EachNumber holds := by
  refine .object ?_
  simp only [List.forall_mem_append, List.forall_mem_cons, forall_mem_given, Option.mem_def]
  refine ⟨⟨.string _, .string _, by simp⟩, ?_⟩
  intro content here
  split at here
  · simp at here
  · obtain rfl := Option.some.inj here
    exact .array (List.forall_mem_map.mpr fun route member =>
      Route.document_numbers (numbers route member))

end

namespace Manifest

theorem document_numbers {holds : Json.Number → Prop} {manifest : Manifest}
    (numbers : manifest.EachBag fun content => (Value.object content).EachNumber holds) :
    manifest.document.EachNumber holds := by
  refine .object ?_
  simp only [List.forall_mem_append, List.forall_mem_cons, forall_mem_given, Option.mem_def,
    Option.map_eq_some_iff]
  refine ⟨⟨⟨.string _, .string _, .string _, by simp⟩, ?_⟩, ?_, by simp⟩
  · rintro _ ⟨variant, _, rfl⟩
    exact .string _
  · exact .array (List.forall_mem_map.mpr fun module member =>
      Module.document_numbers (numbers module member))

/-- A manifest reads back from every document that spells it with no more brackets open at a time
than may be opened, and it is read from some document if and only if its routes are that shallow
and all its numbers can be read. -/
theorem reads_back (manifest : Manifest)
    (moduleNamed : Text.isBlankText manifest.moduleName = false)
    (named : ∀ module ∈ manifest.modules, DocumentPlace.nameFault? module.name = none)
    (distinct : manifest.KeysDistinct) :
    (∀ document text name, manifest.IsSpelledBy routeBudget document →
        Json.IsDocument document text → ofSource ⟨text, name⟩ = .ok manifest) ∧
      ((∃ source, ofSource source = .ok manifest) ↔ manifest.IsReadable routeBudget) := by
  have reads (document : Value) (text name : String)
      (spelled : manifest.IsSpelledBy routeBudget document)
      (written : Json.IsDocument document text) : ofSource ⟨text, name⟩ = .ok manifest :=
    ofSource_spelled moduleNamed named spelled written name
  refine ⟨reads, fun ⟨source, accepted⟩ => isReadable_of_accepted accepted, fun readable => ?_⟩
  have spelled : manifest.IsSpelledBy routeBudget manifest.document :=
    document_spelled (fun module member route inside => (readable module member route inside).fits)
      distinct
  obtain ⟨own, written⟩ := Json.exists_written <| document_numbers fun module member route inside =>
    (readable module member route inside).numbers
  exact ⟨⟨String.ofList own, fileName⟩, reads _ _ _ spelled written.isDocument⟩

theorem reads_back_beside_note :
    let half : Json.Number := .real ⟨false, ⟨4602678819172646912, by decide +kernel⟩⟩
    let child : Route := ⟨"B", "b", "b/Index", none, some true, none, none, [], none⟩
    let parent : Route :=
      ⟨"A", "a", "Layout", some "/a/b", none, some false,
        some [("title", .string "A"), ("order", .number (.integer 3)), ("ratio", .number half),
          ("tags", .array [.null])], [child], none⟩
    let manifest : Manifest := ⟨"/m", "sys", "/", some .nested, [⟨"demo", "demo", [parent]⟩]⟩
    Text.isBlankText manifest.moduleName = false ∧
      (∀ module ∈ manifest.modules, DocumentPlace.nameFault? module.name = none) ∧
      manifest.KeysDistinct ∧
      (∃ members, manifest.document = .object members ∧
        ofSource ⟨(Value.object (("note", .array [.null]) :: members)).compact, fileName⟩ =
          .ok manifest) ∧
      manifest.IsReadable routeBudget := by
  intro half child parent manifest
  have moduleNamed : Text.isBlankText manifest.moduleName = false := by decide
  have named : ∀ module ∈ manifest.modules, DocumentPlace.nameFault? module.name = none := by
    simp only [manifest, List.forall_mem_singleton]
    decide
  have eachBag {holds : Members → Prop} (here : ∀ content ∈ parent.attributes, holds content) :
      manifest.EachBag holds := by
    simp only [EachBag, Module.EachBag, manifest, List.forall_mem_singleton]
    refine .intro here ?_
    simp only [parent, List.forall_mem_singleton]
    exact .intro nofun nofun
  have distinct : manifest.KeysDistinct := by
    refine eachBag fun content same => ?_
    obtain rfl := Option.some.inj same
    refine .object (by decide) ?_
    simp only [List.forall_mem_cons, List.not_mem_nil, false_implies, implies_true, and_true]
    exact ⟨.string "A", .number _, .number _, .array (by simpa using .null)⟩
  have survives : half.Survives := by
    have digit {char : Char} (isDigit : char.isDigit = true) : Json.IsDigits [char] :=
      ⟨List.cons_ne_nil _ _, List.forall_mem_singleton.mpr isDigit⟩
    have formed : Json.Numeral.WellFormed ⟨['0'], some ['5'], none⟩ :=
      ⟨digit rfl, Or.inl rfl, fun _ fraction => Option.some.inj fraction ▸ digit rfl, by simp⟩
    have text : half.text.toList = Json.sign false ++ ['0', '.', '5'] := by decide +kernel
    exact Json.survives_of_isShort formed text ⟨by decide, by decide, rfl⟩
  have numbers : manifest.EachBag fun content =>
      (Value.object content).EachNumber Json.Number.Survives := by
    refine eachBag fun content same => ?_
    obtain rfl := Option.some.inj same
    refine .object ?_
    simp only [List.forall_mem_cons, List.not_mem_nil, false_implies, implies_true, and_true]
    exact ⟨.string "A", .number (Json.isSpelledBy_integer 3 (by decide)), .number survives,
      .array (by simpa using .null)⟩
  have fits : ∀ module ∈ manifest.modules, ∀ route ∈ module.routes,
      route.brackets ≤ routeBudget := by
    simp only [manifest, List.forall_mem_singleton]
    decide
  obtain ⟨reads, readable⟩ := reads_back manifest moduleNamed named distinct
  obtain ⟨members, same⟩ : ∃ members, manifest.document = .object members := ⟨_, rfl⟩
  have spelled := document_spelled fits distinct
  have document := document_numbers numbers
  rw [same] at spelled document
  cases document with
  | object inside =>
      have noted : (Value.object (("note", .array [.null]) :: members)).EachNumber
          Json.Number.Survives :=
        .object (List.forall_mem_cons.mpr ⟨.array (by simpa using .null), inside⟩)
      have accepted := reads _ _ fileName (spelled.cons_unknown (by decide) _)
        (Json.isDocument_compact noted)
      exact ⟨moduleNamed, named, distinct, ⟨members, same, accepted⟩, readable.mp ⟨_, accepted⟩⟩

/-- A route below 62 others is spelled by a document like any other, but it is not read from it. -/
theorem reads_back_fails_of_deep_routes :
    let leaf : Route := ⟨"a", "a", "Layout", none, none, none, none, [], none⟩
    let deep := Nat.repeat (fun route => { leaf with children := [route] }) 62 leaf
    let manifest : Manifest := ⟨"/m", "sys", "/", none, [⟨"demo", "demo", [deep]⟩]⟩
    Text.isBlankText manifest.moduleName = false ∧
      (∀ module ∈ manifest.modules, DocumentPlace.nameFault? module.name = none) ∧
      (∃ budget, manifest.IsSpelledBy budget manifest.document) ∧
      Json.IsDocument manifest.document manifest.document.compact ∧
      ofSource ⟨manifest.document.compact, fileName⟩ ≠ .ok manifest := by
  intro leaf deep manifest
  have brackets : deep.brackets = 125 := by decide +kernel
  have eachBag {holds : Members → Prop} : manifest.EachBag holds := by
    have each (count : Nat) :
        (Nat.repeat (fun route => { leaf with children := [route] }) count leaf).EachBag holds := by
      induction count with
      | zero => exact .intro nofun nofun
      | succ count ih => exact .intro nofun (List.forall_mem_singleton.mpr ih)
    simp only [EachBag, Module.EachBag, manifest, List.forall_mem_singleton]
    exact each 62
  have fits : ∀ module ∈ manifest.modules, ∀ route ∈ module.routes, route.brackets ≤ 125 := by
    simp only [manifest, List.forall_mem_singleton]
    exact brackets.le
  refine ⟨by decide, ?_, ⟨125, document_spelled fits eachBag⟩,
    Json.isDocument_compact (document_numbers eachBag), fun accepted => ?_⟩
  · simp only [manifest, List.forall_mem_singleton]
    decide
  · have readable := isReadable_of_accepted accepted
    simp only [IsReadable, Module.IsReadable, manifest, List.forall_mem_singleton] at readable
    have shallow := readable.fits
    rw [brackets] at shallow
    exact absurd shallow (by decide)

end Manifest

end RouteForge
