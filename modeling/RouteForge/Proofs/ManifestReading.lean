import RouteForge.Manifest.Validation
import RouteForge.Proofs.RecordReading

/-!
A manifest reads back from the documents that spell it. The keys of an object may come in any order
and among others, which are passed over, however deep they are; what is read may have so many
brackets open at a time.
-/

namespace RouteForge

open Json (Value Members ReadsAs MaybeGiven DefaultGiven slot Field)

/-! Documents. -/

def IsText (content : String) (value : Value) : Prop :=
  value = .string content

def IsFlag (content : Bool) (value : Value) : Prop :=
  value = .bool content

structure IsBag (budget : Nat) (content : Members) (value : Value) : Prop where
  object : value = .object content
  distinct : value.KeysDistinct
  fits : value.brackets ≤ budget

def IsListOf {α : Type} (spells : α → Value → Prop) (contents : List α) (value : Value) : Prop :=
  ∃ values, value = .array values ∧ List.Forall₂ spells contents values

def IsVariantWord (variant : Variant) (value : Value) : Prop :=
  match variant with
  | .nested => value = .string "nested" ∨ value = .string "ruoyi"
  | .flat => value = .string "flat" ∨ value = .string "vue2"

/-- Keys that are asked for stand in an object once at most. -/
def AskedOnce (keys : List String) (members : Members) : Prop :=
  ∀ key ∈ keys, members.keys.count key ≤ 1

namespace Route

def keys : List String :=
  ["name", "path", "component", "redirect", "hidden", "alwaysShow", "meta", "children", "entry"]

/-- An object that spells a route, as its attributes and its children may be spelled. -/
inductive SpelledWith (budget : Nat) (spells : List Route → Value → Prop) (route : Route) :
    Value → Prop
  | intro {members : Members} (once : AskedOnce keys members)
      (name : members.get? "name" = some (.string route.name))
      (path : members.get? "path" = some (.string route.path))
      (component : members.get? "component" = some (.string route.component))
      (redirect : MaybeGiven IsText route.redirect (members.get? "redirect"))
      (hidden : MaybeGiven IsFlag route.hidden (members.get? "hidden"))
      (alwaysShow : MaybeGiven IsFlag route.alwaysShow (members.get? "alwaysShow"))
      (attributes : MaybeGiven (IsBag budget) route.attributes (members.get? "meta"))
      (children : DefaultGiven [] spells route.children (members.get? "children"))
      (entry : MaybeGiven IsFlag route.entry (members.get? "entry")) :
      SpelledWith budget spells route (.object members)

/-- The route is spelled by the value, in which so many brackets may be open at a time. -/
def IsSpelledBy : Nat → Route → Value → Prop
  | 0 => fun _ _ => False
  | 1 => SpelledWith 0 fun _ _ => False
  | budget + 2 => SpelledWith (budget + 1) (IsListOf (IsSpelledBy budget))

end Route

namespace Module

def keys : List String := ["module", "mtype", "module_routes"]

inductive IsSpelledBy (budget : Nat) (module : Module) : Value → Prop
  | intro {members : Members} (once : AskedOnce keys members)
      (name : members.get? "module" = some (.string module.name))
      (mtype : members.get? "mtype" = some (.string module.mtype))
      (routes : DefaultGiven [] (IsListOf (Route.IsSpelledBy budget)) module.routes
        (members.get? "module_routes")) : IsSpelledBy budget module (.object members)

end Module

namespace Manifest

def keys : List String := ["module_path", "module_name", "public_path", "variant", "sub_modules"]

inductive IsSpelledBy (budget : Nat) (manifest : Manifest) : Value → Prop
  | intro {members : Members} (once : AskedOnce keys members)
      (modulePath : members.get? "module_path" = some (.string manifest.modulePath))
      (moduleName : members.get? "module_name" = some (.string manifest.moduleName))
      (publicPath : DefaultGiven "/" IsText manifest.publicPath
        (members.get? "public_path"))
      (variant : MaybeGiven IsVariantWord manifest.variant (members.get? "variant"))
      {values : List Value} (found : members.get? "sub_modules" = some (.array values))
      (modules : List.Forall₂ (Module.IsSpelledBy budget) manifest.modules values) :
      IsSpelledBy budget manifest (.object members)

end Manifest

/-! Reading. -/

theorem isText_reads (content : String) (value : Value) (spelled : IsText content value) :
    ReadsAs Json.text value content ∧ value ≠ .null := by
  obtain rfl := spelled
  exact ⟨Json.text_reads content, by simp⟩

theorem isFlag_reads (content : Bool) (value : Value) (spelled : IsFlag content value) :
    ReadsAs Json.boolean value content ∧ value ≠ .null := by
  obtain rfl := spelled
  exact ⟨Json.boolean_reads content, by simp⟩

theorem isBag_reads {budget : Nat} (content : Members) (value : Value)
    (spelled : IsBag budget content value) :
    ReadsAs (Json.object budget) value content ∧ value ≠ .null := by
  obtain ⟨rfl, distinct, fits⟩ := spelled
  exact ⟨Json.object_reads fits distinct, by simp⟩

theorem isVariantWord_reads {budget : Nat} (content : Variant) (value : Value)
    (spelled : IsVariantWord content value) :
    ReadsAs (Variant.read budget) value content ∧ value ≠ .null := by
  cases content with
  | nested =>
      rcases spelled with rfl | rfl <;> exact ⟨Json.chosen_reads budget rfl, by simp⟩
  | flat =>
      rcases spelled with rfl | rfl <;> exact ⟨Json.chosen_reads budget rfl, by simp⟩

theorem list_reads {α : Type} {spells : α → Value → Prop} {read : Json.Reader α} {budget : Nat}
    (reads : ∀ content value, spells content value → ReadsAs read value content)
    (some : 0 < budget) (contents : List α) (value : Value) (spelled : IsListOf spells contents value) :
    ReadsAs (Json.list budget read) value contents := by
  obtain ⟨values, rfl, inside⟩ := spelled
  exact Json.list_reads some (inside.flip.imp fun value content => reads content value)

def RouteDraft.filled (route : Route) (keys : List String) : RouteDraft where
  name := slot keys "name" route.name
  path := slot keys "path" route.path
  component := slot keys "component" route.component
  redirect := slot keys "redirect" route.redirect
  hidden := slot keys "hidden" route.hidden
  alwaysShow := slot keys "alwaysShow" route.alwaysShow
  attributes := slot keys "meta" route.attributes
  children := slot keys "children" route.children
  entry := slot keys "entry" route.entry

namespace Route

variable {budget : Nat} {children : Json.Reader (List Route)} {route : Route}

theorem fills (budget : Nat) (children : Json.Reader (List Route)) (route : Route) :
    Json.Fills (shape budget children).fields (RouteDraft.filled route) := by
  refine ⟨by simp [shape, Field.of, RouteDraft.filled], fun keys key unknown => ?_⟩
  simp [shape, Field.of] at unknown
  simp [RouteDraft.filled, slot, unknown]

theorem spelledWith_reads {spells : List Route → Value → Prop} {value : Value}
    (reads : ∀ content value, spells content value → ReadsAs children value content)
    (spelled : SpelledWith budget spells route value) :
    ReadsAs (Json.record (budget + 1) (shape budget children)) value route := by
  cases spelled with
  | @intro members once name path component redirect hidden alwaysShow attributes inner entry =>
      refine Json.record_reads (fills budget children route) rfl ?_ ?_ ?_ budget
      · simpa [shape, Field.of, AskedOnce, keys] using once
      · intro field inside here value member keys
        simp only [shape, List.mem_cons, List.not_mem_nil, or_false] at inside
        rcases inside with rfl | rfl | rfl | rfl | rfl | rfl | rfl | rfl | rfl
        · exact Json.field_reads (Json.required_reads here member name (Json.text_reads _))
            (by simp [RouteDraft.filled, slot, Field.of])
        · exact Json.field_reads (Json.required_reads here member path (Json.text_reads _))
            (by simp [RouteDraft.filled, slot, Field.of])
        · exact Json.field_reads (Json.required_reads here member component (Json.text_reads _))
            (by simp [RouteDraft.filled, slot, Field.of])
        · exact Json.field_reads (Json.maybe_reads here member isText_reads redirect)
            (by simp [RouteDraft.filled, slot, Field.of])
        · exact Json.field_reads (Json.maybe_reads here member isFlag_reads hidden)
            (by simp [RouteDraft.filled, slot, Field.of])
        · exact Json.field_reads (Json.maybe_reads here member isFlag_reads alwaysShow)
            (by simp [RouteDraft.filled, slot, Field.of])
        · exact Json.field_reads (Json.maybe_reads here member isBag_reads attributes)
            (by simp [RouteDraft.filled, slot, Field.of])
        · exact Json.field_reads (Json.default_reads here member reads inner)
            (by simp [RouteDraft.filled, slot, Field.of])
        · exact Json.field_reads (Json.maybe_reads here member isFlag_reads entry)
            (by simp [RouteDraft.filled, slot, Field.of])
      · simp only [shape, RouteDraft.finish, RouteDraft.filled, Json.slot_of_get? name,
          Json.slot_of_get? path, Json.slot_of_get? component, Json.slot_maybe redirect,
          Json.slot_maybe hidden, Json.slot_maybe alwaysShow, Json.slot_maybe attributes,
          Json.slot_default inner, Json.slot_maybe entry]
        cases route
        rfl

theorem spelled_reads : ∀ {budget : Nat} {route : Route} {value : Value},
    IsSpelledBy budget route value → ReadsAs (Route.read budget) value route
  | 1, _, _, spelled => spelledWith_reads nofun spelled
  | budget + 2, _, _, spelled => by
      -- A generation takes two brackets off the budget: those of the list and of the object.
      refine spelledWith_reads ?_ spelled
      exact list_reads (fun _ _ => spelled_reads) (Nat.succ_pos budget)

end Route

def ModuleDraft.filled (module : Module) (keys : List String) : ModuleDraft where
  name := slot keys "module" module.name
  mtype := slot keys "mtype" module.mtype
  routes := slot keys "module_routes" module.routes

theorem Module.fills (budget : Nat) (module : Module) :
    Json.Fills (shape budget).fields (ModuleDraft.filled module) := by
  refine ⟨by simp [shape, Field.of, ModuleDraft.filled], fun keys key unknown => ?_⟩
  simp [shape, Field.of] at unknown
  simp [ModuleDraft.filled, slot, unknown]

theorem Module.spelled_reads {budget : Nat} (module : Module) (value : Value)
    (spelled : module.IsSpelledBy budget value) :
    ReadsAs (Module.read (budget + 2)) value module := by
  cases spelled with
  | @intro members once name mtype routes =>
      have routesRead := list_reads (fun _ _ => @Route.spelled_reads budget _ _) (Nat.succ_pos budget)
      refine Json.record_reads (module.fills (budget + 1)) rfl ?_ ?_ ?_ (budget + 1)
      · simpa [shape, Field.of, AskedOnce, Module.keys] using once
      · intro field inside here value member keys
        simp only [shape, List.mem_cons, List.not_mem_nil, or_false] at inside
        rcases inside with rfl | rfl | rfl
        · exact Json.field_reads (Json.required_reads here member name (Json.text_reads _))
            (by simp [ModuleDraft.filled, slot, Field.of])
        · exact Json.field_reads (Json.required_reads here member mtype (Json.text_reads _))
            (by simp [ModuleDraft.filled, slot, Field.of])
        · exact Json.field_reads (Json.default_reads here member routesRead routes)
            (by simp [ModuleDraft.filled, slot, Field.of])
      · simp only [shape, ModuleDraft.finish, ModuleDraft.filled, Json.slot_of_get? name,
          Json.slot_of_get? mtype, Json.slot_default routes]
        rfl

def ManifestDraft.filled (manifest : Manifest) (keys : List String) : ManifestDraft where
  modulePath := slot keys "module_path" manifest.modulePath
  moduleName := slot keys "module_name" manifest.moduleName
  publicPath := slot keys "public_path" manifest.publicPath
  variant := slot keys "variant" manifest.variant
  modules := slot keys "sub_modules" manifest.modules

theorem Manifest.fills (budget : Nat) (manifest : Manifest) :
    Json.Fills (shape budget).fields (ManifestDraft.filled manifest) := by
  refine ⟨by simp [shape, Field.of, ManifestDraft.filled], fun keys key unknown => ?_⟩
  simp [shape, Field.of] at unknown
  simp [ManifestDraft.filled, slot, unknown]

theorem Manifest.spelled_reads {budget : Nat} (manifest : Manifest) (value : Value)
    (spelled : manifest.IsSpelledBy budget value) :
    ReadsAs (Manifest.read (budget + 4)) value manifest := by
  cases spelled with
  | @intro members once modulePath moduleName publicPath variant values found modules =>
      have modulesRead := list_reads (@Module.spelled_reads budget) (Nat.succ_pos (budget + 2))
        manifest.modules (.array values) ⟨values, rfl, modules⟩
      refine Json.record_reads (manifest.fills (budget + 3)) rfl ?_ ?_ ?_ (budget + 3)
      · simpa [shape, Field.of, AskedOnce, Manifest.keys] using once
      · intro field inside here value member keys
        simp only [shape, List.mem_cons, List.not_mem_nil, or_false] at inside
        rcases inside with rfl | rfl | rfl | rfl | rfl
        · exact Json.field_reads (Json.required_reads here member modulePath (Json.text_reads _))
            (by simp [ManifestDraft.filled, slot, Field.of])
        · exact Json.field_reads (Json.required_reads here member moduleName (Json.text_reads _))
            (by simp [ManifestDraft.filled, slot, Field.of])
        · exact Json.field_reads (Json.default_reads here member
            (fun content value spelled => (isText_reads content value spelled).1) publicPath)
            (by simp [ManifestDraft.filled, slot, Field.of])
        · exact Json.field_reads (Json.maybe_reads here member isVariantWord_reads variant)
            (by simp [ManifestDraft.filled, slot, Field.of])
        · exact Json.field_reads (Json.required_reads here member found modulesRead)
            (by simp [ManifestDraft.filled, slot, Field.of])
      · simp only [shape, ManifestDraft.finish, ManifestDraft.filled, defaultPublicPath,
          Json.slot_of_get? modulePath, Json.slot_of_get? moduleName, Json.slot_default publicPath,
          Json.slot_maybe variant, Json.slot_of_get? found]
        rfl

/-! Whole documents. -/

namespace Manifest

/-- How many brackets may be open within a route: of 127 in all, four are around it. -/
def routeBudget : Nat := 123

theorem checkModules_ok {modules : List Module}
    (named : ∀ module ∈ modules, DocumentPlace.nameFault? module.name = none)
    (place : DocumentPlace) (index : Nat) : checkModules place index modules = .ok () := by
  induction modules generalizing index with
  | nil => rfl
  | cons module rest ih =>
      rw [List.forall_mem_cons] at named
      simp only [checkModules, DocumentPlace.checkModuleName, named.1, bind, Except.bind]
      exact ih named.2 (index + 1)

theorem ofSource_spelled {manifest : Manifest}
    (moduleNamed : Text.isBlankText manifest.moduleName = false)
    (named : ∀ module ∈ manifest.modules, DocumentPlace.nameFault? module.name = none)
    {document : Value} (spelled : manifest.IsSpelledBy routeBudget document) {text : String}
    (written : Json.IsDocument document text) (name : String) :
    ofSource ⟨text, name⟩ = .ok manifest := by
  have read := Json.readDocument_written (spelled_reads manifest document spelled) written
  rw [show routeBudget + 4 = Json.bracketBudget from rfl] at read
  have checked : check ⟨text, name⟩ manifest = .ok () := by
    simp [check, DocumentPlace.checkNotBlank, moduleNamed, checkModules_ok named, bind, Except.bind]
  rw [ofSource, read]
  change (do check ⟨text, name⟩ manifest; return manifest) = .ok manifest
  rw [checked]
  rfl

end Manifest

end RouteForge
