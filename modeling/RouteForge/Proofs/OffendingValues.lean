import RouteForge.Proofs.FoundPairs

/-!
What the diagnostic of a rejected document marks. An error of the checks is about one value of the
document, the module name or the name of one module, and it marks a text that looks like it: the
value of the first pair with that key and that string, wherever in the document it stands.
-/

namespace RouteForge

open Json (Place Fault)

namespace Manifest

/-! Where the names stand. -/

def nameAt (text : List Char) : Except Fault Place :=
  Json.fieldAt "module_name" 1 text

def moduleNameAt (index : Nat) (text : List Char) : Except Fault Place := do
  let modules ← Json.fieldAt "sub_modules" 4 text
  let item ← Json.elementAt index modules.value
  Json.fieldAt "module" 0 item

end Manifest

theorem required_ok {α : Type} {name : String} {value : Option α} {content : α}
    (done : required name value = .ok content) : value = some content := by
  cases value with
  | none => simp [required] at done
  | some other => exact congrArg some (Except.ok.inj done)

theorem ModuleDraft.name_of_finish {draft : ModuleDraft} {module : Module}
    (done : draft.finish = .ok module) : draft.name = some module.name := by
  obtain ⟨name, found, done⟩ := exists_of_bind_ok done
  obtain ⟨mtype, _, done⟩ := exists_of_bind_ok done
  obtain rfl := Except.ok.inj done
  exact required_ok found

theorem ManifestDraft.names_of_finish {draft : ManifestDraft} {manifest : Manifest}
    (done : draft.finish = .ok manifest) :
    draft.moduleName = some manifest.moduleName ∧ draft.modules = some manifest.modules := by
  obtain ⟨modulePath, _, done⟩ := exists_of_bind_ok done
  obtain ⟨moduleName, found, done⟩ := exists_of_bind_ok done
  obtain ⟨modules, foundModules, done⟩ := exists_of_bind_ok done
  obtain rfl := Except.ok.inj done
  exact ⟨required_ok found, required_ok foundModules⟩

theorem Module.hasNameSlot (budget : Nat) :
    Json.HasSlot (shape budget).fields 0 "module" false (·.name)
      (fun draft value => { draft with name := some value }) Json.text where
  here := rfl
  distinct := by simp [shape, Json.Field.of]
  stored := fun _ _ => rfl
  others := by
    intro field inside other draft
    simp only [shape, List.mem_cons, List.not_mem_nil, or_false] at inside
    rcases inside with rfl | rfl | rfl
    · exact absurd rfl other
    all_goals exact Json.field_ensures (Json.ensures_any _) fun _ _ => rfl

theorem Manifest.hasNameSlot (budget : Nat) :
    Json.HasSlot (shape budget).fields 1 "module_name" false (·.moduleName)
      (fun draft value => { draft with moduleName := some value }) Json.text where
  here := rfl
  distinct := by simp [shape, Json.Field.of]
  stored := fun _ _ => rfl
  others := by
    intro field inside other draft
    simp only [shape, List.mem_cons, List.not_mem_nil, or_false] at inside
    rcases inside with rfl | rfl | rfl | rfl | rfl
    case inr.inl => exact absurd rfl other
    all_goals exact Json.field_ensures (Json.ensures_any _) fun _ _ => rfl

theorem Manifest.hasModulesSlot (budget : Nat) :
    Json.HasSlot (shape budget).fields 4 "sub_modules" false (·.modules)
      (fun draft value => { draft with modules := some value })
      (Json.list budget (Module.read (budget - 1))) where
  here := rfl
  distinct := by simp [shape, Json.Field.of]
  stored := fun _ _ => rfl
  others := by
    intro field inside other draft
    simp only [shape, List.mem_cons, List.not_mem_nil, or_false] at inside
    rcases inside with rfl | rfl | rfl | rfl | rfl
    case inr.inr.inr.inr => exact absurd rfl other
    all_goals exact Json.field_ensures (Json.ensures_any _) fun _ _ => rfl

theorem Manifest.nameAt_of_read {budget : Nat} {input rest : List Char} {manifest : Manifest}
    (done : read budget input = .ok (manifest, rest)) :
    ∃ place left, nameAt input = .ok place ∧
      Json.text place.value = .ok (manifest.moduleName, left) :=
  Json.record_fieldAt (hasNameSlot _) (shape_alike _) rfl
    (fun _ _ finished => (ManifestDraft.names_of_finish finished).1) done

theorem Manifest.moduleNameAt_of_read {budget : Nat} {input rest : List Char} {manifest : Manifest}
    (done : read budget input = .ok (manifest, rest)) {index : Nat} {module : Module}
    (present : manifest.modules[index]? = some module) :
    ∃ place left, moduleNameAt index input = .ok place ∧
      Json.text place.value = .ok (module.name, left) := by
  obtain ⟨modules, _, found, reads⟩ := Json.record_fieldAt (hasModulesSlot _) (shape_alike _) rfl
    (fun _ _ finished => (ManifestDraft.names_of_finish finished).2) done
  obtain ⟨item, _, foundItem, readsItem⟩ := Json.list_elementAt (Module.read_alike _) reads present
  obtain ⟨place, left, foundName, readsName⟩ := Json.record_fieldAt (Module.hasNameSlot _)
    (Module.shape_alike _) rfl (fun _ _ => ModuleDraft.name_of_finish) readsItem
  refine ⟨place, left, ?_, readsName⟩
  simp [moduleNameAt, found, foundItem, foundName, bind, Except.bind]

theorem Manifest.moduleNameAt_isOf {index : Nat} {text : List Char} {place : Place}
    (done : moduleNameAt index text = .ok place) : place.IsOf text "module" := by
  obtain ⟨modules, found, done⟩ := exists_of_bind_ok done
  obtain ⟨item, foundItem, done⟩ := exists_of_bind_ok done
  exact (Json.fieldAt_isOf done).within
    ((Json.elementAt_suffix foundItem).trans (Json.fieldAt_isOf found).suffix)

/-! The checks. -/

theorem searchable_of_letter {key : String} (plain : '"' ∉ key.toList)
    (letter : ('"' :: key.toList).getLast? = some 'e') : Searchable key := by
  refine ⟨plain, fun last isLast => ?_⟩
  obtain rfl : 'e' = last := Option.some.inj (letter.symm.trans isLast)
  decide

theorem searchable_moduleName : Searchable "module_name" :=
  searchable_of_letter (by decide) (by decide)

theorem searchable_module : Searchable "module" :=
  searchable_of_letter (by decide) (by decide)

/-- The value that an error of the checks is about, and where it stands: the module name of the
document, or the name of the module that the error tells the index of. It is the first that does
not pass. -/
inductive ManifestError.IsAbout (source : Source) (manifest : Manifest) :
    ManifestError → String → String → Place → Prop
  | documentName {span : Option Span} {place : Place}
      (blank : Text.isBlankText manifest.moduleName = true)
      (stands : Manifest.nameAt source.text.toList = .ok place) :
      IsAbout source manifest (.invalid source span "'module_name' cannot be empty")
        "module_name" manifest.moduleName place
  | moduleName {span : Option Span} {place : Place} {index : Nat} {module : Module}
      {fault : NameFault} (named : Text.isBlankText manifest.moduleName = false)
      (earlier : ∀ earlier ∈ manifest.modules.take index,
        DocumentPlace.nameFault? earlier.name = none)
      (present : manifest.modules[index]? = some module)
      (faulty : DocumentPlace.nameFault? module.name = some fault)
      (stands : Manifest.moduleNameAt index source.text.toList = .ok place) :
      IsAbout source manifest (.moduleName source span module.name
        ("module in 'sub_modules[" ++ toString index ++ "]'") fault) "module" module.name place

theorem DocumentPlace.describe_module (source : Source) (index : Nat) :
    ((root source).push ("sub_modules[" ++ toString index ++ "]")).describe "module" =
      "module in 'sub_modules[" ++ toString index ++ "]'" := by
  rw [← String.toList_inj]
  simp [describe, push, root, path]

theorem Manifest.checkModules_error {source : Source} {start : Nat} {modules : List Module}
    {error : ManifestError}
    (rejected : checkModules (.root source) start modules = .error error) :
    ∃ index module fault, modules[index]? = some module ∧
      DocumentPlace.nameFault? module.name = some fault ∧
      (∀ earlier ∈ modules.take index, DocumentPlace.nameFault? earlier.name = none) ∧
      error = .moduleName source (Span.ofPair source.text.toList "module" module.name) module.name
        ("module in 'sub_modules[" ++ toString (start + index) ++ "]'") fault := by
  induction modules generalizing start with
  | nil => simp [checkModules] at rejected
  | cons module rest ih =>
      simp only [checkModules, bind, Except.bind, DocumentPlace.checkModuleName] at rejected
      cases faulty : DocumentPlace.nameFault? module.name with
      | some fault =>
          simp only [faulty] at rejected
          obtain rfl := Except.error.inj rejected
          refine ⟨0, module, fault, rfl, faulty, by simp, ?_⟩
          rw [DocumentPlace.describe_module]
          rfl
      | none =>
          simp only [faulty] at rejected
          obtain ⟨index, module', fault, present, faulty', earlier, same⟩ := ih rejected
          refine ⟨index + 1, module', fault, present, faulty', ?_, ?_⟩
          · rw [List.take_succ_cons, List.forall_mem_cons]
            exact ⟨faulty, earlier⟩
          · rw [same, Nat.add_right_comm, Nat.add_assoc]

theorem Manifest.check_error {source : Source} {manifest : Manifest} {rest : List Char}
    (read : read Json.bracketBudget source.text.toList = .ok (manifest, rest)) {error : ManifestError}
    (rejected : check source manifest = .error error) :
    ∃ key value place left, error.IsAbout source manifest key value place ∧
      place.IsOf source.text.toList key ∧ Searchable key ∧
      Json.text place.value = .ok (value, left) ∧
      error.span = Span.ofPair source.text.toList key value := by
  simp only [check, bind, Except.bind, DocumentPlace.checkNotBlank] at rejected
  cases blank : Text.isBlankText manifest.moduleName with
  | true =>
      simp only [blank, ↓reduceIte] at rejected
      obtain rfl := Except.error.inj rejected
      obtain ⟨place, left, stands, reads⟩ := nameAt_of_read read
      exact ⟨"module_name", manifest.moduleName, place, left, .documentName blank stands,
        Json.fieldAt_isOf stands, searchable_moduleName, reads, rfl⟩
  | false =>
      simp only [blank, Bool.false_eq_true, ↓reduceIte] at rejected
      obtain ⟨index, module, fault, present, faulty, earlier, rfl⟩ := checkModules_error rejected
      obtain ⟨place, left, stands, reads⟩ := moduleNameAt_of_read read present
      rw [Nat.zero_add]
      exact ⟨"module", module.name, place, left, .moduleName blank earlier present faulty stands,
        moduleNameAt_isOf stands, searchable_module, reads, rfl⟩

/-- A document that is read but rejected is rejected for one value in it. What the diagnostic
marks is the value of the first pair that is written like it, and so it is that value itself
exactly if the search comes to it first. -/
theorem Manifest.marks_offending_value_iff {source : Source} {error : ManifestError}
    (rejected : ofSource source = .error error) :
    (∃ fault, Json.readDocument (read Json.bracketBudget) source.text = .error fault ∧
      error = source.malformed fault) ∨
    ∃ manifest key value place left,
      Json.readDocument (read Json.bracketBudget) source.text = .ok manifest ∧
      error.IsAbout source manifest key value place ∧
      Json.text place.value = .ok (value, left) ∧
      (∀ span ∈ error.span, ∃ keyed shown,
        Span.IsFirst (Span.quotedKey key) (Json.literalChars value.toList) source.text.toList
          keyed shown ∧ span.Covers source.text.toList shown) ∧
      ((∃ span ∈ error.span, span.Covers source.text.toList (Json.skipSpace place.value)) ↔
        place.FoundFirst source.text.toList key value) := by
  cases document : Json.readDocument (read Json.bracketBudget) source.text with
  | error fault =>
      simp only [ofSource, document, Except.mapError, bind, Except.bind] at rejected
      exact .inl ⟨fault, rfl, (Except.error.inj rejected).symm⟩
  | ok manifest =>
      simp only [ofSource, document, Except.mapError, bind, Except.bind] at rejected
      obtain ⟨⟨found, rest⟩, reads, finished⟩ := exists_of_bind_ok (ok_of_mapError document)
      obtain ⟨_, _, finished⟩ := exists_of_bind_ok finished
      obtain rfl := Except.ok.inj finished
      cases checked : check source found with
      | ok _ => simp [checked, pure, Except.pure] at rejected
      | error failure =>
          simp only [checked] at rejected
          obtain rfl := Except.error.inj rejected
          obtain ⟨key, value, place, left, isAbout, isOf, searchable, readsText, span⟩ :=
            check_error reads checked
          refine .inr ⟨found, key, value, place, left, rfl, isAbout, readsText, ?_, ?_⟩
          · intro span' marked
            rw [span] at marked
            exact (Span.ofPair_eq_some_iff _ key value span').mp marked
          · rw [span]
            exact place.covers_iff isOf searchable

theorem Manifest.marks_offending_value_before_bag :
    let text := "\x7b\"module_path\":\"/m\",\"module_name\":\"sys\",\"sub_modules\":[" ++
      "\x7b\"module\":\"demo\",\"mtype\":\"a\"\x7d,\x7b\"module\":\"../up\",\"mtype\":\"b\"," ++
      "\"module_routes\":[\x7b\"name\":\"A\",\"path\":\"a\",\"component\":\"Layout\"," ++
      "\"meta\":\x7b\"module\":\"../up\"\x7d\x7d]\x7d]\x7d"
    ∃ error place, ofText text = .error error ∧
      error.message = "invalid module name '../up' in module in 'sub_modules[1]'" ∧
      moduleNameAt 1 text.toList = .ok place ∧
      ∃ span ∈ error.span, span.Covers text.toList (Json.skipSpace place.value) := by
  intro text
  obtain ⟨error, rejected, told⟩ := exists_error_of_fails (ofText text)
    (fun | .moduleName _ _ name context _ =>
            decide (name = "../up" ∧ context = "module in 'sub_modules[1]'")
         | _ => false)
    (by
      -- Part by part: the characters of a long text take far longer.
      simp only [text, ofText, ofSource, Json.readDocument, String.toList_append]
      decide +kernel)
  obtain ⟨place, stands, found⟩ := exists_ok_of_passes (moduleNameAt 1 text.toList)
    (fun place => Span.findPair (Span.quotedKey "module") (Json.literalChars "../up".toList) 0
      text.toList = some (Json.skipSpace place.value))
    (by
      simp only [text, String.toList_append]
      decide +kernel)
  clear_value text
  have first := (place.foundFirst_iff_findPair (moduleNameAt_isOf stands)
    searchable_module).mpr (of_decide_eq_true found)
  rcases marks_offending_value_iff rejected with
    ⟨fault, _, rfl⟩ | ⟨_, _, _, about, _, _, isAbout, _, _, marked⟩
  · simp [Source.malformed] at told
  · cases isAbout with
    | documentName => simp at told
    | @moduleName span _ index module fault _ _ _ _ standsThere =>
        simp only [decide_eq_true_eq] at told
        obtain ⟨named, context⟩ := told
        have context : "module in 'sub_modules[" ++ Nat.repr index ++ "]'" =
            "module in 'sub_modules[" ++ Nat.repr 1 ++ "]'" := context
        rw [String.append_left_inj, String.append_right_inj] at context
        obtain rfl : index = 1 := by
          have digits := congrArg (fun text => Nat.ofDigitChars 10 text.toList 0) context
          simpa only [Nat.toList_repr, Nat.ofDigitChars_ten_toDigits] using digits
        obtain rfl := Except.ok.inj (stands.symm.trans standsThere)
        rw [named] at marked
        refine ⟨_, place, rejected, ?_, stands, marked.mpr first⟩
        change "invalid module name '" ++ module.name ++ "' in " ++
          ("module in 'sub_modules[" ++ Nat.repr 1 ++ "]'") = _
        rw [named]
        decide +kernel

/-- The same pair in a bag of another module, before the module that is at fault: the bag is
marked. -/
theorem Manifest.marks_bag_before_offending_value :
    let text := "\x7b\"module_path\":\"/m\",\"module_name\":\"sys\",\"sub_modules\":[" ++
      "\x7b\"module\":\"demo\",\"mtype\":\"a\",\"module_routes\":[\x7b\"name\":\"A\"," ++
      "\"path\":\"a\",\"component\":\"Layout\",\"meta\":\x7b\"module\":\"../up\"\x7d\x7d]\x7d," ++
      "\x7b\"module\":\"../up\",\"mtype\":\"b\"\x7d]\x7d"
    ∃ error place, ofText text = .error error ∧
      error.message = "invalid module name '../up' in module in 'sub_modules[1]'" ∧
      error.span = some ⟨163, 5⟩ ∧ moduleNameAt 1 text.toList = .ok place ∧
      (∃ left, Json.text place.value = .ok ("../up", left)) ∧
      ¬Span.Covers ⟨163, 5⟩ text.toList (Json.skipSpace place.value) := by
  intro text
  obtain ⟨error, rejected, told⟩ := exists_error_of_fails (ofText text)
    (fun error => decide (error.message =
      "invalid module name '../up' in module in 'sub_modules[1]'" ∧ error.span = some ⟨163, 5⟩))
    (by
      simp only [text, ofText, ofSource, Json.readDocument, String.toList_append]
      decide +kernel)
  obtain ⟨message, span⟩ := of_decide_eq_true told
  obtain ⟨place, stands, places⟩ := exists_ok_of_passes (moduleNameAt 1 text.toList)
    (fun place => passes (fun read => read.1 = "../up") (Json.text place.value) &&
      decide (Text.byteCount text.toList + 1 ≠ 163 + Text.byteCount (Json.skipSpace place.value)))
    (by
      simp only [text, String.toList_append]
      decide +kernel)
  obtain ⟨named, apart⟩ := Bool.and_eq_true_iff.mp places
  obtain ⟨⟨name, left⟩, reads, same⟩ := exists_ok_of_passes _ _ named
  obtain rfl := of_decide_eq_true same
  refine ⟨error, place, rejected, message, span, stands, ⟨left, reads⟩, fun covers => ?_⟩
  exact of_decide_eq_true apart covers.offset.symm

end RouteForge
