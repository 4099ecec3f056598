import Mathlib.Data.Finset.Card
import RouteForge.Proofs.AcceptedManifests
import RouteForge.Run

/-!
The gate before a run. Only a repeated discriminator is an error, so a manifest passes if and only
if its discriminators are distinct; what is reported are the entries that repeat one, in order, each
with the first entry that uses it, and there are as many as entries beyond the first of their kind.
-/

namespace RouteForge

namespace Rule

/-- The entries whose discriminator an earlier entry has, each with the first that has it. -/
def repeatedUses (modules : List Module) : List (Module × Module) :=
  modules.zipIdx.filterMap fun (module, index) =>
    ((modules.take index).find? fun earlier => earlier.mtype = module.mtype).map (module, ·)

def repeatFinding (use : Module × Module) : Finding :=
  .repeatedMtype use.1.mtype use.1.name use.2.name

def usesAfter (seen : List Module) : List Module → List (Module × Module)
  | [] => []
  | module :: rest =>
      ((seen.find? fun earlier => earlier.mtype = module.mtype).map (module, ·)).toList ++
        usesAfter (seen ++ [module]) rest

theorem usesAfter_eq (seen modules : List Module) :
    usesAfter seen modules =
      (modules.zipIdx seen.length).filterMap fun (module, index) =>
        (((seen ++ modules).take index).find? fun earlier => earlier.mtype = module.mtype).map
          (module, ·) := by
  induction modules generalizing seen with
  | nil => rfl
  | cons module rest ih =>
      have later := ih (seen ++ [module])
      rw [List.append_assoc, List.singleton_append, List.length_append, List.length_singleton]
        at later
      rw [usesAfter, later, List.zipIdx_cons, List.filterMap_cons]
      simp only [List.take_left]
      cases seen.find? fun earlier => earlier.mtype = module.mtype <;> rfl

theorem repeatedUses_eq (modules : List Module) : repeatedUses modules = usesAfter [] modules :=
  (usesAfter_eq [] modules).symm

theorem repeatedMtypes_eq {firstUsers : List (String × String)} {seen : List Module}
    (known : ∀ mtype, firstUsers.lookup mtype =
      (seen.find? fun earlier => earlier.mtype = mtype).map Module.name)
    (modules : List Module) :
    repeatedMtypes firstUsers modules = (usesAfter seen modules).map repeatFinding := by
  -- The first users by name are those of the entries seen.
  induction modules generalizing firstUsers seen with
  | nil => rfl
  | cons module rest ih =>
      rw [repeatedMtypes, usesAfter, known]
      cases found : seen.find? fun earlier => earlier.mtype = module.mtype with
      | some first =>
          have knownAfter (mtype : String) : firstUsers.lookup mtype =
              ((seen ++ [module]).find? fun earlier => earlier.mtype = mtype).map Module.name := by
            rw [known, List.find?_append]
            by_cases same : module.mtype = mtype
            · subst same
              simp [found]
            · simp [same]
          simp [ih knownAfter, repeatFinding]
      | none =>
          have knownAfter (mtype : String) :
              ((module.mtype, module.name) :: firstUsers).lookup mtype =
                ((seen ++ [module]).find? fun earlier => earlier.mtype = mtype).map Module.name := by
            rw [List.lookup_cons, known, List.find?_append]
            by_cases same : module.mtype = mtype
            · subst same
              simp [found]
            · have other : (mtype == module.mtype) = false := beq_eq_false_iff_ne.mpr (Ne.symm same)
              simp [same, other]
          simp [ih knownAfter]

theorem findings_duplicateMtype (manifest : Manifest) (variant : Variant) :
    findings .duplicateMtype manifest variant = (repeatedUses manifest.modules).map repeatFinding := by
  have nothing (mtype : String) : List.lookup mtype ([] : List (String × String)) =
      (([] : List Module).find? fun earlier => earlier.mtype = mtype).map Module.name := rfl
  rw [findings, repeatedMtypes_eq nothing, repeatedUses_eq]

theorem length_usesAfter (seen modules : List Module) :
    (usesAfter seen modules).length + ((seen ++ modules).map Module.mtype).toFinset.card =
      (seen.map Module.mtype).toFinset.card + modules.length := by
  induction modules generalizing seen with
  | nil => simp [usesAfter]
  | cons module rest ih =>
      have later := ih (seen ++ [module])
      rw [List.append_assoc, List.singleton_append] at later
      have inserted : ((seen ++ [module]).map Module.mtype).toFinset =
          insert module.mtype (seen.map Module.mtype).toFinset := by
        simp [List.toFinset_append, Finset.union_comm]
      rw [inserted] at later
      rw [usesAfter, List.length_append, List.length_cons]
      cases found : seen.find? fun earlier => earlier.mtype = module.mtype with
      | some first =>
          have member : module.mtype ∈ (seen.map Module.mtype).toFinset := by
            rw [List.mem_toFinset, List.mem_map]
            exact ⟨first, List.mem_of_find?_eq_some found, by simpa using List.find?_some found⟩
          rw [Finset.insert_eq_of_mem member] at later
          simp only [Option.map_some, Option.toList_some, List.length_singleton]
          omega
      | none =>
          have fresh : module.mtype ∉ (seen.map Module.mtype).toFinset := by
            rw [List.mem_toFinset, List.mem_map]
            rintro ⟨earlier, member, same⟩
            have differs := List.find?_eq_none.mp found earlier member
            simp [same] at differs
          rw [Finset.card_insert_of_notMem fresh] at later
          simp only [Option.map_none, Option.toList_none, List.length_nil]
          omega

theorem length_repeatedUses (modules : List Module) :
    (repeatedUses modules).length =
      modules.length - (modules.map Module.mtype).toFinset.card := by
  have counted := length_usesAfter [] modules
  rw [← repeatedUses_eq] at counted
  simp only [List.nil_append, List.map_nil, List.toFinset_nil, Finset.card_empty, Nat.zero_add]
    at counted
  omega

theorem repeatedUses_eq_nil_iff (modules : List Module) :
    repeatedUses modules = [] ↔ (modules.map Module.mtype).Nodup := by
  have fewer := (modules.map Module.mtype).toFinset_card_le
  rw [← List.length_eq_zero_iff, length_repeatedUses]
  constructor
  · intro nothing
    have all : (modules.map Module.mtype).dedup.length = (modules.map Module.mtype).length := by
      rw [← List.card_toFinset]
      rw [List.length_map] at fewer ⊢
      omega
    exact List.dedup_eq_self.mp ((List.dedup_sublist _).eq_of_length all)
  · intro distinct
    rw [List.toFinset_card_of_nodup distinct, List.length_map, Nat.sub_self]

theorem isError_repeatedModules {seen : List String} {modules : List Module} {finding : Finding}
    (member : finding ∈ repeatedModules seen modules) : finding.isError = false := by
  induction modules generalizing seen with
  | nil => simp [repeatedModules] at member
  | cons module rest ih =>
      rw [repeatedModules] at member
      split at member
      · rcases List.mem_cons.mp member with rfl | later
        · rfl
        · exact ih later
      · exact ih member

theorem isError_findings {rule : Rule} (other : rule ≠ .duplicateMtype) {manifest : Manifest}
    {variant : Variant} {finding : Finding} (member : finding ∈ rule.findings manifest variant) :
    finding.isError = false := by
  cases rule with
  | duplicateMtype => exact (other rfl).elim
  | duplicateModule => exact isError_repeatedModules member
  | emptyRoutes =>
      obtain ⟨module, _, rfl⟩ := List.mem_map.mp member
      rfl
  | layoutLeaf =>
      obtain ⟨module, _, found⟩ := List.mem_flatMap.mp member
      obtain ⟨route, _, rfl⟩ := List.mem_map.mp found
      rfl
  | flatChildren =>
      rw [findings] at member
      split at member
      · simp at member
      · obtain ⟨module, _, found⟩ := List.mem_flatMap.mp member
        obtain ⟨route, _, rfl⟩ := List.mem_map.mp found
        rfl

end Rule

namespace Manifest

theorem errors_findings (manifest : Manifest) (variant : Variant) :
    (manifest.findings variant).filter Finding.isError =
      (Rule.repeatedUses manifest.modules).map Rule.repeatFinding := by
  have warnings (rule : Rule) (other : rule ≠ .duplicateMtype) :
      (rule.findings manifest variant).filter Finding.isError = [] :=
    List.filter_eq_nil_iff.mpr fun finding member => by
      simp [Rule.isError_findings other member]
  have errors : ((Rule.repeatedUses manifest.modules).map Rule.repeatFinding).filter
      Finding.isError = (Rule.repeatedUses manifest.modules).map Rule.repeatFinding :=
    List.filter_eq_self.mpr fun finding member => by
      obtain ⟨use, _, rfl⟩ := List.mem_map.mp member
      rfl
  rw [findings, List.filter_flatMap, Rule.all]
  simp only [List.flatMap_cons, List.flatMap_nil, Rule.findings_duplicateMtype, errors,
    warnings .duplicateModule (by simp), warnings .emptyRoutes (by simp),
    warnings .layoutLeaf (by simp), warnings .flatChildren (by simp), List.append_nil]

theorem validate_error_iff (manifest : Manifest) (variant : Variant) (failure : ValidationFailure) :
    manifest.validate variant = .error failure ↔
      ¬(manifest.modules.map Module.mtype).Nodup ∧
        failure.messages =
          (Rule.repeatedUses manifest.modules).map fun use => (Rule.repeatFinding use).message := by
  obtain ⟨messages⟩ := failure
  rw [← Rule.repeatedUses_eq_nil_iff, validate, verdict]
  simp only [errors_findings, List.isEmpty_iff, List.map_eq_nil_iff, List.map_map]
  split
  · next passed => simp [passed]
  · next failed =>
      simp only [Except.error.injEq, ValidationFailure.mk.injEq, failed, not_false_eq_true, true_and]
      exact eq_comm

theorem run_of_invalid {manifest : Manifest} {options : RunOptions} {failure : ValidationFailure}
    (invalid : manifest.validate (options.variant.getD manifest.effectiveVariant) = .error failure)
    (disk : Disk) : manifest.run options disk = (.error (.validation failure), disk) := by
  simp only [run, invalid]

theorem run_of_valid {manifest : Manifest} {options : RunOptions} {findings : List Finding}
    (valid : manifest.validate (options.variant.getD manifest.effectiveVariant) = .ok findings)
    (disk : Disk) :
    let bundled := manifest.runBundle options (manifest.runModules
      (options.variant.getD manifest.effectiveVariant) options disk).2
    (manifest.run options disk).2 = bundled.2 ∧
      ∀ error, (manifest.run options disk).1 = .error error ↔ bundled.1 = .error error := by
  simp only [run, valid]
  generalize manifest.runBundle options _ = bundled
  obtain ⟨result, after⟩ := bundled
  cases result with
  | error error => simp
  | ok bundle => simp

theorem runBundle_not_validation (manifest : Manifest) (options : RunOptions) (disk : Disk)
    (failure : ValidationFailure) :
    (manifest.runBundle options disk).1 ≠ .error (.validation failure) := by
  rw [runBundle]
  split
  · split
    · simp
    · split
      · simp
      · split <;> simp
  · simp

theorem run_validation_iff (manifest : Manifest) (options : RunOptions) (disk : Disk)
    (failure : ValidationFailure) :
    (manifest.run options disk).1 = .error (.validation failure) ↔
      manifest.validate (options.variant.getD manifest.effectiveVariant) = .error failure := by
  cases checked : manifest.validate (options.variant.getD manifest.effectiveVariant) with
  | error found => simp [run_of_invalid checked]
  | ok findings =>
      rw [(run_of_valid checked disk).2]
      simp [runBundle_not_validation]

/-- A run ends with a validation failure if and only if two entries have one discriminator. It has
changed nothing then, and the failure names, in order, each entry that repeats a discriminator, with
the module of the first entry that has it: as many as there are entries beyond distinct ones. -/
theorem run_validation_gate (manifest : Manifest) (options : RunOptions) (disk : Disk) :
    ((∃ failure, (manifest.run options disk).1 = .error (.validation failure)) ↔
        ¬(manifest.modules.map Module.mtype).Nodup) ∧
      ∀ failure, (manifest.run options disk).1 = .error (.validation failure) →
        (manifest.run options disk).2 = disk ∧
          failure.messages = (Rule.repeatedUses manifest.modules).map (fun use =>
            "duplicate mtype '" ++ use.1.mtype ++ "' in module '" ++ use.1.name ++
              "' (already used by module '" ++ use.2.name ++ "')") ∧
          failure.messages.length =
            manifest.modules.length - (manifest.modules.map Module.mtype).toFinset.card ∧
          (RunError.validation failure).chain = ["Validation failed",
            "validation failed with " ++ toString failure.messages.length ++ " error(s): " ++
              "; ".intercalate failure.messages] := by
  refine ⟨?_, fun failure failed => ?_⟩
  · simp only [run_validation_iff, validate_error_iff]
    constructor
    · rintro ⟨_, repeated, _⟩
      exact repeated
    · intro repeated
      exact ⟨⟨_⟩, repeated, rfl⟩
  · have invalid := (run_validation_iff manifest options disk failure).mp failed
    have messages := ((validate_error_iff manifest _ failure).mp invalid).2
    refine ⟨by rw [run_of_invalid invalid], messages, ?_, rfl⟩
    rw [messages, List.length_map, Rule.length_repeatedUses]

theorem run_validation_gate_of_three_users :
    let document := "\x7b\"module_path\": \"/m\", \"module_name\": \"sys\", \"sub_modules\": [" ++
      "\x7b\"module\": \"x\", \"mtype\": \"t\"\x7d, \x7b\"module\": \"y\", \"mtype\": \"t\"\x7d, " ++
      "\x7b\"module\": \"z\", \"mtype\": \"other\"\x7d, \x7b\"module\": \"x\", \"mtype\": \"t\"\x7d]\x7d"
    let options : RunOptions := ⟨"out", some .flat, false, true, none⟩
    ∃ manifest failure, ofSource ⟨document, fileName⟩ = .ok manifest ∧
      (manifest.run options .empty).1 = .error (.validation failure) ∧
      (manifest.run options .empty).2 = .empty ∧
      failure.messages = [
        "duplicate mtype 't' in module 'y' (already used by module 'x')",
        "duplicate mtype 't' in module 'x' (already used by module 'x')"] := by
  intro document options
  obtain ⟨manifest, accepted, checked⟩ := exists_ok_of_passes (ofSource ⟨document, fileName⟩)
    (fun manifest => ¬(manifest.modules.map Module.mtype).Nodup ∧
      (Rule.repeatedUses manifest.modules).map (fun use =>
        "duplicate mtype '" ++ use.1.mtype ++ "' in module '" ++ use.1.name ++
          "' (already used by module '" ++ use.2.name ++ "')") = [
        "duplicate mtype 't' in module 'y' (already used by module 'x')",
        "duplicate mtype 't' in module 'x' (already used by module 'x')"])
    (by decide +kernel)
  obtain ⟨repeated, messages⟩ := of_decide_eq_true checked
  obtain ⟨fails, report⟩ := run_validation_gate manifest options .empty
  obtain ⟨failure, failed⟩ := fails.mpr repeated
  obtain ⟨same, names, _⟩ := report failure failed
  exact ⟨manifest, failure, accepted, failed, same, names.trans messages⟩

end Manifest

end RouteForge
