import RouteForge.Proofs.Layering
import RouteForge.Proofs.ModuleTargets
import RouteForge.Proofs.NameVerdicts
import RouteForge.Proofs.RunSummary

/-!
The entries of a bundle and the files of a run. A bundle composes the path of an entry from a module's
name, a run composes it when it writes the module; both come to one text, and no layer without entries
of its own changes them.
-/

namespace RouteForge

open Json (Value Members)

namespace Json

theorem get?_mergeMembers_of_notMem {key : String} {upper : Members} (absent : key ∉ upper.keys)
    (lower : Members) : (mergeMembers lower upper).get? key = lower.get? key := by
  induction upper generalizing lower with
  | nil => rw [mergeMembers]
  | cons member rest ih =>
      obtain ⟨name, value⟩ := member
      obtain ⟨other, absentRest⟩ := not_or.mp (List.mem_cons.not.mp absent)
      rw [mergeMembers_cons, ih absentRest, Members.get?_put, if_neg other]

theorem at?_merge_of_notMem {key : String} {upper : Value} (object : upper.isObject = true)
    (absent : key ∉ upper.members.keys) (lower : Value) :
    (merge lower upper).at? [key] = lower.at? [key] := by
  cases upper with
  | object members =>
      have missing : Members.get? key members = none := Members.get?_eq_none_iff.mpr absent
      cases lower with
      | object others =>
          have kept := get?_mergeMembers_of_notMem absent others
          rw [Value.members] at kept
          rw [merge, Value.at?, Value.at?, Value.members, Value.members, kept]
      | _ => simp [merge, Value.at?, Value.members, missing, Members.get?]
  | _ => simp [Value.isObject] at object

namespace Members

variable (value : String → Value) (names : List String)

theorem keys_foldl_put :
    (names.foldl (fun members name => put name (value name) members) []).keys =
      names.eraseDups := by
  -- From the end: the last name is a new key if and only if none before it is the same.
  induction names using List.reverseRecOn with
  | nil => rfl
  | append_singleton names last ih =>
      rw [List.foldl_concat, keys_put, ih, eraseDups_concat]
      simp only [List.mem_eraseDups]

theorem get?_foldl_put {name : String} (member : name ∈ names) :
    get? name (names.foldl (fun members name => put name (value name) members) []) =
      some (value name) := by
  induction names using List.reverseRecOn with
  | nil => simp at member
  | append_singleton names last ih =>
      rw [List.foldl_concat, get?_put]
      split
      · next same => rw [same]
      · next other => exact ih (by simpa [other] using member)

end Members

end Json

/-! The entry point among the files of a module. -/

def WriteResult.isNamed (name : String) (result : WriteResult) : Bool :=
  decide ((Path.components result.path).getLast? = some (.name name.toList))

namespace Module

variable {manifest : Manifest} {variant : Variant} {base : String} {module : Module}

theorem isNamed_of_placed {artifact : Artifact} (own : artifact.name ∈ fileNames variant)
    {directory : String} {before after : Disk} {result : WriteResult}
    (placed : artifact.Placed directory before after result) (name : String) :
    result.isNamed name =
      decide ((Path.pieces artifact.name.toList).getLast? = some name.toList) := by
  have down := downward_own own
  obtain ⟨front, last, ends⟩ : ∃ front last, Path.pieces artifact.name.toList = front ++ [last] :=
    ⟨_, _, (List.dropLast_append_getLast down.nonempty).symm⟩
  have named : Disk.isName last = true := down.named last (by simp [ends])
  have lastComponent : Path.innerComponents [last] = [.name last] := by
    simp [Path.innerComponents, Path.innerComponent?_of_isName named]
  rw [WriteResult.isNamed, placed.path_eq, Artifact.path, Path.components_join_down directory down,
    ends, Path.innerComponents_append, lastComponent, ← List.append_assoc, List.getLast?_concat,
    List.getLast?_concat]
  simp

theorem entryPoint_of_written {disk : Disk} {results : List WriteResult}
    (wrote : (module.generate manifest variant base disk).1.status = .written results) :
    results.filter (WriteResult.isNamed Artifact.entryPointName) =
      [.written (Path.join (module.directory base) Artifact.entryPointName)] := by
  obtain ⟨artifacts, prepared, after, made, placed⟩ := placed_of_written wrote
  have own : ∀ artifact ∈ artifacts, artifact.name ∈ fileNames variant := fun artifact member =>
    names_of_artifacts made ▸ List.mem_map_of_mem member
  obtain ⟨table, rfl⟩ := artifacts_cases made
  simp only [List.forall_mem_cons] at own
  obtain ⟨tableOwn, entryOwn, requestOwn, _⟩ := own
  simp only [List.forall₂_cons_left_iff, List.forall₂_nil_left_iff] at placed
  obtain ⟨ofTable, _, tablePlaced, ⟨ofEntry, _, entryPlaced, ⟨ofRequest, _, requestPlaced, rfl, rfl⟩,
    rfl⟩, rfl⟩ := placed
  have tableOther : ofTable.isNamed Artifact.entryPointName = false := by
    rw [isNamed_of_placed tableOwn tablePlaced]
    exact (by decide : decide ((Path.pieces RouteTable.fileName.toList).getLast? =
      some Artifact.entryPointName.toList) = false)
  have entryNamed : ofEntry.isNamed Artifact.entryPointName = true := by
    rw [isNamed_of_placed entryOwn entryPlaced]
    exact (by decide : decide ((Path.pieces Artifact.entryPointName.toList).getLast? =
      some Artifact.entryPointName.toList) = true)
  have requestOther : ofRequest.isNamed Artifact.entryPointName = false := by
    rw [isNamed_of_placed requestOwn requestPlaced]
    cases variant <;> decide
  have entryWritten : ofEntry =
      .written (Path.join (module.directory base) Artifact.entryPointName) := by
    cases entryPlaced with
    | written _ => rfl
    | skipped once => cases once
  rw [entryWritten] at entryNamed
  simp [tableOther, entryNamed, requestOther, entryWritten]

end Module

namespace Bundle

theorem keys_entries (bundle : Bundle) : bundle.entries.keys = bundle.modules.eraseDups :=
  Members.keys_foldl_put _ bundle.modules

theorem get?_entries (bundle : Bundle) {module : String} (member : module ∈ bundle.modules) :
    bundle.entries.get? module = some (.string (bundle.entryPath module)) :=
  Members.get?_foldl_put (fun module => .string (bundle.entryPath module)) bundle.modules member

theorem at?_entry (bundle : Bundle)
    (layer : ∀ user, bundle.user = some user →
      user.isObject = true ∧ "entry" ∉ user.members.keys) :
    bundle.value.at? ["entry"] = some (.object bundle.entries) := by
  have kept (user : Value) (object : user.isObject = true) (absent : "entry" ∉ user.members.keys) :
      (bundle.withUser user).value.at? ["entry"] = some (.object bundle.entries) := by
    rw [value_withUser, Json.at?_merge_of_notMem rfl (by decide +kernel),
      Json.at?_merge_of_notMem object absent]
    rfl
  cases chosen : bundle.user with
  | none =>
      have nothing : bundle.value = (bundle.withUser (.object [])).value := by
        simp only [value, chosen]
        rfl
      rw [nothing]
      exact kept (.object []) rfl (by simp [Value.members, Members.keys])
  | some user =>
      have same : bundle.withUser user = bundle := by
        rw [withUser, ← chosen]
      rw [← same]
      exact kept user (layer user chosen).1 (layer user chosen).2

end Bundle

namespace Manifest

/-- Unless the user's layer has entries, a bundle has one entry for every module name, in the order in
which names came first, and at the name of every module that a run wrote there is the path that the run
reported for the module's entry point. -/
theorem entries_are_written (base : String) (manifest : Manifest) (user : Option Value)
    (layer : ∀ value, user = some value →
      value.isObject = true ∧ "entry" ∉ value.members.keys) :
    let bundle := { Bundle.ofManifest base manifest with user }
    let names := manifest.modules.map Module.name
    ∃ entries : Members, bundle.value.at? ["entry"] = some (.object entries) ∧
      entries.keys.Nodup ∧ (∀ name, name ∈ entries.keys ↔ name ∈ names) ∧
      InOrderOf names entries.keys ∧
      ∀ variant disk, ∀ outcome ∈ (manifest.generate variant base disk).1,
        ∀ results, outcome.status = .written results →
          ∃ path, results.filter (WriteResult.isNamed Artifact.entryPointName) = [.written path] ∧
            entries.get? outcome.module = some (.string path) := by
  intro bundle names
  have keys : bundle.entries.keys = names.eraseDups := bundle.keys_entries
  have ordered : InOrderOf names bundle.entries.keys := keys ▸ inOrderOf_eraseDups names
  refine ⟨bundle.entries, bundle.at?_entry layer, ?_, fun name => ?_, ordered, ?_⟩
  · exact List.nodup_iff_pairwise_ne.mpr
      (ordered.imp fun before same => absurd (same ▸ before) (Nat.lt_irrefl _))
  · rw [keys, List.mem_eraseDups]
  · intro variant disk outcome member results wrote
    obtain ⟨module, known, before, rfl⟩ :=
      exists_of_mem_right (generateFrom_outcomes manifest variant base disk) member
    refine ⟨_, Module.entryPoint_of_written wrote, ?_⟩
    rw [(module.generate_isOf manifest variant base before).named]
    exact bundle.get?_entries (List.mem_map_of_mem known)

theorem entries_are_written_of_repeated_name :
    let document := "\x7b\"module_path\": \"/m\", \"module_name\": \"sys\", \"sub_modules\": [" ++
      "\x7b\"module\": \"x\", \"mtype\": \"a\", \"module_routes\": [" ++
      "\x7b\"name\": \"class\", \"path\": \"p\", \"component\": \"p\"\x7d]\x7d, " ++
      "\x7b\"module\": \"y\", \"mtype\": \"b\"\x7d, \x7b\"module\": \"x\", \"mtype\": \"c\"\x7d]\x7d"
    let user : Value := .object [("plugins", .array [.string "own"])]
    let again : Outcome := ⟨"x", "out/x",
      .written [.written "out/x/.config.js", .written "out/x/.index.js", .written "out/x/api.js"]⟩
    ∃ manifest, ∃ entries : Members, ofSource ⟨document, fileName⟩ = .ok manifest ∧
      ((Bundle.ofManifest "out/" manifest).withUser user).value.at? ["entry"] =
        some (.object entries) ∧
      InOrderOf ["x", "y", "x"] entries.keys ∧
      again ∈ (manifest.generate .flat "out/" .empty).1 ∧
      entries.get? "x" = some (.string "out/x/.index.js") := by
  intro document user again
  obtain ⟨manifest, accepted, checked⟩ := exists_ok_of_passes (ofSource ⟨document, fileName⟩)
    (fun manifest => manifest.modules.map Module.name = ["x", "y", "x"] ∧
      again ∈ (manifest.generate .flat "out/" .empty).1)
    (by decide +kernel)
  obtain ⟨names, member⟩ := of_decide_eq_true checked
  obtain ⟨entries, entry, _, _, ordered, written⟩ :=
    entries_are_written "out/" manifest (some user) (by
      rintro _ ⟨⟩
      exact ⟨rfl, by decide⟩)
  rw [names] at ordered
  obtain ⟨path, found, value⟩ := written .flat .empty again member _ rfl
  have entryPoint : [.written "out/x/.config.js", .written "out/x/.index.js",
      .written "out/x/api.js"].filter (WriteResult.isNamed Artifact.entryPointName) =
        [.written "out/x/.index.js"] := by
    decide +kernel
  obtain ⟨rfl⟩ : "out/x/.index.js" = path := by simpa [entryPoint] using found
  exact ⟨manifest, entries, accepted, entry, ordered, member, value⟩

end Manifest

end RouteForge
