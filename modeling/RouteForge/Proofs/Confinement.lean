import RouteForge.Proofs.AcceptedManifests
import RouteForge.Proofs.Atomicity
import RouteForge.Store.Generation

/-!
A run writes only the files of modules that it reports as written, and makes only directories on
the way to them. A module has its own directory directly below the base, since its name is a name.
-/

namespace RouteForge

open Disk (Settled Keeps Changes Grows)

theorem Disk.writeFile_changes {disk after : Disk} {path : String} {content : ByteArray}
    (wrote : disk.writeFile path content = .ok after) :
    Changes disk after (fun _ => False) fun location => after.resolve path = .ok location := by
  have keeps := writeFile_keeps wrote
  obtain ⟨parent, name, names, notDirectory, rfl⟩ := (writeFile_ok_iff disk after path _).mp wrote
  have placed := node?_place disk (parent ++ [name]) (by simp) (.file content)
  refine ⟨rfl, ?_⟩
  intro location
  by_cases same : location = parent ++ [name]
  · subst same
    refine Or.inr (Or.inr ⟨notDirectory, ?_, content, by simp [placed]⟩)
    exact ((keeps.names names).resolve_ok_iff _).mpr ⟨rfl, by simp [placed], by simp⟩
  · exact Or.inl (by simp [placed, same])

namespace Artifact

def Targeted (artifacts : List Artifact) (directory : String) (disk : Disk)
    (location : Disk.Location) : Prop :=
  ∃ artifact ∈ artifacts, disk.resolve (artifact.path directory) = .ok location

theorem write_changes {artifact : Artifact} {directory : String} {disk : Disk}
    (settled : Settled disk (artifact.path directory)) :
    Changes disk (artifact.write directory disk).2 (fun _ => False) fun location =>
      (artifact.write directory disk).2.resolve (artifact.path directory) = .ok location := by
  rcases write_cases settled with ⟨error, failed⟩ | ⟨_, _, skipped⟩ | ⟨after, wrote, _, written⟩
  · rw [failed]
    exact Changes.refl _ _ _
  · rw [skipped]
    exact Changes.refl _ _ _
  · rw [written]
    exact Disk.writeFile_changes wrote

theorem writeFrom_changes {directory : String} {undos : List Undo} {artifacts : List Artifact}
    {disk : Disk} {results : List WriteResult}
    (settled : ∀ artifact ∈ artifacts, Settled disk (artifact.path directory))
    (written : (writeFrom directory undos artifacts disk).1 = .ok results) :
    Changes disk (writeFrom directory undos artifacts disk).2 (fun _ => False)
      (Targeted artifacts directory (writeFrom directory undos artifacts disk).2) := by
  induction artifacts generalizing undos disk results with
  | nil => exact Changes.refl _ _ _
  | cons artifact rest ih =>
      simp only [List.forall_mem_cons] at settled
      rcases writeFrom_cons_cases settled.1 undos rest with
        ⟨_, stopped⟩ | ⟨previous, result, after, _, wrote, continued⟩
      · simp [stopped] at written
      · have first := write_changes settled.1
        rw [wrote] at first
        rw [continued] at written ⊢
        obtain ⟨others, rest⟩ : ∃ others,
            (writeFrom directory (undosOf result previous ++ undos) rest after).1 = .ok others := by
          cases outcome : (writeFrom directory (undosOf result previous ++ undos) rest after).1 <;>
            simp_all [Except.map]
        have later := ih (fun other member => (settled.2 other member).keeps first.keeps) rest
        refine Changes.trans (first.weaken (fun _ impossible => impossible) ?_)
          (later.weaken (fun _ impossible => impossible) ?_)
        · intro location led
          exact ⟨artifact, by simp, later.keeps.resolve led⟩
        · rintro location ⟨other, member, led⟩
          exact ⟨other, by simp [member], led⟩

theorem writeAll_changes (artifacts : List Artifact) (directory : String) (disk : Disk) :
    Changes disk (writeAll artifacts directory disk).2
      (Prepared artifacts directory (writeAll artifacts directory disk).2) fun location =>
        (∃ results, (writeAll artifacts directory disk).1 = .ok results) ∧
          Targeted artifacts directory (writeAll artifacts directory disk).2 location := by
  have prepared := prepareAll_grows directory artifacts disk
  cases outcome : (writeAll artifacts directory disk).1 with
  | error error =>
      rw [writeAll_error outcome]
      exact Changes.weaken prepared (fun _ led => led) fun _ impossible => impossible.elim
  | ok results =>
      have settled := prepareAll_ok directory artifacts disk
      rw [writeAll] at outcome ⊢
      split at outcome
      · simp at outcome
      · next after ready =>
          rw [ready] at prepared settled
          have written := writeFrom_changes (settled rfl) outcome
          refine Changes.trans (Changes.weaken prepared ?_ fun _ impossible => impossible.elim)
            (written.weaken (fun _ impossible => impossible.elim) ?_)
          · rintro location ⟨artifact, member, led⟩
            exact ⟨artifact, member, led.keeps written.keeps⟩
          · exact fun location targeted => ⟨⟨results, rfl⟩, targeted⟩

end Artifact

namespace Module

theorem components_directory {module : Module} (base : String)
    (faultless : DocumentPlace.nameFault? module.name = none) :
    Path.components (module.directory base) =
      Path.components base ++ [.name module.name.toList] := by
  obtain ⟨named, whole, _⟩ := isName_of_nameFault? faultless
  exact Path.components_join_name base module.name named whole

def fileNames : Variant → List String
  | .nested => [".config.js", ".index.js", "utils/request.js"]
  | .flat => [".config.js", ".index.js", "api.js"]

def IsOwnFile (variant : Variant) (base : String) (module : Module) (disk : Disk)
    (location : Disk.Location) : Prop :=
  ∃ name ∈ fileNames variant,
    disk.resolve (Path.join (module.directory base) name) = .ok location

/-- A location on the way to a module's files: of a prefix of the base, of the module's directory,
or of the directory that a nested module keeps its request module in. -/
def IsOnTheWay (variant : Variant) (base : String) (module : Module) (disk : Disk)
    (location : Disk.Location) : Prop :=
  ∃ path, disk.resolve path = .ok location ∧
    (Path.components path <+: Path.components base ∨
      Path.components path = Path.components (module.directory base) ∨
      variant = .nested ∧
        Path.components path = Path.components (Path.join (module.directory base) "utils"))

theorem IsOwnFile.keeps {variant : Variant} {base : String} {module : Module}
    {before after : Disk} (keeps : Keeps before after) {location : Disk.Location}
    (own : IsOwnFile variant base module before location) :
    IsOwnFile variant base module after location := by
  obtain ⟨name, member, led⟩ := own
  exact ⟨name, member, keeps.resolve led⟩

theorem IsOnTheWay.keeps {variant : Variant} {base : String} {module : Module}
    {before after : Disk} (keeps : Keeps before after) {location : Disk.Location}
    (onTheWay : IsOnTheWay variant base module before location) :
    IsOnTheWay variant base module after location := by
  obtain ⟨path, led, below⟩ := onTheWay
  exact ⟨path, keeps.resolve led, below⟩

theorem names_of_artifacts {manifest : Manifest} {variant : Variant} {module : Module}
    {artifacts : List Artifact} (made : module.artifacts manifest variant = .ok artifacts) :
    artifacts.map Artifact.name = fileNames variant := by
  cases assembled : RouteTable.assemble manifest variant module with
  | error error => simp [Module.artifacts, assembled, bind, Except.bind] at made
  | ok table =>
      simp only [Module.artifacts, assembled, bind, Except.bind, pure, Except.pure,
        Except.ok.injEq] at made
      subst made
      cases variant <;> rfl

theorem targeted_own {variant : Variant} {base : String} {module : Module}
    {artifacts : List Artifact} (names : artifacts.map Artifact.name = fileNames variant)
    {disk : Disk} {location : Disk.Location}
    (targeted : Artifact.Targeted artifacts (module.directory base) disk location) :
    IsOwnFile variant base module disk location := by
  obtain ⟨artifact, member, led⟩ := targeted
  exact ⟨artifact.name, names ▸ List.mem_map_of_mem member, led⟩

theorem file_components {variant : Variant} {module : Module} (base : String) {name : String}
    (own : name ∈ fileNames variant) :
    Path.components (Path.join (module.directory base) name) =
        Path.components (module.directory base) ++ [.name name.toList] ∨
      variant = .nested ∧ Path.components (Path.join (module.directory base) name) =
        Path.components (Path.join (module.directory base) "utils") ++
          [.name "request.js".toList] := by
  have utils := Path.components_join_name (module.directory base) "utils" (by decide) (by decide)
  have request := Path.components_join (module.directory base) "utils/request.js"
    (by decide : Path.pieces "utils/request.js".toList = ["utils".toList, "request.js".toList])
    (by decide)
  cases variant with
  | nested =>
      simp only [fileNames, List.mem_cons, List.not_mem_nil, or_false] at own
      rcases own with rfl | rfl | rfl
      · exact Or.inl (Path.components_join_name _ _ (by decide) (by decide))
      · exact Or.inl (Path.components_join_name _ _ (by decide) (by decide))
      · refine Or.inr ⟨rfl, ?_⟩
        rw [request, utils, List.append_assoc]
        rfl
  | flat =>
      simp only [fileNames, List.mem_cons, List.not_mem_nil, or_false] at own
      rcases own with rfl | rfl | rfl <;>
        exact Or.inl (Path.components_join_name _ _ (by decide) (by decide))

theorem prepared_onTheWay {variant : Variant} {base : String} {module : Module}
    (faultless : DocumentPlace.nameFault? module.name = none)
    {artifacts : List Artifact} (names : artifacts.map Artifact.name = fileNames variant)
    {disk : Disk} {location : Disk.Location}
    (prepared : Artifact.Prepared artifacts (module.directory base) disk location) :
    IsOnTheWay variant base module disk location := by
  obtain ⟨artifact, member, path, isPrefix, led⟩ := prepared
  have own : artifact.name ∈ fileNames variant := names ▸ List.mem_map_of_mem member
  refine ⟨path, led, ?_⟩
  have ofDirectory (below : Path.components path <+: Path.components (module.directory base)) :
      Path.components path <+: Path.components base ∨
        Path.components path = Path.components (module.directory base) := by
    rw [components_directory base faultless, List.prefix_concat_iff] at below
    rw [components_directory base faultless]
    exact below.symm
  rcases file_components base own with whole | ⟨nested, request⟩
  · rw [Artifact.path, whole, List.dropLast_concat] at isPrefix
    rcases ofDirectory isPrefix with ofBase | same
    · exact Or.inl ofBase
    · exact Or.inr (Or.inl same)
  · rw [Artifact.path, request, List.dropLast_concat,
      Path.components_join_name _ "utils" (by decide) (by decide), List.prefix_concat_iff]
      at isPrefix
    rcases isPrefix with same | below
    · exact Or.inr (Or.inr ⟨nested,
        same.trans (Path.components_join_name _ "utils" (by decide) (by decide)).symm⟩)
    · rcases ofDirectory below with ofBase | same
      · exact Or.inl ofBase
      · exact Or.inr (Or.inl same)

/-- What generating a module does to a disk: files are written only if it is reported as written. -/
theorem generate_changes (manifest : Manifest) (variant : Variant) (base : String)
    {module : Module} (faultless : DocumentPlace.nameFault? module.name = none) (disk : Disk) :
    Changes disk (module.generate manifest variant base disk).2
      (IsOnTheWay variant base module (module.generate manifest variant base disk).2)
      fun location =>
        (∃ results, (module.generate manifest variant base disk).1 =
          ⟨module.name, module.directory base, .written results⟩) ∧
        IsOwnFile variant base module (module.generate manifest variant base disk).2 location := by
  cases made : module.artifacts manifest variant with
  | error error =>
      simp only [generate, made]
      exact Changes.refl _ _ _
  | ok artifacts =>
      have names := names_of_artifacts made
      have changes := Artifact.writeAll_changes artifacts (module.directory base) disk
      simp only [generate, made]
      cases written : Artifact.writeAll artifacts (module.directory base) disk with
      | mk result after =>
          rw [written] at changes
          cases result with
          | error error =>
              refine changes.weaken (fun _ => prepared_onTheWay faultless names) ?_
              rintro location ⟨⟨results, impossible⟩, _⟩
              simp at impossible
          | ok results =>
              refine changes.weaken (fun _ => prepared_onTheWay faultless names) ?_
              exact fun location targeted => ⟨⟨results, rfl⟩, targeted_own names targeted.2⟩

theorem files_of_failed (manifest : Manifest) (variant : Variant) (base : String) {module : Module}
    (faultless : DocumentPlace.nameFault? module.name = none) {disk : Disk}
    (failed : (module.generate manifest variant base disk).1.isFailed = true)
    (here : Disk.Location) (content : ByteArray) :
    (module.generate manifest variant base disk).2.node? here = some (.file content) ↔
      disk.node? here = some (.file content) := by
  refine (generate_changes manifest variant base faultless disk).file_iff here ?_ content
  rintro ⟨⟨results, written⟩, _⟩
  simp [written, Outcome.isFailed] at failed

end Module

namespace Manifest

def IsOnTheWay (variant : Variant) (base : String) (modules : List Module) (disk : Disk)
    (location : Disk.Location) : Prop :=
  ∃ module ∈ modules, module.IsOnTheWay variant base disk location

def IsWrittenFile (variant : Variant) (base : String) (modules : List Module)
    (outcomes : List Outcome) (disk : Disk) (location : Disk.Location) : Prop :=
  ∃ module ∈ modules, (∃ results, ⟨module.name, module.directory base, .written results⟩ ∈ outcomes) ∧
    module.IsOwnFile variant base disk location

theorem generateFrom_changes (manifest : Manifest) (variant : Variant) (base : String)
    {modules : List Module}
    (faultless : ∀ module ∈ modules, DocumentPlace.nameFault? module.name = none) (disk : Disk) :
    Changes disk (manifest.generateFrom variant base modules disk).2
      (IsOnTheWay variant base modules (manifest.generateFrom variant base modules disk).2)
      (IsWrittenFile variant base modules (manifest.generateFrom variant base modules disk).1
        (manifest.generateFrom variant base modules disk).2) := by
  induction modules generalizing disk with
  | nil => exact Changes.refl _ _ _
  | cons module rest ih =>
      rw [List.forall_mem_cons] at faultless
      have first := Module.generate_changes manifest variant base faultless.1 disk
      rw [generateFrom]
      have later := ih faultless.2 (module.generate manifest variant base disk).2
      refine Changes.trans (first.weaken ?_ ?_) (later.weaken ?_ ?_)
      · intro location onTheWay
        exact ⟨module, by simp, onTheWay.keeps later.keeps⟩
      · rintro location ⟨⟨results, written⟩, own⟩
        exact ⟨module, by simp, ⟨results, by simp [written]⟩, own.keeps later.keeps⟩
      · rintro location ⟨other, member, onTheWay⟩
        exact ⟨other, by simp [member], onTheWay⟩
      · rintro location ⟨other, member, ⟨results, written⟩, own⟩
        exact ⟨other, by simp [member], ⟨results, by simp [written]⟩, own⟩

/-- A run changes no file but those of modules it reports as written, loses nothing, and makes only
directories on the way to a module's files; every module has a directory of its own directly below
the base. A module that is reported as failed changed no file. -/
theorem generate_confined (source : Source) (manifest : Manifest)
    (accepted : ofSource source = .ok manifest) (variant : Variant) (base : String)
    (disk after : Disk) (outcomes : List Outcome)
    (ran : manifest.generate variant base disk = (outcomes, after)) :
    (∀ location content, ¬IsWrittenFile variant base manifest.modules outcomes after location →
        (after.node? location = some (.file content) ↔
          disk.node? location = some (.file content))) ∧
      Keeps disk after ∧
      (∀ location, after.node? location = some .directory →
        disk.node? location = some .directory ∨
          disk.node? location = none ∧ IsOnTheWay variant base manifest.modules after location) ∧
      (∀ module ∈ manifest.modules,
        Path.components (module.directory base) =
            Path.components base ++ [.name module.name.toList] ∧
          module.name ∉ ["", ".", ".."] ∧ '/' ∉ module.name.toList ∧ '\\' ∉ module.name.toList) ∧
      ∀ module ∈ manifest.modules, ∀ earlier : Disk,
        (module.generate manifest variant base earlier).1.isFailed = true →
          ∀ location content,
            (module.generate manifest variant base earlier).2.node? location =
                some (.file content) ↔
              earlier.node? location = some (.file content) := by
  have faultless := nameFault?_of_accepted accepted
  have changes := generateFrom_changes manifest variant base faultless disk
  rw [← generate, ran] at changes
  refine ⟨?_, changes.keeps, ?_, ?_, ?_⟩
  · intro location content notWritten
    exact changes.file_iff location notWritten content
  · intro location found
    rcases changes.nodes location with same | ⟨missing, _, onTheWay⟩ | ⟨_, _, content, isFile⟩
    · exact Or.inl (same ▸ found)
    · exact Or.inr ⟨missing, onTheWay⟩
    · simp [isFile] at found
  · intro module member
    obtain ⟨named, whole⟩ := isName_of_nameFault? (faultless module member)
    refine ⟨Module.components_directory base (faultless module member), ?_, whole⟩
    simp only [List.mem_cons, List.not_mem_nil, or_false]
    rintro (empty | dot | dots)
    · simp [empty, Disk.isName] at named
    · simp [dot, Disk.isName] at named
    · simp [dots, Disk.isName] at named
  · intro module member earlier failed
    exact Module.files_of_failed manifest variant base (faultless module member) failed

theorem generate_confined_beside_blocked_module :
    let document := "\x7b\"module_path\": \"/m\", \"module_name\": \"sys\", \"sub_modules\": [" ++
      "\x7b\"module\": \"free\", \"mtype\": \"a\"\x7d, " ++
      "\x7b\"module\": \"blocked\", \"mtype\": \"b\"\x7d]\x7d"
    let disk : Disk := ⟨[(["blocked".toList], .file "mine".toByteArray)], []⟩
    ∃ manifest, ofSource ⟨document, fileName⟩ = .ok manifest ∧
      (manifest.generate .flat "" disk).1.map Outcome.isFailed = [false, true] ∧
      ∀ location content,
        ¬IsWrittenFile .flat "" manifest.modules (manifest.generate .flat "" disk).1
            (manifest.generate .flat "" disk).2 location →
          ((manifest.generate .flat "" disk).2.node? location = some (.file content) ↔
            disk.node? location = some (.file content)) := by
  intro document disk
  obtain ⟨manifest, accepted, failed⟩ := exists_ok_of_passes (ofSource ⟨document, fileName⟩)
    (fun manifest => (manifest.generate .flat "" disk).1.map Outcome.isFailed = [false, true])
    (by decide +kernel)
  have confined := generate_confined _ manifest accepted .flat "" disk _ _ rfl
  exact ⟨manifest, accepted, of_decide_eq_true failed, confined.1⟩

end Manifest

end RouteForge
