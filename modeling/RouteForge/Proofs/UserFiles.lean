import RouteForge.Proofs.SparedFiles

/-!
A history of a disk on which users edit what they like and runs are made of documents. A stub that
is there before a run is there after it, with the same bytes; so no one but a user changes it.
-/

namespace RouteForge

open Disk (Spares)

inductive Event where
  | edit (change : Disk → Disk)
  | run (source : Source) (options : RunOptions)

/-- A document that is not accepted ends its run before anything is done. -/
def Event.apply : Event → Disk → Disk
  | .edit change, disk => change disk
  | .run source options, disk =>
      match Manifest.ofSource source with
      | .error _ => disk
      | .ok manifest => (manifest.run options disk).2

namespace Disk

def after (start : Disk) (history : List Event) : Disk :=
  history.foldl (fun disk event => event.apply disk) start

def Holds (disk : Disk) (path : String) (content : ByteArray) : Prop :=
  ∃ location, disk.resolve path = .ok location ∧ disk.node? location = some (.file content)

theorem after_append (start : Disk) (earlier later : List Event) :
    start.after (earlier ++ later) = (start.after earlier).after later := by
  simp [after]

theorem Spares.holds {spared : Location → Prop} {before after : Disk}
    (spares : Spares spared before after) {path : String} {content : ByteArray}
    (inside : spared (before.destination path)) (holds : before.Holds path content) :
    after.Holds path content := by
  obtain ⟨location, led, found⟩ := holds
  rw [← resolve_destination led] at inside
  exact ⟨location, spares.keeps.resolve led,
    (spares.nodes location inside (by simp [found])).trans found⟩

end Disk

def stubPath (base module : String) : String :=
  Path.join (Path.join base module) Artifact.requestStubName

theorem isStubPlace_stubPath (disk : Disk) (base module : String) :
    IsStubPlace (disk.destination (stubPath base module)) :=
  getLast?_destination_join disk (Path.join base module)
    (Path.downward_name (by decide) (by decide))

namespace Event

theorem run_spares_stubs (source : Source) (options : RunOptions) (disk : Disk) :
    Spares IsStubPlace disk ((Event.run source options).apply disk) := by
  simp only [apply]
  cases Manifest.ofSource source with
  | error error => exact Spares.refl _ disk
  | ok manifest => exact manifest.run_spares_stubs options disk

/-- In every history, whatever its edits are, each run leaves every stub that is there as it is; and
a stub that no edit changes is the same in the end. -/
theorem stub_survives_history (start : Disk) (history : List Event) (base module : String)
    (content : ByteArray) :
    (∀ earlier source options later, history = earlier ++ .run source options :: later →
        (start.after earlier).Holds (stubPath base module) content →
          (start.after (earlier ++ [.run source options])).Holds (stubPath base module) content) ∧
      ((∀ earlier change later, history = earlier ++ .edit change :: later →
          (start.after earlier).Holds (stubPath base module) content →
            (change (start.after earlier)).Holds (stubPath base module) content) →
        start.Holds (stubPath base module) content →
          (start.after history).Holds (stubPath base module) content) := by
  have survives (disk : Disk) (source : Source) (options : RunOptions)
      (holds : disk.Holds (stubPath base module) content) :
      ((Event.run source options).apply disk).Holds (stubPath base module) content :=
    (run_spares_stubs source options disk).holds (isStubPlace_stubPath disk base module) holds
  constructor
  · intro earlier source options later _ holds
    rw [Disk.after_append]
    exact survives _ source options holds
  · intro edits there
    -- From the left: the last event follows a history of which the same is known.
    induction history using List.reverseRecOn with
    | nil => exact there
    | append_singleton earlier event ih =>
        have before := ih fun front change rest split holds =>
          edits front change (rest ++ [event]) (by simp [split]) holds
        rw [Disk.after_append]
        cases event with
        | edit change => exact edits earlier change [] rfl before
        | run source options => exact survives _ source options before

theorem stub_survives_rolled_back_run :
    let source : Source :=
      ⟨"\x7b\"module_path\": \"/m\", \"module_name\": \"sys\", \"sub_modules\": [" ++
        "\x7b\"module\": \"demo\", \"mtype\": \"a\"\x7d, " ++
        "\x7b\"module\": \"demo\", \"mtype\": \"b\"\x7d]\x7d", Manifest.fileName⟩
    let options : RunOptions := ⟨"", some .flat, false, true, none⟩
    let start : Disk :=
      ⟨[(["demo".toList], .directory), (["demo".toList, "api.js".toList], .file "mine".toByteArray),
        (["demo".toList, ".index.js".toList], .file ⟨#[0xff]⟩)], []⟩
    let mend (disk : Disk) := disk.erase ["demo".toList, ".index.js".toList]
    (∃ manifest, Manifest.ofSource source = .ok manifest ∧
      (manifest.generate .flat "" start).1.map Outcome.isFailed = [true, true] ∧
      (manifest.generate .flat "" (mend start)).1.map Outcome.isFailed = [false, false]) ∧
      (start.after [.run source options]).Holds (stubPath "" "demo") "mine".toByteArray ∧
      ((mend start).after [.run source options]).Holds (stubPath "" "demo") "mine".toByteArray := by
  intro source options start mend
  obtain ⟨manifest, accepted, checked⟩ := exists_ok_of_passes (Manifest.ofSource source)
    (fun manifest =>
      (manifest.generate .flat "" start).1.map Outcome.isFailed = [true, true] &&
        (manifest.generate .flat "" (mend start)).1.map Outcome.isFailed = [false, false])
    (by decide +kernel)
  have failing : (manifest.generate .flat "" start).1.map Outcome.isFailed = [true, true] ∧
      (manifest.generate .flat "" (mend start)).1.map Outcome.isFailed = [false, false] := by
    simpa using checked
  have holds (disk : Disk) (same : disk = start ∨ disk = mend start) :
      disk.Holds (stubPath "" "demo") "mine".toByteArray := by
    refine ⟨["demo".toList, "api.js".toList], ?_, ?_⟩ <;> rcases same with rfl | rfl <;> rfl
  have survives (disk : Disk) (same : disk = start ∨ disk = mend start) :=
    (stub_survives_history disk [.run source options] "" "demo" "mine".toByteArray).1
      [] source options [] rfl (holds disk same)
  exact ⟨⟨manifest, accepted, failing⟩, survives start (Or.inl rfl), survives _ (Or.inr rfl)⟩

end Event

end RouteForge
