import RouteForge.Proofs.LikeDisks

/-!
What is done along a path depends only on the locations that the path passes. On two disks that
agree there it has one answer, and the disks still agree afterwards.
-/

namespace RouteForge

namespace Disk

structure Agree (region : Location → Prop) (first second : Disk) : Prop where
  working : second.working = first.working
  nodes : ∀ location, region location → second.node? location = first.node? location

theorem Agree.weaken {region smaller : Location → Prop} {first second : Disk}
    (agree : Agree region first second) (subset : ∀ location, smaller location → region location) :
    Agree smaller first second :=
  ⟨agree.working, fun location inside => agree.nodes location (subset location inside)⟩

theorem Agree.likeness (region : Location → Prop) : Likeness region (Agree region) where
  working agree := agree.working
  kinds agree _ here := by rw [SameKind, agree.nodes _ here]; exact ⟨Iff.rfl, Iff.rfl⟩
  place {first second} agree location named node := by
    refine ⟨agree.working, fun here inRegion => ?_⟩
    rw [node?_place first location named, node?_place second location named,
      agree.nodes here inRegion]

theorem Agree.readFile {region : Location → Prop} {first second : Disk}
    (agree : Agree region first second) {path : String} (covers : Covers region first path) :
    second.readFile path = first.readFile path := by
  rw [Disk.readFile, Disk.readFile, (Agree.likeness region).resolve agree covers]
  cases led : first.resolve path with
  | error cause => rfl
  | ok location =>
      have inRegion := covers _ (destination_mem_trail first path)
      rw [← resolve_destination led] at inRegion
      simp [bind, Except.bind, agree.nodes location inRegion]

end Disk

namespace Artifact

open Disk (Agree Covers SameEffect Settled)

variable {region : Disk.Location → Prop} {first second : Disk} {directory : String}

theorem replaced_agree {artifact : Artifact} (agree : Agree region first second)
    (covers : Covers region first (artifact.path directory)) :
    artifact.replaced directory second = artifact.replaced directory first := by
  simp only [replaced, (Agree.likeness region).exists? agree covers, Disk.readText,
    agree.readFile covers]

theorem write_agree {artifact : Artifact} (agree : Agree region first second)
    (covers : Covers region first (artifact.path directory))
    (settled : Settled first (artifact.path directory))
    (settledSecond : Settled second (artifact.path directory)) :
    SameEffect (Agree region) (artifact.write directory first) (artifact.write directory second) := by
  have likeness := Agree.likeness region
  have wrote := likeness.writeFile agree covers artifact.content.toByteArray
  have replaced : SameEffect (Agree region) (artifact.replace directory first)
      (artifact.replace directory second) := by
    simp only [replace, Disk.writeText_settled settled, Disk.writeText_settled settledSecond]
    generalize first.writeFile (artifact.path directory) _ = one at wrote ⊢
    generalize second.writeFile (artifact.path directory) _ = other at wrote ⊢
    cases wrote with
    | failed cause => exact .same _ agree
    | placed named => exact .same _ (likeness.place agree named _)
  simp only [write, likeness.exists? agree covers]
  split
  · exact replaced
  · split
    · exact .same _ agree
    · exact replaced

theorem write_error {artifact : Artifact} {disk after : Disk} {error : StoreError}
    (settled : Settled disk (artifact.path directory))
    (failed : artifact.write directory disk = (.error error, after)) : after = disk := by
  rcases write_cases settled with ⟨_, same⟩ | ⟨_, _, skipped⟩ | ⟨_, _, _, written⟩
  · exact (Prod.mk.inj (failed.symm.trans same)).2
  · simp [failed] at skipped
  · simp [failed] at written

/-- What would be rolled back agrees all along, so it agrees after a failure. -/
theorem writeFrom_agree {undos undosSecond : List Undo} {artifacts : List Artifact}
    (agree : Agree region first second)
    (rolledBack : Agree region (rollBack undos first) (rollBack undosSecond second))
    (covers : ∀ artifact ∈ artifacts, Covers region first (artifact.path directory))
    (settled : ∀ artifact ∈ artifacts, Settled first (artifact.path directory))
    (settledSecond : ∀ artifact ∈ artifacts, Settled second (artifact.path directory)) :
    SameEffect (Agree region) (writeFrom directory undos artifacts first)
      (writeFrom directory undosSecond artifacts second) := by
  induction artifacts generalizing first second undos undosSecond with
  | nil =>
      rw [writeFrom, writeFrom]
      exact .same _ agree
  | cons artifact rest ih =>
      rw [List.forall_mem_cons] at covers settled settledSecond
      have recorded := replaced_agree agree covers.1
      have written := write_agree agree covers.1 settled.1 settledSecond.1
      rw [writeFrom, writeFrom, recorded]
      cases recordedFirst : artifact.replaced directory first with
      | error error => exact .same _ rolledBack
      | ok previous =>
          rw [recordedFirst] at recorded
          simp only
          generalize wroteFirst : artifact.write directory first = one at written ⊢
          generalize wroteSecond : artifact.write directory second = other at written ⊢
          cases written with
          | @same result after afterSecond agreeAfter =>
              cases result with
              | error error =>
                  rw [write_error settled.1 wroteFirst, write_error settledSecond.1 wroteSecond]
                  exact .same _ rolledBack
              | ok result =>
                  have keeps := write_keeps settled.1
                  have keepsSecond := write_keeps settledSecond.1
                  rw [wroteFirst] at keeps
                  rw [wroteSecond] at keepsSecond
                  have rolled : Agree region
                      (rollBack (undosOf result previous ++ undos) after)
                      (rollBack (undosOf result previous ++ undosSecond) afterSecond) := by
                    rwa [rollBack_append, rollBack_append,
                      rollBack_write settled.1 recordedFirst wroteFirst,
                      rollBack_write settledSecond.1 recorded wroteSecond]
                  have later := ih agreeAfter rolled
                    (fun artifact member => (covers.2 artifact member).congr keeps.working)
                    (fun artifact member => (settled.2 artifact member).keeps keeps)
                    (fun artifact member => (settledSecond.2 artifact member).keeps keepsSecond)
                  simp only
                  generalize writeFrom directory _ rest after = one at later ⊢
                  generalize writeFrom directory _ rest afterSecond = other at later ⊢
                  cases later with
                  | same results agreeFinal =>
                      cases results with
                      | error error => exact .same _ agreeFinal
                      | ok results => exact .same _ agreeFinal

theorem writeAll_agree {artifacts : List Artifact}
    (prepared : SameEffect (Agree region) (prepareAll directory artifacts first)
      (prepareAll directory artifacts second))
    (covers : ∀ artifact ∈ artifacts, Covers region first (artifact.path directory)) :
    SameEffect (Agree region) (writeAll artifacts directory first)
      (writeAll artifacts directory second) := by
  have settled := prepareAll_ok directory artifacts first
  have settledSecond := prepareAll_ok directory artifacts second
  have kept := (prepareAll_grows directory artifacts first).working
  simp only [writeAll]
  generalize prepareAll directory artifacts first = one at prepared settled kept ⊢
  generalize prepareAll directory artifacts second = other at prepared settledSecond ⊢
  cases prepared with
  | same result agreeAfter =>
      cases result with
      | error error => exact .same _ agreeAfter
      | ok _ =>
          exact writeFrom_agree agreeAfter agreeAfter
            (fun artifact member => (covers artifact member).congr kept) (settled rfl)
            (settledSecond rfl)

end Artifact

end RouteForge
