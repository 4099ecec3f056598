import RouteForge.Proofs.DirectoryMaking
import RouteForge.Store.WriteAll

/-!
Writing a set of artifacts as one leaves no trace when it fails. Once every target is settled a
write either fails without effect or changes one node, and its undo changes that node back; so
undoing the writes in reverse ends where the first of them started, whatever their targets share.
-/

namespace RouteForge

open Disk (Names Settled Keeps Changes Grows)

namespace Disk

theorem writeFile_keeps {disk after : Disk} {path : String} {content : ByteArray}
    (wrote : disk.writeFile path content = .ok after) : Keeps disk after := by
  obtain ⟨parent, name, _, notDirectory, rfl⟩ := (writeFile_ok_iff disk after path content).mp wrote
  exact keeps_place disk (by simp) fun isDirectory => (notDirectory isDirectory).elim

theorem writeText_settled {disk : Disk} {path : String} (settled : Settled disk path)
    (text : String) :
    disk.writeText path text =
      match disk.writeFile path text.toByteArray with
      | .ok written => (.ok (), written)
      | .error cause => (.error (.write path cause), disk) := by
  cases wrote : disk.writeFile path text.toByteArray <;>
    simp [writeText, settled.ensureParent, wrote]

theorem readText_ok_iff (disk : Disk) (path text : String) :
    disk.readText path = .ok text ↔ disk.readFile path = .ok text := by
  rw [readText]
  cases disk.readFile path with
  | ok content =>
      constructor
      · exact fun same => congrArg Except.ok (Except.ok.inj same)
      · exact fun same => congrArg Except.ok (Except.ok.inj same)
  | error cause => exact ⟨nofun, nofun⟩

theorem removeText_of_removed {disk after : Disk} {path : String}
    (removed : disk.removeFile path = .ok after) : disk.removeText path = .ok after := by
  rw [removeText, removed]
  rfl

theorem toByteArray_of_fromUTF8? {content : ByteArray} {text : String}
    (decoded : String.fromUTF8? content = some text) : text.toByteArray = content := by
  unfold String.fromUTF8? at decoded
  split at decoded
  · rw [← Option.some.inj decoded]
    rfl
  · simp at decoded

end Disk

namespace Artifact

open Disk (writeFile_ok_iff readFile_ok_iff)

/-! One artifact, where its directory has been made. -/

theorem write_eq_replace {artifact : Artifact} {directory : String} {disk : Disk}
    (rule : artifact.overwrite = .always ∨ disk.exists? (artifact.path directory) = false) :
    artifact.write directory disk = artifact.replace directory disk := by
  rcases rule with always | missing
  · simp [write, always]
  · cases overwrite : artifact.overwrite <;> simp [write, overwrite, missing]

/-- Everything that writing an artifact can do. -/
theorem write_cases {artifact : Artifact} {directory : String} {disk : Disk}
    (settled : Settled disk (artifact.path directory)) :
    (∃ error, artifact.write directory disk = (.error error, disk)) ∨
      (artifact.overwrite = .ifMissing ∧ disk.exists? (artifact.path directory) = true ∧
        artifact.write directory disk = (.ok (.skipped (artifact.path directory)), disk)) ∨
      ∃ after, disk.writeFile (artifact.path directory) artifact.content.toByteArray = .ok after ∧
        (artifact.overwrite = .always ∨ disk.exists? (artifact.path directory) = false) ∧
        artifact.write directory disk = (.ok (.written (artifact.path directory)), after) := by
  have replaces : artifact.replace directory disk =
      match disk.writeFile (artifact.path directory) artifact.content.toByteArray with
      | .ok after => (.ok (.written (artifact.path directory)), after)
      | .error cause => (.error (.write (artifact.path directory) cause), disk) := by
    simp only [replace, Disk.writeText_settled settled]
    cases disk.writeFile (artifact.path directory) artifact.content.toByteArray <;> rfl
  by_cases kept : artifact.overwrite = .ifMissing ∧ disk.exists? (artifact.path directory) = true
  · refine Or.inr (Or.inl ⟨kept.1, kept.2, ?_⟩)
    simp [write, kept]
  · have rule : artifact.overwrite = .always ∨ disk.exists? (artifact.path directory) = false := by
      cases overwrite : artifact.overwrite <;> simp_all
    rw [write_eq_replace rule, replaces]
    cases wrote : disk.writeFile (artifact.path directory) artifact.content.toByteArray with
    | error cause => exact Or.inl ⟨_, rfl⟩
    | ok after => exact Or.inr (Or.inr ⟨after, rfl, rule, rfl⟩)

theorem write_keeps {artifact : Artifact} {directory : String} {disk : Disk}
    (settled : Settled disk (artifact.path directory)) :
    Keeps disk (artifact.write directory disk).2 := by
  rcases write_cases settled with ⟨error, failed⟩ | ⟨_, _, skipped⟩ | ⟨after, wrote, _, written⟩
  · rw [failed]
    exact Keeps.refl disk
  · rw [skipped]
    exact Keeps.refl disk
  · rw [written]
    exact Disk.writeFile_keeps wrote

theorem restore_removes {disk after : Disk} {path : String} {content : ByteArray}
    (missing : disk.exists? path = false) (wrote : disk.writeFile path content = .ok after) :
    Undo.restore ⟨path, none⟩ after = disk := by
  obtain ⟨parent, name, names, notDirectory, rfl⟩ :=
    (writeFile_ok_iff disk after path content).mp wrote
  have free : disk.node? (parent ++ [name]) = none := by
    cases found : disk.node? (parent ++ [name]) with
    | none => rfl
    | some node =>
        have there := names.exists?_iff.mpr (by simp [found])
        simp [missing] at there
  have still := (Disk.writeFile_keeps wrote).names names
  have placed := Disk.node?_place disk (parent ++ [name]) (by simp) (.file content)
  have removed := Disk.removeFile_of_names still (by simpa using placed (parent ++ [name]))
  simp only [Undo.restore, Disk.removeText_of_removed removed]
  exact Disk.erase_place_missing disk (by simp) free (.file content)

theorem restore_puts_back {disk after : Disk} {path old : String} {content : ByteArray}
    (settled : Settled disk path) (wasRead : disk.readFile path = .ok old)
    (wrote : disk.writeFile path content = .ok after) :
    Undo.restore ⟨path, some old⟩ after = disk := by
  have settledAfter := settled.keeps (Disk.writeFile_keeps wrote)
  obtain ⟨parent, name, names, notDirectory, rfl⟩ :=
    (writeFile_ok_iff disk after path content).mp wrote
  obtain ⟨location, oldContent, resolved, found, decoded⟩ :=
    (readFile_ok_iff disk path old).mp wasRead
  obtain ⟨rfl, _, _⟩ := (names.resolve_ok_iff location).mp resolved
  have still := (Disk.writeFile_keeps wrote).names names
  have placed := Disk.node?_place disk (parent ++ [name]) (by simp) (.file content)
  have rewritten := (writeFile_ok_iff _ _ path old.toByteArray).mpr
    ⟨parent, name, still, by simp [placed], rfl⟩
  simp only [Undo.restore, Disk.writeText_settled settledAfter, rewritten]
  rw [Disk.toByteArray_of_fromUTF8? decoded]
  exact Disk.place_place_old disk (by simp) found (.file content)

theorem rollBack_write {artifact : Artifact} {directory : String} {disk after : Disk}
    {previous : Option String} {result : WriteResult}
    (settled : Settled disk (artifact.path directory))
    (recorded : artifact.replaced directory disk = .ok previous)
    (written : artifact.write directory disk = (.ok result, after)) :
    rollBack (undosOf result previous) after = disk := by
  rcases write_cases settled with ⟨error, failed⟩ | ⟨_, _, skipped⟩ | ⟨made, wrote, rule, wrotten⟩
  · simp [failed] at written
  · obtain ⟨rfl, rfl⟩ : WriteResult.skipped (artifact.path directory) = result ∧ disk = after := by
      simpa [skipped] using written
    rfl
  · obtain ⟨rfl, rfl⟩ : WriteResult.written (artifact.path directory) = result ∧ made = after := by
      simpa [wrotten] using written
    simp only [undosOf, WriteResult.isWritten, WriteResult.path, ↓reduceIte, rollBack,
      List.foldl_cons, List.foldl_nil]
    cases there : disk.exists? (artifact.path directory) with
    | false =>
        obtain rfl : previous = none := by simpa [replaced, there, eq_comm] using recorded
        exact restore_removes there wrote
    | true =>
        have always : artifact.overwrite = .always := by simpa [there] using rule
        simp only [replaced, always, there, and_self, ↓reduceIte] at recorded
        cases wasRead : disk.readText (artifact.path directory) with
        | error error => simp [wasRead, Except.map] at recorded
        | ok old =>
            obtain rfl : some old = previous := by simpa [wasRead, Except.map] using recorded
            exact restore_puts_back settled ((Disk.readText_ok_iff disk _ old).mp wasRead) wrote

/-! All artifacts. -/

theorem rollBack_append (first second : List Undo) (disk : Disk) :
    rollBack (first ++ second) disk = rollBack second (rollBack first disk) := by
  simp [rollBack]

theorem writeFrom_cons_cases {directory : String} {artifact : Artifact} {disk : Disk}
    (settled : Settled disk (artifact.path directory)) (undos : List Undo)
    (rest : List Artifact) :
    (∃ error, writeFrom directory undos (artifact :: rest) disk =
        (.error error, rollBack undos disk)) ∨
      ∃ previous result after,
        artifact.replaced directory disk = .ok previous ∧
        artifact.write directory disk = (.ok result, after) ∧
        writeFrom directory undos (artifact :: rest) disk =
          ((writeFrom directory (undosOf result previous ++ undos) rest after).1.map (result :: ·),
            (writeFrom directory (undosOf result previous ++ undos) rest after).2) := by
  rw [writeFrom]
  cases recorded : artifact.replaced directory disk with
  | error error => exact Or.inl ⟨error, rfl⟩
  | ok previous =>
      cases written : artifact.write directory disk with
      | mk outcome after =>
          cases outcome with
          | error error =>
              rcases write_cases settled with ⟨_, same⟩ | ⟨_, _, skipped⟩ | ⟨_, _, _, done⟩
              · obtain ⟨_, rfl⟩ := Prod.mk.inj (written.symm.trans same)
                exact Or.inl ⟨error, rfl⟩
              · simp [skipped] at written
              · simp [done] at written
          | ok result =>
              refine Or.inr ⟨previous, result, after, rfl, rfl, ?_⟩
              simp only
              split
              next final => simp [final, Except.map]
              next final => simp [final, Except.map]

theorem writeFrom_error {directory : String} {undos : List Undo} {artifacts : List Artifact}
    {disk : Disk} {error : StoreError}
    (settled : ∀ artifact ∈ artifacts, Settled disk (artifact.path directory))
    (failed : (writeFrom directory undos artifacts disk).1 = .error error) :
    (writeFrom directory undos artifacts disk).2 = rollBack undos disk := by
  induction artifacts generalizing undos disk with
  | nil => simp [writeFrom] at failed
  | cons artifact rest ih =>
      simp only [List.forall_mem_cons] at settled
      rcases writeFrom_cons_cases settled.1 undos rest with
        ⟨_, stopped⟩ | ⟨previous, result, after, recorded, written, continued⟩
      · rw [stopped]
      · have keeps := write_keeps settled.1
        rw [written] at keeps
        rw [continued] at failed ⊢
        have laterFailed : (writeFrom directory (undosOf result previous ++ undos) rest after).1 =
            .error error := by
          cases outcome : (writeFrom directory (undosOf result previous ++ undos) rest after).1 <;>
            simp_all [Except.map]
        calc (writeFrom directory (undosOf result previous ++ undos) rest after).2
            = rollBack (undosOf result previous ++ undos) after :=
              ih (fun other member => (settled.2 other member).keeps keeps) laterFailed
          _ = rollBack undos disk := by
              rw [rollBack_append, rollBack_write settled.1 recorded written]

theorem prepare_grows (artifact : Artifact) (directory : String) (disk : Disk) :
    Grows disk (artifact.prepare directory disk).2
      (Disk.AtPrefix (artifact.prepare directory disk).2
        (Path.components (artifact.path directory)).dropLast) := by
  rw [prepare]
  split
  · exact Changes.refl _ _ _
  · exact Disk.ensureParent_grows disk _

theorem prepare_ok (artifact : Artifact) (directory : String) (disk : Disk)
    (ok : (artifact.prepare directory disk).1 = .ok ()) :
    Settled (artifact.prepare directory disk).2 (artifact.path directory) := by
  rw [prepare] at ok ⊢
  split at ok
  · simp at ok
  · next notDirectory =>
      simp only [notDirectory]
      exact Disk.ensureParent_ok disk _ ok

def Prepared (artifacts : List Artifact) (directory : String) (disk : Disk)
    (location : Disk.Location) : Prop :=
  ∃ artifact ∈ artifacts,
    Disk.AtPrefix disk (Path.components (artifact.path directory)).dropLast location

theorem prepareAll_grows (directory : String) (artifacts : List Artifact) (disk : Disk) :
    Grows disk (prepareAll directory artifacts disk).2
      (Prepared artifacts directory (prepareAll directory artifacts disk).2) := by
  fun_induction prepareAll directory artifacts disk with
  | case1 disk => exact Changes.refl disk _ _
  | case2 artifact rest disk error after prepared =>
      have first := prepare_grows artifact directory disk
      rw [prepared] at first
      exact Grows.weaken first fun location led => ⟨artifact, by simp, led⟩
  | case3 artifact rest disk _ after prepared ih =>
      have first := prepare_grows artifact directory disk
      rw [prepared] at first
      refine Changes.trans (Grows.weaken first ?_) (Grows.weaken ih ?_)
      · intro location led
        exact ⟨artifact, by simp, led.keeps ih.keeps⟩
      · rintro location ⟨other, member, led⟩
        exact ⟨other, by simp [member], led⟩

theorem prepareAll_ok (directory : String) (artifacts : List Artifact) (disk : Disk) :
    (prepareAll directory artifacts disk).1 = .ok () →
      ∀ artifact ∈ artifacts,
        Settled (prepareAll directory artifacts disk).2 (artifact.path directory) := by
  fun_induction prepareAll directory artifacts disk with
  | case1 => simp
  | case2 => intro impossible; simp at impossible
  | case3 artifact rest disk _ after prepared ih =>
      intro ok
      have settled := prepare_ok artifact directory disk
      rw [prepared] at settled
      have keeps := (prepareAll_grows directory rest after).keeps
      rw [List.forall_mem_cons]
      exact ⟨(settled rfl).keeps keeps, ih ok⟩

theorem writeAll_error {artifacts : List Artifact} {directory : String} {disk : Disk}
    {error : StoreError} (failed : (writeAll artifacts directory disk).1 = .error error) :
    (writeAll artifacts directory disk).2 = (prepareAll directory artifacts disk).2 := by
  have settled := prepareAll_ok directory artifacts disk
  rw [writeAll] at failed ⊢
  cases prepared : prepareAll directory artifacts disk with
  | mk result after =>
      rw [prepared] at settled
      cases result with
      | error error => rfl
      | ok _ =>
          simp only [prepared] at failed
          exact writeFrom_error (settled rfl) failed

/-- When writing artifacts as one fails, no file was changed or added and no directory was lost;
what differs are the directories that were made before the first write. -/
theorem failed_writeAll_keeps_files (artifacts : List Artifact) (directory : String) (disk : Disk)
    (error : StoreError) (failed : (writeAll artifacts directory disk).1 = .error error) :
    (∀ location content,
        (writeAll artifacts directory disk).2.node? location = some (.file content) ↔
          disk.node? location = some (.file content)) ∧
      (∀ location, disk.node? location = some .directory →
        (writeAll artifacts directory disk).2.node? location = some .directory) ∧
      (writeAll artifacts directory disk).2 = (prepareAll directory artifacts disk).2 := by
  have grows := prepareAll_grows directory artifacts disk
  rw [writeAll_error failed]
  exact ⟨fun location => grows.file_iff location id, grows.keeps.directory, rfl⟩

theorem failed_writeAll_keeps_files_of_overlapping_targets :
    let disk : Disk := ⟨[([['a']], .file "old".toByteArray)], []⟩
    let artifacts : List Artifact :=
      [⟨"a", "new", .always⟩, ⟨"b", "fresh", .ifMissing⟩, ⟨"./b", "again", .always⟩,
        ⟨"x", "fails", .always⟩, ⟨"x/y", "never", .always⟩]
    (writeAll artifacts "" disk).1 = .error (.read "x" .isDirectory) ∧
      ∀ location content,
        (writeAll artifacts "" disk).2.node? location = some (.file content) ↔
          disk.node? location = some (.file content) := by
  intro disk artifacts
  have failed : (writeAll artifacts "" disk).1 = .error (.read "x" .isDirectory) := by rfl
  exact ⟨failed, (failed_writeAll_keeps_files artifacts "" disk _ failed).1⟩

end Artifact

end RouteForge
