import RouteForge.Proofs.RepeatedWrites

/-!
A failure is repeated in its own words where the base leads down from a directory by names. The
directories that were made before the failure are found made, and the same obstacle is met; none of
them is where a file belongs.
-/

namespace RouteForge

open Disk (Settled Keeps Changes Heads IsTree)

namespace Path

theorem endsIn_join (base : String) {child : String} {front : List Piece} {name : Piece}
    (down : Downward child (front ++ [name])) : ∃ before, EndsIn (join base child) before name := by
  obtain ⟨lead, ended, joined⟩ := join_lead base
  have relative : isAbsolute child.toList = false := by
    cases split : front ++ [name] with
    | nil => simp at split
    | cons first rest =>
        have named := down.named first (by simp [split])
        refine isAbsolute_of_named (by rw [down.pieces, split]) ?_
        rintro rfl
        simp [Disk.isName] at named
  have named := down.named name (by simp)
  rcases ended with rfl | ⟨before, rfl⟩
  · refine ⟨front, ?_, named⟩
    rw [joined child relative]
    exact down.pieces
  · refine ⟨pieces before ++ front, ?_, named⟩
    rw [joined child relative, List.append_assoc, List.singleton_append, pieces_append_slash,
      down.pieces, List.append_assoc]

end Path

namespace Disk

theorem makeDown_again {disk after : Disk} {location : Location} {names : List Path.Piece}
    {cause : Cause} (failed : disk.makeDown location names = (.error cause, after)) :
    after.makeDown location names = (.error cause, after) := by
  induction names generalizing disk location with
  | nil => simp [makeDown] at failed
  | cons name rest ih =>
      have keeps := makeDown_keeps disk location (name :: rest)
      rw [failed] at keeps
      simp only [makeDown] at failed ⊢
      cases short : checkName name with
      | error reason => simp_all
      | ok _ =>
          simp only [short] at failed ⊢
          cases found : disk.node? (location ++ [name]) with
          | none =>
              simp only [found] at failed
              have made := makeDown_keeps (disk.place (location ++ [name]) .directory)
                (location ++ [name]) rest
              rw [failed] at made
              have there := made.directory (location ++ [name]) (by simp [node?_place])
              simp only [there]
              exact ih failed
          | some node =>
              cases node with
              | directory =>
                  simp only [found] at failed
                  simp only [keeps.directory _ found]
                  exact ih failed
              | file content =>
                  simp only [found, Prod.mk.injEq, Except.error.injEq] at failed
                  obtain ⟨rfl, rfl⟩ := failed
                  simp [found]

theorem ensureDirectory_tree {disk : Disk} (tree : disk.IsTree) (path : String) :
    (disk.ensureDirectory path).2.IsTree := by
  refine (ensureDirectory_grows disk path).tree tree ?_
  rintro location (⟨shorter, _, led⟩ | impossible)
  · exact ⟨shorter, led⟩
  · exact impossible.elim

theorem ensureDirectory_again {disk after : Disk} (tree : disk.IsTree) {path : String}
    {location : Location} {front before : List Path.Piece} {name : Path.Piece}
    (heads : Heads disk path location (front ++ [name])) (ends : Path.EndsIn path before name)
    {error : StoreError} (failed : disk.ensureDirectory path = (.error error, after)) :
    after.ensureDirectory path = (.error error, after) := by
  have keeps := (ensureDirectory_grows disk path).keeps
  have treeAfter := ensureDirectory_tree tree path
  rw [failed] at keeps treeAfter
  cases checked : checkPath path.toList with
  | error cause =>
      rw [ensureDirectory_of_refused disk ends checked] at failed
      obtain ⟨same, rfl⟩ := Prod.mk.inj failed
      rw [ensureDirectory_of_refused disk ends checked, same]
  | ok _ =>
      rw [ensureDirectory_eq tree heads ends checked] at failed
      rw [ensureDirectory_eq treeAfter (heads.keeps keeps) ends checked]
      cases made : disk.makeDown location (front ++ [name]) with
      | mk outcome final =>
          rw [made] at failed
          cases outcome with
          | ok _ => simp at failed
          | error cause =>
              obtain ⟨rfl, rfl⟩ : StoreError.makeDirectory path cause = error ∧ final = after := by
                simpa using failed
              rw [makeDown_again made]

end Disk

namespace Artifact

theorem prepare_again {artifact : Artifact} {directory : String} {disk after : Disk}
    (tree : disk.IsTree) {location : Disk.Location} {front before : List Path.Piece}
    {last name : Path.Piece}
    (heads : Heads disk (artifact.path directory) location (front ++ [last] ++ [name]))
    (ends : Path.EndsIn (artifact.path directory) before name) {error : StoreError}
    (failed : artifact.prepare directory disk = (.error error, after)) :
    artifact.prepare directory after = (.error error, after) := by
  obtain ⟨parent, above, found, initial, parentEnds, parentHeads⟩ := heads.parent ends
  simp only [prepare, Disk.ensureParent, found] at failed ⊢
  split at failed
  · next there =>
      obtain ⟨same, rfl⟩ := Prod.mk.inj failed
      rw [if_pos there, same]
  · have again := Disk.ensureDirectory_again tree parentHeads parentEnds failed
    have notThere : after.isDirectory (artifact.path directory) = false := by
      rw [Bool.eq_false_iff]
      intro there
      obtain ⟨_, led, _⟩ := (Disk.isDirectory_iff after _).mp there
      have checked := ((Disk.resolve_ok_iff after _ _).mp led).1
      have parentChecked := Disk.checkPath_initial initial (Disk.nonempty_of_endsIn parentEnds) checked
      obtain ⟨final, entered⟩ := (Disk.isDirectory_iff_enter after checked).mp there
      obtain ⟨rest, whole⟩ := Path.moves_parent found
      rw [← whole, Disk.enter_append, ← Disk.origin_parent after found] at entered
      cases reached : after.enter (after.origin parent.toList) (Path.moves parent) with
      | error cause => simp [reached, Except.bind] at entered
      | ok middle =>
          have parentThere := (Disk.isDirectory_iff_enter after parentChecked).mpr ⟨middle, reached⟩
          simp [Disk.ensureDirectory, parentThere] at again
    simpa [notThere] using again

theorem prepareAll_again {artifacts : List Artifact} {directory : String} {disk after : Disk}
    (tree : disk.IsTree) {location : Disk.Location}
    (heads : ∀ artifact ∈ artifacts, ∃ front last name before,
      Heads disk (artifact.path directory) location (front ++ [last] ++ [name]) ∧
        Path.EndsIn (artifact.path directory) before name)
    (free : ∀ artifact ∈ artifacts, disk.isDirectory (artifact.path directory) = false →
      after.isDirectory (artifact.path directory) = false)
    {error : StoreError} (failed : prepareAll directory artifacts disk = (.error error, after)) :
    prepareAll directory artifacts after = (.error error, after) := by
  -- By induction on the artifacts: those before the one that failed are prepared by now.
  induction artifacts generalizing disk with
  | nil => simp [prepareAll_nil] at failed
  | cons artifact rest ih =>
      rw [List.forall_mem_cons] at heads free
      have keepsFirst := (prepare_grows artifact directory disk).keeps
      have settled := prepare_ok artifact directory disk
      have treeFirst := prepare_tree tree artifact directory
      rw [prepareAll_cons] at failed ⊢
      cases prepared : artifact.prepare directory disk with
      | mk outcome middle =>
          rw [prepared] at keepsFirst settled treeFirst failed
          cases outcome with
          | error reason =>
              obtain ⟨same, rfl⟩ := Prod.mk.inj failed
              obtain ⟨front, last, name, before, leads, ends⟩ := heads.1
              rw [prepare_again tree leads ends prepared, ← same]
          | ok _ =>
              have laterFailed : prepareAll directory rest middle = (.error error, after) := failed
              have keeps := (prepareAll_grows directory rest middle).keeps
              rw [laterFailed] at keeps
              have notThere : disk.isDirectory (artifact.path directory) = false := by
                rw [Bool.eq_false_iff]
                intro there
                simp [prepare, there] at prepared
              have again : artifact.prepare directory after = (.ok (), after) := by
                rw [prepare, free.1 notThere]
                exact ((settled rfl).keeps keeps).ensureParent
              rw [again]
              refine ih treeFirst (fun other member => ?_) (fun other member notYet => ?_) laterFailed
              · obtain ⟨front, last, name, before, leads, ends⟩ := heads.2 other member
                exact ⟨front, last, name, before, leads.keeps keepsFirst, ends⟩
              · refine free.2 other member ?_
                rw [Bool.eq_false_iff] at notYet ⊢
                exact fun there => notYet (keepsFirst.isDirectory there)

theorem prepareAll_ok_free {artifacts : List Artifact} {directory : String} {disk : Disk}
    (ok : (prepareAll directory artifacts disk).1 = .ok ()) :
    ∀ artifact ∈ artifacts, disk.isDirectory (artifact.path directory) = false := by
  induction artifacts generalizing disk with
  | nil => simp
  | cons artifact rest ih =>
      have keeps := (prepare_grows artifact directory disk).keeps
      rw [prepareAll_cons] at ok
      cases there : disk.isDirectory (artifact.path directory) with
      | true => simp [prepare, there] at ok
      | false =>
          cases prepared : artifact.prepare directory disk with
          | mk outcome middle =>
              rw [prepared] at ok keeps
              cases outcome with
              | error error => simp at ok
              | ok _ =>
                  rw [List.forall_mem_cons]
                  refine ⟨there, fun other member => ?_⟩
                  have notYet := ih ok other member
                  rw [Bool.eq_false_iff] at notYet ⊢
                  exact fun isThere => notYet (keeps.isDirectory isThere)

theorem writeAll_again {artifacts : List Artifact} {directory : String} {disk after : Disk}
    (tree : disk.IsTree) {location : Disk.Location}
    (heads : ∀ artifact ∈ artifacts, ∃ front last name before,
      Heads disk (artifact.path directory) location (front ++ [last] ++ [name]) ∧
        Path.EndsIn (artifact.path directory) before name)
    (free : ∀ artifact ∈ artifacts, disk.isDirectory (artifact.path directory) = false →
      (prepareAll directory artifacts disk).2.isDirectory (artifact.path directory) = false)
    {error : StoreError} (failed : writeAll artifacts directory disk = (.error error, after)) :
    writeAll artifacts directory after = (.error error, after) := by
  have stays := writeAll_error (congrArg Prod.fst failed)
  have settled := prepareAll_ok directory artifacts disk
  rw [failed] at stays
  subst stays
  cases prepared : prepareAll directory artifacts disk with
  | mk outcome middle =>
      rw [prepared] at free settled
      rw [writeAll, prepared] at failed
      cases outcome with
      | error reason =>
          obtain ⟨same, _⟩ := Prod.mk.inj failed
          rw [writeAll, prepareAll_again tree heads free prepared, ← same]
      | ok _ =>
          have notThere (artifact : Artifact) (member : artifact ∈ artifacts) :
              middle.isDirectory (artifact.path directory) = false :=
            free artifact member (prepareAll_ok_free (by rw [prepared]) artifact member)
          obtain ⟨same, ok⟩ := prepareAll_of_settled (settled rfl)
          have again : prepareAll directory artifacts middle = (.ok (), middle) :=
            Prod.ext (ok notThere) same
          rw [writeAll, again]
          simpa [prepared] using failed

end Artifact

namespace Module

variable {manifest : Manifest} {variant : Variant} {base : String} {module : Module}
  {artifacts : List Artifact}

theorem IsOnTheWay.not_own (faultless : DocumentPlace.nameFault? module.name = none)
    {before after : Disk} (tree : before.IsTree) {start : Disk.Location}
    {names : List Path.Piece} (heads : Heads before base start names)
    (working : after.working = before.working) {here : Disk.Location}
    (onTheWay : IsOnTheWay variant base module after here) (missing : before.node? here = none)
    {name : String} (own : name ∈ fileNames variant) :
    here ≠ before.destination (Path.join (module.directory base) name) := by
  obtain ⟨path, led, along⟩ := onTheWay
  have place : here = before.destination path := by
    rw [Disk.resolve_destination led, Disk.destination_of_working working]
  subst place
  have down := downward_own own
  rw [Disk.destination_join before _ down, destination_directory before base faultless]
  intro same
  rcases along with ofBase | ofOwn | ⟨_, below⟩
  · have shorter := (heads.missing_initial tree ofBase missing).length_le
    simp only [same, List.length_append, List.length_singleton] at shorter
    omega
  · rw [Disk.destination_congr before ofOwn, destination_directory before base faultless] at same
    exact down.nonempty (List.append_right_eq_self.mp same.symm)
  · have downUtils := Path.downward_name (by decide : Disk.isName "utils".toList = true) (by decide)
    rw [Disk.destination_congr before below, Disk.destination_join before _ downUtils,
      destination_directory before base faultless] at same
    have utils := List.append_cancel_left same
    cases variant with
    | nested | flat =>
        simp only [fileNames, List.mem_cons, List.not_mem_nil, or_false] at own
        rcases own with rfl | rfl | rfl <;> exact absurd utils (by decide)

section

variable (faultless : DocumentPlace.nameFault? module.name = none)
  (made : module.artifacts manifest variant = .ok artifacts) {disk : Disk} (tree : disk.IsTree)
  {location : Disk.Location} {names : List Path.Piece} (heads : Heads disk base location names)
include faultless made heads

theorem heads_file {artifact : Artifact} (member : artifact ∈ artifacts) :
    Heads disk (artifact.path (module.directory base)) location
      (names ++ [module.name.toList] ++ Path.pieces artifact.name.toList) := by
  obtain ⟨named, whole, _⟩ := isName_of_nameFault? faultless
  have headsOwn : Heads disk (module.directory base) location (names ++ [module.name.toList]) :=
    heads.join (Path.downward_name named whole)
  exact headsOwn.join (downward_own (names_of_artifacts made ▸ List.mem_map_of_mem member))

include tree

theorem prepared_free {artifact : Artifact} (member : artifact ∈ artifacts)
    (free : disk.isDirectory (artifact.path (module.directory base)) = false) :
    (Artifact.prepareAll (module.directory base) artifacts disk).2.isDirectory
      (artifact.path (module.directory base)) = false := by
  have leads := heads_file faultless made heads member
  have own : artifact.name ∈ fileNames variant :=
    names_of_artifacts made ▸ List.mem_map_of_mem member
  have grows := (Artifact.prepareAll_grows (module.directory base) artifacts disk).weaken
    fun _ => prepared_onTheWay faultless (names_of_artifacts made)
  rw [Bool.eq_false_iff] at free ⊢
  intro there
  obtain ⟨here, led, found⟩ := (Disk.isDirectory_iff _ _).mp there
  have checked := ((Disk.resolve_ok_iff _ _ here).mp led).1
  obtain ⟨final, entered⟩ := (Disk.isDirectory_iff_enter _ checked).mp there
  rw [(leads.keeps grows.keeps).enter] at entered
  rw [Disk.resolve_destination led, Disk.destination_of_working grows.working] at found
  have was : disk.node? (disk.destination (artifact.path (module.directory base))) =
      some .directory := by
    rcases grows.nodes (disk.destination (artifact.path (module.directory base))) with
      same | ⟨missing, _, onTheWay⟩ | ⟨_, impossible, _⟩
    · exact same ▸ found
    · exact (onTheWay.not_own faultless tree heads grows.working missing own rfl).elim
    · exact impossible.elim
  rw [leads.destination] at was
  refine free ((Disk.isDirectory_iff_enter disk checked).mpr ⟨final, ?_⟩)
  rw [leads.enter]
  exact tree.enter_alike leads.directory leads.named entered was

/-- Where the base leads down by names a module fails once more in the same way. -/
theorem writeAll_again {after : Disk} {error : StoreError}
    (failed : Artifact.writeAll artifacts (module.directory base) disk = (.error error, after)) :
    Artifact.writeAll artifacts (module.directory base) after = (.error error, after) := by
  refine @Artifact.writeAll_again artifacts _ disk after tree location (fun artifact member => ?_)
    (fun artifact member => prepared_free faultless made tree heads member) error failed
  have own : artifact.name ∈ fileNames variant :=
    names_of_artifacts made ▸ List.mem_map_of_mem member
  have down := downward_own own
  have leads := heads_file faultless made heads member
  obtain ⟨init, name, ended⟩ := (List.eq_nil_or_concat _).resolve_left down.nonempty
  obtain ⟨front, last, middle⟩ :=
    (List.eq_nil_or_concat (names ++ [module.name.toList] ++ init)).resolve_left (by simp)
  rw [List.concat_eq_append] at ended middle
  rw [ended] at down leads
  rw [← List.append_assoc, middle] at leads
  obtain ⟨before, ends⟩ := Path.endsIn_join (module.directory base) down
  exact ⟨front, last, name, before, leads, ends⟩

end

end Module

end RouteForge
