import RouteForge.Proofs.DiskResolution
import RouteForge.Proofs.PathComponents
import RouteForge.Store.Files

/-!
Making directories only adds directories, each at a prefix of the path asked for. A path whose
parent has been made is settled: nothing more has to be made for it as long as nothing is lost.
-/

namespace RouteForge.Disk

/-- Between two disks directories were added at some locations and files were written at others,
and nothing else was changed. -/
structure Changes (before after : Disk) (made written : Location → Prop) : Prop where
  working : after.working = before.working
  nodes : ∀ location, after.node? location = before.node? location ∨
    (before.node? location = none ∧ after.node? location = some .directory ∧ made location) ∨
    (before.node? location ≠ some .directory ∧ written location ∧
      ∃ content, after.node? location = some (.file content))

theorem Changes.refl (disk : Disk) (made written : Location → Prop) :
    Changes disk disk made written :=
  ⟨rfl, fun _ => Or.inl rfl⟩

theorem Changes.keeps {before after : Disk} {made written : Location → Prop}
    (changes : Changes before after made written) : Keeps before after := by
  refine ⟨changes.working, ?_, ?_⟩
  · intro location found
    rcases changes.nodes location with same | ⟨missing, _⟩ | ⟨notDirectory, _⟩
    · rw [same, found]
    · simp [missing] at found
    · exact (notDirectory found).elim
  · intro location found
    rcases changes.nodes location with same | ⟨missing, _⟩ | ⟨_, _, content, wrote⟩
    · rwa [same]
    · exact (found missing).elim
    · simp [wrote]

theorem Changes.weaken {before after : Disk} {made written moreMade moreWritten : Location → Prop}
    (changes : Changes before after made written)
    (subsetMade : ∀ location, made location → moreMade location)
    (subsetWritten : ∀ location, written location → moreWritten location) :
    Changes before after moreMade moreWritten := by
  refine ⟨changes.working, ?_⟩
  intro location
  rcases changes.nodes location with same | ⟨missing, isDirectory, isMade⟩ | ⟨was, isWritten, is⟩
  · exact Or.inl same
  · exact Or.inr (Or.inl ⟨missing, isDirectory, subsetMade location isMade⟩)
  · exact Or.inr (Or.inr ⟨was, subsetWritten location isWritten, is⟩)

theorem Changes.trans {first second third : Disk} {made written : Location → Prop}
    (earlier : Changes first second made written) (later : Changes second third made written) :
    Changes first third made written := by
  refine ⟨later.working.trans earlier.working, ?_⟩
  intro location
  rcases later.nodes location with same | ⟨missing, isDirectory, isMade⟩ | ⟨was, isWritten, is⟩
  · rw [same]
    exact earlier.nodes location
  · rcases earlier.nodes location with same | ⟨_, wasDirectory, _⟩ | ⟨_, _, _, wasFile⟩
    · exact Or.inr (Or.inl ⟨same.symm.trans missing, isDirectory, isMade⟩)
    · simp [wasDirectory] at missing
    · simp [wasFile] at missing
  · refine Or.inr (Or.inr ⟨?_, isWritten, is⟩)
    intro wasDirectory
    exact was (earlier.keeps.directory location wasDirectory)

theorem Changes.file_iff {before after : Disk} {made written : Location → Prop}
    (changes : Changes before after made written) (location : Location)
    (notWritten : ¬written location) (content : ByteArray) :
    after.node? location = some (.file content) ↔
      before.node? location = some (.file content) := by
  rcases changes.nodes location with same | ⟨missing, isDirectory, _⟩ | ⟨_, isWritten, _⟩
  · rw [same]
  · simp [missing, isDirectory]
  · exact (notWritten isWritten).elim

abbrev Grows (before after : Disk) (made : Location → Prop) : Prop :=
  Changes before after made fun _ => False

theorem Grows.weaken {before after : Disk} {made more : Location → Prop}
    (grows : Grows before after made) (subset : ∀ location, made location → more location) :
    Grows before after more :=
  Changes.weaken grows subset fun _ impossible => impossible

def AtPrefix (disk : Disk) (components : List Path.Component) (location : Location) : Prop :=
  ∃ path, Path.components path <+: components ∧ disk.resolve path = .ok location

theorem AtPrefix.keeps {before after : Disk} (keeps : Keeps before after)
    {components : List Path.Component} {location : Location}
    (led : AtPrefix before components location) : AtPrefix after components location := by
  obtain ⟨path, isPrefix, resolved⟩ := led
  exact ⟨path, isPrefix, keeps.resolve resolved⟩

theorem AtPrefix.weaken {disk : Disk} {shorter longer : List Path.Component}
    {location : Location} (led : AtPrefix disk shorter location) (isPrefix : shorter <+: longer) :
    AtPrefix disk longer location := by
  obtain ⟨path, below, resolved⟩ := led
  exact ⟨path, below.trans isPrefix, resolved⟩

theorem makeDirectory_grows {disk after : Disk} {path : String}
    (made : disk.makeDirectory path = .ok after) :
    Grows disk after (AtPrefix after (Path.components path)) ∧ after.isDirectory path = true := by
  obtain ⟨directory, name, slashed, names, missing, rfl⟩ :=
    (makeDirectory_ok_iff disk after path).mp made
  have placed := node?_place disk (directory ++ [name]) (by simp) .directory
  have keeps : Keeps disk (disk.place (directory ++ [name]) .directory) :=
    keeps_place disk (by simp) fun _ => rfl
  have resolved := ((keeps.names names).resolve_ok_iff (directory ++ [name])).mpr
    ⟨rfl, by simp [placed], fun _ => by simp [placed]⟩
  refine ⟨⟨rfl, ?_⟩, (isDirectory_iff _ path).mpr ⟨_, resolved, by simp [placed]⟩⟩
  intro location
  rw [placed]
  by_cases same : location = directory ++ [name]
  · subst same
    exact Or.inr (Or.inl ⟨missing, by simp, path, List.prefix_rfl, resolved⟩)
  · exact Or.inl (by simp [same])

theorem unlessDirectory_ok_iff (disk : Disk) (path : String) (cause : Cause) :
    disk.unlessDirectory path cause = .ok () ↔ disk.isDirectory path = true := by
  cases found : disk.isDirectory path <;> simp [unlessDirectory, found]

theorem components_parent_initial {path parent : String} (found : Path.parent? path = some parent) :
    Path.components parent <+: Path.components path := by
  rw [Path.components_parent found]
  exact List.dropLast_prefix _

theorem makeDirectoriesFrom_grows (fuel : Nat) (disk : Disk) (path : String) :
    Grows disk (makeDirectoriesFrom fuel disk path).2
      (AtPrefix (makeDirectoriesFrom fuel disk path).2 (Path.components path)) := by
  fun_induction makeDirectoriesFrom fuel disk path with
  | case1 | case2 | case4 | case8 => exact Changes.refl _ _ _
  | case3 fuel disk path _ made attempt => exact (makeDirectory_grows attempt).1
  | case5 fuel disk path _ _ parent parentEq cause after parents ih =>
      rw [parents] at ih
      exact Grows.weaken ih fun location led => led.weaken (components_parent_initial parentEq)
  | case6 fuel disk path _ _ parent parentEq _ after parents made again ih =>
      rw [parents] at ih
      obtain ⟨last, _⟩ := makeDirectory_grows again
      refine Changes.trans (Grows.weaken ih ?_) last
      intro location led
      exact (led.weaken (components_parent_initial parentEq)).keeps last.keeps
  | case7 fuel disk path _ _ parent parentEq _ after parents cause again ih =>
      rw [parents] at ih
      exact Grows.weaken ih fun location led => led.weaken (components_parent_initial parentEq)

theorem makeDirectoriesFrom_ok (fuel : Nat) (disk : Disk) (path : String) :
    (makeDirectoriesFrom fuel disk path).1 = .ok () →
      path = "" ∨ (makeDirectoriesFrom fuel disk path).2.isDirectory path = true := by
  fun_cases makeDirectoriesFrom fuel disk path with
  | case1 | case4 | case5 => intro impossible; simp at impossible
  | case2 _ _ _ empty => exact fun _ => Or.inl (String.isEmpty_iff.mp empty)
  | case3 _ _ _ _ made attempt => exact fun _ => Or.inr (makeDirectory_grows attempt).2
  | case6 _ _ _ _ _ parent _ _ after _ made again =>
      exact fun _ => Or.inr (makeDirectory_grows again).2
  | case7 _ _ _ _ _ parent _ _ after _ cause again =>
      exact fun there => Or.inr ((unlessDirectory_ok_iff after path cause).mp there)
  | case8 _ _ _ _ cause _ attempt =>
      exact fun there => Or.inr ((unlessDirectory_ok_iff disk path cause).mp there)

/-! The directory a path is in. -/

theorem ensureDirectory_grows (disk : Disk) (path : String) :
    Grows disk (disk.ensureDirectory path).2
      (AtPrefix (disk.ensureDirectory path).2 (Path.components path)) := by
  have grows := makeDirectoriesFrom_grows (path.length + 1) disk path
  rw [← makeDirectories] at grows
  fun_cases ensureDirectory disk path with
  | case1 => exact Changes.refl _ _ _
  | case2 _ _ after made | case3 _ cause after made => rwa [made] at grows

theorem ensureDirectory_ok (disk : Disk) (path : String) :
    (disk.ensureDirectory path).1 = .ok () →
      path = "" ∨ (disk.ensureDirectory path).2.isDirectory path = true := by
  have ok := makeDirectoriesFrom_ok (path.length + 1) disk path
  rw [← makeDirectories] at ok
  fun_cases ensureDirectory disk path with
  | case1 there => exact fun _ => Or.inr there
  | case2 _ _ after made => exact fun _ => by simpa [made] using ok
  | case3 => intro impossible; simp at impossible

/-- Nothing has to be made before something can be written at a path. -/
def Settled (disk : Disk) (path : String) : Prop :=
  ∀ parent, Path.parent? path = some parent → parent = "" ∨ disk.isDirectory parent = true

theorem Settled.keeps {before after : Disk} (keeps : Keeps before after) {path : String}
    (settled : Settled before path) : Settled after path := by
  intro parent found
  rcases settled parent found with empty | there
  · exact Or.inl empty
  · exact Or.inr (keeps.isDirectory there)

theorem Settled.ensureParent {disk : Disk} {path : String} (settled : Settled disk path) :
    disk.ensureParent path = (.ok (), disk) := by
  cases parentEq : Path.parent? path with
  | none => simp [Disk.ensureParent, parentEq]
  | some parent =>
      simp only [Disk.ensureParent, parentEq, ensureDirectory]
      rcases settled parent parentEq with rfl | there
      · split
        · rfl
        · simp [makeDirectories, makeDirectoriesFrom]
      · simp [there]

theorem ensureParent_grows (disk : Disk) (path : String) :
    Grows disk (disk.ensureParent path).2
      (AtPrefix (disk.ensureParent path).2 (Path.components path).dropLast) := by
  cases parentEq : Path.parent? path with
  | none =>
      simp only [ensureParent, parentEq]
      exact Changes.refl _ _ _
  | some parent =>
      simp only [ensureParent, parentEq, ← Path.components_parent parentEq]
      exact ensureDirectory_grows disk parent

theorem ensureParent_ok (disk : Disk) (path : String)
    (ok : (disk.ensureParent path).1 = .ok ()) : Settled (disk.ensureParent path).2 path := by
  intro parent parentEq
  simp only [ensureParent, parentEq] at ok ⊢
  exact ensureDirectory_ok disk parent ok

end RouteForge.Disk
