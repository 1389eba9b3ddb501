import Apexd.Model.ShimContents

/-! # What the shim is checked for

The status of an entry is that of what a symbolic link leads to, so that no entry is ever found to
be a link.
-/

namespace Apexd

open Storage

namespace Shim

namespace ShimMount

variable {mount : ShimMount} {order : List (List String)}

/-- What an accepted entry may be, of those still expected. -/
def Passes (expectedFiles : Finset String) (path : List String) (node : Node Leaf) : Prop :=
  status node = .directory ∨ ∃ permissions, status node = .regular permissions ∧
    permissions &&& kForbiddenFilePermissions = 0 ∧ localPath path ∈ expectedFiles

theorem checkEntry_eq_ok {path : List String} {node : Node Leaf} {expected expected' : Finset String} :
    mount.checkEntry path node expected = .ok expected' ↔ Passes expected path node ∧
      expected' = if status node = .directory then expected
        else expected.erase (localPath path) := by
  unfold checkEntry Passes
  cases status node with
  | symlink => simp
  | regular permissions =>
    by_cases legal : permissions &&& kForbiddenFilePermissions = 0
    · by_cases listed : localPath path ∈ expected
      · simp [legal, listed, eq_comm]
      · simp [legal, listed]
    · simp [legal]
  | directory => simp [eq_comm]
  | other => simp

theorem increment_eq_ok {path : List String} {node : Node Leaf} :
    mount.increment path node = .ok () ↔ (node = .dir → mount.openError path = none) := by
  unfold increment
  cases node with
  | dir => cases mount.openError path <;> simp
  | file leaf => simp

/-- No file is met twice, so that what is no longer expected does not matter. -/
theorem scan_eq_ok : ∀ {visits : List (List String × Node Leaf)} {expected : Finset String},
    (visits.map fun visit => localPath visit.1).Nodup →
    (mount.scan visits expected = .ok () ↔ ∀ visit ∈ visits,
      Passes expected visit.1 visit.2 ∧ (visit.2 = .dir → mount.openError visit.1 = none))
  | [], _, _ => by simp [scan]
  | (path, node) :: rest, expected, nodup => by
    rw [List.map_cons, List.nodup_cons] at nodup
    obtain ⟨fresh, nodup⟩ := nodup
    have others (expected' : Finset String)
        (left : expected' = if status node = .directory then expected
          else expected.erase (localPath path)) :
        ∀ visit ∈ rest, (Passes expected' visit.1 visit.2 ↔ Passes expected visit.1 visit.2) := by
      intro visit member
      have differs : localPath visit.1 ≠ localPath path := fun same =>
        fresh (same ▸ List.mem_map_of_mem member)
      have stays : localPath visit.1 ∈ expected' ↔ localPath visit.1 ∈ expected := by
        rw [left]
        split
        · rfl
        · simp [differs]
      simp only [Passes, stays]
    rw [List.forall_mem_cons, scan]
    cases check : mount.checkEntry path node expected with
    | error e =>
      have fails : ¬ Passes expected path node := fun passes => by
        rw [checkEntry_eq_ok.mpr ⟨passes, rfl⟩] at check
        cases check
      simp [fails]
    | ok expected' =>
      obtain ⟨passes, left⟩ := checkEntry_eq_ok.mp check
      have increments : mount.increment path node = .ok () ↔
          (node = .dir → mount.openError path = none) := increment_eq_ok
      cases step : mount.increment path node with
      | error e =>
        have stuck : ¬ (node = .dir → mount.openError path = none) := fun opens => by
          rw [increments.mpr opens] at step
          cases step
        simp only [reduceCtorEq, false_iff]
        exact fun all => stuck all.1.2
      | ok done =>
        have opens := increments.mp step
        simp only [scan_eq_ok nodup, passes, true_and]
        constructor
        · intro all
          exact ⟨opens, fun visit member => ⟨(others _ left visit member).mp (all visit member).1,
            (all visit member).2⟩⟩
        · rintro ⟨-, all⟩ visit member
          exact ⟨(others _ left visit member).mpr (all visit member).1, (all visit member).2⟩

/-! ## The walk -/

theorem mem_walked (walk : mount.entries.IsWalk [] order) {visit : List String × Node Leaf} :
    visit ∈ mount.walked order ↔ mount.entries.lookup visit.1 = some visit.2 := by
  obtain ⟨path, node⟩ := visit
  simp only [walked, List.mem_filterMap, Option.map_eq_some_iff, Prod.mk.injEq]
  constructor
  · rintro ⟨_, _, _, found, rfl, rfl⟩
    exact found
  · intro found
    have inTree : path ∈ mount.entries :=
      Finmap.lookup_isSome.mp (Option.isSome_iff_exists.mpr ⟨node, found⟩)
    exact ⟨path, (walk.mem_iff path).mpr ⟨inTree, List.nil_prefix⟩, node, found, rfl, rfl⟩

theorem localPath_inj {path other : List String} (inTree : path ∈ mount.entries)
    (inTree' : other ∈ mount.entries) (same : localPath path = localPath other) : path = other := by
  have split {path : List String} (inTree : path ∈ mount.entries) :
      Text.split '/' (localPath path) = path :=
    Text.split_join (fun empty => mount.closed.root (empty ▸ inTree)) (mount.names path inTree)
  rw [← split inTree, same, split inTree']

theorem nodup_walked (walk : mount.entries.IsWalk [] order) :
    ((mount.walked order).map fun visit => localPath visit.1).Nodup := by
  have inTree {visit : List String × Node Leaf} (member : visit ∈ mount.walked order) :
      visit.1 ∈ mount.entries :=
    Finmap.lookup_isSome.mp (Option.isSome_iff_exists.mpr ⟨_, (mem_walked walk).mp member⟩)
  refine List.Nodup.map_on ?_ (walk.nodup.filterMap ?_)
  · intro visit member visit' member' same
    have samePath := localPath_inj (inTree member) (inTree member') same
    have node := (mem_walked walk).mp member
    rw [samePath, (mem_walked walk).mp member'] at node
    exact Prod.ext samePath (Option.some.inj node).symm
  · intro path path' visit found found'
    simp only [Option.mem_def, Option.map_eq_some_iff] at found found'
    obtain ⟨_, _, rfl⟩ := found
    obtain ⟨_, _, same⟩ := found'
    exact (congrArg Prod.fst same).symm

/-- The status of the entry passes the checks, and a directory can be opened. -/
def Admits (mount : ShimMount) (path : List String) (node : Node Leaf) : Prop :=
  Passes kExpectedCtsShimFiles.toFinset path node ∧ (node = .dir → mount.openError path = none)

def HasHook (mount : ShimMount) : Prop :=
  mount.preinstallhook ≠ "" ∨ mount.postinstallhook ≠ ""

theorem validateShimApex_eq_ok (walk : mount.entries.IsWalk [] order) :
    mount.validateShimApex order = .ok () ↔ ¬ mount.HasHook ∧ (mount.openError [] ≠ none ∨
      ∀ path node, mount.entries.lookup path = some node → mount.Admits path node) := by
  unfold validateShimApex HasHook
  by_cases hook : mount.preinstallhook ≠ "" ∨ mount.postinstallhook ≠ ""
  · simp [hook]
  · rw [if_neg hook]
    cases mount.openError [] with
    | some message => simp [hook]
    | none =>
      simp only [scan_eq_ok (nodup_walked walk), hook, not_false_eq_true, true_and, ne_eq,
        not_true_eq_false, false_or]
      constructor
      · intro all path node found
        exact all (path, node) ((mem_walked walk).mpr found)
      · intro all visit member
        exact all visit.1 visit.2 ((mem_walked walk).mp member)

/-! ## The contents -/

/-- An allowed entry: a directory, or an expected regular file that nobody may execute. -/
def Allowed (path : List String) (node : Node Leaf) : Prop :=
  node = .dir ∨ ∃ permissions, node = .file (.regular permissions) ∧
    permissions &&& kForbiddenFilePermissions = 0 ∧ localPath path ∈ kExpectedCtsShimFiles

def AllowedContents (mount : ShimMount) : Prop :=
  ∀ path node, mount.entries.lookup path = some node → Allowed path node

def IsSymlink (node : Node Leaf) : Prop :=
  ∃ target, node = .file (.symlink target)

theorem allowed_iff {path : List String} {node : Node Leaf} :
    Allowed path node ↔ Passes kExpectedCtsShimFiles.toFinset path node ∧ ¬ IsSymlink node := by
  unfold Allowed Passes IsSymlink
  cases node with
  | dir => simp [status]
  | file leaf =>
    cases leaf with
    | regular permissions => simp [status]
    | special => simp [status]
    | symlink target => cases target <;> simp [status]

/-- What is accepted although it is not allowed: a tree that could not be opened, and one with
symbolic links to what would be allowed in their place. -/
theorem accepted_not_allowed_iff (walk : mount.entries.IsWalk [] order) :
    (mount.validateShimApex order = .ok () ∧ ¬ mount.AllowedContents) ↔ ¬ mount.HasHook ∧
      ((mount.openError [] ≠ none ∧ ¬ mount.AllowedContents) ∨
        (mount.openError [] = none ∧
          (∀ path node, mount.entries.lookup path = some node → mount.Admits path node) ∧
          ∃ path node, mount.entries.lookup path = some node ∧ IsSymlink node)) := by
  rw [validateShimApex_eq_ok walk]
  constructor
  · rintro ⟨⟨noHook, unopened | admitted⟩, notAllowed⟩
    · exact ⟨noHook, .inl ⟨unopened, notAllowed⟩⟩
    · by_cases opens : mount.openError [] = none
      · refine ⟨noHook, .inr ⟨opens, admitted, ?_⟩⟩
        by_contra noLink
        refine notAllowed fun path node found => ?_
        exact allowed_iff.mpr ⟨(admitted path node found).1,
          fun link => noLink ⟨path, node, found, link⟩⟩
      · exact ⟨noHook, .inl ⟨opens, notAllowed⟩⟩
  · rintro ⟨noHook, ⟨unopened, notAllowed⟩ | ⟨_, admitted, path, node, found, link⟩⟩
    · exact ⟨⟨noHook, .inl unopened⟩, notAllowed⟩
    · exact ⟨⟨noHook, .inr admitted⟩, fun allowed => (allowed_iff.mp (allowed path node found)).2 link⟩

/-- A tree that can be opened and has no symbolic links is accepted with allowed contents only. -/
theorem validateShimApex_sound (walk : mount.entries.IsWalk [] order)
    (condition : mount.HasHook ∨ (mount.openError [] = none ∧
      ∀ path node, mount.entries.lookup path = some node → ¬ IsSymlink node))
    (accepted : mount.validateShimApex order = .ok ()) : mount.AllowedContents := by
  by_contra notAllowed
  obtain ⟨noHook, rest⟩ := (accepted_not_allowed_iff walk).mp ⟨accepted, notAllowed⟩
  rcases condition with hook | ⟨opens, noLinks⟩
  · exact noHook hook
  · rcases rest with ⟨unopened, _⟩ | ⟨_, _, path, node, found, link⟩
    · exact unopened opens
    · exact noLinks path node found link

/-- A shim with a single entry. -/
def singleton (name : String) (leaf : Leaf) (valid : '/' ∉ name.toList) : ShimMount where
  mountPoint := "/apex/com.android.apex.cts.shim"
  preinstallhook := ""
  postinstallhook := ""
  entries := Finmap.singleton [name] (.file leaf)
  closed := {
    root := by simp
    parent := by
      intro path other member
      rw [Finmap.mem_singleton] at member
      exact .inl (List.append_inj_left' (member.trans (List.nil_append [name]).symm) rfl) }
  names := by
    intro path member other inside
    rw [Finmap.mem_singleton] at member
    rw [member, List.mem_singleton] at inside
    exact inside ▸ valid
  openError _ := none

theorem isWalk_singleton (name : String) (leaf : Leaf) (valid : '/' ∉ name.toList) :
    (singleton name leaf valid).entries.IsWalk [] [[name]] := by
  refine ⟨by simp, fun path => ?_, by simp⟩
  rw [singleton, Finmap.mem_singleton]
  simp

theorem validateShimApex_sound_manifest :
    (singleton "apex_manifest.pb" (.regular 0x1A4) (by decide)).validateShimApex
        [["apex_manifest.pb"]] = .ok () ∧
      (singleton "apex_manifest.pb" (.regular 0x1A4) (by decide)).AllowedContents := by
  have accepted : (singleton "apex_manifest.pb" (.regular 0x1A4) (by decide)).validateShimApex
      [["apex_manifest.pb"]] = .ok () := by decide +kernel
  refine ⟨accepted, validateShimApex_sound (isWalk_singleton _ _ _) (.inr ⟨rfl, ?_⟩) accepted⟩
  rintro path node found ⟨target, rfl⟩
  have inTree := Finmap.lookup_isSome.mp (Option.isSome_iff_exists.mpr ⟨_, found⟩)
  rw [singleton, Finmap.mem_singleton] at inTree
  subst inTree
  cases found

/-- A shim whose directory of apps is a link to some other directory. -/
def linkedShim : ShimMount :=
  singleton "app" (.symlink .directory) (by decide)

theorem not_allowedContents_linkedShim : linkedShim.entries.IsWalk [] [["app"]] ∧
    linkedShim.validateShimApex [["app"]] = .ok () ∧ ¬ linkedShim.AllowedContents := by
  refine ⟨isWalk_singleton _ _ _, by decide +kernel, ?_⟩
  intro allowed
  have link := allowed ["app"] (.file (.symlink .directory)) rfl
  exact (allowed_iff.mp link).2 ⟨.directory, rfl⟩

end ShimMount

end Shim

end Apexd
