import Apexd.Model.SharedLibs
import Apexd.Process.Termination

/-! # The farm of shared libraries is the union of what contributes to it

A name in the farm links to the first of the mounted APEXes that has it, and a later one with a
library of another size under that name is the only reason for a failure.
-/

namespace Apexd

open Process Storage

variable {mounts : SharedLibsMounts} {farm farm' : Farm} {mountPoint : String}

/-! ## The calls -/

section Calls

theorem wp_pathIsThere {path : LibsPath} {Q : Except String Bool → Farm → Prop}
    (post : Q (.ok (path.isThere mounts farm)) farm) :
    wp (LibsStep mounts) Anything (pathIsThere path) Q farm := by
  unfold pathIsThere
  rw [wp_bind, wp_attempt]
  intro reply farm' step
  cases step with
  | pathExists => exact ⟨trivial, post⟩

theorem wp_getFileSize {path : LibsPath} {library : String} (size : Nat)
    {Q : Except String Nat → Farm → Prop} (found : path.fileSize mounts farm = some size)
    (post : Q (.ok size) farm) :
    wp (LibsStep mounts) Anything (getFileSize path library) Q farm := by
  unfold getFileSize
  rw [wp_mapError]
  intro reply farm' step
  cases step with
  | fileSize found' =>
    cases found.symm.trans found'
    exact ⟨trivial, post⟩
  | noFile absent => cases found.symm.trans absent

theorem wp_createDirectory {libPath : LibPath} {library : String}
    {Q : Except String Unit → Farm → Prop}
    (post : Q (.ok ()) { farm with dirs := insert (libPath, library) farm.dirs }) :
    wp (LibsStep mounts) Anything (libsCall (.createDirectory libPath library)) Q farm := by
  intro reply farm' step
  cases step with
  | createDirectory => exact ⟨trivial, post⟩

theorem wp_createDirectorySymlink {target : HashDir} {lib : SharedLib}
    {Q : Except String Unit → Farm → Prop} (parent : (lib.libPath, lib.library) ∈ farm.dirs)
    (free : lib ∉ farm.links) (post : Q (.ok ()) { farm with links := farm.links.insert lib target }) :
    wp (LibsStep mounts) Anything (libsCall (.createDirectorySymlink target lib)) Q farm := by
  intro reply farm' step
  cases step with
  | createDirectorySymlink => exact ⟨trivial, post⟩
  | noParent noParent => exact absurd parent noParent
  | taken _ taken => exact absurd taken free

theorem wp_listLibraries {libPath : LibPath} {entries : Directory LibEntry}
    {Q : Except String (List (String × Bool)) → Farm → Prop}
    (found : mounts mountPoint libPath = some entries)
    (post : ∀ names, entries.IsListing names → Q (.ok (names.map fun name =>
      (name, ((entries.lookup name).map LibEntry.isDirectory).getD false))) farm) :
    wp (LibsStep mounts) Anything (libsCall (.listLibraries mountPoint libPath)) Q farm := by
  intro reply farm' step
  cases step with
  | listLibraries found' isListing =>
    cases found.symm.trans found'
    exact ⟨trivial, post _ isListing⟩
  | listLibrariesAbsent absent => cases found.symm.trans absent

theorem wp_listHashes {libPath : LibPath} {library : String} {entries : Directory LibEntry}
    {hashes : Directory (Option Nat)} {Q : Except String (List String) → Farm → Prop}
    (found : mounts mountPoint libPath = some entries)
    (directory : entries.lookup library = some (.directory hashes))
    (post : ∀ names, hashes.IsListing names → Q (.ok names) farm) :
    wp (LibsStep mounts) Anything (libsCall (.listHashes mountPoint libPath library)) Q farm := by
  intro reply farm' step
  cases step with
  | listHashes found' directory' isListing =>
    cases found.symm.trans found'
    cases directory.symm.trans directory'
    exact ⟨trivial, post _ isListing⟩
  | listHashesAbsent absent => exact absurd directory (absent _ _ found)

end Calls

/-! ## Contributions -/

/-- The mounted APEX has a library of that name. -/
def SharedLibsMounts.Contributes (mounts : SharedLibsMounts) (mountPoint : String)
    (lib : SharedLib) : Prop :=
  (mounts.item ⟨mountPoint, lib⟩).isSome = true

/-- Each hash directory contains its library file. -/
def SharedLibsMounts.WellFormed (mounts : SharedLibsMounts) (mountPoint : String) : Prop :=
  ∀ lib, mounts.item ⟨mountPoint, lib⟩ ≠ some none

/-- Each link leads to a library of its name. -/
def Farm.Sound (mounts : SharedLibsMounts) (farm : Farm) : Prop :=
  ∀ lib dir, farm.links.lookup lib = some dir →
    dir.lib = lib ∧ ∃ size, mounts.item dir = some (some size)

/-- What the farm is after the names in `names` were contributed and the directories in `dirs` were
made: the first contributor of a name stays, and it agrees with the new one. -/
structure Added (mounts : SharedLibsMounts) (mountPoint : String) (names : SharedLib → Prop)
    (dirs : LibPath × String → Prop) (farm farm' : Farm) : Prop where
  sound : farm'.Sound mounts
  kept : ∀ lib, ¬ names lib → farm'.links.lookup lib = farm.links.lookup lib
  added : ∀ lib, names lib →
    farm'.links.lookup lib = some ((farm.links.lookup lib).getD ⟨mountPoint, lib⟩)
  agrees : ∀ lib, names lib → ∀ old, farm.links.lookup lib = some old →
    mounts.item old = mounts.item ⟨mountPoint, lib⟩
  keptDirs : farm.dirs ⊆ farm'.dirs
  addedDirs : ∀ dir, dirs dir → dir ∈ farm'.dirs

/-- A name in the farm refers to a library of another size. -/
def Conflict (mounts : SharedLibsMounts) (mountPoint : String) (farm : Farm) : Prop :=
  ∃ lib old, farm.links.lookup lib = some old ∧ mounts.Contributes mountPoint lib ∧
    mounts.item old ≠ mounts.item ⟨mountPoint, lib⟩

variable {names names' : SharedLib → Prop} {dirs dirs' : LibPath × String → Prop}

theorem Added.congr (added : Added mounts mountPoint names dirs farm farm')
    (same : ∀ lib, names' lib ↔ names lib) (fewer : ∀ dir, dirs' dir → dirs dir) :
    Added mounts mountPoint names' dirs' farm farm' where
  sound := added.sound
  kept lib other := added.kept lib fun member => other ((same lib).mpr member)
  added lib member := added.added lib ((same lib).mp member)
  agrees lib member := added.agrees lib ((same lib).mp member)
  keptDirs := added.keptDirs
  addedDirs dir member := added.addedDirs dir (fewer dir member)

theorem Added.start (sound : farm.Sound mounts) :
    Added mounts mountPoint (fun _ => False) (fun _ => False) farm farm where
  sound := sound
  kept _ _ := rfl
  added _ none := none.elim
  agrees _ none := none.elim
  keptDirs := Finset.Subset.refl _
  addedDirs _ none := none.elim

/-- What holds when a part of a call is over: more was added, or there was a conflict. -/
def Contributed (mounts : SharedLibsMounts) (mountPoint : String) (names : SharedLib → Prop)
    (dirs : LibPath × String → Prop) (farm : Farm) (result : Except String Unit) (farm' : Farm) :
    Prop :=
  match result with
  | .ok () => Added mounts mountPoint names dirs farm farm'
  | .error _ => Conflict mounts mountPoint farm ∧
    ∃ names dirs, Added mounts mountPoint names dirs farm farm'

theorem Contributed.congr {result : Except String Unit}
    (contributed : Contributed mounts mountPoint names dirs farm result farm')
    (same : ∀ lib, names' lib ↔ names lib) (fewer : ∀ dir, dirs' dir → dirs dir) :
    Contributed mounts mountPoint names' dirs' farm result farm' := by
  cases result with
  | error e => exact contributed
  | ok done => exact Added.congr contributed same fewer

/-- A loop whose parts add names. -/
theorem wp_forM_contributed {α : Type} {xs : List α} {f : α → Program sharedLibs String Unit}
    (mountPoint : String) (names : List α → SharedLib → Prop)
    (dirs : List α → LibPath × String → Prop) (start : Farm)
    (init : Added mounts mountPoint (names []) (dirs []) start farm)
    (body : ∀ before x after last, xs = before ++ x :: after →
      Added mounts mountPoint (names before) (dirs before) start last →
      wp (LibsStep mounts) Anything (f x)
        (Contributed mounts mountPoint (names (before ++ [x])) (dirs (before ++ [x])) start) last) :
    wp (LibsStep mounts) Anything (xs.forM f)
      (Contributed mounts mountPoint (names xs) (dirs xs) start) farm := by
  refine wp_forM (fun before last =>
    Added mounts mountPoint (names before) (dirs before) start last) init ?_ fun _ holds => holds
  intro before x after last split holds
  refine wp_mono (body before x after last split holds) ?_
  intro result after' post
  cases result with
  | error e => exact post
  | ok done => exact post

/-- A name that the farm does not have is linked. -/
theorem Added.link {lib : SharedLib} {size : Nat} {start : Farm}
    (added : Added mounts mountPoint names dirs start farm)
    (before : start.links.lookup lib = none)
    (item : mounts.item ⟨mountPoint, lib⟩ = some (some size)) :
    Added mounts mountPoint (fun other => names other ∨ other = lib) dirs start
      { farm with links := farm.links.insert lib ⟨mountPoint, lib⟩ } where
  sound := by
    intro other dir linked
    by_cases same : other = lib
    · subst same
      rw [Finmap.lookup_insert] at linked
      cases linked
      exact ⟨rfl, size, item⟩
    · rw [Finmap.lookup_insert_of_ne _ same] at linked
      exact added.sound other dir linked
  kept := by
    intro other fresh
    have ne : other ≠ lib := fun same => fresh (.inr same)
    rw [Finmap.lookup_insert_of_ne _ ne]
    exact added.kept other fun member => fresh (.inl member)
  added := by
    intro other member
    by_cases same : other = lib
    · subst same
      rw [Finmap.lookup_insert, before]
      rfl
    · rw [Finmap.lookup_insert_of_ne _ same]
      exact added.added other (member.resolve_right same)
  agrees := by
    intro other member old linked
    by_cases same : other = lib
    · subst same
      rw [before] at linked
      cases linked
    · exact added.agrees other (member.resolve_right same) old linked
  keptDirs := added.keptDirs
  addedDirs := added.addedDirs

/-- A name that the farm has stays as it is. -/
theorem Added.skip {old : HashDir} {start : Farm}
    (added : Added mounts mountPoint names dirs start farm)
    (before : start.links.lookup old.lib = some old)
    (found : farm.links.lookup old.lib = some old)
    (agree : mounts.item old = mounts.item ⟨mountPoint, old.lib⟩) :
    Added mounts mountPoint (fun other => names other ∨ other = old.lib) dirs start farm where
  sound := added.sound
  kept other fresh := added.kept other fun member => fresh (.inl member)
  added := by
    intro other member
    by_cases here : other = old.lib
    · rw [here, found, before]
      rfl
    · exact added.added other (member.resolve_right here)
  agrees := by
    intro other member old' linked
    by_cases here : other = old.lib
    · rw [here, before] at linked
      cases linked
      rw [agree, here]
    · exact added.agrees other (member.resolve_right here) old' linked
  keptDirs := added.keptDirs
  addedDirs := added.addedDirs

/-- The inner loop's step. -/
theorem wp_contributeHash {lib : SharedLib} {size : Nat} {start : Farm}
    (added : Added mounts mountPoint names dirs start farm) (new : ¬ names lib)
    (item : mounts.item ⟨mountPoint, lib⟩ = some (some size))
    (parent : (lib.libPath, lib.library) ∈ farm.dirs) :
    wp (LibsStep mounts) Anything (contributeHash ⟨mountPoint, lib⟩)
      (Contributed mounts mountPoint (fun other => names other ∨ other = lib) dirs start) farm := by
  have before : farm.links.lookup lib = start.links.lookup lib := added.kept lib new
  unfold contributeHash
  rw [wp_bind]
  refine wp_pathIsThere ?_
  cases found : farm.links.lookup lib with
  | none =>
    have absent : (LibsPath.symlinkHash lib).isThere mounts farm = false := by
      simp [LibsPath.isThere, found]
    simp only [absent, Bool.false_eq_true, if_false]
    rw [wp_mapError]
    refine wp_createDirectorySymlink parent (Finmap.lookup_eq_none.mp found) ?_
    exact added.link (before.symm.trans found) item
  | some old =>
    obtain ⟨rfl, oldSize, oldItem⟩ := added.sound lib old found
    have there : (LibsPath.symlinkHash old.lib).isThere mounts farm = true := by
      simp [LibsPath.isThere, found, oldItem]
    simp only [there, if_true]
    rw [wp_bind]
    refine wp_getFileSize oldSize (by simp [LibsPath.fileSize, found, oldItem]) ?_
    dsimp only
    rw [wp_bind]
    refine wp_getFileSize size (by simp [LibsPath.fileSize, item]) ?_
    dsimp only
    by_cases same : oldSize = size
    · rw [if_neg (not_not.mpr same)]
      have agree : mounts.item old = mounts.item ⟨mountPoint, old.lib⟩ := by
        rw [oldItem, item, same]
      exact added.skip (before.symm.trans found) found agree
    · rw [if_pos same]
      refine ⟨⟨old.lib, old, before ▸ found, ?_, ?_⟩, names, dirs, added⟩
      · rw [SharedLibsMounts.Contributes, item]
        rfl
      · rw [oldItem, item]
        simpa using same

theorem Added.withDir {dir : LibPath × String} {later : Farm} {start : Farm}
    (added : Added mounts mountPoint names dirs start farm) (links : later.links = farm.links)
    (kept : farm.dirs ⊆ later.dirs) (made : dir ∈ later.dirs) :
    Added mounts mountPoint names (fun other => dirs other ∨ other = dir) start later where
  sound := by
    intro lib target linked
    rw [links] at linked
    exact added.sound lib target linked
  kept lib other := by rw [links, added.kept lib other]
  added lib member := by rw [links, added.added lib member]
  agrees := added.agrees
  keptDirs := added.keptDirs.trans kept
  addedDirs other member := by
    rcases member with old | rfl
    · exact kept (added.addedDirs other old)
    · exact made

theorem item_eq_lookup {libPath : LibPath} {library : String} {entries : Directory LibEntry}
    {hashes : Directory (Option Nat)} (found : mounts mountPoint libPath = some entries)
    (directory : entries.lookup library = some (.directory hashes)) (hash : String) :
    mounts.item ⟨mountPoint, libPath, library, hash⟩ = hashes.lookup hash := by
  simp only [SharedLibsMounts.item, found, directory]

/-- Each entry of a listing comes once. -/
theorem not_mem_before {α : Type} {x : α} {xs before after : List α} (nodup : xs.Nodup)
    (split : xs = before ++ x :: after) : x ∉ before := by
  rw [split] at nodup
  intro earlier
  exact (List.nodup_cons.mp (List.nodup_middle.mp nodup)).1 (List.mem_append_left _ earlier)

/-- What the outer loop's body adds for a directory: all hashes of the library. -/
theorem wp_contributeLibrary {libPath : LibPath} {library : String} {entries : Directory LibEntry}
    {hashes : Directory (Option Nat)} {start : Farm} (wellFormed : mounts.WellFormed mountPoint)
    (added : Added mounts mountPoint names dirs start farm)
    (found : mounts mountPoint libPath = some entries)
    (directory : entries.lookup library = some (.directory hashes))
    (new : ∀ hash, ¬ names ⟨libPath, library, hash⟩) :
    wp (LibsStep mounts) Anything (contributeLibrary mountPoint libPath library)
      (Contributed mounts mountPoint
        (fun lib => names lib ∨
          (lib.libPath = libPath ∧ lib.library = library ∧ mounts.Contributes mountPoint lib))
        (fun dir => dirs dir ∨ dir = (libPath, library)) start) farm := by
  have item := item_eq_lookup found directory
  unfold contributeLibrary
  rw [wp_bind]
  refine wp_pathIsThere ?_
  dsimp only
  -- the directory of the library is there from here on
  have loop : ∀ farm₁ : Farm, farm₁.links = farm.links → farm.dirs ⊆ farm₁.dirs →
      (libPath, library) ∈ farm₁.dirs →
      wp (LibsStep mounts) Anything (do
        let hashes ← libsCall (.listHashes mountPoint libPath library)
        hashes.forM fun hash => contributeHash ⟨mountPoint, libPath, library, hash⟩)
        (Contributed mounts mountPoint
          (fun lib => names lib ∨
            (lib.libPath = libPath ∧ lib.library = library ∧ mounts.Contributes mountPoint lib))
          (fun dir => dirs dir ∨ dir = (libPath, library)) start) farm₁ := by
    intro farm₁ links kept made
    rw [wp_bind]
    refine wp_listHashes found directory ?_
    intro listing isListing
    dsimp only
    refine wp_mono (wp_forM_contributed mountPoint
      (fun before lib => names lib ∨ ∃ hash ∈ before, lib = ⟨libPath, library, hash⟩)
      (fun _ dir => dirs dir ∨ dir = (libPath, library)) start ?_ ?_) ?_
    · exact (added.withDir links kept made).congr (by simp) fun _ member => member
    · intro before hash after last split holds
      have later : hash ∉ before := not_mem_before isListing.nodup split
      have fresh : ¬ (names ⟨libPath, library, hash⟩ ∨
          ∃ hash' ∈ before, (⟨libPath, library, hash⟩ : SharedLib) = ⟨libPath, library, hash'⟩) := by
        rintro (old | ⟨hash', earlier, same⟩)
        · exact new hash old
        · cases same
          exact later earlier
      obtain ⟨content, present⟩ := isListing.mem_iff.mp
        (show hash ∈ listing by rw [split]; simp)
      cases content with
      | none => exact absurd ((item hash).trans present) (wellFormed _)
      | some size =>
        refine wp_mono (wp_contributeHash holds fresh ((item hash).trans present)
          (holds.addedDirs _ (.inr rfl))) ?_
        intro result after' post
        refine post.congr ?_ fun _ member => member
        intro lib
        simp only [List.mem_append, List.mem_singleton, or_assoc, or_and_right, exists_or,
          exists_eq_left]
    · intro result last post
      refine post.congr ?_ fun _ member => member
      intro lib
      refine or_congr_right ?_
      constructor
      · rintro ⟨rfl, rfl, contributes⟩
        have present : (hashes.lookup lib.hash).isSome = true := by
          rw [← item]
          exact contributes
        exact ⟨lib.hash, isListing.mem_iff.mpr (Option.isSome_iff_exists.mp present), rfl⟩
      · rintro ⟨hash, member, rfl⟩
        refine ⟨rfl, rfl, ?_⟩
        rw [SharedLibsMounts.Contributes, item]
        exact Option.isSome_iff_exists.mpr (isListing.mem_iff.mp member)
  by_cases there : (LibsPath.symlinkDir libPath library).isThere mounts farm = true
  · rw [if_pos there]
    exact loop farm rfl (Finset.Subset.refl _) (by simpa [LibsPath.isThere] using there)
  · rw [if_neg there, wp_bind, wp_mapError]
    refine wp_createDirectory ?_
    exact loop _ rfl (Finset.subset_insert _ _) (Finset.mem_insert_self _ _)

/-- The mounted APEX has a directory for the library. -/
def SharedLibsMounts.HasLibrary (mounts : SharedLibsMounts) (mountPoint : String)
    (dir : LibPath × String) : Prop :=
  ∃ entries hashes, mounts mountPoint dir.1 = some entries ∧
    entries.lookup dir.2 = some (.directory hashes)

theorem SharedLibsMounts.Contributes.hasLibrary {lib : SharedLib}
    (contributes : mounts.Contributes mountPoint lib) :
    mounts.HasLibrary mountPoint (lib.libPath, lib.library) := by
  unfold SharedLibsMounts.Contributes SharedLibsMounts.item at contributes
  split at contributes
  · cases contributes
  · next entries found =>
    split at contributes
    · next hashes directory => exact ⟨entries, hashes, found, directory⟩
    · cases contributes

theorem isDirectory_iff {libPath : LibPath} {entries : Directory LibEntry} (library : String)
    (found : mounts mountPoint libPath = some entries) :
    ((entries.lookup library).map LibEntry.isDirectory).getD false = true ↔
      mounts.HasLibrary mountPoint (libPath, library) := by
  constructor
  · intro isDirectory
    cases entry : entries.lookup library with
    | none => simp [entry] at isDirectory
    | some content =>
      cases content with
      | directory hashes => exact ⟨entries, hashes, found, entry⟩
      | other => simp [entry, LibEntry.isDirectory] at isDirectory
  · rintro ⟨entries', hashes, found', directory⟩
    cases found.symm.trans found'
    rw [directory]
    rfl

/-- What the outer loop's body adds for any entry. -/
theorem wp_contributeEntry {libPath : LibPath} {library : String} {isDirectory : Bool}
    {entries : Directory LibEntry} {start : Farm} (wellFormed : mounts.WellFormed mountPoint)
    (added : Added mounts mountPoint names dirs start farm)
    (found : mounts mountPoint libPath = some entries)
    (kind : isDirectory = ((entries.lookup library).map LibEntry.isDirectory).getD false)
    (new : ∀ hash, ¬ names ⟨libPath, library, hash⟩) :
    wp (LibsStep mounts) Anything
      (if isDirectory then contributeLibrary mountPoint libPath library else pure ())
      (Contributed mounts mountPoint
        (fun lib => names lib ∨
          (lib.libPath = libPath ∧ lib.library = library ∧ mounts.Contributes mountPoint lib))
        (fun dir => dirs dir ∨ (dir = (libPath, library) ∧ mounts.HasLibrary mountPoint dir))
        start) farm := by
  have hasLibrary := isDirectory_iff library found
  rw [← kind] at hasLibrary
  cases isDirectory with
  | true =>
    obtain ⟨entries', hashes, found', directory⟩ := hasLibrary.mp rfl
    cases found.symm.trans found'
    refine wp_mono (wp_contributeLibrary wellFormed added found directory new) ?_
    intro result after post
    exact post.congr (fun _ => Iff.rfl) fun dir member => member.imp_right And.left
  | false =>
    have none : ¬ mounts.HasLibrary mountPoint (libPath, library) := fun has =>
      Bool.false_ne_true (hasLibrary.mpr has)
    refine Added.congr added ?_ ?_
    · rintro ⟨other, name, hash⟩
      refine or_iff_left ?_
      rintro ⟨rfl, rfl, contributes⟩
      exact none contributes.hasLibrary
    · rintro dir (old | ⟨rfl, has⟩)
      · exact old
      · exact absurd has none

theorem wp_contributeLibPath {libPath : LibPath} {start : Farm}
    (wellFormed : mounts.WellFormed mountPoint)
    (added : Added mounts mountPoint names dirs start farm)
    (new : ∀ lib, lib.libPath = libPath → ¬ names lib) :
    wp (LibsStep mounts) Anything (contributeLibPath mountPoint libPath)
      (Contributed mounts mountPoint
        (fun lib => names lib ∨ (lib.libPath = libPath ∧ mounts.Contributes mountPoint lib))
        (fun dir => dirs dir ∨ (dir.1 = libPath ∧ mounts.HasLibrary mountPoint dir)) start)
      farm := by
  unfold contributeLibPath
  rw [wp_bind]
  refine wp_pathIsThere ?_
  dsimp only
  cases found : mounts mountPoint libPath with
  | none =>
    have absent : (LibsPath.apexLib mountPoint libPath).isThere mounts farm = false := by
      simp [LibsPath.isThere, found]
    have nothing : ∀ dir : LibPath × String, dir.1 = libPath →
        ¬ mounts.HasLibrary mountPoint dir := by
      rintro ⟨_, library⟩ rfl ⟨entries, hashes, found', _⟩
      cases found.symm.trans found'
    rw [absent, if_neg Bool.false_ne_true]
    refine added.congr ?_ ?_
    · intro lib
      exact or_iff_left fun ⟨same, contributes⟩ => nothing _ same contributes.hasLibrary
    · rintro dir (old | ⟨same, hasLibrary⟩)
      · exact old
      · exact absurd hasLibrary (nothing dir same)
  | some entries =>
    have there : (LibsPath.apexLib mountPoint libPath).isThere mounts farm = true := by
      simp [LibsPath.isThere, found]
    rw [there, if_pos rfl, wp_bind]
    refine wp_listLibraries found ?_
    intro listing isListing
    dsimp only
    refine wp_mono (wp_forM_contributed mountPoint
      (fun before lib => names lib ∨ (lib.libPath = libPath ∧ lib.library ∈ before.map Prod.fst ∧
        mounts.Contributes mountPoint lib))
      (fun before dir => dirs dir ∨ (dir.1 = libPath ∧ dir.2 ∈ before.map Prod.fst ∧
        mounts.HasLibrary mountPoint dir)) start ?_ ?_) ?_
    · exact added.congr (by simp) (by simp)
    · rintro before ⟨library, isDirectory⟩ after last split holds
      have firsts : listing = before.map Prod.fst ++ library :: after.map Prod.fst := by
        have same := congrArg (List.map Prod.fst) split
        simpa [Function.comp_def] using same
      have fresh : library ∉ before.map Prod.fst := not_mem_before isListing.nodup firsts
      have kind : isDirectory = ((entries.lookup library).map LibEntry.isDirectory).getD false := by
        have member : (library, isDirectory) ∈ listing.map fun name =>
            (name, ((entries.lookup name).map LibEntry.isDirectory).getD false) := by
          rw [split]
          simp
        obtain ⟨name, -, same⟩ := List.mem_map.mp member
        cases same
        rfl
      refine wp_mono (wp_contributeEntry wellFormed holds found kind ?_) ?_
      · rintro hash (old | ⟨_, earlier, _⟩)
        · exact new _ rfl old
        · exact fresh earlier
      · intro result after' post
        refine post.congr ?_ ?_
        · intro lib
          simp only [List.map_append, List.mem_append, List.map_cons, List.map_nil,
            List.mem_singleton]
          tauto
        · rintro ⟨other, name⟩
          simp only [List.map_append, List.mem_append, List.map_cons, List.map_nil,
            List.mem_singleton, Prod.mk.injEq]
          tauto
    · intro result last post
      have firsts : (listing.map fun name => (name,
          ((entries.lookup name).map LibEntry.isDirectory).getD false)).map Prod.fst = listing := by
        simp [Function.comp_def]
      have listed {dir : LibPath × String} (same : dir.1 = libPath)
          (has : mounts.HasLibrary mountPoint dir) : dir.2 ∈ listing := by
        obtain ⟨entries', hashes, found', directory⟩ := has
        rw [same] at found'
        cases found.symm.trans found'
        exact isListing.mem_iff.mpr ⟨_, directory⟩
      rw [firsts] at post
      refine post.congr ?_ ?_
      · intro lib
        refine or_congr_right ⟨?_, ?_⟩
        · rintro ⟨same, contributes⟩
          exact ⟨same, listed same contributes.hasLibrary, contributes⟩
        · rintro ⟨same, -, contributes⟩
          exact ⟨same, contributes⟩
      · rintro dir (old | ⟨same, has⟩)
        · exact .inl old
        · exact .inr ⟨same, listed same has, has⟩

/-- A whole call: all names of the mounted APEX are in the farm, or one of them is in conflict. -/
theorem wp_contributeToSharedLibs (wellFormed : mounts.WellFormed mountPoint)
    (sound : farm.Sound mounts) :
    wp (LibsStep mounts) Anything (contributeToSharedLibs mountPoint)
      (Contributed mounts mountPoint (mounts.Contributes mountPoint)
        (mounts.HasLibrary mountPoint) farm) farm := by
  refine wp_mono (wp_forM_contributed mountPoint
    (fun before lib => lib.libPath ∈ before ∧ mounts.Contributes mountPoint lib)
    (fun before dir => dir.1 ∈ before ∧ mounts.HasLibrary mountPoint dir) farm ?_ ?_) ?_
  · exact (Added.start sound).congr (by simp) (by simp)
  · intro before libPath after last split holds
    have fresh : libPath ∉ before := not_mem_before (by decide) split
    refine wp_mono (wp_contributeLibPath wellFormed holds ?_) ?_
    · rintro lib rfl ⟨earlier, _⟩
      exact fresh earlier
    · intro result after' post
      refine post.congr ?_ ?_
      · intro lib
        simp only [List.mem_append, List.mem_singleton]
        tauto
      · intro dir
        simp only [List.mem_append, List.mem_singleton]
        tauto
  · intro result last post
    refine post.congr ?_ ?_
    · intro lib
      cases lib.libPath <;> simp
    · rintro ⟨libPath, library⟩ has
      cases libPath <;> exact ⟨by simp, has⟩

/-! ## Repeated calls -/

/-- The farm has everything that the mounted APEX contributes. -/
structure Complete (mounts : SharedLibsMounts) (mountPoint : String) (farm : Farm) : Prop where
  sound : farm.Sound mounts
  linked : ∀ lib, mounts.Contributes mountPoint lib → ∃ old, farm.links.lookup lib = some old ∧
    mounts.item old = mounts.item ⟨mountPoint, lib⟩
  made : ∀ dir, mounts.HasLibrary mountPoint dir → dir ∈ farm.dirs

/-- A link stays what it is. -/
theorem Added.lookup_of_some (added : Added mounts mountPoint names dirs farm farm')
    {lib : SharedLib} {old : HashDir} (linked : farm.links.lookup lib = some old) :
    farm'.links.lookup lib = some old := by
  by_cases member : names lib
  · rw [added.added lib member, linked]
    rfl
  · rw [added.kept lib member, linked]

theorem Added.complete (added : Added mounts mountPoint (mounts.Contributes mountPoint)
    (mounts.HasLibrary mountPoint) farm farm') : Complete mounts mountPoint farm' where
  sound := added.sound
  linked lib contributes := by
    refine ⟨_, added.added lib contributes, ?_⟩
    cases linked : farm.links.lookup lib with
    | none => rfl
    | some old => exact added.agrees lib contributes old linked
  made := added.addedDirs

theorem Complete.mono {other : String} (complete : Complete mounts other farm)
    (added : Added mounts mountPoint names dirs farm farm') : Complete mounts other farm' where
  sound := added.sound
  linked lib contributes := by
    obtain ⟨old, linked, same⟩ := complete.linked lib contributes
    exact ⟨old, added.lookup_of_some linked, same⟩
  made dir has := added.keptDirs (complete.made dir has)

/-- The call succeeds and leaves the farm as it is. -/
def Unchanged (farm : Farm) (result : Except String Unit) (farm' : Farm) : Prop :=
  result = .ok () ∧ farm' = farm

/-- A loop over parts that change nothing changes nothing. -/
theorem wp_forM_unchanged {α : Type} {xs : List α} {f : α → Program sharedLibs String Unit}
    (body : ∀ x ∈ xs, wp (LibsStep mounts) Anything (f x) (Unchanged farm) farm) :
    wp (LibsStep mounts) Anything (xs.forM f) (Unchanged farm) farm := by
  refine wp_forM (fun _ last => last = farm) rfl ?_ fun last same => ⟨rfl, same⟩
  rintro before x after _ split rfl
  refine wp_mono (body x (by rw [split]; simp)) ?_
  rintro result last ⟨rfl, same⟩
  exact same

theorem wp_contributeHash_again {lib : SharedLib}
    (complete : Complete mounts mountPoint farm) (contributes : mounts.Contributes mountPoint lib) :
    wp (LibsStep mounts) Anything (contributeHash ⟨mountPoint, lib⟩) (Unchanged farm) farm := by
  obtain ⟨old, found, agree⟩ := complete.linked lib contributes
  obtain ⟨rfl, size, oldItem⟩ := complete.sound lib old found
  have item := agree.symm.trans oldItem
  have there : (LibsPath.symlinkHash old.lib).isThere mounts farm = true := by
    simp [LibsPath.isThere, found, oldItem]
  unfold contributeHash
  rw [wp_bind]
  refine wp_pathIsThere ?_
  simp only [there, if_true]
  rw [wp_bind]
  refine wp_getFileSize size (by simp [LibsPath.fileSize, found, oldItem]) ?_
  dsimp only
  rw [wp_bind]
  refine wp_getFileSize size (by simp [LibsPath.fileSize, item]) ?_
  simp only [ne_eq, not_true_eq_false, if_false]
  exact ⟨rfl, rfl⟩

theorem wp_contributeLibrary_again {libPath : LibPath} {library : String}
    (complete : Complete mounts mountPoint farm)
    (has : mounts.HasLibrary mountPoint (libPath, library)) :
    wp (LibsStep mounts) Anything (contributeLibrary mountPoint libPath library)
      (Unchanged farm) farm := by
  have there : (LibsPath.symlinkDir libPath library).isThere mounts farm = true := by
    simpa [LibsPath.isThere] using complete.made _ has
  obtain ⟨entries, hashes, found, directory⟩ := has
  unfold contributeLibrary
  rw [wp_bind]
  refine wp_pathIsThere ?_
  simp only [there, if_true]
  show wp _ _ (libsCall (.listHashes mountPoint libPath library) >>= _) _ _
  rw [wp_bind]
  refine wp_listHashes found directory ?_
  intro listing isListing
  refine wp_forM_unchanged fun hash member => wp_contributeHash_again complete ?_
  rw [SharedLibsMounts.Contributes, item_eq_lookup found directory]
  exact Option.isSome_iff_exists.mpr (isListing.mem_iff.mp member)

theorem wp_contributeToSharedLibs_again (complete : Complete mounts mountPoint farm) :
    wp (LibsStep mounts) Anything (contributeToSharedLibs mountPoint) (Unchanged farm) farm := by
  refine wp_forM_unchanged fun libPath _ => ?_
  unfold contributeLibPath
  rw [wp_bind]
  refine wp_pathIsThere ?_
  dsimp only
  cases found : mounts mountPoint libPath with
  | none =>
    have absent : (LibsPath.apexLib mountPoint libPath).isThere mounts farm = false := by
      simp [LibsPath.isThere, found]
    rw [absent, if_neg Bool.false_ne_true]
    exact ⟨rfl, rfl⟩
  | some entries =>
    have there : (LibsPath.apexLib mountPoint libPath).isThere mounts farm = true := by
      simp [LibsPath.isThere, found]
    rw [there, if_pos rfl, wp_bind]
    refine wp_listLibraries found ?_
    intro listing isListing
    refine wp_forM_unchanged ?_
    rintro ⟨library, isDirectory⟩ member
    obtain ⟨name, -, same⟩ := List.mem_map.mp member
    cases same
    by_cases directory : ((entries.lookup library).map LibEntry.isDirectory).getD false = true
    · rw [directory]
      exact wp_contributeLibrary_again complete ((isDirectory_iff library found).mp directory)
    · rw [Bool.not_eq_true _ |>.mp directory]
      exact ⟨rfl, rfl⟩

/-! ## Sequences of calls -/

/-- The calls made so far, with their results, and the farm that they left behind. -/
inductive Contributions (mounts : SharedLibsMounts) :
    List (String × Except String Unit) → Farm → Prop
  | start : Contributions mounts [] Farm.empty
  | call {calls : List (String × Except String Unit)} {farm farm' : Farm} {mountPoint : String}
      {result : Except String Unit} (before : Contributions mounts calls farm)
      (run : Runs (LibsStep mounts) (contributeToSharedLibs mountPoint) farm result farm') :
      Contributions mounts (calls ++ [(mountPoint, result)]) farm'

theorem runs_contributeToSharedLibs {result : Except String Unit}
    (wellFormed : mounts.WellFormed mountPoint) (sound : farm.Sound mounts)
    (run : Runs (LibsStep mounts) (contributeToSharedLibs mountPoint) farm result farm') :
    Contributed mounts mountPoint (mounts.Contributes mountPoint) (mounts.HasLibrary mountPoint)
      farm result farm' :=
  wp_runs (wp_contributeToSharedLibs wellFormed sound) run

/-- The mounted APEX that contributed a name first. -/
def SharedLibsMounts.firstContributor (mounts : SharedLibsMounts)
    (calls : List (String × Except String Unit)) (lib : SharedLib) : Option HashDir :=
  (calls.find? fun call => (mounts.item ⟨call.1, lib⟩).isSome).map fun call => ⟨call.1, lib⟩

/-- What holds after any sequence of calls. -/
structure UnionFarm (mounts : SharedLibsMounts) (calls : List (String × Except String Unit))
    (farm : Farm) : Prop where
  sound : farm.Sound mounts
  union : (∀ call ∈ calls, call.2 = .ok ()) → ∀ lib,
    farm.links.lookup lib = mounts.firstContributor calls lib
  complete : ∀ mountPoint, (mountPoint, .ok ()) ∈ calls → Complete mounts mountPoint farm

theorem Contributions.unionFarm {calls : List (String × Except String Unit)}
    (contributions : Contributions mounts calls farm)
    (wellFormed : ∀ call ∈ calls, mounts.WellFormed call.1) : UnionFarm mounts calls farm := by
  induction contributions with
  | start =>
    refine ⟨?_, fun _ _ => rfl, fun _ member => absurd member List.not_mem_nil⟩
    intro lib dir linked
    cases linked
  | @call calls farm farm' mountPoint result before run ih =>
    have ih := ih fun call member => wellFormed call (List.mem_append_left _ member)
    have contributed := runs_contributeToSharedLibs
      (wellFormed (mountPoint, result) (by simp)) ih.sound run
    cases result with
    | error e =>
      obtain ⟨-, names, dirs, added⟩ := contributed
      refine ⟨added.sound, ?_, ?_⟩
      · intro all
        cases all (mountPoint, .error e) (by simp)
      · intro other member
        have earlier : (other, .ok ()) ∈ calls := by simpa using member
        exact (ih.complete other earlier).mono added
    | ok done =>
      have added : Added mounts mountPoint (mounts.Contributes mountPoint)
        (mounts.HasLibrary mountPoint) farm farm' := contributed
      refine ⟨added.sound, ?_, ?_⟩
      · intro all lib
        have first := ih.union (fun call member => all call (List.mem_append_left _ member)) lib
        unfold SharedLibsMounts.firstContributor at first ⊢
        rw [List.find?_append]
        cases found : calls.find? fun call => (mounts.item ⟨call.1, lib⟩).isSome with
        | some call =>
          rw [found] at first
          exact added.lookup_of_some first
        | none =>
          rw [found] at first
          by_cases contributes : mounts.Contributes mountPoint lib
          · rw [added.added lib contributes, first]
            simp [show (mounts.item ⟨mountPoint, lib⟩).isSome = true from
              contributes]
          · rw [added.kept lib contributes, first]
            simp [show ¬ (mounts.item ⟨mountPoint, lib⟩).isSome = true from
              contributes]
      · intro other member
        rcases List.mem_append.mp member with earlier | here
        · exact (ih.complete other earlier).mono added
        · cases List.mem_singleton.mp here
          exact added.complete

/-- No call of the file system is left without an answer. -/
theorem exists_libsStep (request : LibsCall) (farm : Farm) :
    ∃ reply farm', LibsStep mounts request farm reply farm' := by
  cases request with
  | pathExists path => exact ⟨_, _, .pathExists⟩
  | listLibraries mountPoint libPath =>
    cases found : mounts mountPoint libPath with
    | none => exact ⟨_, _, .listLibrariesAbsent found⟩
    | some entries => exact ⟨_, _, .listLibraries found (.refl _)⟩
  | listHashes mountPoint libPath library =>
    by_cases has : mounts.HasLibrary mountPoint (libPath, library)
    · obtain ⟨entries, hashes, found, directory⟩ := has
      exact ⟨_, _, .listHashes found directory (.refl _)⟩
    · exact ⟨_, _, .listHashesAbsent fun entries hashes found directory =>
        has ⟨entries, hashes, found, directory⟩⟩
  | createDirectory libPath library => exact ⟨_, _, .createDirectory⟩
  | createDirectorySymlink target lib =>
    by_cases parent : (lib.libPath, lib.library) ∈ farm.dirs
    · by_cases taken : lib ∈ farm.links
      · exact ⟨_, _, .taken parent taken⟩
      · exact ⟨_, _, .createDirectorySymlink parent taken⟩
    · exact ⟨_, _, .noParent parent⟩
  | fileSize path =>
    cases found : path.fileSize mounts farm with
    | none => exact ⟨_, _, .noFile found⟩
    | some size => exact ⟨_, _, .fileSize found⟩

/-- The farm is the union of the contributions with the first contributor of each name, a call fails
exactly on a conflict, and one that succeeded can be repeated without effect. -/
theorem contributeToSharedLibs_union {calls : List (String × Except String Unit)}
    (contributions : Contributions mounts calls farm)
    (wellFormed : ∀ call ∈ calls, mounts.WellFormed call.1) :
    ((∀ call ∈ calls, call.2 = .ok ()) → ∀ lib,
      farm.links.lookup lib = mounts.firstContributor calls lib) ∧
    (∀ mountPoint, mounts.WellFormed mountPoint →
      (∃ result farm', Runs (LibsStep mounts) (contributeToSharedLibs mountPoint) farm result
        farm') ∧
      ∀ result farm', Runs (LibsStep mounts) (contributeToSharedLibs mountPoint) farm result farm' →
        ((∃ e, result = .error e) ↔ Conflict mounts mountPoint farm)) ∧
    ∀ mountPoint, (mountPoint, .ok ()) ∈ calls → ∀ result farm',
      Runs (LibsStep mounts) (contributeToSharedLibs mountPoint) farm result farm' →
        result = .ok () ∧ farm' = farm := by
  have union := contributions.unionFarm wellFormed
  refine ⟨union.union, ?_, ?_⟩
  · intro mountPoint valid
    refine ⟨(Ends.of_answered exists_libsStep _ farm).exists_runs, ?_⟩
    intro result farm' run
    have contributed := runs_contributeToSharedLibs valid union.sound run
    cases result with
    | error e => exact ⟨fun _ => contributed.1, fun _ => ⟨e, rfl⟩⟩
    | ok done =>
      have added : Added mounts mountPoint (mounts.Contributes mountPoint)
        (mounts.HasLibrary mountPoint) farm farm' := contributed
      constructor
      · rintro ⟨e, failed⟩
        cases failed
      · rintro ⟨lib, old, linked, contributes, differs⟩
        exact absurd (added.agrees lib contributes old linked) differs
  · intro mountPoint member result farm' run
    exact wp_runs (wp_contributeToSharedLibs_again (union.complete mountPoint member)) run

/-- One library, of seven bytes, at every mount point. -/
def oneSharedLib : SharedLibsMounts := fun _ libPath =>
  if libPath = .lib64 then
    some (Finmap.singleton "libc++.so" (.directory (Finmap.singleton "ab12" (some 7))))
  else none

theorem wellFormed_oneSharedLib (mountPoint : String) : oneSharedLib.WellFormed mountPoint := by
  rintro ⟨libPath, library, hash⟩ missing
  by_cases lib64 : libPath = .lib64
  · by_cases same : library = "libc++.so"
    · subst lib64 same
      have lookup : (Finmap.singleton "ab12" (some 7) : Directory (Option Nat)).lookup hash =
          some none := missing
      by_cases here : hash = "ab12"
      · subst here
        cases lookup
      · rw [Finmap.lookup_eq_none.mpr (by rwa [Finmap.mem_singleton])] at lookup
        cases lookup
    · have absent : library ∉ (Finmap.singleton "libc++.so"
          (.directory (Finmap.singleton "ab12" (some 7))) : Directory LibEntry) := by
        rwa [Finmap.mem_singleton]
      simp [SharedLibsMounts.item, oneSharedLib, lib64, Finmap.lookup_eq_none.mpr absent] at missing
  · simp [SharedLibsMounts.item, oneSharedLib, lib64] at missing

theorem not_conflict_oneSharedLib (sound : farm.Sound oneSharedLib) :
    ¬ Conflict oneSharedLib mountPoint farm := by
  rintro ⟨lib, old, linked, -, differs⟩
  obtain ⟨rfl, -⟩ := sound lib old linked
  exact differs rfl

/-- Two mount points with the same library: the first one is linked. -/
theorem contributeToSharedLibs_union_twice : ∃ farm,
    Contributions oneSharedLib [("/apex/a@2", .ok ()), ("/apex/a@1", .ok ())] farm ∧
      farm.links.lookup ⟨.lib64, "libc++.so", "ab12"⟩ =
        some ⟨"/apex/a@2", .lib64, "libc++.so", "ab12"⟩ := by
  have wellFormed : ∀ call : String × Except String Unit, oneSharedLib.WellFormed call.1 :=
    fun call => wellFormed_oneSharedLib call.1
  -- a call never meets a conflict, whatever was called before
  have succeeds {calls : List (String × Except String Unit)} {farm : Farm}
      (contributions : Contributions oneSharedLib calls farm) (mountPoint : String) :
      ∃ farm', Contributions oneSharedLib (calls ++ [(mountPoint, .ok ())]) farm' := by
    obtain ⟨⟨result, farm', run⟩, only⟩ := (contributeToSharedLibs_union contributions
      fun call _ => wellFormed call).2.1 mountPoint (wellFormed_oneSharedLib _)
    cases result with
    | error e => exact absurd ((only _ _ run).mp ⟨e, rfl⟩) (not_conflict_oneSharedLib
        (contributions.unionFarm fun call _ => wellFormed call).sound)
    | ok done => exact ⟨farm', .call contributions run⟩
  obtain ⟨farm, one⟩ := succeeds .start "/apex/a@2"
  obtain ⟨farm', two⟩ := succeeds one "/apex/a@1"
  refine ⟨farm', two, ?_⟩
  exact (contributeToSharedLibs_union two fun call _ => wellFormed call).1 (by simp)
    ⟨.lib64, "libc++.so", "ab12"⟩

end Apexd
