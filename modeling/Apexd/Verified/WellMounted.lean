import Apexd.Verified.InstallUndone

/-! # Well mounted packages

A device is well mounted if every package is settled and the latest version of each is the one at
`/apex/name`.  Where mount operations succeed an activation keeps it so, and so does an unmount,
unless it takes the latest version away while an older one stays mounted.
-/

namespace Apexd

open Process Storage

variable {env : Environment} {w w₁ w₂ w' : World} {package other : String} {data : MountedApexData}
  {apex : ApexFile} {log log' : List Call}

/-- The calls that mount and unmount. -/
def MountOperation : Call → Prop
  | .kernel (.mountImage _) | .kernel (.umount _ _) => True
  | .database (.bindMountIfLatest _ _ _ _) => True
  | _ => False

/-! ## Mount points -/

theorem at_mem_packageMountPoint (manifest : ApexManifest) :
    '@' ∈ (getPackageMountPoint manifest).toList := by
  simp [getPackageMountPoint, getPackageId]

theorem at_mem_of_verifiedAt {target : String} (verified : VerifiedAt package target) :
    '@' ∈ target.toList := by
  obtain ⟨manifest, rfl, -⟩ := verified
  simp [getPackageTempMountPoint, getPackageMountPoint, getPackageId]

/-- The mount point of a package whose name has no `@`. -/
theorem at_not_mem_activeMountPoint (noAt : '@' ∉ package.toList) :
    '@' ∉ (kApexRoot ++ "/" ++ package).toList := by
  simp [kApexRoot, noAt]

/-- Every package is settled, and active means bound. -/
structure World.WellMounted (w : World) : Prop where
  settled : ∀ package, w.Settled package
  bound : ∀ package, w.Bound package
  named : ∀ package, ∀ data ∈ (w.database.mountsOf package).entries, '@' ∉ package.toList

/-- Nothing is bound for a package without mounts. -/
theorem World.Bound.of_nil (empty : (w.database.mountsOf package).entries = []) :
    w.Bound package := by
  intro data latest
  have member := latest_mem latest
  rw [empty] at member
  cases member

/-- A call on mounts leaves a package bound if it neither changes its entries nor what is mounted
at its mount point. -/
theorem World.Bound.congr (bound : w.Bound package)
    (latest : (w'.database.mountsOf package).latest = (w.database.mountsOf package).latest)
    (files : ∀ data ∈ (w.database.mountsOf package).entries,
      w'.fs.file data.fullPath = w.fs.file data.fullPath)
    (images : imagesAt w'.mounts (kApexRoot ++ "/" ++ package) =
      imagesAt w.mounts (kApexRoot ++ "/" ++ package)) : w'.Bound package := by
  intro data isLatest apex opened notShared
  rw [latest] at isLatest
  rw [openAt_congr (files data (latest_mem isLatest))] at opened
  rw [visibleAt_eq_head?, images, ← visibleAt_eq_head?]
  exact bound data isLatest apex opened notShared

/-- A package stays settled if it has no new entries and its versions stay where they are. -/
theorem World.Settled.mono (settled : w.Settled package)
    (fewer : ∀ data ∈ (w'.database.mountsOf package).entries,
      data ∈ (w.database.mountsOf package).entries ∧
        w'.fs.file data.fullPath = w.fs.file data.fullPath ∧
        imagesAt w'.mounts data.mountPoint = imagesAt w.mounts data.mountPoint) :
    w'.Settled package where
  recorded data member := by
    obtain ⟨old, file, images⟩ := fewer data member
    have recorded := settled.recorded data old
    refine ⟨recorded.notTemp, recorded.outside, ?_, images.trans recorded.mounted⟩
    rw [openAt_congr file]
    exact recorded.file
  distinct data member data' member' :=
    settled.distinct data (fewer data member).1 data' (fewer data' member').1

theorem World.WellMounted.of_undisturbed {verified : String} (wellMounted : w.WellMounted)
    (undisturbed : Undisturbed verified w w₁) : w₁.WellMounted where
  settled package := (wellMounted.settled package).of_undisturbed undisturbed
  bound package := by
    by_cases empty : (w.database.mountsOf package).entries = []
    · refine .of_nil ?_
      rw [(wellMounted.settled package).mountsOf_eq undisturbed, empty]
    · obtain ⟨data, member⟩ := List.exists_mem_of_ne_nil _ empty
      have noAt := at_not_mem_activeMountPoint (wellMounted.named package data member)
      exact (wellMounted.bound package).of_undisturbed (wellMounted.settled package) undisturbed
        fun isVerified => noAt (at_mem_of_verifiedAt isVerified)
  named package data member := by
    rw [(wellMounted.settled package).mountsOf_eq undisturbed] at member
    exact wellMounted.named package data member

/-- A step on one package leaves the mounts of the others and their files as they are. -/
structure ChangesOnly (package : String) (w w' : World) : Prop where
  files : ∀ path : FilePath, path.dir ≠ .hashTree → w'.fs.file path = w.fs.file path
  mountsOf : ∀ other, other ≠ package → w'.database.mountsOf other = w.database.mountsOf other
  images : ∀ other, other ≠ package → '@' ∉ other.toList →
    imagesAt w'.mounts (kApexRoot ++ "/" ++ other) = imagesAt w.mounts (kApexRoot ++ "/" ++ other)

theorem ChangesOnly.refl (package : String) (w : World) : ChangesOnly package w w :=
  ⟨fun _ _ => rfl, fun _ _ => rfl, fun _ _ _ => rfl⟩

theorem ChangesOnly.trans (first : ChangesOnly package w w₁) (second : ChangesOnly package w₁ w') :
    ChangesOnly package w w' where
  files path outside := (second.files path outside).trans (first.files path outside)
  mountsOf other ne := (second.mountsOf other ne).trans (first.mountsOf other ne)
  images other ne noAt := (second.images other ne noAt).trans (first.images other ne noAt)

theorem World.WellMounted.changesOnly {verified : String} (wellMounted : w.WellMounted)
    (undisturbed : Undisturbed verified w w₁) : ChangesOnly package w w₁ where
  files _ outside := undisturbed.file outside
  mountsOf other _ := (wellMounted.settled other).mountsOf_eq undisturbed
  images _ _ noAt := undisturbed.images _ fun isVerified =>
    at_not_mem_activeMountPoint noAt (at_mem_of_verifiedAt isVerified)

/-- A step on files of which none is mounted. -/
theorem World.WellMounted.of_files (wellMounted : w.WellMounted)
    (files : ∀ package, ∀ data ∈ (w.database.mountsOf package).entries,
      w'.fs.file data.fullPath = w.fs.file data.fullPath)
    (database : w'.database = w.database) (mounts : w'.mounts = w.mounts) : w'.WellMounted where
  settled package := by
    refine (wellMounted.settled package).mono fun data member => ?_
    rw [database] at member
    exact ⟨member, files package data member, by rw [mounts]⟩
  bound package :=
    (wellMounted.bound package).congr (by rw [database])
      (files package) (by rw [mounts])
  named package data member := by
    rw [database] at member
    exact wellMounted.named package data member

/-! ## Mounting and binding -/

/-- A mounted file of the package that is spelled like the given one is that file. -/
def World.Spelled (w : World) (package : String) (path : FilePath) : Prop :=
  ∀ data ∈ (w.database.mountsOf package).entries,
    pathText data.fullPath = pathText path → data.fullPath = path

/-- All packages but one are well mounted; of that one only the bind mount may be missing. -/
structure World.WellMountedBut (w : World) (package : String) : Prop where
  settled : ∀ other, w.Settled other
  named : ∀ other, ∀ data ∈ (w.database.mountsOf other).entries, '@' ∉ other.toList
  bound : ∀ other, other ≠ package → w.Bound other

theorem World.WellMounted.but (wellMounted : w.WellMounted) (package : String) :
    w.WellMountedBut package :=
  ⟨wellMounted.settled, wellMounted.named, fun other _ => wellMounted.bound other⟩

theorem World.WellMountedBut.wellMounted (but : w.WellMountedBut package) (bound : w.Bound package) :
    w.WellMounted where
  settled := but.settled
  named := but.named
  bound other := by
    by_cases same : other = package
    · rw [same]
      exact bound
    · exact but.bound other same

theorem MountedAs.mountsOf_ne (mounted : MountedAs w apex data w') (ne : other ≠ apex.manifest.name) :
    w'.database.mountsOf other = w.database.mountsOf other := by
  obtain ⟨set, -, mountsOf⟩ := mounted.added
  rw [mountsOf, if_neg ne]

theorem MountedAs.changesOnly (mounted : MountedAs w apex data w') : ChangesOnly apex.manifest.name w w' where
  files _ _ := by rw [mounted.fs]
  mountsOf _ ne := mounted.mountsOf_ne ne
  images other _ noAt := by
    rw [mounted.images, if_neg]
    intro same
    refine at_not_mem_activeMountPoint noAt ?_
    rw [← same, mounted.mountPoint]
    exact at_mem_packageMountPoint _

/-- The mount point of the new mount is that of no other entry. -/
theorem MountedAs.mountPoint_ne (mounted : MountedAs w apex data w') (settled : w.Settled other)
    {old : MountedApexData} (member : old ∈ (w.database.mountsOf other).entries) :
    data.mountPoint ≠ old.mountPoint := by
  intro same
  have free := mounted.free
  rw [same, (settled.recorded old member).mounted] at free
  cases free

section Mounted

variable (wellMounted : w.WellMounted) (opened : openAt w.fs apex.path = .ok apex)
  (outside : apex.path.dir ≠ .hashTree) (noAt : '@' ∉ apex.manifest.name.toList)
  (spelled : w.Spelled apex.manifest.name apex.path) (mounted : MountedAs w apex data w')

include wellMounted mounted

/-- What an entry that was there says stays true. -/
theorem MountedAs.old_entry {old : MountedApexData}
    (member : old ∈ (w.database.mountsOf other).entries) :
    w'.fs.file old.fullPath = w.fs.file old.fullPath ∧
      imagesAt w'.mounts old.mountPoint = imagesAt w.mounts old.mountPoint := by
  refine ⟨by rw [mounted.fs], ?_⟩
  rw [mounted.images, if_neg (mounted.mountPoint_ne (wellMounted.settled other) member)]

include opened outside spelled

theorem MountedAs.settled : w'.Settled apex.manifest.name := by
  have old := wellMounted.settled apex.manifest.name
  -- no other entry is of the same file
  have alone {other : MountedApexData} (member : other ∈ (w.database.mountsOf apex.manifest.name).entries)
      (same : pathText other.fullPath = pathText data.fullPath) : False := by
    rw [mounted.fullPath] at same
    obtain ⟨apex', opened', -, -, mountPoint⟩ := (old.recorded other member).file
    rw [spelled other member same] at opened'
    cases opened.symm.trans opened'
    exact mounted.mountPoint_ne old member (mounted.mountPoint.trans mountPoint.symm)
  constructor
  · intro other member
    rcases (mounted.mem_iff rfl).mp member with rfl | member
    · refine ⟨mounted.notTemp, mounted.fullPath ▸ outside, ⟨apex, ?_, rfl, mounted.version, mounted.mountPoint⟩, ?_⟩
      · rw [mounted.fullPath, mounted.fs, opened]
      · rw [mounted.images, if_pos rfl]
    · have recorded := old.recorded other member
      obtain ⟨file, images⟩ := mounted.old_entry wellMounted member
      refine ⟨recorded.notTemp, recorded.outside, ?_, images.trans recorded.mounted⟩
      rw [openAt_congr file]
      exact recorded.file
  · intro first isFirst second isSecond same
    rcases (mounted.mem_iff rfl).mp isFirst with rfl | isFirst
    · rcases (mounted.mem_iff rfl).mp isSecond with rfl | isSecond
      · rfl
      · exact (alone isSecond same.symm).elim
    · rcases (mounted.mem_iff rfl).mp isSecond with rfl | isSecond
      · exact (alone isFirst same).elim
      · exact old.distinct first isFirst second isSecond same

include noAt

theorem MountedAs.wellMountedBut : w'.WellMountedBut apex.manifest.name where
  settled other := by
    by_cases same : other = apex.manifest.name
    · rw [same]
      exact mounted.settled wellMounted opened outside spelled
    · refine (wellMounted.settled other).mono fun old member => ?_
      rw [mounted.mountsOf_ne same] at member
      exact ⟨member, mounted.old_entry wellMounted member⟩
  named other old member := by
    by_cases same : other = apex.manifest.name
    · rw [same]
      exact noAt
    · rw [mounted.mountsOf_ne same] at member
      exact wellMounted.named other old member
  bound other ne := by
    by_cases empty : (w.database.mountsOf other).entries = []
    · refine .of_nil ?_
      rw [mounted.mountsOf_ne ne, empty]
    · obtain ⟨old, member⟩ := List.exists_mem_of_ne_nil _ empty
      refine (wellMounted.bound other).congr ?_ ?_ ?_
      · rw [mounted.mountsOf_ne ne]
      · exact fun data member => (mounted.old_entry wellMounted member).1
      · exact mounted.changesOnly.images other ne (wellMounted.named other old member)

/-- A mount that is not the latest leaves the latest bound. -/
theorem MountedAs.wellMounted_of_older (older : (w'.database.mountsOf apex.manifest.name).latest ≠ some data) :
    w'.WellMounted := by
  refine (mounted.wellMountedBut wellMounted opened outside noAt spelled).wellMounted ?_
  intro top isTop apex' opened' notShared
  have member := ((mounted.mem_iff rfl).mp (latest_mem isTop)).resolve_left fun same =>
    older (same ▸ isTop)
  have wasTop : (w.database.mountsOf apex.manifest.name).latest = some top := by
    refine MountedSet.latest_eq_some_iff.mpr ⟨member, fun other isOther ne => ?_⟩
    exact (MountedSet.latest_eq_some_iff.mp isTop).2 other ((mounted.mem_iff rfl).mpr (.inr isOther)) ne
  rw [openAt_congr (mounted.old_entry wellMounted member).1] at opened'
  rw [visibleAt_eq_head?, mounted.images, if_neg, ← visibleAt_eq_head?]
  · exact wellMounted.bound apex.manifest.name top wasTop apex' opened' notShared
  · intro same
    refine at_not_mem_activeMountPoint noAt ?_
    rw [← same, mounted.mountPoint]
    exact at_mem_packageMountPoint _

end Mounted

theorem changesOnly_bindAt : ChangesOnly package w (w.bindAt (kApexRoot ++ "/" ++ package) data) where
  files _ _ := rfl
  mountsOf _ _ := rfl
  images other ne _ := by
    have different : kApexRoot ++ "/" ++ package ≠ kApexRoot ++ "/" ++ other := fun same =>
      ne ((String.append_right_inj _).mp same.symm)
    rw [World.bindAt, imagesAt_cons, if_neg different, imagesAt_unmountTop, if_neg different]

/-- Binding the latest mount. -/
theorem World.WellMountedBut.bindAt (but : w.WellMountedBut package) (noAt : '@' ∉ package.toList)
    (latest : (w.database.mountsOf package).latest = some data) :
    (w.bindAt (kApexRoot ++ "/" ++ package) data).WellMounted := by
  have images {target : String} (ne : kApexRoot ++ "/" ++ package ≠ target) :
      imagesAt (w.bindAt (kApexRoot ++ "/" ++ package) data).mounts target =
        imagesAt w.mounts target := by
    rw [World.bindAt, imagesAt_cons, if_neg ne, imagesAt_unmountTop, if_neg ne]
  have others : (w.bindAt (kApexRoot ++ "/" ++ package) data).WellMountedBut package := by
    refine ⟨fun other => ?_, but.named, fun other ne => ?_⟩
    · refine (but.settled other).mono fun old member => ⟨member, rfl, images fun same => ?_⟩
      obtain ⟨apex, -, -, -, mountPoint⟩ := ((but.settled other).recorded old member).file
      refine at_not_mem_activeMountPoint noAt ?_
      rw [same, mountPoint]
      exact at_mem_packageMountPoint _
    · exact (but.bound other ne).congr rfl (fun _ _ => rfl) (images fun same =>
        ne ((String.append_right_inj _).mp same.symm))
  refine others.wellMounted ?_
  intro top isTop _ _ _
  cases latest.symm.trans isTop
  rw [World.bindAt, visibleAt_eq_head?, imagesAt_cons, if_pos rfl]
  rfl

/-! ## Activation -/

/-- What an activation in which no mount operation fails leaves. -/
structure AfterActivation (w : World) (apex : ApexFile) (result : Except String Unit) (w' : World) : Prop
    where
  wellMounted : w'.WellMounted
  changesOnly : ChangesOnly apex.manifest.name w w'
  entries : ∀ data ∈ (w'.database.mountsOf apex.manifest.name).entries,
    data ∈ (w.database.mountsOf apex.manifest.name).entries ∨
      (result = .ok () ∧ data.fullPath = apex.path)

section Activation

variable {verified : String} {result : Except String Unit} (wellMounted : w.WellMounted)

include wellMounted

theorem AfterActivation.of_undisturbed (undisturbed : Undisturbed verified w w') :
    AfterActivation w apex result w' where
  wellMounted := wellMounted.of_undisturbed undisturbed
  changesOnly := wellMounted.changesOnly undisturbed
  entries data member := by
    rw [(wellMounted.settled _).mountsOf_eq undisturbed] at member
    exact .inl member

theorem World.Spelled.of_undisturbed {path : FilePath} (spelled : w.Spelled package path)
    (undisturbed : Undisturbed verified w w') : w'.Spelled package path := by
  intro data member
  rw [(wellMounted.settled package).mountsOf_eq undisturbed] at member
  exact spelled data member

variable (opened : openAt w.fs apex.path = .ok apex) (outside : apex.path.dir ≠ .hashTree)
  (noAt : '@' ∉ apex.manifest.name.toList) (spelled : w.Spelled apex.manifest.name apex.path)

include opened outside noAt spelled

omit opened outside noAt spelled in
/-- After the mount only the bind mount is left to do. -/
theorem AfterActivation.of_mounted (undisturbed : Undisturbed verified w w₁)
    (mounted : MountedAs w₁ apex data w₂) (binding : ChangesOnly apex.manifest.name w₂ w')
    (database : w'.database = w₂.database) (bound : w'.WellMounted) :
    AfterActivation w apex (.ok ()) w' where
  wellMounted := bound
  changesOnly := (wellMounted.changesOnly undisturbed).trans (mounted.changesOnly.trans binding)
  entries other member := by
    rw [database] at member
    refine ((mounted.mem_iff rfl).mp member).symm.imp (fun old => ?_) ?_
    · rwa [(wellMounted.settled _).mountsOf_eq undisturbed] at old
    · rintro rfl
      exact ⟨rfl, mounted.fullPath⟩

theorem wp_logged_activates {deviceName : String} {reuseDevice : Bool} :
    wp logged Anything (activatePackageImpl env apex deviceName reuseDevice) (fun result st =>
      (∀ request ∈ st.2, ¬ MountOperation request) → AfterActivation w apex result st.1) (w, log) := by
  have reopened {w₂ : World} (undisturbed : Undisturbed apex.manifest.name w w₂) :
      openAt w₂.fs apex.path = .ok apex := by rw [undisturbed.openAt_eq outside, opened]
  refine wp_logged_activatePackageImpl (fun e w₂ log₂ undisturbed _ _ => ?_)
    (fun w₂ log₂ found undisturbed _ _ _ _ _ => ?_)
    (fun w₂ log₂ found undisturbed _ isFound isMounted => ?_)
    fun w₂ log₂ data w₃ undisturbed _ mounted => ?_
  · exact .of_undisturbed wellMounted undisturbed
  · exact .of_undisturbed wellMounted undisturbed
  · have after := wellMounted.of_undisturbed undisturbed
    unfold bindUnlessShared
    split
    · refine wp_logged_bindLatest (fun _ _ => ?_) (fun isLatest image visible _ => ?_) fun _ e only => ?_
      · exact .of_undisturbed wellMounted undisturbed
      · obtain ⟨top, isTop, same⟩ := Option.map_eq_some_iff.mp isLatest
        have path := spelled.of_undisturbed wellMounted undisturbed top (latest_mem isTop)
          (of_decide_eq_true same)
        have recorded := (after.settled _).recorded top (latest_mem isTop)
        obtain ⟨apex', opened', -, -, mountPoint⟩ := recorded.file
        rw [path] at opened'
        cases (reopened undisturbed).symm.trans opened'
        rw [← mountPoint, visibleAt_eq_head?, recorded.mounted] at visible
        cases visible
        have binding : AfterActivation w apex (.ok ()) w₂ := .of_undisturbed wellMounted undisturbed
        exact ⟨(after.but _).bindAt noAt isTop, binding.changesOnly.trans changesOnly_bindAt, binding.entries⟩
      · exact absurd trivial (only (bindCall apex) (by simp))
    · exact fun _ => .of_undisturbed wellMounted undisturbed
  · have after := wellMounted.of_undisturbed undisturbed
    have spelled₂ := spelled.of_undisturbed wellMounted undisturbed
    have but := mounted.wellMountedBut after (reopened undisturbed) outside noAt spelled₂
    have older := mounted.wellMounted_of_older after (reopened undisturbed) outside noAt spelled₂
    have activates {w₄ : World} (binding : ChangesOnly apex.manifest.name w₃ w₄)
        (database : w₄.database = w₃.database) (bound : w₄.WellMounted) :
        AfterActivation w apex (.ok ()) w₄ :=
      .of_mounted wellMounted undisturbed mounted binding database bound
    unfold bindUnlessShared
    split
    · refine wp_logged_bindLatest (fun notLatest _ => ?_) (fun isLatest image visible _ => ?_)
        fun _ e only => ?_
      · refine activates (.refl _ _) rfl (older fun isLatest => ?_)
        rw [MountedApexDatabase.doIfLatest, isLatest, Option.map_some, mounted.fullPath] at notLatest
        simp at notLatest
      · obtain ⟨top, isTop, same⟩ := Option.map_eq_some_iff.mp isLatest
        have isData : top = data := (but.settled _).distinct top (latest_mem isTop) data
          ((mounted.mem_iff rfl).mpr (.inl rfl)) (by rw [of_decide_eq_true same, mounted.fullPath])
        rw [visibleAt_eq_head?, mounted.images, if_pos mounted.mountPoint] at visible
        cases visible
        exact activates changesOnly_bindAt rfl (but.bindAt noAt (isData ▸ isTop))
      · exact absurd trivial (only (bindCall apex) (by simp))
    · rename_i shared
      refine fun _ => activates (.refl _ _) rfl ?_
      by_cases isLatest : (w₃.database.mountsOf apex.manifest.name).latest = some data
      · refine but.wellMounted fun top isTop apex' opened' notShared => ?_
        cases isLatest.symm.trans isTop
        rw [mounted.fs, mounted.fullPath, reopened undisturbed] at opened'
        cases opened'
        simp [notShared] at shared
      · exact older isLatest

end Activation

/-! ## Unmounting -/

/-- The mount of a package that is the latest one but for another. -/
structure World.Below (w : World) (package : String) (data next : MountedApexData) : Prop where
  member : next ∈ (w.database.mountsOf package).entries
  ne : next ≠ data
  above : ∀ other ∈ (w.database.mountsOf package).entries, other ≠ data → other ≠ next →
    other.key < next.key

/-- An unmount leaves no version without its bind mount: if it takes the latest one away, the one
below it provides shared libraries, or is the one that is bound already. -/
def World.Releasable (w : World) (apex : ApexFile) : Prop :=
  ∀ data, (w.database.mountsOf apex.manifest.name).latest = some data →
    pathText data.fullPath = pathText apex.path → ∀ next, w.Below apex.manifest.name data next →
    ∀ below, openAt w.fs next.fullPath = .ok below → below.manifest.provideSharedApexLibs = false →
      apex.manifest.provideSharedApexLibs = true ∧
        visibleAt w.mounts (kApexRoot ++ "/" ++ apex.manifest.name) = some next

/-- What an unmount in which no mount operation fails leaves. -/
structure AfterUnmount (w : World) (apex : ApexFile) (result : Except String Unit) (w' : World) : Prop where
  wellMounted : w'.WellMounted
  fs : w'.fs = w.fs
  changesOnly : ChangesOnly apex.manifest.name w w'
  entries : ∀ data ∈ (w'.database.mountsOf apex.manifest.name).entries,
    data ∈ (w.database.mountsOf apex.manifest.name).entries
  gone : result = .ok () → ∀ data ∈ (w'.database.mountsOf apex.manifest.name).entries,
    pathText data.fullPath ≠ pathText apex.path

section Unmounting

variable (wellMounted : w.WellMounted) (unmounted : Unmounted w apex data w')

include wellMounted

/-- The mounts of two packages are at different mount points. -/
theorem World.WellMounted.mountPoint_ne {other : String} {data other' : MountedApexData}
    (member : data ∈ (w.database.mountsOf package).entries)
    (member' : other' ∈ (w.database.mountsOf other).entries) (ne : other ≠ package) :
    other'.mountPoint ≠ data.mountPoint := by
  intro same
  have recorded := (wellMounted.settled package).recorded data member
  have recorded' := (wellMounted.settled other).recorded other' member'
  have images := recorded'.mounted
  rw [same, recorded.mounted] at images
  cases List.singleton_inj.mp images
  obtain ⟨apex, opened, named, -⟩ := recorded.file
  obtain ⟨apex', opened', named', -⟩ := recorded'.file
  cases opened.symm.trans opened'
  exact ne (named'.symm.trans named)

include unmounted

theorem Unmounted.mem_iff {other : MountedApexData} :
    other ∈ (w'.database.mountsOf apex.manifest.name).entries ↔
      other ∈ (w.database.mountsOf apex.manifest.name).entries ∧ other ≠ data := by
  rw [unmounted.mountsOf, if_pos rfl]
  refine mem_remove_iff unmounted.member unmounted.notTemp unmounted.fullPath fun other member same => ?_
  exact (wellMounted.settled _).distinct other member data unmounted.member
    (same.trans unmounted.fullPath.symm)

theorem Unmounted.changesOnly : ChangesOnly apex.manifest.name w w' where
  files _ _ := by rw [unmounted.fs]
  mountsOf _ ne := by rw [unmounted.mountsOf, if_neg ne]
  images other ne noAt := by
    refine unmounted.images _ (fun same => ne ?_) fun same => ?_
    · exact (String.append_right_inj _).mp same
    · obtain ⟨apex', -, -, -, mountPoint⟩ :=
        ((wellMounted.settled _).recorded data unmounted.member).file
      refine at_not_mem_activeMountPoint noAt ?_
      rw [same, mountPoint]
      exact at_mem_packageMountPoint _

theorem Unmounted.wellMountedBut : w'.WellMountedBut apex.manifest.name := by
  have noAt := at_not_mem_activeMountPoint (wellMounted.named _ data unmounted.member)
  have notActive {other : String} {old : MountedApexData}
      (member : old ∈ (w.database.mountsOf other).entries) :
      old.mountPoint ≠ getActiveMountPoint apex.manifest := by
    obtain ⟨apex', -, -, -, mountPoint⟩ := ((wellMounted.settled other).recorded old member).file
    intro same
    rw [activeMountPoint_eq rfl] at same
    exact noAt (same ▸ mountPoint ▸ at_mem_packageMountPoint _)
  refine ⟨fun other => ?_, fun other old member => ?_, fun other ne => ?_⟩
  · refine (wellMounted.settled other).mono fun old member => ?_
    rw [unmounted.fs]
    by_cases same : other = apex.manifest.name
    · rw [same] at member ⊢
      obtain ⟨member, ne⟩ := (unmounted.mem_iff wellMounted).mp member
      refine ⟨member, rfl, unmounted.images _ (notActive member) fun here => ne ?_⟩
      exact (wellMounted.settled _).eq_of_mountPoint member unmounted.member here
    · rw [unmounted.mountsOf, if_neg same] at member
      exact ⟨member, rfl, unmounted.images _ (notActive member)
        (wellMounted.mountPoint_ne unmounted.member member same)⟩
  · by_cases same : other = apex.manifest.name
    · rw [same]
      exact wellMounted.named _ data unmounted.member
    · rw [unmounted.mountsOf, if_neg same] at member
      exact wellMounted.named other old member
  · have same : w'.database.mountsOf other = w.database.mountsOf other := by
      rw [unmounted.mountsOf, if_neg ne]
    by_cases empty : (w.database.mountsOf other).entries = []
    · exact .of_nil (by rw [same, empty])
    · obtain ⟨old, member⟩ := List.exists_mem_of_ne_nil _ empty
      exact (wellMounted.bound other).congr (by rw [same])
        (fun _ _ => by rw [unmounted.fs])
        ((unmounted.changesOnly wellMounted).images other ne (wellMounted.named other old member))

/-- The latest mount stays bound, or the one below it needs no bind mount. -/
theorem Unmounted.wellMounted_of_releasable (releasable : w.Releasable apex) : w'.WellMounted := by
  refine (unmounted.wellMountedBut wellMounted).wellMounted fun top isTop apex' opened' notShared => ?_
  obtain ⟨member, ne⟩ := (unmounted.mem_iff wellMounted).mp (latest_mem isTop)
  rw [unmounted.fs] at opened'
  have images := unmounted.active
  rw [activeMountPoint_eq rfl] at images
  by_cases wasLatest : (w.database.mountsOf apex.manifest.name).latest = some data
  · have below : w.Below apex.manifest.name data top := by
      refine ⟨member, ne, fun other isOther notData notTop => of_decide_eq_true ?_⟩
      exact (MountedSet.latest_eq_some_iff.mp isTop).2 other
        ((unmounted.mem_iff wellMounted).mpr ⟨isOther, notData⟩) notTop
    obtain ⟨shared, visible⟩ :=
      releasable data wasLatest unmounted.fullPath top below apex' opened' notShared
    rw [if_neg fun latest => Bool.false_ne_true (latest.2.symm.trans shared)] at images
    rw [visibleAt_eq_head?, images, ← visibleAt_eq_head?]
    exact visible
  · have wasTop : (w.database.mountsOf apex.manifest.name).latest = some top := by
      obtain ⟨last, isLast⟩ : ∃ last, (w.database.mountsOf apex.manifest.name).latest = some last :=
        ⟨_, List.getLast?_eq_some_getLast (List.ne_nil_of_mem member)⟩
      have notData : last ≠ data := fun same => wasLatest (same ▸ isLast)
      have kept := (unmounted.mem_iff wellMounted).mpr ⟨latest_mem isLast, notData⟩
      by_contra different
      have above := (MountedSet.latest_eq_some_iff.mp isLast).2 top member fun same =>
        different (same ▸ isLast)
      have below := (MountedSet.latest_eq_some_iff.mp isTop).2 last kept fun same =>
        different (same ▸ isLast)
      exact lt_asymm (of_decide_eq_true above) (of_decide_eq_true below)
    have bound := wellMounted.bound _ top wasTop apex' opened' notShared
    rw [if_neg fun latest => wasLatest latest.1] at images
    rw [visibleAt_eq_head?, images, ← visibleAt_eq_head?]
    exact bound

theorem Unmounted.unmounts (releasable : w.Releasable apex) (result : Except String Unit) :
    AfterUnmount w apex result w' where
  wellMounted := unmounted.wellMounted_of_releasable wellMounted releasable
  fs := unmounted.fs
  changesOnly := unmounted.changesOnly wellMounted
  entries _ member := ((unmounted.mem_iff wellMounted).mp member).1
  gone _ other member same := by
    obtain ⟨old, ne⟩ := (unmounted.mem_iff wellMounted).mp member
    exact ne ((wellMounted.settled _).distinct other old data unmounted.member
      (same.trans unmounted.fullPath.symm))

omit unmounted in
theorem wp_logged_unmounts {deferred detach : Bool} (releasable : w.Releasable apex) :
    wp logged Anything (unmountPackage apex true deferred detach) (fun result st =>
      (∀ request ∈ st.2, ¬ MountOperation request) → AfterUnmount w apex result st.1) (w, log) := by
  refine wp_logged_unmountPackage ?_ ?_ ?_ ?_ ?_
  · intro data member
    rw [activeMountPoint_eq rfl]
    exact (wellMounted.settled _).ne_activeMountPoint member
  · exact fun _ e _ => ⟨wellMounted, rfl, .refl _ _, fun _ member => member, nofun⟩
  · exact fun e only => (only _ (List.mem_append_right _ List.mem_cons_self) trivial).elim
  · exact fun data w' unmounted _ _ => unmounted.unmounts wellMounted releasable _
  · exact fun data result w' log' unmounted _ _ _ _ =>
      unmounted.unmounts wellMounted releasable result

end Unmounting

end Apexd
