import Apexd.Verified.Install

/-! # Which failed installations are undone

An installation that fails leaves the previous version active, unless what failed is the unmount of
that version after its entry was removed, or the bind mount of the new version after its entry was
added: no scope guard goes back behind these steps.
-/

namespace Apexd

open Process Storage

variable {env : InstallEnvironment} {packagePath : FilePath} {force : Bool} {w w₁ w' : World}
  {package : String} {prev data : MountedApexData} {log log' : List Call} {plan : InstallPlan}

/-- The mounts of a package as apexd makes them: each entry is recorded, and the latest is bound. -/
structure World.Installed (w : World) (package : String) : Prop where
  settled : w.Settled package
  bound : w.Bound package
  /-- a file that is spelled like one of the active directory is that file -/
  spelled : ∀ data ∈ (w.database.mountsOf package).entries, ∀ name,
    pathText data.fullPath = pathText ⟨.active, name⟩ → data.fullPath = ⟨.active, name⟩

/-- The previous version of a package is active, and nothing of the new one is left. -/
structure Undone (w : World) (package : String) (w' : World) : Prop where
  latest : ∀ prev, (w.database.mountsOf package).latest = some prev →
    ∃ data, (w'.database.mountsOf package).latest = some data ∧ data.isTempMount = false ∧
      data.fullPath = prev.fullPath ∧ data.version = prev.version ∧
      ∀ apex, openAt w.fs prev.fullPath = .ok apex →
        apex.manifest.provideSharedApexLibs = false →
        visibleAt w'.mounts (kApexRoot ++ "/" ++ package) = some data
  nothingNew : ∀ data ∈ (w'.database.mountsOf package).entries,
    data ∈ (w.database.mountsOf package).entries ∨
      ∃ prev, (w.database.mountsOf package).latest = some prev ∧ data.fullPath = prev.fullPath
  active : ∀ name content, w'.fs.file ⟨.active, name⟩ = some content →
    w.fs.file ⟨.active, name⟩ = some content

/-! ## The state before -/

theorem latest_mem {set : MountedSet} (latest : set.latest = some data) : data ∈ set.entries :=
  (MountedSet.latest_eq_some_iff.mp latest).1

theorem World.Installed.undone_self (installed : w.Installed package) : Undone w package w where
  latest prev latest :=
    ⟨prev, latest, (installed.settled.recorded prev (latest_mem latest)).notTemp, rfl, rfl,
      installed.bound prev latest⟩
  nothingNew _ member := .inl member
  active _ _ found := found

/-- The mount point of a package is not that of a version. -/
theorem packageMountPoint_ne (manifest : ApexManifest) :
    getPackageMountPoint manifest ≠ getActiveMountPoint manifest := by
  intro same
  simp [getPackageMountPoint, getActiveMountPoint, getPackageId, String.append_assoc] at same

theorem activeMountPoint_eq {manifest : ApexManifest} (named : manifest.name = package) :
    getActiveMountPoint manifest = kApexRoot ++ "/" ++ package := by
  rw [getActiveMountPoint, named]

namespace World.Settled

variable {w₁ : World} {verified : String}

/-- Verification leaves the entries of a settled package alone. -/
theorem mountsOf_eq (settled : w.Settled package) (undisturbed : Undisturbed verified w w₁) :
    w₁.database.mountsOf package = w.database.mountsOf package :=
  undisturbed.mounts package (MountedSet.temps_eq_nil.mpr fun data member =>
    (settled.recorded data member).notTemp)

theorem not_verifiedAt (settled : w.Settled package)
    (member : data ∈ (w.database.mountsOf package).entries) : ¬ VerifiedAt verified data.mountPoint := by
  obtain ⟨apex, -, -, -, mountPoint⟩ := (settled.recorded data member).file
  rw [mountPoint]
  exact not_verifiedAt_packageMountPoint _ _

theorem ne_activeMountPoint (settled : w.Settled package)
    (member : data ∈ (w.database.mountsOf package).entries) :
    data.mountPoint ≠ kApexRoot ++ "/" ++ package := by
  obtain ⟨apex, -, named, -, mountPoint⟩ := (settled.recorded data member).file
  rw [mountPoint, ← activeMountPoint_eq named]
  exact packageMountPoint_ne _

/-- Two versions are not mounted at one mount point. -/
theorem eq_of_mountPoint (settled : w.Settled package) {other : MountedApexData}
    (member : data ∈ (w.database.mountsOf package).entries)
    (member' : other ∈ (w.database.mountsOf package).entries)
    (same : data.mountPoint = other.mountPoint) : data = other := by
  have images := (settled.recorded data member).mounted
  rw [same, (settled.recorded other member').mounted] at images
  exact (List.singleton_inj.mp images).symm

/-- Two entries are not of the same version. -/
theorem eq_of_version (settled : w.Settled package) {other : MountedApexData} {apex apex' : ApexFile}
    (member : data ∈ (w.database.mountsOf package).entries)
    (member' : other ∈ (w.database.mountsOf package).entries)
    (opened : openAt w.fs data.fullPath = .ok apex)
    (opened' : openAt w.fs other.fullPath = .ok apex')
    (same : apex.manifest.version = apex'.manifest.version) : data = other := by
  obtain ⟨_, found, named, -, mountPoint⟩ := (settled.recorded data member).file
  obtain ⟨_, found', named', -, mountPoint'⟩ := (settled.recorded other member').file
  cases opened.symm.trans found
  cases opened'.symm.trans found'
  refine settled.eq_of_mountPoint member member' ?_
  rw [mountPoint, mountPoint', getPackageMountPoint, getPackageMountPoint, getPackageId, getPackageId,
    named, named', same]

end World.Settled

theorem openAt_congr {fs fs' : FileSystem DirId Content} {path : FilePath}
    (same : fs'.file path = fs.file path) : openAt fs' path = openAt fs path := by
  rw [openAt, openAt, same]

theorem Undisturbed.file (undisturbed : Undisturbed package w w') {path : FilePath}
    (outside : path.dir ≠ .hashTree) : w'.fs.file path = w.fs.file path := by
  rw [FileSystem.file, FileSystem.file,
    FileSystem.files_of_dir_eq (undisturbed.files.dir path.dir outside)]

theorem Undisturbed.openAt_eq (undisturbed : Undisturbed package w w') {path : FilePath}
    (outside : path.dir ≠ .hashTree) : openAt w'.fs path = openAt w.fs path :=
  openAt_congr (undisturbed.file outside)

theorem Undisturbed.active (undisturbed : Undisturbed package w w') (name : String) :
    w'.fs.file ⟨.active, name⟩ = w.fs.file ⟨.active, name⟩ :=
  undisturbed.file nofun

section Verified

variable {verified : String}

/-- Verification leaves a package settled. -/
theorem World.Settled.of_undisturbed (settled : w.Settled package)
    (undisturbed : Undisturbed verified w w₁) : w₁.Settled package := by
  refine ⟨?_, ?_⟩ <;> rw [settled.mountsOf_eq undisturbed]
  · intro data member
    have recorded := settled.recorded data member
    obtain ⟨apex, opened, file⟩ := recorded.file
    refine ⟨recorded.notTemp, recorded.outside, ⟨apex, ?_, file⟩, ?_⟩
    · rw [undisturbed.openAt_eq recorded.outside, opened]
    · rw [undisturbed.images _ (settled.not_verifiedAt member), recorded.mounted]
  · exact settled.distinct

/-- Verification leaves an active package bound. -/
theorem World.Bound.of_undisturbed (bound : w.Bound package) (settled : w.Settled package)
    (undisturbed : Undisturbed verified w w₁)
    (outside : ¬ VerifiedAt verified (kApexRoot ++ "/" ++ package)) : w₁.Bound package := by
  intro data latest apex opened notShared
  rw [settled.mountsOf_eq undisturbed] at latest
  rw [undisturbed.openAt_eq (settled.recorded data (latest_mem latest)).outside] at opened
  rw [visibleAt_eq_head?, undisturbed.images _ outside, ← visibleAt_eq_head?]
  exact bound data latest apex opened notShared

end Verified

/-- Verification leaves a package installed. -/
theorem World.Installed.of_undisturbed (installed : w.Installed package)
    (undisturbed : Undisturbed package w w₁) : w₁.Installed package := by
  have settled := installed.settled
  have same := settled.mountsOf_eq undisturbed
  refine ⟨settled.of_undisturbed undisturbed, ?_, ?_⟩
  · intro data latest
    rw [same] at latest
    obtain ⟨apex, -, named, -⟩ := (settled.recorded data (latest_mem latest)).file
    have outside : ¬ VerifiedAt package (kApexRoot ++ "/" ++ package) := by
      rw [← activeMountPoint_eq named, ← named]
      exact not_verifiedAt_activeMountPoint _
    exact installed.bound.of_undisturbed settled undisturbed outside data (same.symm ▸ latest)
  · rw [same]
    exact installed.spelled

/-- It does not matter from which state on the installation is undone. -/
theorem undone_iff_of_undisturbed (installed : w.Installed package)
    (undisturbed : Undisturbed package w w₁) : Undone w₁ package w' ↔ Undone w package w' := by
  have same := installed.settled.mountsOf_eq undisturbed
  have active := undisturbed.active
  have opened {prev : MountedApexData} (latest : (w.database.mountsOf package).latest = some prev) :
      openAt w₁.fs prev.fullPath = openAt w.fs prev.fullPath :=
    undisturbed.openAt_eq (installed.settled.recorded prev (latest_mem latest)).outside
  constructor
  · intro undone
    refine ⟨fun prev latest => ?_, ?_, fun name content found => ?_⟩
    · have undone' := undone.latest prev (same ▸ latest)
      rwa [opened latest] at undone'
    · have undone' := undone.nothingNew
      rwa [same] at undone'
    · rw [← active]
      exact undone.active name content found
  · intro undone
    refine ⟨fun prev latest => ?_, ?_, fun name content found => ?_⟩
    · rw [same] at latest
      rw [opened latest]
      exact undone.latest prev latest
    · rw [same]
      exact undone.nothingNew
    · rw [active]
      exact undone.active name content found

/-! ## The unmount of the previous version -/

/-- The entry of the previous version is gone, and there may be one of the new version. -/
structure Replacing (w : World) (package : String) (prev : MountedApexData) (target : FilePath)
    (added : Option MountedApexData) (w' : World) : Prop where
  files : ∀ path : FilePath, path.dir ≠ .hashTree → path ≠ target →
    w'.fs.file path = w.fs.file path
  entries : ∀ data, data ∈ (w'.database.mountsOf package).entries ↔
    (data ∈ (w.database.mountsOf package).entries ∧ data ≠ prev) ∨ added = some data
  new : ∀ data, added = some data →
    data.fullPath = target ∧ data.isTempMount = false ∧ w.fs.file target = none

/-- The calls whose failure is not undone: the unmount of the previous version and the deletion of
its device, once its entry is removed, and the bind mount of another version. -/
def LosesActive (prev : MountedApexData) : Call → Prop
  | .kernel (.umount target _) => target = prev.mountPoint
  | .kernel (.deleteVerityDevice name deferred) => name = prev.deviceName ∧ deferred = true
  | .database (.bindMountIfLatest _ fullPath _ _) => fullPath ≠ prev.fullPath
  | _ => False

/-- None of the calls that failed from here on loses the previous version. -/
abbrev Harmless (prev : MountedApexData) : List Call → List Call → Prop :=
  Logged fun request => ¬ LosesActive prev request

theorem losesActive_of_breaks {request : Call} (breaks : Breaks prev true request) :
    LosesActive prev request := by
  rcases breaks with rfl | rfl
  · rfl
  · exact ⟨rfl, rfl⟩

/-- The entry of a file is the only one that is removed with it. -/
theorem mem_remove_iff {set : MountedSet} {path : FilePath} (member : prev ∈ set.entries)
    (notTemp : prev.isTempMount = false) (isPrev : pathText prev.fullPath = pathText path)
    (distinct : ∀ other ∈ set.entries, pathText other.fullPath = pathText path → other = prev) :
    data ∈ (set.remove path false).entries ↔ data ∈ set.entries ∧ data ≠ prev := by
  let isFile : MountedApexData → Bool := fun data =>
    pathText data.fullPath = pathText path && data.isTempMount = false
  have found : isFile prev = true := by simp [isFile, isPrev, notTemp]
  obtain ⟨removed, before, after, -, isRemoved, split, erased⟩ :=
    List.exists_of_eraseP member found
  have inside : removed ∈ set.entries := by
    rw [split]
    simp
  have same : removed = prev := distinct removed inside (by
    simp only [isFile, Bool.and_eq_true, decide_eq_true_eq] at isRemoved
    exact isRemoved.1)
  subst same
  have nodup := set.nodup_entries
  rw [split] at nodup
  have once := (List.nodup_cons.mp (List.nodup_middle.mp nodup)).1
  change data ∈ set.entries.eraseP isFile ↔ _
  rw [erased, split]
  constructor
  · intro inRest
    refine ⟨?_, ne_of_mem_of_not_mem inRest once⟩
    simp only [List.mem_append, List.mem_cons] at inRest ⊢
    tauto
  · rintro ⟨inside, ne⟩
    simp only [List.mem_append, List.mem_cons] at inside ⊢
    tauto

section Unmount

variable {cur : ApexFile} (installed : w.Installed package)
  (latest : (w.database.mountsOf package).latest = some prev)
  (opened : openAt w.fs prev.fullPath = .ok cur)

include installed latest opened

theorem current_named : cur.manifest.name = package := by
  obtain ⟨apex, opened', named, -⟩ := (installed.settled.recorded prev (latest_mem latest)).file
  cases opened.symm.trans opened'
  exact named

/-- What is unmounted is the previous version. -/
theorem Unmounted.replacing (unmounted : Unmounted w cur data w') (target : FilePath) :
    data = prev ∧ Replacing w package prev target none w' := by
  have named := current_named installed latest opened
  have path := (openAt_eq_ok_iff.mp opened).2.1
  have member := latest_mem latest
  have notTemp := (installed.settled.recorded prev member).notTemp
  have inside := unmounted.member
  have mounts := unmounted.mountsOf package
  rw [named] at inside mounts
  rw [if_pos rfl] at mounts
  have only : ∀ other ∈ (w.database.mountsOf package).entries,
      pathText other.fullPath = pathText cur.path → other = prev := fun other isOther same =>
    installed.settled.distinct other isOther prev member (by rw [same, path])
  refine ⟨only data inside unmounted.fullPath, fun _ _ _ => by rw [unmounted.fs], fun other => ?_, nofun⟩
  rw [mounts, mem_remove_iff member notTemp (by rw [path]) only]
  simp

/-- The unmount of the previous version fails without effect, succeeds, or is left half done. -/
theorem wp_logged_unmountPrevious (target : FilePath) (detach : Bool)
    {Q : Except String Unit → World × List Call → Prop}
    (kept : ∀ e log', Harmless prev log log' → Q (.error e) (w, log'))
    (vacated : ∀ w', w'.fs = w.fs → Replacing w package prev target none w' →
      imagesAt w'.mounts prev.mountPoint = [] → Q (.ok ()) (w', log))
    (lost : ∀ result w' log', w'.fs = w.fs → Replacing w package prev target none w' →
      (result = .ok () → imagesAt w'.mounts prev.mountPoint = [prev]) →
      (∃ request ∈ log', LosesActive prev request) → Q result (w', log')) :
    wp logged Anything (unmountPackage cur true true detach) Q (w, log) := by
  have named := current_named installed latest opened
  have member := latest_mem latest
  have mounted := (installed.settled.recorded prev member).mounted
  refine wp_logged_unmountPackage ?_ ?_ ?_ ?_ ?_
  · rw [named]
    intro data inside
    rw [activeMountPoint_eq named]
    exact installed.settled.ne_activeMountPoint inside
  · rw [named]
    intro absent e
    refine absurd ?_ (absent prev member (installed.settled.recorded prev member).notTemp)
    rw [(openAt_eq_ok_iff.mp opened).2.1]
  · intro e
    refine kept e _ (.single ?_)
    rw [activeMountPoint_eq named]
    exact (installed.settled.ne_activeMountPoint member).symm
  · intro data w' unmounted images
    obtain ⟨rfl, replacing⟩ := unmounted.replacing installed latest opened target
    exact vacated w' unmounted.fs replacing (by rw [images, mounted]; rfl)
  · rintro data result w' log' unmounted kept' ⟨request, inLog, breaks⟩ -
    obtain ⟨rfl, replacing⟩ := unmounted.replacing installed latest opened target
    exact lost result w' log' unmounted.fs replacing (fun isOk => (kept' isOk).trans mounted)
      ⟨request, inLog, losesActive_of_breaks breaks⟩

end Unmount

/-! ## The new version -/

section Activation

variable {apex : ApexFile} {target : FilePath} {added : Option MountedApexData}

theorem MountedAs.mem_iff (mounted : MountedAs w apex data w') (named : apex.manifest.name = package)
    {other : MountedApexData} : other ∈ (w'.database.mountsOf package).entries ↔
      other = data ∨ other ∈ (w.database.mountsOf package).entries := by
  obtain ⟨set, emplaced, mountsOf⟩ := mounted.added
  rw [named] at emplaced mountsOf
  rw [mountsOf, if_pos rfl, MountedSet.entries_of_emplace emplaced, MountedSet.mem_insertSorted]

/-- No call around an installation loses the previous version. -/
theorem not_losesActive_of_peripheral (settled : w.Settled package)
    (member : prev ∈ (w.database.mountsOf package).entries) {request : Call}
    (isPeripheral : Peripheral (VerifiedAt package) request) : ¬ LosesActive prev request := by
  intro loses
  cases request with
  | database request =>
    cases request with
    | bindMountIfLatest => exact isPeripheral.2
    | _ => exact loses
  | kernel request =>
    cases request with
    | umount at' detach =>
      have inside : VerifiedAt package at' := isPeripheral.1
      rw [show at' = prev.mountPoint from loses] at inside
      exact settled.not_verifiedAt member inside
    | deleteVerityDevice name deferred =>
      exact Bool.false_ne_true (isPeripheral.2.symm.trans loses.2)
    | _ => exact loses
  | _ => exact loses

theorem harmless_of_beforeBinding (settled : w.Settled package)
    (member : prev ∈ (w.database.mountsOf package).entries) (named : apex.manifest.name = package)
    (before : Logged (BeforeBinding apex) log log') : Harmless prev log log' := by
  refine before.mono fun request isBefore => ?_
  rw [BeforeBinding, named] at isBefore
  rcases isBefore with isPeripheral | mounts
  · exact not_losesActive_of_peripheral settled member isPeripheral
  · intro loses
    cases request with
    | kernel request => cases request <;> first | exact loses | exact mounts
    | _ => exact mounts

/-- Verification changes nothing about what was replaced. -/
theorem Replacing.of_undisturbed (settled : w.Settled package)
    (replacing : Replacing w package prev target added w₁)
    (undisturbed : Undisturbed package w₁ w') : Replacing w package prev target added w' where
  files path outside ne := (undisturbed.file outside).trans (replacing.files path outside ne)
  entries data := by
    have noTemps : (w₁.database.mountsOf package).temps = [] := by
      refine MountedSet.temps_eq_nil.mpr fun data member => ?_
      rcases (replacing.entries data).mp member with ⟨old, -⟩ | isNew
      · exact (settled.recorded data old).notTemp
      · exact (replacing.new data isNew).2.1
    rw [undisturbed.mounts package noTemps]
    exact replacing.entries data
  new := replacing.new

/-- The new version is mounted. -/
theorem Replacing.mount (replacing : Replacing w package prev target none w₁)
    (named : apex.manifest.name = package) (isTarget : apex.path = target)
    (fresh : w.fs.file target = none) (mounted : MountedAs w₁ apex data w') :
    Replacing w package prev target (some data) w' where
  files path outside ne := by
    rw [mounted.fs]
    exact replacing.files path outside ne
  entries other := by
    rw [mounted.mem_iff named, replacing.entries other, Option.some.injEq, eq_comm (a := data)]
    simp only [reduceCtorEq, or_false]
    exact or_comm
  new other same := by
    cases same
    exact ⟨mounted.fullPath.trans isTarget, mounted.notTemp, fresh⟩

/-- No entry that is left has a file of the name of the new one. -/
theorem Replacing.not_doIfLatest (installed : w.Installed package)
    (replacing : Replacing w package prev target none w₁) (inActive : target.dir = .active)
    (fresh : w.fs.file target = none) : w₁.database.doIfLatest package target ≠ some true := by
  intro isLatest
  obtain ⟨data, latest, same⟩ := Option.map_eq_some_iff.mp isLatest
  have inside := ((replacing.entries data).mp (latest_mem latest)).resolve_right nofun
  obtain ⟨_, name⟩ := target
  cases inActive
  have isTarget := installed.spelled data inside.1 name (of_decide_eq_true same)
  obtain ⟨apex, opened, -⟩ := (installed.settled.recorded data inside.1).file
  rw [isTarget] at opened
  rw [(openAt_eq_ok_iff.mp opened).1] at fresh
  cases fresh

/-- Activating the new version: where that fails, nothing was mounted or the bind mount failed. -/
theorem wp_logged_activateNew {deviceName : String} {envOf : Environment}
    (installed : w.Installed package) (member : prev ∈ (w.database.mountsOf package).entries)
    (isPrev : w.fs.file prev.fullPath ≠ none)
    (replacing : Replacing w package prev target none w₁) (inActive : target.dir = .active)
    (fresh : w.fs.file target = none) (named : apex.manifest.name = package)
    (isTarget : apex.path = target) {Q : Except String Unit → World × List Call → Prop}
    (done : ∀ st, Q (.ok ()) st)
    (unmounted : ∀ e w' log', Replacing w package prev target none w' →
      imagesAt w'.mounts prev.mountPoint = imagesAt w₁.mounts prev.mountPoint →
      Harmless prev log log' → Q (.error e) (w', log'))
    (unbound : ∀ e data w' log', Replacing w package prev target (some data) w' →
      (∃ request ∈ log', LosesActive prev request) → Q (.error e) (w', log')) :
    wp logged Anything (activatePackageImpl envOf apex deviceName false) Q (w₁, log) := by
  have settled := installed.settled
  have other : LosesActive prev (bindCall apex) := by
    change apex.path ≠ prev.fullPath
    rw [isTarget]
    rintro rfl
    exact isPrev fresh
  refine wp_logged_activatePackageImpl (fun e w₂ log₂ undisturbed before => ?_)
    (fun w₂ log₂ found _ _ _ _ _ => done _) (fun w₂ log₂ found undisturbed before isFound isMounted => ?_)
    fun w₂ log₂ data w₃ undisturbed before mounted => ?_
  · rw [named] at undisturbed
    exact unmounted e w₂ log₂ (replacing.of_undisturbed settled undisturbed)
      (undisturbed.images _ (settled.not_verifiedAt member))
      (harmless_of_beforeBinding settled member named before)
  · rw [named] at undisturbed
    have notLatest := (replacing.of_undisturbed settled undisturbed).not_doIfLatest installed
      inActive fresh
    unfold bindUnlessShared
    split
    · refine wp_logged_bindLatest (fun _ => done _) (fun _ _ _ => done _) fun isLatest e => ?_
      rw [named, isTarget] at isLatest
      exact absurd isLatest notLatest
    · exact done _
  · rw [named] at undisturbed
    have mounting := (replacing.of_undisturbed settled undisturbed).mount named isTarget fresh mounted
    unfold bindUnlessShared
    split
    · refine wp_logged_bindLatest (fun _ => done _) (fun _ _ _ => done _) fun _ e => ?_
      exact unbound e data w₃ _ mounting ⟨bindCall apex, by simp, other⟩
    · exact done _

end Activation

/-! ## The link -/

theorem wp_logged_link {source target : FilePath} {Q : Except String Unit → World × List Call → Prop}
    (linked : ∀ content, w.fs.file source = some content → w.fs.file target = none →
      w.fs.has target.dir = true → Q (.ok ()) ({ w with fs := w.fs.write target content }, log))
    (failed : ∀ e, Q (.error e) (w, log ++ [.fs (.link source target)])) :
    wp logged Anything (link source target) Q (w, log) := by
  refine wp_withLog (fun _ w' answer => ⟨trivial, ?_⟩) fun e w' answer => ⟨trivial, ?_⟩
  · obtain ⟨fs', answered, rfl⟩ := answer
    simp only [FsCall.Answers, FsCall.effect] at answered
    split at answered
    · cases answered
    · rename_i content found
      split_ifs at answered with taken exists'
      · cases answered
      · rw [show fs' = w.fs.write target content from congrArg Prod.snd answered]
        exact linked content found (by simpa using taken) exists'
      · cases answered
  · have unchanged : w' = w := by
      rcases answer with ⟨fs', answered, rfl⟩ | ⟨-, same⟩
      · simp only [FsCall.Answers, FsCall.effect] at answered
        split at answered
        · cases answered
          rfl
        · split_ifs at answered <;> cases answered <;> rfl
      · exact same
    rw [unchanged]
    exact failed e

/-- A file that was linked is opened with the manifest of its source. -/
theorem linked_opened {source target : FilePath} {apex newApex : ApexFile} {content : Content}
    (opened : openAt w.fs source = .ok apex) (found : w.fs.file source = some content)
    (exists' : w.fs.has target.dir = true)
    (isNew : openAt (w.fs.write target content) target = .ok newApex) :
    newApex.path = target ∧ newApex.manifest = apex.manifest := by
  obtain ⟨content', path, -⟩ := openAt_eq_ok_iff.mp isNew
  rw [w.fs.file_write target exists' content, Function.update_self, Option.some.injEq] at content'
  have isApex : content = .apex apex.archive :=
    Option.some.inj (found.symm.trans (openAt_eq_ok_iff.mp opened).1)
  rw [isApex, Content.apex.injEq] at content'
  exact ⟨path, by rw [ApexFile.manifest, ApexFile.manifest, content']⟩

/-- Linking and activating the new version, once the previous one is unmounted. -/
theorem wp_logged_linkAndActivate {envOf : Environment} (installed : w.Installed package)
    (member : prev ∈ (w.database.mountsOf package).entries)
    (isPrev : w.fs.file prev.fullPath ≠ none) (fs : w₁.fs = w.fs)
    (replacing : Replacing w package prev plan.targetFile none w₁)
    (opened : openAt w.fs packagePath = .ok plan.tempApex)
    (named : plan.tempApex.manifest.name = package)
    {Q : Except String ApexFile → World × List Call → Prop}
    (done : ∀ apex st, Q (.ok apex) st)
    (unmounted : ∀ e w' log', Replacing w package prev plan.targetFile none w' →
      imagesAt w'.mounts prev.mountPoint = imagesAt w₁.mounts prev.mountPoint →
      Harmless prev log log' → Q (.error e) (w', log'))
    (unbound : ∀ e data w' log', Replacing w package prev plan.targetFile (some data) w' →
      (∃ request ∈ log', LosesActive prev request) → Q (.error e) (w', log')) :
    wp logged Anything (linkAndActivate envOf packagePath plan) Q (w₁, log) := by
  rw [linkAndActivate, wp_bind, orErrno, wp_mapError]
  refine wp_logged_link (fun content found fresh exists' => ?_) fun e => ?_
  · rw [fs] at found fresh exists'
    have linking : Replacing w package prev plan.targetFile none
        { w₁ with fs := w₁.fs.write plan.targetFile content } := by
      refine ⟨fun path outside ne => ?_, replacing.entries, replacing.new⟩
      rw [fs, w.fs.file_write plan.targetFile exists' content, Function.update_of_ne ne]
    change wp logged Anything (ApexFile.open plan.targetFile >>= fun _ => _) Q _
    rw [wp_bind]
    refine wp_logged_open (fun newApex isNew => ?_) fun e log₂ reads => ?_
    · rw [fs] at isNew
      obtain ⟨path, manifest⟩ := linked_opened opened found exists' isNew
      dsimp only
      rw [wp_bind]
      refine wp_logged_activateNew installed member isPrev linking rfl fresh (manifest ▸ named) path
        ?_ ?_ ?_
      · exact fun st => done newApex st
      · exact unmounted
      · exact unbound
    · exact unmounted e _ _ linking rfl (reads.mono fun _ same => same ▸ id)
  · exact unmounted _ _ _ replacing rfl (.single id)

/-! ## The scope guard -/

/-- The new file is gone; the removal fails only where there is none. -/
theorem wp_logged_unlink_ignore {path : FilePath} {Q : Except String Unit → World × List Call → Prop}
    (removed : ∀ w' log', w'.fs.file = Function.update w.fs.file path none →
      w'.database = w.database → w'.mounts = w.mounts → Logged (· = .fs (.unlink path)) log log' →
      Q (.ok ()) (w', log')) :
    wp logged Anything (unlink path).ignore Q (w, log) := by
  rw [wp_ignore]
  refine wp_withLog (fun _ w' answer => ⟨trivial, ?_⟩) fun e w' answer => ⟨trivial, ?_⟩
  · obtain ⟨fs', answered, rfl⟩ := answer
    simp only [FsCall.Answers, FsCall.effect] at answered
    split at answered
    · cases answered
    · rw [show fs' = w.fs.remove path from congrArg Prod.snd answered]
      exact removed _ _ (w.fs.file_remove path) rfl rfl (.refl _ _)
  · rcases answer with ⟨fs', answered, rfl⟩ | ⟨impossible, -⟩
    · simp only [FsCall.Answers, FsCall.effect] at answered
      split at answered
      · rename_i absent
        rw [show fs' = w.fs from congrArg Prod.snd answered]
        refine removed _ _ ?_ rfl rfl (.single rfl)
        rw [← absent, Function.update_eq_self]
      · cases answered
    · exact impossible.elim

/-- What the guard's activation of the previous version comes to. -/
inductive Reactivated (w : World) (cur : ApexFile) : Except String Unit → World → Prop
  | failed {e : String} {w' : World} (undisturbed : Undisturbed cur.manifest.name w w') :
      Reactivated w cur (.error e) w'
  | unbound {w₁ w' : World} {data : MountedApexData} {result : Except String Unit}
      (undisturbed : Undisturbed cur.manifest.name w w₁) (mounted : MountedAs w₁ cur data w')
      (older : result = .ok () → cur.manifest.provideSharedApexLibs = true ∨
        w'.database.doIfLatest cur.manifest.name cur.path = some false) :
      Reactivated w cur result w'
  | bound {w₁ w₂ : World} {data : MountedApexData}
      (undisturbed : Undisturbed cur.manifest.name w w₁) (mounted : MountedAs w₁ cur data w₂) :
      Reactivated w cur (.ok ()) (w₂.bindAt (getActiveMountPoint cur.manifest) data)

section Guard

variable {cur : ApexFile} {target : FilePath} {added : Option MountedApexData}
  (installed : w.Installed package) (latest : (w.database.mountsOf package).latest = some prev)
  (opened : openAt w.fs prev.fullPath = .ok cur)
  (replacing : Replacing w package prev target added w₁) (inActive : target.dir = .active)
  (gone : w₁.fs.file target = none)

include installed latest opened replacing inActive gone

omit inActive in
/-- No mount that is left is of the previous version. -/
theorem not_foundMounted {found : VersionFound} (isFound : FoundMounted w₁ cur found) :
    found.mounted ≠ true := by
  intro isMounted
  obtain ⟨⟨data, flag⟩, visited, -, other, isOther, version⟩ := isFound.mounted isMounted
  rw [current_named installed latest opened, visited_iff] at visited
  have notTarget : data.fullPath ≠ target := by
    intro same
    rw [same] at isOther
    rw [(openAt_eq_ok_iff.mp isOther).1] at gone
    cases gone
  rcases (replacing.entries data).mp visited.1 with ⟨inside, ne⟩ | isNew
  · have outside := (installed.settled.recorded data inside).outside
    rw [openAt_congr (replacing.files data.fullPath outside notTarget)] at isOther
    exact ne (installed.settled.eq_of_version inside (latest_mem latest) isOther opened version)
  · exact notTarget (replacing.new data isNew).1

theorem wp_logged_activatePrevious {deviceName : String} {envOf : Environment} :
    wp logged Anything (activatePackageImpl envOf cur deviceName false) (fun result st =>
      Reactivated w₁ cur result st.1 ∧ Harmless prev log st.2) (w₁, log) := by
  have named := current_named installed latest opened
  have settled := installed.settled
  have member := latest_mem latest
  have notFound {w₂ : World} (undisturbed : Undisturbed cur.manifest.name w₁ w₂)
      {found : VersionFound} (isFound : FoundMounted w₂ cur found) : found.mounted ≠ true := by
    rw [named] at undisturbed
    have gone' : w₂.fs.file target = none := by
      rw [undisturbed.file (by rw [inActive]; nofun), gone]
    exact not_foundMounted installed latest opened (replacing.of_undisturbed settled undisturbed)
      gone' isFound
  have harmless {log₂ : List Call} (before : Logged (BeforeBinding cur) log log₂) :
      Harmless prev log log₂ := harmless_of_beforeBinding settled member named before
  refine wp_logged_activatePackageImpl (fun e w₂ log₂ undisturbed before => ?_)
    (fun w₂ log₂ found undisturbed before isFound isActive _ => ?_)
    (fun w₂ log₂ found undisturbed before isFound isMounted => ?_)
    fun w₂ log₂ data w₃ undisturbed before mounted => ?_
  · exact ⟨.failed undisturbed, harmless before⟩
  · exact absurd (isFound.activeMounted isActive) (notFound undisturbed isFound)
  · exact absurd isMounted (notFound undisturbed isFound)
  · unfold bindUnlessShared
    split
    · refine wp_logged_bindLatest (fun older => ?_) (fun _ image visible => ?_) fun _ e => ?_
      · exact ⟨.unbound undisturbed mounted fun _ => .inr older, harmless before⟩
      · rw [visibleAt_eq_head?, mounted.images, if_pos mounted.mountPoint] at visible
        cases visible
        exact ⟨.bound undisturbed mounted, harmless before⟩
      · refine ⟨.unbound undisturbed mounted nofun, (harmless before).trans (.single ?_)⟩
        exact not_not.mpr (openAt_eq_ok_iff.mp opened).2.1
    · rename_i shared
      exact ⟨.unbound undisturbed mounted fun _ => .inl (by simpa using shared), harmless before⟩

end Guard

/-! ## What the guard gets back -/

/-- A mount of an older version is below. -/
theorem lt_of_version_lt {a b : MountedApexData} (below : a.version.toInt < b.version.toInt) :
    a.key < b.key :=
  Prod.Lex.lt_iff.mpr (.inl below)

theorem version_lt_of_lt {a b : MountedApexData} (below : a.key < b.key)
    (ne : a.version ≠ b.version) : a.version.toInt < b.version.toInt := by
  rcases Prod.Lex.lt_iff.mp below with versions | ⟨same, -⟩
  · exact versions
  · exact absurd (Int32.toInt_inj.mp same) ne

/-- No other mount of the package has the version of the latest one, as the database stores it. -/
def World.OneOfVersion (w : World) (package : String) : Prop :=
  ∀ prev, (w.database.mountsOf package).latest = some prev →
    ∀ other ∈ (w.database.mountsOf package).entries, other ≠ prev → other.version ≠ prev.version

/-- The activation by the scope guard succeeds if nothing is mounted at its mount point. -/
def RemountsIfFree (cur : ApexFile) (w : World) (result : Except String Unit) : Prop :=
  visibleAt w.mounts (getPackageMountPoint cur.manifest) = none → result = .ok ()

section Outcome

variable {cur : ApexFile} {target : FilePath} {added : Option MountedApexData}
  {result : Except String Unit} (installed : w.Installed package)
  (latest : (w.database.mountsOf package).latest = some prev)
  (opened : openAt w.fs prev.fullPath = .ok cur)
  (replacing : Replacing w package prev target added w₁)

include installed latest opened

theorem previous_recorded : prev.version = cur.manifest.version.toInt32 ∧
    prev.mountPoint = getPackageMountPoint cur.manifest := by
  obtain ⟨apex, opened', -, file⟩ := (installed.settled.recorded prev (latest_mem latest)).file
  cases opened.symm.trans opened'
  exact file

include replacing

omit opened in
/-- With no entry for the file of the previous version the installation is not undone. -/
theorem Replacing.not_undone (ne : target ≠ prev.fullPath ∨ added = none) :
    ¬ Undone w package w₁ := by
  intro undone
  obtain ⟨data, isLatest, -, fullPath, -⟩ := undone.latest prev latest
  rcases (replacing.entries data).mp (latest_mem isLatest) with ⟨inside, other⟩ | isNew
  · exact other (installed.settled.distinct data inside prev (latest_mem latest) (by rw [fullPath]))
  · rcases ne with ne | none
    · exact ne ((replacing.new data isNew).1.symm.trans fullPath)
    · rw [none] at isNew
      cases isNew

/-- Where the previous version is still mounted it is not mounted again. -/
theorem Reactivated.not_undone_of_mounted (reactivated : Reactivated w₁ cur result w')
    (mounted : imagesAt w₁.mounts prev.mountPoint = [prev])
    (ne : target ≠ prev.fullPath ∨ added = none) : ¬ Undone w package w' := by
  have named := current_named installed latest opened
  have settled := installed.settled
  have notFree {w₂ w₃ : World} {data : MountedApexData}
      (undisturbed : Undisturbed cur.manifest.name w₁ w₂) (again : MountedAs w₂ cur data w₃) :
      False := by
    have free := again.free
    rw [named] at undisturbed
    rw [again.mountPoint, ← (previous_recorded installed latest opened).2,
      undisturbed.images _ (settled.not_verifiedAt (latest_mem latest)), mounted] at free
    cases free
  cases reactivated with
  | failed undisturbed =>
    rw [named] at undisturbed
    exact (replacing.of_undisturbed settled undisturbed).not_undone installed latest ne
  | unbound undisturbed again => exact (notFree undisturbed again).elim
  | bound undisturbed again => exact (notFree undisturbed again).elim

/-- The entry of the new version stays. -/
theorem Reactivated.not_undone_of_added (reactivated : Reactivated w₁ cur result w')
    (isNew : added = some data) (ne : target ≠ prev.fullPath) : ¬ Undone w package w' := by
  have named := current_named installed latest opened
  obtain ⟨fullPath, -, fresh⟩ := replacing.new data isNew
  have kept : data ∈ (w'.database.mountsOf package).entries := by
    have inside {w₂ : World} (undisturbed : Undisturbed cur.manifest.name w₁ w₂) :
        data ∈ (w₂.database.mountsOf package).entries := by
      rw [named] at undisturbed
      exact ((replacing.of_undisturbed installed.settled undisturbed).entries data).mpr (.inr isNew)
    cases reactivated with
    | failed undisturbed => exact inside undisturbed
    | unbound undisturbed again => exact (again.mem_iff named).mpr (.inr (inside undisturbed))
    | bound undisturbed again => exact (again.mem_iff named).mpr (.inr (inside undisturbed))
  intro undone
  rcases undone.nothingNew data kept with old | ⟨prev', latest', same⟩
  · obtain ⟨apex, opened', -⟩ := (installed.settled.recorded data old).file
    rw [fullPath] at opened'
    rw [(openAt_eq_ok_iff.mp opened').1] at fresh
    cases fresh
  · cases latest.symm.trans latest'
    exact ne (fullPath.symm.trans same)

/-- The previous version is mounted again and is the latest. -/
theorem Replacing.latest_of_mounted (alone : w.OneOfVersion package) (added : added = none)
    {w₂ w₃ : World} (undisturbed : Undisturbed package w₁ w₂) (again : MountedAs w₂ cur data w₃) :
    (w₃.database.mountsOf package).latest = some data ∧
      ∀ other ∈ (w₃.database.mountsOf package).entries,
        other = data ∨ other ∈ (w.database.mountsOf package).entries := by
  have named := current_named installed latest opened
  have version : data.version = prev.version :=
    again.version.trans (previous_recorded installed latest opened).1.symm
  have inside {other : MountedApexData} (member : other ∈ (w₃.database.mountsOf package).entries) :
      other = data ∨ (other ∈ (w.database.mountsOf package).entries ∧ other ≠ prev) := by
    refine ((again.mem_iff named).mp member).imp_right fun old => ?_
    rw [(replacing.of_undisturbed installed.settled undisturbed).entries, added] at old
    exact old.resolve_right nofun
  refine ⟨MountedSet.latest_eq_some_iff.mpr ⟨(again.mem_iff named).mpr (.inl rfl), ?_⟩,
    fun other member => (inside member).imp_right And.left⟩
  intro other member ne
  obtain ⟨old, notPrev⟩ := (inside member).resolve_left ne
  have below := (MountedSet.latest_eq_some_iff.mp latest).2 other old notPrev
  have older := version_lt_of_lt (of_decide_eq_true below) (alone prev latest other old notPrev)
  rw [← version] at older
  exact decide_eq_true (lt_of_version_lt older)

/-- With the previous version mounted again, all that is left to do is its bind mount. -/
theorem Replacing.undone_of_mounted (alone : w.OneOfVersion package) (notAdded : added = none)
    (gone : w₁.fs.file target = none) {w₂ w₃ : World} (undisturbed : Undisturbed package w₁ w₂)
    (again : MountedAs w₂ cur data w₃) (fs : w'.fs = w₃.fs) (database : w'.database = w₃.database)
    (bound : cur.manifest.provideSharedApexLibs = false →
      visibleAt w'.mounts (kApexRoot ++ "/" ++ package) = some data) : Undone w package w' := by
  have fullPath : data.fullPath = prev.fullPath :=
    again.fullPath.trans (openAt_eq_ok_iff.mp opened).2.1
  have version : data.version = prev.version :=
    again.version.trans (previous_recorded installed latest opened).1.symm
  obtain ⟨isLatest, others⟩ :=
    replacing.latest_of_mounted installed latest opened alone notAdded undisturbed again
  refine ⟨fun prev' latest' => ?_, fun other member => ?_, fun name content found => ?_⟩
  · cases latest.symm.trans latest'
    refine ⟨data, by rw [database, isLatest], again.notTemp, fullPath, version, ?_⟩
    intro apex opened' notShared
    cases opened.symm.trans opened'
    exact bound notShared
  · rw [database] at member
    rcases others other member with rfl | old
    · exact .inr ⟨prev, latest, fullPath⟩
    · exact .inl old
  · rw [fs, again.fs, undisturbed.active] at found
    refine (replacing.files ⟨.active, name⟩ nofun ?_).symm.trans found
    rintro rfl
    exact Option.some_ne_none content (found.symm.trans gone)

/-- A guard that succeeds undoes the installation if there is no entry of the new version. -/
theorem Reactivated.undone (reactivated : Reactivated w₁ cur (.ok ()) w')
    (alone : w.OneOfVersion package) (notAdded : added = none)
    (gone : w₁.fs.file target = none) : Undone w package w' := by
  have named := current_named installed latest opened
  have mounted {w₂ w₃ : World} {data : MountedApexData}
      (undisturbed : Undisturbed cur.manifest.name w₁ w₂) (again : MountedAs w₂ cur data w₃)
      (fs : w'.fs = w₃.fs) (database : w'.database = w₃.database)
      (bound : cur.manifest.provideSharedApexLibs = false →
        visibleAt w'.mounts (kApexRoot ++ "/" ++ package) = some data) : Undone w package w' :=
    replacing.undone_of_mounted installed latest opened alone notAdded gone (named ▸ undisturbed)
      again fs database bound
  cases reactivated with
  | @unbound w₂ _ data _ undisturbed again older =>
    refine mounted undisturbed again rfl rfl fun notShared => ?_
    rcases older rfl with shared | notLatest
    · rw [notShared] at shared
      cases shared
    · obtain ⟨isLatest, -⟩ := replacing.latest_of_mounted installed latest opened alone notAdded
        (named ▸ undisturbed) again
      rw [named, MountedApexDatabase.doIfLatest, isLatest, Option.map_some, again.fullPath] at notLatest
      simp at notLatest
  | @bound w₂ w₃ data undisturbed again =>
    refine mounted undisturbed again rfl rfl fun _ => ?_
    rw [World.bindAt, activeMountPoint_eq named, visibleAt_eq_head?, imagesAt_cons, if_pos rfl]
    rfl

end Outcome

/-! ## Failed installations -/

theorem wp_logged_tellInit {sysprop apexName ready : String} :
    wp logged Anything (tellInit sysprop apexName ready) (fun _ st =>
      st.1 = w ∧ Harmless prev log st.2) (w, log) := by
  have sets (key value : String) (log₁ : List Call) (before : Harmless prev log log₁)
      {Q : Except String Unit → World × List Call → Prop}
      (post : ∀ result log₂, Harmless prev log log₂ → Q result (w, log₂)) :
      wp logged Anything (outsideCall (.setProperty key value)) Q (w, log₁) := by
    refine wp_withLog (fun _ w' answer => ⟨trivial, ?_⟩) fun e w' answer => ⟨trivial, ?_⟩
    · rw [answer.2]
      exact post _ _ before
    · have unchanged : w' = w := by
        rcases answer with ⟨-, same⟩ | ⟨-, same⟩ <;> exact same
      rw [unchanged]
      exact post _ _ (before.trans (.single id))
  rw [tellInit, wp_bind, wp_mapError]
  refine sets _ _ log (.refl _ _) fun result log₁ before => ?_
  cases result with
  | error e => exact ⟨rfl, before⟩
  | ok _ =>
    dsimp only [Except.mapError]
    rw [wp_ignore]
    exact sets _ _ log₁ before fun _ log₂ after => ⟨rfl, after⟩

/-- One of the calls that failed loses the previous version. -/
def LostActive (w : World) (package : String) (log : List Call) : Prop :=
  ∃ prev, (w.database.mountsOf package).latest = some prev ∧
    ∃ request ∈ log, LosesActive prev request

/-- An installation is undone if nothing loses the previous version, and only then. -/
structure UndoneUnlessLost (w : World) (package : String) (st : World × List Call) : Prop where
  only : Undone w package st.1 → ¬ LostActive w package st.2
  undone : ¬ LostActive w package st.2 → w.OneOfVersion package → Undone w package st.1

namespace UndoneUnlessLost

variable {st : World × List Call}

theorem of_undone (undone : w.OneOfVersion package → Undone w package st.1)
    (harmless : ∀ prev, (w.database.mountsOf package).latest = some prev → Harmless prev [] st.2) :
    UndoneUnlessLost w package st where
  only := by
    rintro - ⟨prev, latest, request, failed, loses⟩
    exact (harmless prev latest).forall_mem (List.forall_mem_nil _) request failed loses
  undone _ alone := undone alone

theorem of_lost (latest : (w.database.mountsOf package).latest = some prev)
    (lost : ∃ request ∈ st.2, LosesActive prev request) (notUndone : ¬ Undone w package st.1) :
    UndoneUnlessLost w package st where
  only undone := absurd undone notUndone
  undone notLost := absurd ⟨prev, latest, lost⟩ notLost

end UndoneUnlessLost

section Stages

variable {st st' : World × List Call} {result : Except String Unit}

/-- What the preparation of an installation leaves. -/
theorem runs_prepareInstall {prepared : Except String InstallPlan}
    (named : ∀ apex, openAt w.fs packagePath = .ok apex → apex.manifest.name = package)
    (run : Runs logged (prepareInstall env packagePath force) (w, []) prepared st) :
    Undisturbed package w st.1 ∧ Logged (Peripheral (VerifiedAt package)) [] st.2 ∧
      ∀ plan, prepared = .ok plan → Prepared w packagePath package plan := by
  have holds : wp logged Anything (prepareInstall env packagePath force) (fun prepared st =>
      Undisturbed package w st.1 ∧ Logged (Peripheral (VerifiedAt package)) [] st.2 ∧
        ∀ plan, prepared = .ok plan → Prepared w packagePath package plan) (w, []) := by
    refine wp_logged_prepareInstall named ?_ ?_
    · intro e w₁ log₁ undisturbed isLogged
      refine ⟨undisturbed, isLogged, fun plan isOk => ?_⟩
      cases isOk
    · intro plan w₁ log₁ prepared undisturbed isLogged
      refine ⟨undisturbed, isLogged, ?_⟩
      intro plan' isOk
      cases isOk
      exact prepared
  exact wp_runs holds run

theorem runs_tellInit {sysprop apexName ready : String}
    (run : Runs logged (tellInit sysprop apexName ready) st result st') :
    st'.1 = st.1 ∧ Harmless prev st.2 st'.2 :=
  wp_runs wp_logged_tellInit run

/-- The unmount of the previous version, once the installation is prepared. -/
inductive UnmountedPrevious (w : World) (package : String) (prev : MountedApexData)
    (target : FilePath) (log : List Call) : Except String Unit → World × List Call → Prop
  | kept {e : String} {log' : List Call} (harmless : Harmless prev log log') :
      UnmountedPrevious w package prev target log (.error e) (w, log')
  | vacated {w' : World} (fs : w'.fs = w.fs) (replacing : Replacing w package prev target none w')
      (free : imagesAt w'.mounts prev.mountPoint = []) :
      UnmountedPrevious w package prev target log (.ok ()) (w', log)
  | lost {result : Except String Unit} {w' : World} {log' : List Call} (fs : w'.fs = w.fs)
      (replacing : Replacing w package prev target none w')
      (mounted : result = .ok () → imagesAt w'.mounts prev.mountPoint = [prev])
      (lost : ∃ request ∈ log', LosesActive prev request) :
      UnmountedPrevious w package prev target log result (w', log')

theorem runs_unmountPrevious {cur : ApexFile} {detach : Bool} (installed : w.Installed package)
    (latest : (w.database.mountsOf package).latest = some prev)
    (opened : openAt w.fs prev.fullPath = .ok cur) (target : FilePath)
    (run : Runs logged (unmountPackage cur true true detach) (w, log) result st) :
    UnmountedPrevious w package prev target log result st := by
  have holds : wp logged Anything (unmountPackage cur true true detach)
      (UnmountedPrevious w package prev target log) (w, log) := by
    refine wp_logged_unmountPrevious installed latest opened target detach ?_ ?_ ?_
    · exact fun e log' harmless => .kept harmless
    · exact fun w' fs replacing free => .vacated fs replacing free
    · exact fun result w' log' fs replacing mounted lost => .lost fs replacing mounted lost
  exact wp_runs holds run

/-- A new version that was not activated. -/
inductive NotActivated (w : World) (package : String) (prev : MountedApexData) (target : FilePath)
    (before : World) (log : List Call) : World × List Call → Prop
  | unmounted {w' : World} {log' : List Call} (replacing : Replacing w package prev target none w')
      (images : imagesAt w'.mounts prev.mountPoint = imagesAt before.mounts prev.mountPoint)
      (harmless : Harmless prev log log') : NotActivated w package prev target before log (w', log')
  | unbound {data : MountedApexData} {w' : World} {log' : List Call}
      (replacing : Replacing w package prev target (some data) w')
      (lost : ∃ request ∈ log', LosesActive prev request) :
      NotActivated w package prev target before log (w', log')

theorem runs_linkAndActivate {e : String} (installed : w.Installed package)
    (latest : (w.database.mountsOf package).latest = some prev)
    (isPrev : w.fs.file prev.fullPath ≠ none) (fs : w₁.fs = w.fs)
    (replacing : Replacing w package prev plan.targetFile none w₁)
    (opened : openAt w.fs packagePath = .ok plan.tempApex)
    (named : plan.tempApex.manifest.name = package)
    (run : Runs logged (linkAndActivate env.toEnvironment packagePath plan) (w₁, log) (.error e) st) :
    NotActivated w package prev plan.targetFile w₁ log st := by
  have holds : wp logged Anything (linkAndActivate env.toEnvironment packagePath plan)
      (fun result st => (∃ apex, result = .ok apex) ∨
        NotActivated w package prev plan.targetFile w₁ log st) (w₁, log) := by
    refine wp_logged_linkAndActivate installed (latest_mem latest) isPrev fs replacing opened named
      ?_ ?_ ?_
    · exact fun apex st => .inl ⟨apex, rfl⟩
    · exact fun e w' log' replacing images harmless => .inr (.unmounted replacing images harmless)
    · exact fun e data w' log' replacing lost => .inr (.unbound replacing lost)
  rcases wp_runs holds run with ⟨apex, impossible⟩ | notActivated
  · cases impossible
  · exact notActivated

/-- The new file is removed. -/
theorem runs_unlink {target : FilePath} {added : Option MountedApexData}
    (replacing : Replacing w package prev target added w₁)
    (run : Runs logged (unlink target).ignore (w₁, log) result st) :
    Replacing w package prev target added st.1 ∧ st.1.fs.file target = none ∧
      st.1.mounts = w₁.mounts ∧ Harmless prev log st.2 := by
  have holds : wp logged Anything (unlink target).ignore (fun _ st =>
      Replacing w package prev target added st.1 ∧ st.1.fs.file target = none ∧
        st.1.mounts = w₁.mounts ∧ Harmless prev log st.2) (w₁, log) := by
    refine wp_logged_unlink_ignore fun w' log' files database mounts isLogged => ?_
    refine ⟨⟨fun path outside ne => ?_, fun data => ?_, replacing.new⟩, ?_, mounts, ?_⟩
    · rw [files, Function.update_of_ne ne]
      exact replacing.files path outside ne
    · rw [database]
      exact replacing.entries data
    · rw [files, Function.update_self]
    · exact isLogged.mono fun _ same => same ▸ id
  exact wp_runs holds run

end Stages

section Failed

variable {st st₃ st₄ st₅ st₆ : World × List Call} {e : String} {result : Except String Unit}

/-- A failed installation whose failure is that of the unmount. -/
theorem undoneUnlessLost_of_unmount {cur : ApexFile} {detach : Bool}
    (installed : w.Installed package) (latest : (w.database.mountsOf package).latest = some prev)
    (opened : openAt w.fs prev.fullPath = .ok cur) (target : FilePath)
    (before : Harmless prev [] log)
    (run : Runs logged (unmountPackage cur true true detach) (w, log) (.error e) st₃)
    (same : st.1 = st₃.1) (after : Harmless prev st₃.2 st.2) : UndoneUnlessLost w package st := by
  cases runs_unmountPrevious installed latest opened target run with
  | kept harmless =>
    refine .of_undone (fun _ => ?_) fun prev' latest' => ?_
    · rw [same]
      exact installed.undone_self
    · cases latest.symm.trans latest'
      exact (before.trans harmless).trans after
  | lost fs replacing mounted lost =>
    obtain ⟨request, failed, loses⟩ := lost
    refine .of_lost latest ⟨request, after.mem failed, loses⟩ ?_
    rw [same]
    exact replacing.not_undone installed latest (.inr rfl)

/-- A failed installation whose failure is later. -/
theorem undoneUnlessLost_of_guard (installed : w.Installed package)
    (latest : (w.database.mountsOf package).latest = some plan.curMountedData)
    (opened : openAt w.fs plan.curMountedData.fullPath = .ok plan.curApex)
    (openedNew : openAt w.fs packagePath = .ok plan.tempApex)
    (named : plan.tempApex.manifest.name = package)
    (before : Harmless plan.curMountedData [] log)
    (unmounted : Runs logged (unmountPackage plan.curApex true true force) (w, log) (.ok ()) st₃)
    (run : Runs logged (linkAndActivate env.toEnvironment packagePath plan) st₃ (.error e) st₄)
    (unlinked : Runs logged (unlink plan.targetFile).ignore st₄ (.ok ()) st₅)
    (guard : Runs logged
      (activatePackageImpl env.toEnvironment plan.curApex plan.oldNewId false) st₅ result st₆)
    (isRemounted : RemountsIfFree plan.curApex st₅.1 result)
    (same : st.1 = st₆.1) (after : Harmless plan.curMountedData st₆.2 st.2) :
    UndoneUnlessLost w package st := by
  have isPrev := (openAt_eq_ok_iff.mp opened).1
  have isPrev : w.fs.file plan.curMountedData.fullPath ≠ none := by rw [isPrev]; nofun
  have recorded := previous_recorded installed latest opened
  have unmounting := runs_unmountPrevious installed latest opened plan.targetFile unmounted
  -- what comes after a failed activation of the new version
  have guarded {added : Option MountedApexData} {w₄ : World} {log₄ : List Call}
      (replacing : Replacing w package plan.curMountedData plan.targetFile added w₄)
      (isSt₄ : st₄ = (w₄, log₄)) :
      Replacing w package plan.curMountedData plan.targetFile added st₅.1 ∧
        st₅.1.fs.file plan.targetFile = none ∧ st₅.1.mounts = w₄.mounts ∧
        Reactivated st₅.1 plan.curApex result st₆.1 ∧ Harmless plan.curMountedData log₄ st.2 := by
    rw [isSt₄] at unlinked
    obtain ⟨replacing₅, gone, mounts, harmless₅⟩ := runs_unlink replacing unlinked
    obtain ⟨reactivated, harmless₆⟩ := wp_runs (wp_logged_activatePrevious installed latest opened
      replacing₅ rfl gone) guard
    exact ⟨replacing₅, gone, mounts, reactivated, (harmless₅.trans harmless₆).trans after⟩
  have activating (w₃ : World) (log₃ : List Call) (isSt₃ : st₃ = (w₃, log₃)) (fs : w₃.fs = w.fs)
      (replacing : Replacing w package plan.curMountedData plan.targetFile none w₃) :
      NotActivated w package plan.curMountedData plan.targetFile w₃ log₃ st₄ :=
    runs_linkAndActivate installed latest isPrev fs replacing openedNew named (isSt₃ ▸ run)
  -- an entry of the new version stays
  have ofUnbound {data : MountedApexData} {w₄ : World} {log₄ : List Call}
      (replacing : Replacing w package plan.curMountedData plan.targetFile (some data) w₄)
      (lost : ∃ request ∈ log₄, LosesActive plan.curMountedData request)
      (isSt₄ : st₄ = (w₄, log₄)) : UndoneUnlessLost w package st := by
    obtain ⟨replacing₅, -, -, reactivated, harmless⟩ := guarded replacing isSt₄
    obtain ⟨request, failed, loses⟩ := lost
    refine .of_lost latest ⟨request, harmless.mem failed, loses⟩ ?_
    rw [same]
    refine reactivated.not_undone_of_added installed latest opened replacing₅ rfl fun isPrevious => ?_
    exact isPrev (isPrevious ▸ (replacing.new data rfl).2.2)
  cases unmounting with
  | @vacated w₃ fs replacing free =>
    cases activating w₃ log rfl fs replacing with
    | @unmounted w₄ log₄ replacing₄ images harmless₄ =>
      obtain ⟨replacing₅, gone, mounts, reactivated, harmless⟩ := guarded replacing₄ rfl
      have isFree : visibleAt st₅.1.mounts (getPackageMountPoint plan.curApex.manifest) = none := by
        rw [← recorded.2, visibleAt_eq_head?, mounts, images, free]
        rfl
      rw [isRemounted isFree] at reactivated
      refine .of_undone (fun alone => ?_) fun prev' latest' => ?_
      · rw [same]
        exact reactivated.undone installed latest opened replacing₅ alone rfl gone
      · cases latest.symm.trans latest'
        exact (before.trans harmless₄).trans harmless
    | unbound replacing₄ lost => exact ofUnbound replacing₄ lost rfl
  | @lost _ w₃ log₃ fs replacing mounted lost =>
    cases activating w₃ log₃ rfl fs replacing with
    | @unmounted w₄ log₄ replacing₄ images harmless₄ =>
      obtain ⟨replacing₅, -, mounts, reactivated, harmless⟩ := guarded replacing₄ rfl
      obtain ⟨request, failed, loses⟩ := lost
      refine .of_lost latest ⟨request, harmless.mem (harmless₄.mem failed), loses⟩ ?_
      rw [same]
      refine reactivated.not_undone_of_mounted installed latest opened replacing₅ ?_ (.inr rfl)
      rw [mounts, images, mounted rfl]
    | unbound replacing₄ lost => exact ofUnbound replacing₄ lost rfl

theorem UndoneUnlessLost.of_undisturbed (installed : w.Installed package)
    (undisturbed : Undisturbed package w w₁) (unlessLost : UndoneUnlessLost w₁ package st) :
    UndoneUnlessLost w package st := by
  have same := installed.settled.mountsOf_eq undisturbed
  obtain ⟨only, undone⟩ := unlessLost
  rw [undone_iff_of_undisturbed installed undisturbed] at only undone
  rw [LostActive, same] at only undone
  rw [World.OneOfVersion, same] at undone
  exact ⟨only, undone⟩

/-- A failed installation is undone exactly if no failure loses the previous version, where that
version is the only one of its number; a failure that loses it is never undone. -/
theorem installPackage_undone_iff (installed : w.Installed package)
    (outside : packagePath.dir ≠ .hashTree)
    (named : ∀ apex, openAt w.fs packagePath = .ok apex → apex.manifest.name = package)
    (failed : FailedInstall env packagePath force RemountsIfFree w e st) :
    (w.OneOfVersion package → (Undone w package st.1 ↔ ¬ LostActive w package st.2)) ∧
      (LostActive w package st.2 → ¬ Undone w package st.1) := by
  suffices unlessLost : UndoneUnlessLost w package st from
    ⟨fun alone => ⟨unlessLost.only, fun notLost => unlessLost.undone notLost alone⟩,
      fun lost undone => unlessLost.only undone lost⟩
  have harmless {log' : List Call} (isLogged : Logged (Peripheral (VerifiedAt package)) [] log')
      {prev : MountedApexData} (latest : (w.database.mountsOf package).latest = some prev) :
      Harmless prev [] log' := isLogged.mono fun request isPeripheral =>
    not_losesActive_of_peripheral installed.settled (latest_mem latest) isPeripheral
  -- once the installation is prepared, the package is installed as before
  have prepared {plan : InstallPlan} {st₁ : World × List Call}
      (run : Runs logged (prepareInstall env packagePath force) (w, []) (.ok plan) st₁) :
      Undisturbed package w st₁.1 ∧ Harmless plan.curMountedData [] st₁.2 ∧
        Prepared w packagePath package plan := by
    obtain ⟨undisturbed, isLogged, isPrepared⟩ := runs_prepareInstall named run
    exact ⟨undisturbed, harmless isLogged (isPrepared plan rfl).latest, isPrepared plan rfl⟩
  have reopened {plan : InstallPlan} {w₂ : World} (isPrepared : Prepared w packagePath package plan)
      (undisturbed : Undisturbed package w w₂) :
      (w₂.database.mountsOf package).latest = some plan.curMountedData ∧
        openAt w₂.fs plan.curMountedData.fullPath = .ok plan.curApex ∧
        openAt w₂.fs packagePath = .ok plan.tempApex := by
    have recorded := installed.settled.recorded _ (latest_mem isPrepared.latest)
    rw [installed.settled.mountsOf_eq undisturbed, undisturbed.openAt_eq recorded.outside,
      undisturbed.openAt_eq outside]
    exact ⟨isPrepared.latest, isPrepared.current, isPrepared.opened⟩
  cases failed with
  | prepare run =>
    obtain ⟨undisturbed, isLogged, -⟩ := runs_prepareInstall named run
    refine .of_undone (fun _ => ?_) fun prev latest => harmless isLogged latest
    exact (undone_iff_of_undisturbed installed undisturbed).mp
      (installed.of_undisturbed undisturbed).undone_self
  | unload isPlan run =>
    obtain ⟨undisturbed, before, isPrepared⟩ := prepared isPlan
    obtain ⟨same, after⟩ := runs_tellInit run
    refine .of_undone (fun _ => ?_) fun prev latest => ?_
    · rw [same]
      exact (undone_iff_of_undisturbed installed undisturbed).mp
        (installed.of_undisturbed undisturbed).undone_self
    · cases isPrepared.latest.symm.trans latest
      exact before.trans after
  | @unmount plan _ st₁ st₂ st₃ _ isPlan unloaded run loaded =>
    obtain ⟨undisturbed, before, isPrepared⟩ := prepared isPlan
    obtain ⟨w₂, log₂⟩ := st₂
    obtain ⟨same, unloading⟩ := runs_tellInit unloaded
    obtain ⟨-, _, loading⟩ := runs_ignore.mp loaded
    obtain ⟨same', after⟩ := runs_tellInit loading
    obtain rfl : w₂ = st₁.1 := same
    obtain ⟨latest, opened, -⟩ := reopened isPrepared undisturbed
    exact .of_undisturbed installed undisturbed (undoneUnlessLost_of_unmount
      (installed.of_undisturbed undisturbed) latest opened plan.targetFile
      (before.trans unloading) run same' after)
  | @install plan _ st₁ st₂ st₃ st₄ st₅ st₆ _ _ isPlan unloaded unmounted run unlinked guard
      isRemounted loaded =>
    obtain ⟨undisturbed, before, isPrepared⟩ := prepared isPlan
    obtain ⟨w₂, log₂⟩ := st₂
    obtain ⟨same, unloading⟩ := runs_tellInit unloaded
    obtain ⟨-, _, loading⟩ := runs_ignore.mp loaded
    obtain ⟨same', after⟩ := runs_tellInit loading
    obtain rfl : w₂ = st₁.1 := same
    obtain ⟨latest, opened, openedNew⟩ := reopened isPrepared undisturbed
    exact .of_undisturbed installed undisturbed (undoneUnlessLost_of_guard
      (installed.of_undisturbed undisturbed) latest opened openedNew isPrepared.named
      (before.trans unloading) unmounted run unlinked guard isRemounted same' after)

end Failed

/-! ## Two failed installations -/

/-- Evaluate an installation that fails when the previous version is unmounted or later. -/
def execFailedInstall (handler : Handler apexd String (World × List Call)) (env : InstallEnvironment)
    (packagePath : FilePath) (force : Bool) (w : World) : Option (String × World × List Call) := do
  let (.ok plan, st₁) ← exec handler (prepareInstall env packagePath force) (w, []) | none
  let (.ok _, st₂) ← exec handler (unloadApexFromInit plan.moduleName) st₁ | none
  match ← exec handler (unmountPackage plan.curApex true true force) st₂ with
  | (.error e, st₃) =>
    let (.ok _, st) ← exec handler (loadApexFromInit plan.moduleName).ignore st₃ | none
    some (e, st)
  | (.ok _, st₃) =>
    let (.error e, st₄) ← exec handler (linkAndActivate env.toEnvironment packagePath plan) st₃ | none
    let (.ok _, st₅) ← exec handler (unlink plan.targetFile).ignore st₄ | none
    let (.ok _, st₆) ← exec handler
      (activatePackageImpl env.toEnvironment plan.curApex plan.oldNewId false) st₅ | none
    let (.ok _, st) ← exec handler (loadApexFromInit plan.moduleName).ignore st₆ | none
    some (e, st)

theorem failedInstall_of_exec {handler : Handler apexd String (World × List Call)}
    (sound : handler.Sound logged) {e : String} {st : World × List Call}
    (computed : execFailedInstall handler env packagePath force w = some (e, st)) :
    FailedInstall env packagePath force RemountsIfFree w e st := by
  unfold execFailedInstall at computed
  obtain ⟨⟨prepared, st₁⟩, isPrepared, computed⟩ := Option.bind_eq_some_iff.mp computed
  cases prepared with
  | error e => cases computed
  | ok plan =>
    obtain ⟨⟨unloading, st₂⟩, isUnloaded, computed⟩ := Option.bind_eq_some_iff.mp computed
    cases unloading with
    | error e => cases computed
    | ok _ =>
      obtain ⟨⟨unmounting, st₃⟩, isUnmounted, computed⟩ := Option.bind_eq_some_iff.mp computed
      cases unmounting with
      | error e =>
        obtain ⟨⟨loading, st'⟩, isLoaded, computed⟩ := Option.bind_eq_some_iff.mp computed
        cases loading with
        | error e => cases computed
        | ok _ =>
          cases computed
          exact .unmount (exec_runs sound isPrepared) (exec_runs sound isUnloaded)
            (exec_runs sound isUnmounted) (exec_runs sound isLoaded)
      | ok _ =>
        obtain ⟨⟨activating, st₄⟩, isActivated, computed⟩ := Option.bind_eq_some_iff.mp computed
        cases activating with
        | ok _ => cases computed
        | error e =>
          obtain ⟨⟨unlinking, st₅⟩, isUnlinked, computed⟩ := Option.bind_eq_some_iff.mp computed
          cases unlinking with
          | error e => cases computed
          | ok _ =>
            obtain ⟨⟨guarding, st₆⟩, isGuarded, computed⟩ := Option.bind_eq_some_iff.mp computed
            cases guarding with
            | error e => cases computed
            | ok _ =>
              obtain ⟨⟨loading, st'⟩, isLoaded, computed⟩ := Option.bind_eq_some_iff.mp computed
              cases loading with
              | error e => cases computed
              | ok _ =>
                cases computed
                exact .install (exec_runs sound isPrepared) (exec_runs sound isUnloaded)
                  (exec_runs sound isUnmounted) (exec_runs sound isActivated)
                  (exec_runs sound isUnlinked) (exec_runs sound isGuarded) (fun _ => rfl)
                  (exec_runs sound isLoaded)

/-- Version 1 of a package, mounted and bound, and version 2 of it outside of the active directory. -/
def fooOne : MountedApexData where
  version := 1
  loopName := "/dev/block/loop90"
  fullPath := ⟨.active, "foo@1.apex"⟩
  mountPoint := "/apex/foo@1"
  deviceName := "foo@1"
  hashtreeLoopName := ""
  deleted := false
  isTempMount := false

def fooTwo : FilePath := ⟨.other "/data/local/tmp", "foo.apex"⟩

def withFooOne : World :=
  { World.ofDirectories [(.active, [("foo@1.apex", .apex (.plain "foo" 1 0))]),
      (fooTwo.dir, [(fooTwo.name, .apex (.plain "foo" 2 1))])] with
    database := (∅ : MountedApexDatabase).insert "foo" ⟨[fooOne], List.pairwise_singleton _ _⟩
    mounts := [⟨"/apex/foo", fooOne⟩, ⟨"/apex/foo@1", fooOne⟩]
    devices := ["foo@1"] }

/-- An environment in which every archive has a hash tree. -/
def installsFoo : InstallEnvironment :=
  { Environment.plain (.ofPackages ["foo"]) with
    verifyApexVerity := fun _ _ => .ok 4096
    parseUint := fun _ => none
    subdirs := fun _ => .ok [] }

theorem entries_withFooOne : (withFooOne.database.mountsOf "foo").entries = [fooOne] := by
  rw [withFooOne, MountedApexDatabase.mountsOf_insert, if_pos rfl]

theorem openAt_fooOne : openAt withFooOne.fs fooOne.fullPath =
    .ok ⟨fooOne.fullPath, .plain "foo" 1 0⟩ := by
  decide +kernel

theorem installed_withFooOne : withFooOne.Installed "foo" := by
  refine ⟨⟨?_, ?_⟩, ?_, ?_⟩
  · rw [entries_withFooOne, List.forall_mem_singleton]
    exact ⟨rfl, by decide, ⟨_, openAt_fooOne, rfl, by decide, by decide⟩, by decide⟩
  · rw [entries_withFooOne, List.forall_mem_singleton, List.forall_mem_singleton]
    exact fun _ => rfl
  · intro data latest _ _ _
    rw [MountedSet.latest, entries_withFooOne] at latest
    cases latest
    decide
  · rw [entries_withFooOne, List.forall_mem_singleton]
    intro name same
    have names : "foo@1.apex" = name := String.append_right_inj _ |>.mp same
    rw [← names]
    rfl

def isLinkCall : Call → Bool
  | .fs (.link _ _) => true
  | _ => false

def isFsCall : Call → Bool
  | .fs _ => true
  | _ => false

def isUmountOf (mountPoint : String) : Call → Bool
  | .kernel (.umount target _) => target = mountPoint
  | _ => false

/-- The link of the new file fails: the previous version is mounted again. -/
theorem installPackage_undone_iff_noLink : ∃ e st,
    FailedInstall installsFoo fooTwo false RemountsIfFree withFooOne e st ∧
      Undone withFooOne "foo" st.1 := by
  have sound : (deviceHandler.logging (fun request _ => isLinkCall request)
      "No space left on device").Sound logged :=
    Handler.logging_sound deviceHandler_sound (fun request w chosen => by
      cases request with
      | fs request => cases request <;> trivial
      | _ => cases chosen) _
  obtain ⟨⟨e, st⟩, computed, onlyFiles⟩ := (Option.any_eq_true
    (fun found : String × World × List Call => found.2.2.all isFsCall)
    (execFailedInstall (deviceHandler.logging (fun request _ => isLinkCall request)
      "No space left on device") installsFoo fooTwo false withFooOne)).mp (by decide +kernel)
  have failed := failedInstall_of_exec sound computed
  have alone : withFooOne.OneOfVersion "foo" := by
    intro prev latest other member ne
    rw [entries_withFooOne, List.mem_singleton] at member
    rw [MountedSet.latest, entries_withFooOne] at latest
    cases latest
    exact absurd member ne
  have named : ∀ apex, openAt withFooOne.fs fooTwo = .ok apex → apex.manifest.name = "foo" := by
    intro apex opened
    have isTwo : openAt withFooOne.fs fooTwo = .ok ⟨fooTwo, .plain "foo" 2 1⟩ := by decide +kernel
    cases isTwo.symm.trans opened
    rfl
  refine ⟨e, st, failed, ((installPackage_undone_iff installed_withFooOne (by decide) named failed).1
    alone).mpr ?_⟩
  rintro ⟨prev, -, request, member, loses⟩
  have isFile := List.all_eq_true.mp onlyFiles request member
  cases request with
  | fs request => exact loses
  | _ => cases isFile

/-- The mount of the previous version is busy: no version of the package is left active. -/
theorem busy_mount_loses_active : withFooOne.Installed "foo" ∧ ∃ e st,
    FailedInstall installsFoo fooTwo false RemountsIfFree withFooOne e st ∧
      ¬ Undone withFooOne "foo" st.1 := by
  have sound : (deviceHandler.logging (fun request _ => isUmountOf fooOne.mountPoint request)
      "Device or resource busy").Sound logged :=
    Handler.logging_sound deviceHandler_sound (fun request w chosen => by
      cases request with
      | kernel request => trivial
      | _ => cases chosen) _
  obtain ⟨⟨e, st⟩, computed, isNone⟩ := (Option.any_eq_true
    (fun found : String × World × List Call =>
      decide ((found.2.1.database.mountsOf "foo").latest = none))
    (execFailedInstall (deviceHandler.logging (fun request _ => isUmountOf fooOne.mountPoint request)
      "Device or resource busy") installsFoo fooTwo false withFooOne)).mp (by decide +kernel)
  refine ⟨installed_withFooOne, e, st, failedInstall_of_exec sound computed, fun undone => ?_⟩
  have latest : (withFooOne.database.mountsOf "foo").latest = some fooOne := by
    rw [MountedSet.latest, entries_withFooOne]
    rfl
  obtain ⟨data, isLatest, -⟩ := undone.latest fooOne latest
  cases (of_decide_eq_true isNone).symm.trans isLatest

end Apexd
