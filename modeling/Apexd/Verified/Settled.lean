import Apexd.Verified.Calls
import Apexd.Verified.LatestMount
import Apexd.Verified.MountTable

/-! # Packages with settled mounts

Every entry of a settled package is as `MountPackage` recorded it: its file is an APEX of the
package, and it alone is mounted at the mount point of its version.  The steps of an activation
and of an unmount, each with what it leaves and with the calls that failed.
-/

namespace Apexd

open Process Storage

/-- Every operation may fail but those of the database and the removal of a file; a bind mount
only where it is made. -/
def Breakable : Call → World → Prop
  | .fs (.unlink _), _ => False
  | .database (.bindMountIfLatest package fullPath _ _), w =>
    w.database.doIfLatest package fullPath = some true
  | .database _, _ | .fatal, _ => False
  | _, _ => True

/-- The device on which they do, with a log of the calls that failed. -/
abbrev logged : Semantics apexd String (World × List Call) :=
  device.withLog Breakable

/-- An entry as it was recorded when the APEX was mounted. -/
structure World.Recorded (w : World) (package : String) (data : MountedApexData) : Prop where
  notTemp : data.isTempMount = false
  outside : data.fullPath.dir ≠ .hashTree
  file : ∃ apex, openAt w.fs data.fullPath = .ok apex ∧ apex.manifest.name = package ∧
    data.version = apex.manifest.version.toInt32 ∧
    data.mountPoint = getPackageMountPoint apex.manifest
  mounted : imagesAt w.mounts data.mountPoint = [data]

structure World.Settled (w : World) (package : String) : Prop where
  recorded : ∀ data ∈ (w.database.mountsOf package).entries, w.Recorded package data
  /-- two mounts of the package are never of the same file -/
  distinct : ∀ data ∈ (w.database.mountsOf package).entries,
    ∀ other ∈ (w.database.mountsOf package).entries,
      pathText data.fullPath = pathText other.fullPath → data = other

/-- Active means bound: the latest mount is the one at the mount point of the package. -/
def World.Bound (w : World) (package : String) : Prop :=
  ∀ data, (w.database.mountsOf package).latest = some data →
    ∀ apex, openAt w.fs data.fullPath = .ok apex → apex.manifest.provideSharedApexLibs = false →
      visibleAt w.mounts (kApexRoot ++ "/" ++ package) = some data

variable {w w' : World} {package : String} {data : MountedApexData} {env : Environment}
  {apex : ApexFile} {log log' : List Call}

/-! ## Reading -/

/-- Opening a file, which may fail. -/
theorem wp_logged_open {path : FilePath} {Q : Except String ApexFile → World × List Call → Prop}
    (opened : ∀ apex, openAt w.fs path = .ok apex → Q (.ok apex) (w, log))
    (failed : ∀ e log', Logged (· = .fs (.read path)) log log' → Q (.error e) (w, log')) :
    wp logged Anything (ApexFile.open path) Q (w, log) := by
  rw [ApexFile.open, wp_bind, orErrno, wp_mapError]
  refine wp_withLog (fun content w' answer => ⟨trivial, ?_⟩) fun e w' answer => ⟨trivial, ?_⟩
  · obtain ⟨fs', answered, rfl⟩ := answer
    cases found : w.fs.file path with
    | none => simp [FsCall.Answers, FsCall.effect, found] at answered
    | some content' =>
      simp only [FsCall.Answers, FsCall.effect, found, Prod.mk.injEq, Except.ok.injEq] at answered
      obtain ⟨rfl, rfl⟩ := answered
      change wp logged Anything (.ofExcept (ApexFile.openContent path content)) Q (w, log)
      rw [wp_ofExcept]
      have same : openAt w.fs path = ApexFile.openContent path content := by rw [openAt, found]
      cases result : ApexFile.openContent path content with
      | ok apex => exact opened apex (same.trans result)
      | error e => exact failed e log (.refl _ _)
  · have unchanged : w' = w := by
      rcases answer with ⟨fs', answered, rfl⟩ | ⟨_, same⟩
      · cases found : w.fs.file path with
        | none =>
          simp only [FsCall.Answers, FsCall.effect, found, Prod.mk.injEq] at answered
          rw [answered.2]
        | some content' => simp [FsCall.Answers, FsCall.effect, found] at answered
      · exact same
    rw [unchanged]
    exact failed _ _ (.single rfl)

theorem wp_logged_forallMountedApexesOf {matchTempMounts : Bool}
    {Q : Except String (List (MountedApexData × Bool)) → World × List Call → Prop}
    (post : Q (.ok (w.database.forallMountedApexesOf package matchTempMounts)) (w, log)) :
    wp logged Anything (forallMountedApexesOf package matchTempMounts) Q (w, log) := by
  refine wp_withLog (fun visits w' answer => ⟨trivial, ?_⟩) fun e w' answer => ?_
  · cases answer
    exact post
  · rcases answer with answer | ⟨impossible, _⟩
    · cases answer
    · exact impossible.elim

/-- The version that was found is that of one of the mounts. -/
structure FoundAmong (w : World) (manifest : ApexManifest)
    (mounts : List (MountedApexData × Bool)) (found : VersionFound) : Prop where
  activeMounted : found.active = true → found.mounted = true
  mounted : found.mounted = true → ∃ mount ∈ mounts, (found.active = true → mount.2 = true) ∧
    ∃ other, openAt w.fs mount.1.fullPath = .ok other ∧ other.manifest.version = manifest.version

theorem wp_logged_findVersions {manifest : ApexManifest} {mounts : List (MountedApexData × Bool)}
    {Q : Except String VersionFound → World × List Call → Prop}
    (post : ∀ found log', FoundAmong w manifest mounts found →
      Logged (∃ mount ∈ mounts, · = .fs (.read mount.1.fullPath)) log log' → Q (.ok found) (w, log')) :
    wp logged Anything (Program.fold (findVersion manifest) .none mounts) Q (w, log) := by
  refine wp_fold (fun before found st => st.1 = w ∧ FoundAmong w manifest mounts found ∧
    Logged (∃ mount ∈ mounts, · = .fs (.read mount.1.fullPath)) log st.2)
    ⟨rfl, ⟨nofun, nofun⟩, .refl _ _⟩ ?_ ?_
  · rintro before mount after found ⟨_, log₁⟩ split ⟨rfl, isFound, reads⟩
    have member : mount ∈ mounts := by simp [split]
    rw [findVersion, wp_bind, wp_attempt]
    refine wp_logged_open (fun other opened => ?_) fun e log₂ read => ?_
    · dsimp only
      split
      · rename_i sameVersion
        exact ⟨rfl, ⟨fun _ => rfl, fun _ => ⟨mount, member, id, other, opened, sameVersion⟩⟩, reads⟩
      · exact ⟨rfl, isFound, reads⟩
    · exact ⟨rfl, isFound, reads.trans (read.mono fun _ same => ⟨mount, member, same⟩)⟩
  · rintro found ⟨_, log₁⟩ ⟨rfl, isFound, reads⟩
    exact post found log₁ isFound reads

/-! ## Mounting -/

/-- The device after an APEX was mounted at the mount point of its version and recorded. -/
structure MountedAs (w : World) (apex : ApexFile) (data : MountedApexData) (w' : World) : Prop where
  fs : w'.fs = w.fs
  fullPath : data.fullPath = apex.path
  version : data.version = apex.manifest.version.toInt32
  mountPoint : data.mountPoint = getPackageMountPoint apex.manifest
  notTemp : data.isTempMount = false
  free : imagesAt w.mounts data.mountPoint = []
  images : ∀ target, imagesAt w'.mounts target =
    if data.mountPoint = target then [data] else imagesAt w.mounts target
  added : ∃ set, (w.database.mountsOf apex.manifest.name).emplace data = some set ∧
    ∀ other, w'.database.mountsOf other =
      if other = apex.manifest.name then set else w.database.mountsOf other

/-- The call that mounts an APEX where it belongs. -/
def MountsAtItsPlace (apex : ApexFile) : Call → Prop
  | .kernel (.mountImage request) => request.apex = apex ∧ request.tempMount = false ∧
    request.mountPoint = getPackageMountPoint apex.manifest
  | _ => False

theorem wp_logged_mountAtItsPlace {deviceName : String} {reuseDevice : Bool}
    {Q : Except String Unit → World × List Call → Prop}
    (mounted : ∀ data w', MountedAs w apex data w' → Q (.ok ()) (w', log))
    (failed : ∀ e log', Logged (MountsAtItsPlace apex) log log' → Q (.error e) (w, log')) :
    wp logged Anything (mountAtItsPlace env apex deviceName reuseDevice) Q (w, log) := by
  rw [mountAtItsPlace, mountPackage, wp_bind]
  unfold mountPackageImpl
  split
  · exact failed _ _ (.refl _ _)
  · rw [wp_bind, wp_ofExcept]
    cases env.repository.getPublicKey apex.manifest.name with
    | error e => exact failed _ _ (.refl _ _)
    | ok publicKey =>
      dsimp only
      rw [wp_bind, wp_mapError, wp_ofExcept]
      cases env.verifyApexVerity apex.archive publicKey with
      | error e => exact failed _ _ (.refl _ _)
      | ok treeSize =>
        refine wp_withLog (fun data w₁ answer => ⟨trivial, ?_⟩) fun e w₁ answer => ⟨trivial, ?_⟩
        · have answered : KernelCall.Answers (.mountImage _) w (.ok data) w₁ := answer
          simp only [KernelCall.Answers] at answered
          split at answered
          · cases answered.1
          · rename_i noError
            obtain ⟨loopName, hashtreeLoopName, _, same, rfl⟩ := answered
            cases same
            have free : imagesAt w.mounts (getPackageMountPoint apex.manifest) = [] := by
              simp only [World.mountError] at noError
              split at noError
              · cases noError
              · rename_i empty
                rw [visibleAt_eq_head?, Bool.not_eq_true, Option.isSome_eq_false_iff,
                  Option.isNone_iff_eq_none] at empty
                exact List.head?_eq_none_iff.mp empty
            refine wp_withLog (fun _ w₂ answer => ⟨trivial, ?_⟩) fun e w₂ answer => ?_
            · obtain ⟨added, isAdded, same⟩ := Option.map_eq_some_iff.mp answer
              cases same
              obtain ⟨set, emplaced, _⟩ :=
                OnlyTempsOf.mountsOf_of_addMountedApex isAdded apex.manifest.name
              refine mounted _ _ ⟨rfl, rfl, rfl, rfl, rfl, free, fun target => ?_, set, emplaced,
                fun other => ?_⟩
              · simp only [World.withImage, imagesAt_cons, MountRequest.data]
                split
                · rename_i same
                  rw [← same, free]
                · rfl
              · obtain ⟨set', emplaced', mounts⟩ := OnlyTempsOf.mountsOf_of_addMountedApex isAdded other
                rw [mounts, Option.some.inj (emplaced'.symm.trans emplaced)]
                rfl
            · rcases answer with answer | ⟨impossible, _⟩
              · obtain ⟨_, _, same⟩ := Option.map_eq_some_iff.mp answer
                cases same
              · exact impossible.elim
        · have unchanged : w₁ = w := by
            rcases answer with answer | ⟨_, same⟩
            · have answered : KernelCall.Answers (.mountImage _) w (.error e) w₁ := answer
              simp only [KernelCall.Answers] at answered
              split at answered
              · exact answered.2
              · obtain ⟨_, _, _, same, _⟩ := answered
                cases same
            · exact same
          rw [unchanged]
          exact failed _ _ (.single ⟨rfl, rfl, rfl⟩)

/-- The bind mount that makes an APEX the active one. -/
def bindCall (apex : ApexFile) : Call :=
  .database (.bindMountIfLatest apex.manifest.name apex.path (getActiveMountPoint apex.manifest)
    (getPackageMountPoint apex.manifest))

/-- The device after an image was bind mounted. -/
def World.bindAt (w : World) (target : String) (image : MountedApexData) : World :=
  { w with mounts := ⟨target, image⟩ :: unmountTop w.mounts target }

theorem wp_logged_bindLatest {Q : Except String Unit → World × List Call → Prop}
    (older : w.database.doIfLatest apex.manifest.name apex.path = some false → Q (.ok ()) (w, log))
    (bound : w.database.doIfLatest apex.manifest.name apex.path = some true → ∀ image,
      visibleAt w.mounts (getPackageMountPoint apex.manifest) = some image →
      Q (.ok ()) (w.bindAt (getActiveMountPoint apex.manifest) image, log))
    (failed : w.database.doIfLatest apex.manifest.name apex.path = some true → ∀ e,
      Q (.error e) (w, log ++ [bindCall apex])) :
    wp logged Anything (bindLatest apex) Q (w, log) := by
  rw [bindLatest, wp_mapError]
  refine wp_withLog (fun _ w' answer => ⟨trivial, ?_⟩) fun e w' answer => ⟨trivial, ?_⟩
  · simp only [device, DatabaseCall.effect] at answer
    split at answer
    · cases answer
    · rename_i latest
      cases visible : visibleAt w.mounts (getPackageMountPoint apex.manifest) with
      | none => simp [bindMount, visible] at answer
      | some image =>
        rw [bindMount_of_visible visible] at answer
        cases answer
        exact bound latest image visible
    · rename_i notLatest
      cases answer
      exact older notLatest
  · rcases answer with answer | ⟨latest, same⟩
    · simp only [device, DatabaseCall.effect] at answer
      split at answer
      · cases answer
      · rename_i latest
        cases visible : visibleAt w.mounts (getPackageMountPoint apex.manifest) with
        | none =>
          simp only [bindMount, visible, Option.some.injEq, Prod.mk.injEq] at answer
          rw [← answer.2]
          exact failed latest _
        | some image =>
          rw [bindMount_of_visible visible] at answer
          cases answer
      · cases answer
    · rw [same]
      exact failed latest _

/-! ## Verification -/

/-- What the verification of a package leaves alone. -/
structure Undisturbed (package : String) (w w' : World) : Prop where
  files : SameOutside (· = .hashTree) w w'
  mounts : ∀ other, (w.database.mountsOf other).temps = [] →
    w'.database.mountsOf other = w.database.mountsOf other
  images : ∀ target, ¬ VerifiedAt package target →
    imagesAt w'.mounts target = imagesAt w.mounts target

theorem Undisturbed.refl (package : String) (w : World) : Undisturbed package w w :=
  ⟨.refl _ w, fun _ _ => rfl, fun _ _ => rfl⟩

/-- Calls around an installation, and the mount of an APEX at its place. -/
def BeforeBinding (apex : ApexFile) (request : Call) : Prop :=
  Peripheral (VerifiedAt apex.manifest.name) request ∨ MountsAtItsPlace apex request

theorem breakable_covered {P : String → Prop} (request : Call) (w : World)
    (mayFail : Breakable request w) : MayFail request ∨
      (¬ Peripheral P request ∧ ∃ reply w', device request w reply w') := by
  cases request with
  | database request =>
    cases request with
    | bindMountIfLatest package fullPath target source =>
      refine .inr ⟨fun isPeripheral => isPeripheral.2, ?_⟩
      have latest : w.database.doIfLatest package fullPath = some true := mayFail
      simp only [device, DatabaseCall.effect, latest]
      exact ⟨_, _, rfl⟩
    | _ => exact mayFail.elim
  | fatal => exact mayFail.elim
  | _ => exact .inl trivial

/-- Procedures that only add temporary mounts, and take them back, disturb nothing. -/
theorem wp_undisturbed {α : Type} {p : Procedure α} (frames : Frames (· = .hashTree) p)
    (only : ∀ S before, OnlyTempsOf S before w.database →
      wp failing Anything p (fun _ w' => OnlyTempsOf S before w'.database) w)
    (isPeripheral : wp failing (Peripherally (VerifiedAt package)) p (fun _ _ => True) w) :
    wp logged Anything p (fun _ st => Undisturbed package w st.1 ∧
      Logged (Peripheral (VerifiedAt package)) log st.2) (w, log) := by
  let S : Set String := { other | (w.database.mountsOf other).temps ≠ [] }
  have start : OnlyTempsOf S w.database w.database :=
    ⟨fun _ => rfl, fun other notIn => not_not.mp notIn⟩
  have files : wp failing Anything p (fun _ w' => SameOutside (· = .hashTree) w w') w := by
    refine wp_frame frames (SameOutside (· = .hashTree) w) (fun request touches w₁ reply w₂ same answer =>
      ⟨trivial, ?_⟩) (.refl _ w)
    rcases answer with answer | ⟨_, _, rfl⟩
    · exact same.trans (sameOutside_of_touches touches answer)
    · exact same
  have images := wp_invariant (fun w' : World => ∀ target, ¬ VerifiedAt package target →
      imagesAt w'.mounts target = imagesAt w.mounts target)
    (fun request w₁ reply w₂ same isPeripheral answer target outside => by
      rcases answer with answer | ⟨_, _, rfl⟩
      · exact (imagesAt_of_mountsIn isPeripheral.1 answer outside).trans (same target outside)
      · exact same target outside) (fun _ _ => rfl) isPeripheral
  have all := wp_and_anything (wp_and files (only S w.database start)) images
  refine wp_mono (wp_withLog_of_withFaults breakable_covered all) ?_
  rintro result ⟨w', log'⟩ ⟨⟨⟨files, temps⟩, -, images⟩, isLogged⟩
  refine ⟨⟨files, fun other noTemps => ?_, images⟩, isLogged⟩
  have notIn : other ∉ S := fun member => member noTemps
  exact MountedSet.eq_of_reals (temps.temps other notIn) noTemps (temps.reals other)

theorem wp_logged_verifyPackageBoot :
    wp logged Anything (verifyPackageBoot env apex) (fun _ st =>
      Undisturbed apex.manifest.name w st.1 ∧
        Logged (Peripheral (VerifiedAt apex.manifest.name)) log st.2) (w, log) :=
  wp_undisturbed (frames_verifyPackageBoot rfl) (fun _ _ only => wp_verifyPackageBoot only)
    (wp_peripheral_verifyPackageBoot fun _ => id)

/-! ## Activation -/

/-- The last step of an activation. -/
def bindUnlessShared (apex : ApexFile) : Procedure Unit := do
  if !apex.manifest.provideSharedApexLibs then
    bindLatest apex

/-- The version that was found is that of a mount of the package. -/
def FoundMounted (w : World) (apex : ApexFile) (found : VersionFound) : Prop :=
  FoundAmong w apex.manifest (w.database.forallMountedApexesOf apex.manifest.name false) found

theorem peripheral_read {P : String → Prop} {mounts : List (MountedApexData × Bool)} :
    Logged (∃ mount ∈ mounts, · = .fs (.read mount.1.fullPath)) log log' →
      Logged (Peripheral P) log log' :=
  fun reads => reads.mono fun _ ⟨_, _, same⟩ => same ▸ ⟨trivial, trivial⟩

/-- What an activation comes to: an error with nothing disturbed, the version found active or
mounted, or the APEX mounted; where it does not stop there, the bind mount follows. -/
theorem wp_logged_activatePackageImpl {deviceName : String} {reuseDevice : Bool}
    {Q : Except String Unit → World × List Call → Prop}
    (failed : ∀ e w₁ log₁, Undisturbed apex.manifest.name w w₁ →
      Logged (BeforeBinding apex) log log₁ → Q (.error e) (w₁, log₁))
    (active : ∀ w₁ log₁ found, Undisturbed apex.manifest.name w w₁ →
      Logged (BeforeBinding apex) log log₁ → FoundMounted w₁ apex found → found.active = true →
      apex.manifest.provideSharedApexLibs = false → Q (.ok ()) (w₁, log₁))
    (mounted : ∀ w₁ log₁ found, Undisturbed apex.manifest.name w w₁ →
      Logged (BeforeBinding apex) log log₁ → FoundMounted w₁ apex found → found.mounted = true →
      wp logged Anything (bindUnlessShared apex) Q (w₁, log₁))
    (mounts : ∀ w₁ log₁ data w₂, Undisturbed apex.manifest.name w w₁ →
      Logged (BeforeBinding apex) log log₁ → MountedAs w₁ apex data w₂ →
      wp logged Anything (bindUnlessShared apex) Q (w₂, log₁)) :
    wp logged Anything (activatePackageImpl env apex deviceName reuseDevice) Q (w, log) := by
  unfold activatePackageImpl
  dsimp only
  split
  · exact failed _ _ _ (.refl _ _) (.refl _ _)
  · have checked (w₁ : World) (log₁ : List Call) (undisturbed : Undisturbed apex.manifest.name w w₁)
        (before : Logged (BeforeBinding apex) log log₁) : wp logged Anything (do
        let mounts ← forallMountedApexesOf apex.manifest.name false
        let found ← Program.fold (findVersion apex.manifest) .none mounts
        if found.active && !apex.manifest.provideSharedApexLibs then pure ()
        else
          if !found.mounted then
            mountAtItsPlace env apex deviceName reuseDevice
          if !apex.manifest.provideSharedApexLibs then
            bindLatest apex) Q (w₁, log₁) := by
      rw [wp_bind]
      refine wp_logged_forallMountedApexesOf ?_
      dsimp only
      rw [wp_bind]
      refine wp_logged_findVersions fun found log₂ isFound reads => ?_
      have before₂ := before.trans ((peripheral_read reads).mono fun _ => Or.inl)
      dsimp only
      split
      · rename_i isActive
        simp only [Bool.and_eq_true, Bool.not_eq_true'] at isActive
        exact active w₁ log₂ found undisturbed before₂ isFound isActive.1 isActive.2
      · split
        · change wp logged Anything (mountAtItsPlace env apex deviceName reuseDevice >>=
            fun _ => bindUnlessShared apex) Q (w₁, log₂)
          rw [wp_bind]
          refine wp_logged_mountAtItsPlace (fun data w₂ isMounted => ?_) fun e log₃ mountFailed => ?_
          · exact mounts w₁ log₂ data w₂ undisturbed before₂ isMounted
          · exact failed _ _ _ undisturbed (before₂.trans (mountFailed.mono fun _ => Or.inr))
        · rename_i isMounted
          exact mounted w₁ log₂ found undisturbed before₂ isFound (by simpa using isMounted)
    split
    · change wp logged Anything (verifyPackageBoot env apex >>= fun _ => _) Q (w, log)
      rw [wp_bind]
      refine wp_mono wp_logged_verifyPackageBoot ?_
      rintro result ⟨w₁, log₁⟩ ⟨undisturbed, isLogged⟩
      have before := isLogged.mono fun _ => (Or.inl : _ → BeforeBinding apex _)
      cases result with
      | error e => exact failed e w₁ log₁ undisturbed before
      | ok _ => exact checked w₁ log₁ undisturbed before
    · exact checked w log (.refl _ _) (.refl _ _)

/-! ## Unmounting -/

/-- A call of `umount2`, which fails without effect. -/
theorem wp_logged_umount {mountPoint : String} {detach : Bool}
    {Q : Except String Unit → World × List Call → Prop}
    (done : Q (.ok ()) ((w.umount mountPoint).2, log))
    (failed : ∀ e, Q (.error e) (w, log ++ [.kernel (.umount mountPoint detach)])) :
    wp logged Anything (kernelCall (.umount mountPoint detach)) Q (w, log) := by
  refine wp_withLog (fun _ w' answer => ⟨trivial, ?_⟩) fun e w' answer => ⟨trivial, ?_⟩
  · have same : w' = (w.umount mountPoint).2 := congrArg Prod.snd answer
    rw [same]
    exact done
  · have unchanged : w' = w := by
      rcases answer with answer | ⟨_, same⟩
      · have answered : (.error e, w') = w.umount mountPoint := answer
        rw [World.umount] at answered
        split at answered
        · cases answered
        · exact congrArg Prod.snd answered
      · exact same
    rw [unchanged]
    exact failed e

/-- The calls that fail when a mount is not taken back as a whole. -/
def Breaks (data : MountedApexData) (deferred : Bool) (request : Call) : Prop :=
  request = .kernel (.umount data.mountPoint false) ∨
    request = .kernel (.deleteVerityDevice data.deviceName deferred)

/-- The same images are mounted everywhere. -/
def SameImages (w w' : World) : Prop :=
  ∀ target, imagesAt w'.mounts target = imagesAt w.mounts target

/-- One image less is mounted at a mount point. -/
def LessAt (mountPoint : String) (w w' : World) : Prop :=
  ∀ target, imagesAt w'.mounts target =
    if mountPoint = target then (imagesAt w.mounts target).tail else imagesAt w.mounts target

theorem wp_logged_unmount {deferred : Bool} {Q : Except String Unit → World × List Call → Prop}
    (done : ∀ w', w'.fs = w.fs → w'.database = w.database → LessAt data.mountPoint w w' →
      Q (.ok ()) (w', log))
    (broken : ∀ result w' log', w'.fs = w.fs → w'.database = w.database →
      (SameImages w w' ∨ LessAt data.mountPoint w w') → (result = .ok () → SameImages w w') →
      (∃ request ∈ log', Breaks data deferred request) → Logged (Breaks data deferred) log log' →
      Q result (w', log')) :
    wp logged Anything (unmount data deferred) Q (w, log) := by
  have deletes (w₁ : World) (log₁ : List Call) (Q' : Except String Unit → World × List Call → Prop)
      (deleted : ∀ w', w'.fs = w₁.fs → w'.database = w₁.database → w'.mounts = w₁.mounts →
        Q' (.ok ()) (w', log₁))
      (failed : ∀ e, Q' (.error e)
        (w₁, log₁ ++ [.kernel (.deleteVerityDevice data.deviceName deferred)])) :
      wp logged Anything (do
        if data.deviceName ≠ "" then
          kernelCall (.deleteVerityDevice data.deviceName deferred)) Q' (w₁, log₁) := by
    split
    · refine wp_withLog (fun _ w' answer => ⟨trivial, ?_⟩) fun e w' answer => ⟨trivial, ?_⟩
      · have answered : KernelCall.Answers (.deleteVerityDevice _ _) w₁ (.ok ()) w' := answer
        rcases answered.2 with rfl | ⟨_, rfl⟩ <;> exact deleted _ rfl rfl rfl
      · rcases answer with answer | ⟨_, same⟩
        · have answered : KernelCall.Answers (.deleteVerityDevice _ _) w₁ (.error e) w' := answer
          cases answered.1
        · rw [same]
          exact failed e
    · exact deleted w₁ rfl rfl rfl
  have umountFrame : (w.umount data.mountPoint).2.fs = w.fs ∧
      (w.umount data.mountPoint).2.database = w.database := by
    rw [World.umount]
    split <;> exact ⟨rfl, rfl⟩
  have less : LessAt data.mountPoint w (w.umount data.mountPoint).2 :=
    imagesAt_umount w data.mountPoint
  have same (w' : World) (mounts : w'.mounts = w.mounts) : SameImages w w' :=
    fun _ => by rw [mounts]
  rw [unmount, wp_bind, umountIfMounted, wp_bind, wp_attempt]
  refine wp_logged_umount ?_ fun e => ?_
  · refine deletes _ _ _ (fun w' fs database mounts => ?_) fun e => ?_
    · exact done w' (fs.trans umountFrame.1) (database.trans umountFrame.2)
        fun target => by rw [mounts, less]
    · exact broken _ _ _ umountFrame.1 umountFrame.2 (.inr less) (fun isOk => by cases isOk)
        ⟨_, by simp, .inr rfl⟩ (.single (.inr rfl))
  · have failedFirst : Logged (Breaks data deferred) log
        (log ++ [.kernel (.umount data.mountPoint false)]) := .single (.inl rfl)
    dsimp only
    split
    · refine deletes _ _ _ (fun w' fs database mounts => ?_) fun e => ?_
      · exact broken _ _ _ fs database (.inl (same w' mounts)) (fun _ => same w' mounts)
          ⟨_, by simp, .inl rfl⟩ failedFirst
      · exact broken _ _ _ rfl rfl (.inl (same w rfl)) (fun isOk => by cases isOk) ⟨_, by simp, .inl rfl⟩
          (failedFirst.trans (.single (.inr rfl)))
    · exact broken _ _ _ rfl rfl (.inl (same w rfl)) (fun isOk => by cases isOk)
        ⟨_, by simp, .inl rfl⟩ failedFirst

theorem mem_of_mountOfFile {mounts : List (MountedApexData × Bool)} {flag : Bool}
    (found : mountOfFile apex mounts = some (data, flag)) :
    (data, flag) ∈ mounts ∧ pathText data.fullPath = pathText apex.path := by
  have member := List.mem_of_getLast? found
  exact ⟨(List.mem_filter.mp member).1, of_decide_eq_true (List.mem_filter.mp member).2⟩

theorem not_mem_of_mountOfFile {mounts : List (MountedApexData × Bool)}
    (absent : mountOfFile apex mounts = none) :
    ∀ mount ∈ mounts, pathText mount.1.fullPath ≠ pathText apex.path := by
  intro mount member same
  have none := List.getLast?_eq_none_iff.mp absent
  have inside : mount ∈ mounts.filter fun mount => pathText mount.1.fullPath = pathText apex.path :=
    List.mem_filter.mpr ⟨member, decide_eq_true same⟩
  rw [none] at inside
  cases inside

/-- A mount that was visited, and whether it is the latest. -/
theorem visited_iff {flag : Bool} :
    (data, flag) ∈ w.database.forallMountedApexesOf package false ↔
      data ∈ (w.database.mountsOf package).entries ∧ data.isTempMount = false ∧
      flag = decide ((w.database.mountsOf package).latest = some data) := by
  rw [MountedApexDatabase.mem_forallMountedApexesOf]
  cases last : (w.database.mountsOf package).latest with
  | none =>
    have empty : (w.database.mountsOf package).entries = [] := List.getLast?_eq_none_iff.mp last
    simp [MountedSet.reversed, empty]
  | some top =>
    rw [MountedSet.mem_reversed last]
    simp only [Option.some.injEq, eq_comm (a := data)]
    tauto

/-- The device after the mount of a file was taken out of the database, with the bind mount of
the package if it was the latest. -/
structure Unmounted (w : World) (apex : ApexFile) (data : MountedApexData) (w' : World) : Prop where
  member : data ∈ (w.database.mountsOf apex.manifest.name).entries
  notTemp : data.isTempMount = false
  fullPath : pathText data.fullPath = pathText apex.path
  fs : w'.fs = w.fs
  mountsOf : ∀ other, w'.database.mountsOf other =
    if other = apex.manifest.name then (w.database.mountsOf other).remove apex.path false
    else w.database.mountsOf other
  active : imagesAt w'.mounts (getActiveMountPoint apex.manifest) =
    if (w.database.mountsOf apex.manifest.name).latest = some data ∧
        apex.manifest.provideSharedApexLibs = false then
      (imagesAt w.mounts (getActiveMountPoint apex.manifest)).tail
    else imagesAt w.mounts (getActiveMountPoint apex.manifest)
  images : ∀ target, target ≠ getActiveMountPoint apex.manifest → target ≠ data.mountPoint →
    imagesAt w'.mounts target = imagesAt w.mounts target

/-- What comes of the unmount of a package. -/
theorem wp_logged_unmountPackage {deferred detach : Bool}
    (apart : ∀ data ∈ (w.database.mountsOf apex.manifest.name).entries,
      data.mountPoint ≠ getActiveMountPoint apex.manifest)
    {Q : Except String Unit → World × List Call → Prop}
    (absent : (∀ data ∈ (w.database.mountsOf apex.manifest.name).entries, data.isTempMount = false →
      pathText data.fullPath ≠ pathText apex.path) → ∀ e, Q (.error e) (w, log))
    (kept : ∀ e, Q (.error e)
      (w, log ++ [.kernel (.umount (getActiveMountPoint apex.manifest) detach)]))
    (removed : ∀ data w', Unmounted w apex data w' →
      imagesAt w'.mounts data.mountPoint = (imagesAt w.mounts data.mountPoint).tail →
      Q (.ok ()) (w', log))
    (broken : ∀ data result w' log', Unmounted w apex data w' →
      (result = .ok () → imagesAt w'.mounts data.mountPoint = imagesAt w.mounts data.mountPoint) →
      (∃ request ∈ log', Breaks data deferred request) → Logged (Breaks data deferred) log log' →
      Q result (w', log')) :
    wp logged Anything (unmountPackage apex true deferred detach) Q (w, log) := by
  rw [unmountPackage, wp_bind]
  refine wp_logged_forallMountedApexesOf ?_
  dsimp only
  cases found : mountOfFile apex (w.database.forallMountedApexesOf apex.manifest.name false) with
  | none =>
    refine absent (fun data member notTemp => ?_) _
    exact not_mem_of_mountOfFile found (data, _) (visited_iff.mpr ⟨member, notTemp, rfl⟩)
  | some mount =>
    obtain ⟨data, flag⟩ := mount
    obtain ⟨visited, fullPath⟩ := mem_of_mountOfFile found
    obtain ⟨member, notTemp, isFlag⟩ := visited_iff.mp visited
    have ne := apart data member
    -- the entry goes before the mount does
    have unmounting (w₁ : World) (fs : w₁.fs = w.fs) (database : w₁.database = w.database)
        (active : imagesAt w₁.mounts (getActiveMountPoint apex.manifest) =
          if (w.database.mountsOf apex.manifest.name).latest = some data ∧
              apex.manifest.provideSharedApexLibs = false then
            (imagesAt w.mounts (getActiveMountPoint apex.manifest)).tail
          else imagesAt w.mounts (getActiveMountPoint apex.manifest))
        (images : ∀ target, target ≠ getActiveMountPoint apex.manifest →
          imagesAt w₁.mounts target = imagesAt w.mounts target) :
        wp logged Anything (do
          removeMountedApex apex.manifest.name apex.path false
          unmount data deferred) Q (w₁, log) := by
      have unmounted (w₂ : World) (fs₂ : w₂.fs = w₁.fs)
          (database₂ : w₂.database = w₁.database.removeMountedApex apex.manifest.name apex.path false)
          (mounts : SameImages w₁ w₂ ∨ LessAt data.mountPoint w₁ w₂) :
          Unmounted w apex data w₂ := by
        refine ⟨member, notTemp, fullPath, fs₂.trans fs, fun other => ?_, ?_, fun target notActive notHere => ?_⟩
        · rw [database₂, database, OnlyTempsOf.mountsOf_removeMountedApex]
          split_ifs with same
          · rw [same]
          · rfl
        · rw [← active]
          rcases mounts with same | same
          · rw [same]
          · rw [same, if_neg ne]
        · rw [← images target notActive]
          rcases mounts with same | same
          · rw [same]
          · rw [same, if_neg (Ne.symm notHere)]
      rw [wp_bind]
      refine wp_withLog (fun _ w₂ answer => ⟨trivial, ?_⟩) fun e w₂ answer => ?_
      · cases answer
        refine wp_logged_unmount (fun w₃ fs₃ database₃ mounts₃ => ?_)
          fun result w₃ log₃ fs₃ database₃ mounts₃ kept₃ breaks isLogged => ?_
        · refine removed data w₃ (unmounted w₃ fs₃ database₃ (.inr mounts₃)) ?_
          exact (mounts₃ _).trans ((if_pos rfl).trans (congrArg List.tail (images _ ne)))
        · refine broken data result w₃ log₃ (unmounted w₃ fs₃ database₃ mounts₃) (fun isOk => ?_) breaks isLogged
          exact (kept₃ isOk _).trans (images _ ne)
      · rcases answer with answer | ⟨impossible, _⟩
        · cases answer
        · exact impossible.elim
    dsimp only
    split
    · rename_i unbinds
      simp only [Bool.and_eq_true, Bool.not_eq_true'] at unbinds
      have latest := of_decide_eq_true (isFlag.symm.trans unbinds.1)
      simp only [Bool.not_true, Bool.false_eq_true, if_false]
      change wp logged Anything (orErrno (kernelCall (.umount _ detach)) _ >>= fun _ => _) Q (w, log)
      rw [wp_bind, orErrno, wp_mapError]
      have umountFrame : (w.umount (getActiveMountPoint apex.manifest)).2.fs = w.fs ∧
          (w.umount (getActiveMountPoint apex.manifest)).2.database = w.database := by
        rw [World.umount]
        split <;> exact ⟨rfl, rfl⟩
      refine wp_logged_umount (unmounting _ umountFrame.1 umountFrame.2 ?_ fun target notActive => ?_)
        fun e => kept _
      · rw [imagesAt_umount, if_pos rfl, if_pos ⟨latest, unbinds.2⟩]
      · rw [imagesAt_umount, if_neg (Ne.symm notActive)]
    · rename_i notUnbound
      refine unmounting w rfl rfl ?_ fun _ _ => rfl
      rw [if_neg]
      rintro ⟨latest, notShared⟩
      refine notUnbound ?_
      rw [isFlag, notShared]
      simp [latest]

end Apexd
