import Apexd.Model.Install
import Apexd.Verified.TempMounts

/-! # The mount table

What is mounted at a mount point, call by call, and that the verification of a package mounts at
temporary mount points only.
-/

namespace Apexd

open Process Storage

/-- The images mounted at a mount point, the one mounted last first. -/
def imagesAt (mounts : List Mount) (target : String) : List MountedApexData :=
  (mounts.filter fun mount => mount.target = target).map Mount.image

variable {mounts : List Mount} {target other source : String} {image : MountedApexData}

theorem visibleAt_eq_head? (mounts : List Mount) (target : String) :
    visibleAt mounts target = (imagesAt mounts target).head? := by
  rw [visibleAt, imagesAt, List.head?_map, List.head?_filter]

theorem imagesAt_cons : imagesAt (⟨target, image⟩ :: mounts) other =
    if target = other then image :: imagesAt mounts other else imagesAt mounts other := by
  simp only [imagesAt, List.filter_cons, decide_eq_true_eq]
  split <;> rfl

theorem imagesAt_unmountTop : imagesAt (unmountTop mounts target) other =
    if target = other then (imagesAt mounts other).tail else imagesAt mounts other := by
  induction mounts with
  | nil => simp [unmountTop, imagesAt]
  | cons mount rest ih =>
    obtain ⟨at', image⟩ := mount
    rw [imagesAt_cons]
    by_cases same : at' = target
    · have removed : unmountTop (⟨at', image⟩ :: rest) target = rest := by
        simp [unmountTop, same]
      rw [removed, same]
      split <;> rfl
    · have kept : unmountTop (⟨at', image⟩ :: rest) target =
          ⟨at', image⟩ :: unmountTop rest target := by
        simp [unmountTop, same]
      rw [kept, imagesAt_cons, ih]
      by_cases here : at' = other
      · rw [if_pos here, if_pos here, if_neg (fun found => same (here.trans found.symm))]
        rw [if_neg (fun found => same (here.trans found.symm))]
      · rw [if_neg here, if_neg here]

/-- A bind mount shows at the target what is visible at the source. -/
theorem bindMount_of_visible (visible : visibleAt mounts source = some image) :
    bindMount mounts target source = (.ok (), ⟨target, image⟩ :: unmountTop mounts target) := by
  simp only [bindMount, visible]

theorem imagesAt_bindMount : imagesAt (bindMount mounts target source).2 other =
    if target = other then
      match visibleAt mounts source with
      | some image => image :: (imagesAt mounts other).tail
      | none => imagesAt mounts other
    else imagesAt mounts other := by
  simp only [bindMount]
  cases visibleAt mounts source with
  | none => simp
  | some image =>
    dsimp only
    rw [imagesAt_cons, imagesAt_unmountTop]
    split <;> rfl

/-! ## Calls that mount -/

/-- A call that mounts or unmounts, if at all, at a mount point in `P`. -/
def MountsIn (P : String → Prop) : Call → Prop
  | .kernel (.mountImage request) => P request.mountPoint
  | .kernel (.umount target _) => P target
  | .database (.bindMountIfLatest _ _ target _) => P target
  | _ => True

variable {P : String → Prop} {w w' : World}

theorem imagesAt_umount (w : World) (target other : String) :
    imagesAt (w.umount target).2.mounts other =
      if target = other then (imagesAt w.mounts other).tail else imagesAt w.mounts other := by
  rw [World.umount]
  split
  · exact imagesAt_unmountTop
  · rename_i nothing
    have none : imagesAt w.mounts target = [] := by
      rw [visibleAt_eq_head?, Bool.not_eq_true, Option.isSome_eq_false_iff, Option.isNone_iff_eq_none] at nothing
      exact List.head?_eq_none_iff.mp nothing
    split
    · rename_i same
      rw [← same, none]
      rfl
    · rfl

theorem imagesAt_of_mountsIn {request : Call} (inside : MountsIn P request)
    {reply : Except String (apexd.Reply request)} (answer : device request w reply w')
    (outside : ¬ P target) : imagesAt w'.mounts target = imagesAt w.mounts target := by
  have ne {at' : String} (isIn : P at') : at' ≠ target := fun same => outside (same ▸ isIn)
  cases request with
  | fs | session =>
    obtain ⟨_, _, rfl⟩ := answer
    rfl
  | createFile path content =>
    simp only [device, World.createFile] at answer
    split at answer
    · cases answer
      rfl
    · split at answer <;> cases answer <;> rfl
  | getDeUserDirs =>
    rw [answer.1]
  | restorecon | outside | markChanged =>
    rw [answer.2]
  | database request =>
    cases request with
    | forallMountedApexesOf | forallMountedApexes | removeMountedApex =>
      cases answer
      rfl
    | addMountedApex =>
      obtain ⟨_, _, same⟩ := Option.map_eq_some_iff.mp answer
      cases same
      rfl
    | bindMountIfLatest package fullPath at' source =>
      simp only [device, DatabaseCall.effect] at answer
      split at answer
      · cases answer
      · cases answer
        rw [imagesAt_bindMount, if_neg (ne inside)]
      · cases answer
        rfl
  | kernel request =>
    cases request with
    | mountImage request =>
      simp only [device, KernelCall.Answers] at answer
      split at answer
      · rw [answer.2]
      · obtain ⟨loopName, hashtreeLoopName, _, _, rfl⟩ := answer
        rw [World.withImage, imagesAt_cons, if_neg (ne inside)]
    | umount at' detach =>
      have same : w' = (w.umount at').2 := congrArg Prod.snd answer
      rw [same, imagesAt_umount, if_neg (ne inside)]
    | listDevices | isSuspended =>
      rw [answer.1]
    | deleteVerityDevice =>
      rcases answer.2 with rfl | ⟨_, rfl⟩ <;> rfl
  | fatal => exact answer.elim

/-! ## Verification -/

/-- The temporary mount points at which the verification of an APEX of a package mounts: its own,
and that of the shim on the system where the package is the shim. -/
def VerifiedAt (package target : String) : Prop :=
  ∃ manifest : ApexManifest, target = getPackageTempMountPoint manifest ∧
    (manifest.name = package ∨ package = kApexCtsShimPackage)

/-- The calls around an installation, which mount in `P` and neither bind nor leave the deletion
of a device for later. -/
def Peripheral (P : String → Prop) (request : Call) : Prop :=
  MountsIn P request ∧ match request with
    | .kernel (.deleteVerityDevice _ deferred) => deferred = false
    | .database (.bindMountIfLatest _ _ _ _) => False
    | _ => True

/-- The guarantee of a procedure all of whose calls are peripheral. -/
abbrev Peripherally (P : String → Prop) : Guarantee apexd World :=
  fun request _ _ => Peripheral P request

section Peripheral

variable {α : Type} {p : Procedure α} {env : Environment} {apex : ApexFile}
  {Q : Except String α → World → Prop}

theorem wp_peripheral (within : p.Within (Peripheral P)) :
    wp failing (Peripherally P) p (fun _ _ => True) w :=
  wp_of_within within (fun _ isPeripheral _ _ _ _ => isPeripheral) w

theorem peripheral_fsCall (request : FsCall DirId) : (fsCall request).Within (Peripheral P) :=
  ⟨⟨trivial, trivial⟩, fun _ => trivial⟩

theorem peripheral_accessible (path : FilePath) : (accessible path).Within (Peripheral P) := by
  refine (peripheral_fsCall _).attempt.bind fun found => ?_
  cases found <;> trivial

theorem peripheral_apexFile_open (path : FilePath) : (ApexFile.open path).Within (Peripheral P) :=
  ((peripheral_fsCall _).mapError _).bind fun _ => trivial

theorem peripheral_fatal : (fatal : Procedure α).Within (Peripheral P) := by
  refine ⟨⟨trivial, trivial⟩, fun reply => ?_⟩
  cases reply with
  | ok impossible => exact impossible.elim
  | error e => trivial

theorem peripheral_verifyVndkVersion : (verifyVndkVersion env apex).Within (Peripheral P) := by
  unfold verifyVndkVersion
  split
  · trivial
  · split
    · exact peripheral_fatal
    · exact Program.within_ofExcept _

theorem peripheral_unmount {data : MountedApexData} (inside : P data.mountPoint) :
    (unmount data false).Within (Peripheral P) :=
  within_unmount ⟨inside, trivial⟩ ⟨trivial, rfl⟩

/-- What is mounted is mounted where it was asked for. -/
theorem wp_peripheral_mountPackageImpl {mountPoint deviceName : String} {hashtreeFile : FilePath}
    {verifyImage reuseDevice tempMount : Bool} (inside : P mountPoint) :
    wp failing (Peripherally P) (mountPackageImpl env apex mountPoint deviceName hashtreeFile
      verifyImage reuseDevice tempMount) (fun result _ =>
        ∀ data, result = .ok data → data.mountPoint = mountPoint) w := by
  unfold mountPackageImpl
  split
  · exact nofun
  · rw [wp_bind, wp_ofExcept]
    cases env.repository.getPublicKey apex.manifest.name with
    | error e => exact nofun
    | ok publicKey =>
      dsimp only
      rw [wp_bind, wp_mapError, wp_ofExcept]
      cases env.verifyApexVerity apex.archive publicKey with
      | error e => exact nofun
      | ok treeSize =>
        refine wp_withFaults (fun reply w' answer => ⟨⟨inside, trivial⟩, ?_⟩)
          fun _ e => ⟨⟨inside, trivial⟩, nofun⟩
        have answered : KernelCall.Answers (.mountImage _) w reply w' := answer
        rintro data rfl
        simp only [KernelCall.Answers] at answered
        split at answered
        · cases answered.1
        · obtain ⟨_, _, _, same, _⟩ := answered
          cases same
          rfl

theorem wp_peripheral_verifyAndTempMountPackage {mountPoint : String} (inside : P mountPoint) :
    wp failing (Peripherally P) (verifyAndTempMountPackage env apex mountPoint)
      (fun result _ => ∀ data, result = .ok data → data.mountPoint = mountPoint) w := by
  have mounting (w₁ : World) : wp failing (Peripherally P) (do
      let ret ← (mountPackageImpl env apex mountPoint (getPackageId apex.manifest ++ ".tmp")
        (getHashTreeFileName apex true) true false true).onError (unlink (getHashTreeFileName apex true))
      addMountedApex apex.manifest.name ret
      pure ret) (fun result _ => ∀ data, result = .ok data → data.mountPoint = mountPoint) w₁ := by
    rw [wp_bind, wp_onError]
    refine wp_mono (wp_peripheral_mountPackageImpl inside) ?_
    rintro result w₂ isAt
    cases result with
    | error e => exact wp_mono (wp_peripheral (peripheral_fsCall _)) fun _ _ _ => nofun
    | ok data =>
      dsimp only
      rw [wp_bind]
      have adds : (addMountedApex apex.manifest.name data).Within (Peripheral P) :=
        ⟨⟨trivial, trivial⟩, fun _ => trivial⟩
      refine wp_mono (wp_peripheral adds) fun result w₃ _ => ?_
      cases result with
      | error e => exact nofun
      | ok _ =>
        rintro _ ⟨⟩
        exact isAt data rfl
  rw [verifyAndTempMountPackage, wp_bind]
  refine wp_mono (wp_peripheral (peripheral_accessible _)) fun result w₁ _ => ?_
  cases result with
  | error e => exact nofun
  | ok found =>
    cases found with
    | false => exact mounting w₁
    | true =>
      change wp failing _ (orErrno (unlink _) _ >>= fun _ => _) _ w₁
      rw [wp_bind]
      refine wp_mono (wp_peripheral ((peripheral_fsCall _).mapError _)) fun result w₂ _ => ?_
      cases result with
      | error e => exact nofun
      | ok _ => exact mounting w₂

theorem wp_peripheral_runVerifyFnInsideTempMount {verifyFn : Except String Unit}
    {unmountDuringCleanup : Bool} (inside : P (getPackageTempMountPoint apex.manifest)) :
    wp failing (Peripherally P)
      (runVerifyFnInsideTempMount env apex verifyFn unmountDuringCleanup) (fun _ _ => True) w := by
  rw [runVerifyFnInsideTempMount, wp_bind]
  refine wp_mono (wp_peripheral_verifyAndTempMountPackage inside) fun result w₁ isAt => ?_
  cases result with
  | error e => trivial
  | ok data =>
    have unmounts : (unmount data false).Within (Peripheral P) :=
      peripheral_unmount ((isAt data rfl).symm ▸ inside)
    have cleaner : (verificationCleaner apex data).Within (Peripheral P) :=
      unmounts.ignore.bind fun _ => ⟨⟨trivial, trivial⟩, fun _ => trivial⟩
    refine wp_peripheral (((Program.within_ofExcept verifyFn).onError cleaner).bind fun _ => ?_)
    split
    · exact cleaner.ignore
    · trivial

/-- The verification of an APEX at boot mounts at temporary mount points only. -/
theorem wp_peripheral_verifyPackageBoot
    (inside : ∀ target, VerifiedAt apex.manifest.name target → P target) :
    wp failing (Peripherally P) (verifyPackageBoot env apex) (fun _ _ => True) w := by
  have versions (w₁ : World) :
      wp failing (Peripherally P) (verifyVndkVersion env apex) (fun _ _ => True) w₁ :=
    wp_peripheral peripheral_verifyVndkVersion
  rw [verifyPackageBoot, wp_bind, wp_ofExcept]
  cases env.repository.getPublicKey apex.manifest.name with
  | error e => trivial
  | ok publicKey =>
    dsimp only
    rw [wp_bind, wp_ofExcept]
    cases env.verifyApexVerity apex.archive publicKey with
    | error e => trivial
    | ok treeSize =>
      dsimp only
      split
      · rename_i isShim
        rw [wp_bind, validateStagingShimApex, wp_bind]
        refine wp_mono (wp_peripheral (peripheral_apexFile_open _)) fun result w₁ _ => ?_
        cases result with
        | error e => trivial
        | ok systemShim =>
          have atShim : P (getPackageTempMountPoint systemShim.manifest) :=
            inside _ ⟨_, rfl, .inr (of_decide_eq_true isShim)⟩
          refine wp_mono (wp_peripheral_runVerifyFnInsideTempMount atShim) fun result w₂ _ => ?_
          cases result with
          | error e => trivial
          | ok _ => exact versions w₂
      · exact versions w

end Peripheral

/-! ### Temporary mount points -/

/-- No mount point of a version is a temporary one. -/
theorem not_verifiedAt_packageMountPoint (package : String) (manifest : ApexManifest) :
    ¬ VerifiedAt package (getPackageMountPoint manifest) := by
  rintro ⟨temp, same, _⟩
  have ids : getPackageId manifest = getPackageId temp ++ ".tmp" := by
    simpa [getPackageMountPoint, getPackageTempMountPoint, kApexRoot, String.append_assoc] using same
  have tail : manifest.name ++ "@" ++ toString manifest.version =
      temp.name ++ "@" ++ (toString temp.version ++ ".tmp") := by
    simpa [getPackageId, String.append_assoc] using ids
  have noAt : '@' ∉ (toString temp.version ++ ".tmp").toList := by
    rw [String.toList_append, List.mem_append, not_or]
    exact ⟨at_not_mem_version _, by decide⟩
  have versions := (Text.append_separator_inj (c := '@') tail (at_not_mem_version _) noAt).2
  have dot : '.' ∈ (toString manifest.version).toList := by
    rw [versions, String.toList_append]
    simp
  rcases Text.eq_minus_or_isDigit_of_mem dot with minus | digit
  · exact absurd minus (by decide)
  · exact absurd digit (by decide)

/-- The mount point of a package is not one at which the package is verified. -/
theorem not_verifiedAt_activeMountPoint (manifest : ApexManifest) :
    ¬ VerifiedAt manifest.name (getActiveMountPoint manifest) := by
  rintro ⟨temp, same, sameName | isShim⟩
  · have names : manifest.name = temp.name ++ "@" ++ (toString temp.version ++ ".tmp") := by
      simpa [getActiveMountPoint, getPackageTempMountPoint, getPackageMountPoint, getPackageId,
        kApexRoot, String.append_assoc] using same
    have lengths := congrArg String.length names
    rw [sameName, String.length_append, String.length_append] at lengths
    have one : "@".length = 1 := rfl
    omega
  · have names : manifest.name = temp.name ++ "@" ++ (toString temp.version ++ ".tmp") := by
      simpa [getActiveMountPoint, getPackageTempMountPoint, getPackageMountPoint, getPackageId,
        kApexRoot, String.append_assoc] using same
    rw [isShim] at names
    have inside : '@' ∈ kApexCtsShimPackage.toList := by
      rw [names]
      simp
    exact absurd inside (by decide)

end Apexd
