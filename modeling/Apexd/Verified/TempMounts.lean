import Apexd.Model.Queries
import Apexd.Verified.Calls
import Apexd.Verified.Frames
import Apexd.Verified.LatestMount

/-! # Temporary mounts

Verifying a session and deriving a class path mount packages temporarily.  Whatever fails on the
way, none of these mounts is left in the database afterwards, and the other mounts are as before.
-/

namespace Apexd

open Process Storage

namespace MountedSet

variable {set added : MountedSet} {data other : MountedApexData}

/-- The temporary mounts. -/
def temps (set : MountedSet) : List MountedApexData :=
  set.entries.filter MountedApexData.isTempMount

/-- The mounts that are not temporary. -/
def reals (set : MountedSet) : List MountedApexData :=
  set.entries.filter fun data => !data.isTempMount

theorem filter_insertSorted_neg (p : MountedApexData → Bool) (notP : p data = false)
    (entries : List MountedApexData) :
    (insertSorted data entries).filter p = entries.filter p := by
  induction entries with
  | nil => simp [insertSorted, notP]
  | cons head rest ih =>
    rw [insertSorted]
    split
    · rw [List.filter_cons_of_neg (by simp [notP])]
    · rw [List.filter_cons, List.filter_cons, ih]

theorem perm_insertSorted (data : MountedApexData) (entries : List MountedApexData) :
    (insertSorted data entries).Perm (data :: entries) := by
  induction entries with
  | nil => exact .refl _
  | cons head rest ih =>
    rw [insertSorted]
    split
    · exact .refl _
    · exact (ih.cons head).trans (.swap data head rest)

theorem entries_of_emplace (isAdded : set.emplace data = some added) :
    added.entries = insertSorted data set.entries := by
  unfold emplace at isAdded
  split at isAdded
  · cases isAdded
    rfl
  · cases isAdded

theorem reals_emplace_temp (isAdded : set.emplace data = some added)
    (isTemp : data.isTempMount = true) : added.reals = set.reals := by
  rw [reals, entries_of_emplace isAdded, filter_insertSorted_neg _ (by simp [isTemp]), reals]

theorem temps_emplace_temp (isAdded : set.emplace data = some added)
    (isTemp : data.isTempMount = true) : added.temps.Perm (data :: set.temps) := by
  have perm := (perm_insertSorted data set.entries).filter MountedApexData.isTempMount
  rwa [← entries_of_emplace isAdded, List.filter_cons_of_pos isTemp] at perm

theorem temps_remove (set : MountedSet) (fullPath : FilePath) : (set.remove fullPath true).temps =
    set.temps.eraseP fun data => pathText data.fullPath = pathText fullPath := by
  rw [temps, temps, List.eraseP_filter]
  simp only [remove, Bool.decide_eq_true]

theorem reals_remove (set : MountedSet) (fullPath : FilePath) :
    (set.remove fullPath true).reals = set.reals := by
  simp only [reals, remove, Bool.decide_eq_true]
  induction set.entries with
  | nil => rfl
  | cons head rest ih =>
    rw [List.eraseP_cons, List.filter_cons]
    cases isTemp : head.isTempMount with
    | false => simp [isTemp, ih]
    | true =>
      by_cases same : pathText head.fullPath = pathText fullPath
      · simp [same]
      · simp [same, isTemp, ih]

theorem temps_eq_nil : set.temps = [] ↔ ∀ data ∈ set.entries, data.isTempMount = false := by
  rw [temps, List.filter_eq_nil_iff]
  simp

/-- A set without temporary mounts is determined by the others. -/
theorem eq_of_reals (noTemps : set.temps = []) (noTemps' : added.temps = [])
    (same : set.reals = added.reals) : set = added := by
  have all {set : MountedSet} (noTemps : set.temps = []) : set.reals = set.entries :=
    List.filter_eq_self.mpr fun data member => by simp [temps_eq_nil.mp noTemps data member]
  have entries : set.entries = added.entries := by
    rw [← all noTemps, same, all noTemps']
  cases set
  cases added
  cases entries
  rfl

/-- The temporary mounts that `ForallMountedApexes` visits. -/
theorem map_fst_filter_reversed (set : MountedSet) :
    (set.reversed.filter fun visit => visit.1.isTempMount = true).map Prod.fst = set.temps.reverse := by
  rw [temps, ← List.filter_reverse, ← map_fst_reversed, List.filter_map]
  congr 2
  funext visit
  simp

end MountedSet

/-! ## The database -/

variable {before database added : MountedApexDatabase} {package : String} {data : MountedApexData}
  {S T : Set String}

/-- The database is as before, but for temporary mounts of packages in `S`. -/
structure OnlyTempsOf (S : Set String) (before database : MountedApexDatabase) : Prop where
  reals : ∀ package, (database.mountsOf package).reals = (before.mountsOf package).reals
  temps : ∀ package, package ∉ S → (database.mountsOf package).temps = []

namespace OnlyTempsOf

theorem mono (only : OnlyTempsOf S before database) (subset : S ⊆ T) :
    OnlyTempsOf T before database where
  reals := only.reals
  temps package notIn := only.temps package fun member => notIn (subset member)

theorem of_temps_eq_nil (only : OnlyTempsOf (insert package S) before database)
    (none : (database.mountsOf package).temps = []) : OnlyTempsOf S before database where
  reals := only.reals
  temps other notIn := by
    by_cases same : other = package
    · rw [same, none]
    · exact only.temps other (by simp [same, notIn])

theorem mountsOf_eq (noTemps : OnlyTempsOf ∅ before before) (only : OnlyTempsOf ∅ before database) :
    database.mountsOf package = before.mountsOf package :=
  MountedSet.eq_of_reals (only.temps package (by simp)) (noTemps.temps package (by simp))
    (only.reals package)

theorem mountsOf_of_addMountedApex (isAdded : database.addMountedApex package data = some added)
    (other : String) : ∃ set, (database.mountsOf package).emplace data = some set ∧
      added.mountsOf other = if other = package then set else database.mountsOf other := by
  obtain ⟨set, emplaced, checked⟩ := Option.bind_eq_some_iff.mp isAdded
  refine ⟨set, emplaced, ?_⟩
  dsimp only at checked
  split at checked
  · cases checked
    exact MountedApexDatabase.mountsOf_insert _ _ _ _
  · cases checked

theorem add (only : OnlyTempsOf S before database)
    (isAdded : database.addMountedApex package data = some added) (isTemp : data.isTempMount = true) :
    OnlyTempsOf (insert package S) before added where
  reals other := by
    obtain ⟨set, emplaced, mounts⟩ := mountsOf_of_addMountedApex isAdded other
    rw [mounts]
    split_ifs with same
    · rw [MountedSet.reals_emplace_temp emplaced isTemp, same, only.reals]
    · exact only.reals other
  temps other notIn := by
    obtain ⟨set, emplaced, mounts⟩ := mountsOf_of_addMountedApex isAdded other
    rw [Set.mem_insert_iff, not_or] at notIn
    rw [mounts, if_neg notIn.1, only.temps other notIn.2]

/-- The first temporary mount of a package is the only one. -/
theorem temps_of_added (only : OnlyTempsOf S before database)
    (isAdded : database.addMountedApex package data = some added) (isTemp : data.isTempMount = true)
    (notIn : package ∉ S) : (added.mountsOf package).temps = [data] := by
  obtain ⟨set, emplaced, mounts⟩ := mountsOf_of_addMountedApex isAdded package
  have perm := MountedSet.temps_emplace_temp emplaced isTemp
  rw [only.temps package notIn, List.perm_singleton] at perm
  rw [mounts, if_pos rfl, perm]

theorem mountsOf_removeMountedApex (database : MountedApexDatabase) (package other : String)
    (fullPath : FilePath) (matchTempMounts : Bool) :
    (database.removeMountedApex package fullPath matchTempMounts).mountsOf other =
      if other = package then (database.mountsOf package).remove fullPath matchTempMounts
      else database.mountsOf other := by
  rw [MountedApexDatabase.removeMountedApex]
  cases found : database.lookup package with
  | none =>
    split_ifs with same
    · subst same
      rw [MountedApexDatabase.mountsOf, found]
      rfl
    · rfl
  | some set =>
    dsimp only
    rw [MountedApexDatabase.mountsOf_insert]
    split_ifs with same
    · rw [MountedApexDatabase.mountsOf, found]
    · rfl

/-- Removing temporary mounts of a package leaves fewer, or none. -/
theorem remove (only : OnlyTempsOf S before database) (fullPath : FilePath)
    (left : package ∉ T → (database.mountsOf package).temps.eraseP
      (fun data => pathText data.fullPath = pathText fullPath) = [])
    (subset : S ⊆ insert package T) :
    OnlyTempsOf T before (database.removeMountedApex package fullPath true) where
  reals other := by
    rw [mountsOf_removeMountedApex]
    split_ifs with same
    · rw [MountedSet.reals_remove, same, only.reals]
    · exact only.reals other
  temps other notIn := by
    rw [mountsOf_removeMountedApex]
    split_ifs with same
    · rw [MountedSet.temps_remove]
      exact left (same ▸ notIn)
    · refine only.temps other fun member => ?_
      rcases subset member with rfl | inT
      · exact same rfl
      · exact notIn inT

end OnlyTempsOf

/-! ## Procedures -/

/-- Every operation may fail but those of the database. -/
def MayFail : Call → Prop
  | .database _ | .fatal => False
  | _ => True

/-- The device on which they do. -/
abbrev failing : Semantics apexd String World :=
  device.withFaults MayFail

/-- A call after which the database is as it was. -/
def KeepsDatabase : Call → Prop
  | .database (.addMountedApex _ _) | .database (.removeMountedApex _ _ _) => False
  | _ => True

variable {w w' : World} {env : Environment} {apex : ApexFile}

theorem kernel_answers_database {request : KernelCall} {reply : Except String request.Reply}
    (answer : request.Answers w reply w') : w'.database = w.database := by
  cases request with
  | mountImage request =>
    simp only [KernelCall.Answers] at answer
    split at answer
    · rw [answer.2]
    · obtain ⟨_, _, _, _, rfl⟩ := answer
      rfl
  | umount target detach =>
    simp only [KernelCall.Answers, World.umount] at answer
    split at answer <;> cases answer <;> rfl
  | listDevices | isSuspended name => rw [answer.1]
  | deleteVerityDevice name deferred => rcases answer.2 with rfl | ⟨_, rfl⟩ <;> rfl

theorem database_of_keeps {request : Call} (keeps : KeepsDatabase request)
    {reply : Except String (apexd.Reply request)} (answer : failing request w reply w') :
    w'.database = w.database := by
  rcases answer with answer | ⟨_, _, rfl⟩
  · cases request with
    | fs request =>
      obtain ⟨fs', _, rfl⟩ := answer
      rfl
    | createFile path content =>
      simp only [device, World.createFile] at answer
      split at answer
      · cases answer
        rfl
      · split at answer <;> cases answer <;> rfl
    | getDeUserDirs => rw [answer.1]
    | restorecon dir => rw [answer.2]
    | session request =>
      obtain ⟨store, _, rfl⟩ := answer
      rfl
    | database request =>
      cases request with
      | addMountedApex | removeMountedApex => exact keeps.elim
      | forallMountedApexesOf | forallMountedApexes =>
        cases answer
        rfl
      | bindMountIfLatest package fullPath target source =>
        change DatabaseCall.effect _ _ = _ at answer
        simp only [DatabaseCall.effect] at answer
        split at answer <;> cases answer <;> rfl
    | kernel request => exact kernel_answers_database answer
    | outside request => rw [answer.2]
    | markChanged package => rw [answer.2]
    | fatal => exact answer.elim
  · rfl

abbrev Keeping {α : Type} (p : Procedure α) : Prop :=
  p.Within KeepsDatabase

theorem wp_keeping {α : Type} {p : Procedure α} (keeping : Keeping p) :
    wp failing Anything p (fun _ w' => w'.database = w.database) w := by
  refine wp_frame keeping (fun w' : World => w'.database = w.database) ?_ rfl
  intro request keeps w₁ reply w₂ same answer
  exact ⟨trivial, (database_of_keeps keeps answer).trans same⟩

/-! ### Procedures that keep the database -/

section Keeping

variable {α : Type} {p : Procedure α}

theorem keeping_fsCall (request : FsCall DirId) : Keeping (fsCall request) :=
  ⟨trivial, fun _ => trivial⟩

theorem keeping_sessionCall (request : SessionCall) : Keeping (sessionCall request) :=
  ⟨trivial, fun _ => trivial⟩

theorem keeping_kernelCall (request : KernelCall) : Keeping (kernelCall request) :=
  ⟨trivial, fun _ => trivial⟩

theorem keeping_fatal : Keeping (fatal : Procedure α) := by
  refine ⟨trivial, fun reply => ?_⟩
  cases reply with
  | ok impossible => exact impossible.elim
  | error e => trivial

theorem keeping_accessible (path : FilePath) : Keeping (accessible path) := by
  refine (keeping_fsCall _).attempt.bind fun result => ?_
  cases result <;> trivial

theorem keeping_findFilesBySuffix (d : DirId) (suffixList : List String) :
    Keeping (findFilesBySuffix d suffixList) :=
  ((keeping_fsCall _).mapError _).bind fun _ => trivial

theorem keeping_apexFile_open (path : FilePath) : Keeping (ApexFile.open path) :=
  ((keeping_fsCall _).mapError _).bind fun _ => trivial

theorem keeping_openApexFiles (paths : List FilePath) : Keeping (openApexFiles paths) := by
  unfold openApexFiles
  split
  · trivial
  · exact Program.Within.collect fun path _ => keeping_apexFile_open path

theorem keeping_mountPackageImpl (mountPoint deviceName : String) (hashtreeFile : FilePath)
    (verifyImage reuseDevice tempMount : Bool) : Keeping (mountPackageImpl env apex mountPoint
      deviceName hashtreeFile verifyImage reuseDevice tempMount) := by
  unfold mountPackageImpl
  split
  · trivial
  · refine Program.Within.bind (Program.within_ofExcept _) fun _ => ?_
    refine ((Program.within_ofExcept _).mapError _).bind fun _ => ?_
    exact keeping_kernelCall _

theorem keeping_unmount (data : MountedApexData) (deferred : Bool) : Keeping (unmount data deferred) :=
  within_unmount trivial trivial

theorem keeping_verifyVndkVersion : Keeping (verifyVndkVersion env apex) := by
  unfold verifyVndkVersion
  split
  · trivial
  · split
    · exact keeping_fatal
    · trivial

theorem keeping_createDirIfNeeded (d : DirId) (mode : Nat) : Keeping (createDirIfNeeded d mode) := by
  refine ((keeping_fsCall _).mapError _).bind fun found => ?_
  have chmods : Keeping (orErrno (chmod d mode) ("Could not chmod " ++ d.text)) :=
    (keeping_fsCall _).mapError _
  cases found with
  | none => exact ((keeping_fsCall _).mapError _).bind fun _ => chmods
  | some mode => exact chmods

theorem keeping_createVerifiedSession {sessionId : Int} {childSessionIds : List Int}
    {hasRollbackEnabled isRollback : Bool} {rollbackId : Int} {ret : List ApexFile} :
    Keeping (createVerifiedSession env sessionId childSessionIds hasRollbackEnabled isRollback
      rollbackId ret) := by
  unfold createVerifiedSession
  split
  · trivial
  · refine Program.Within.bind ?_ fun session => (keeping_sessionCall _).mapError _
    exact ((keeping_sessionCall _).mapError _).bind fun _ => trivial

theorem keeping_deleteDirContent (d : DirId) : Keeping (deleteDirContent d) := by
  refine ((keeping_fsCall _).mapError _).bind fun names => ?_
  exact Program.Within.forM fun name _ => (keeping_fsCall _).mapError _

theorem keeping_pathExists (d : DirId) : Keeping (pathExists d) :=
  ((keeping_fsCall _).mapError _).bind fun _ => trivial

theorem keeping_backupActivePackages : Keeping backupActivePackages := by
  refine ((keeping_createDirIfNeeded _ _).mapError _).bind fun _ => ?_
  refine ((keeping_pathExists _).mapError _).bind fun exists' => ?_
  split
  · refine ((keeping_findFilesBySuffix _ _).mapError _).bind fun packages => ?_
    refine Program.Within.bind (Program.Within.mapError ?_ _) fun _ => ?_
    · refine ((keeping_pathExists _).mapError _).bind fun exists' => ?_
      split
      · exact keeping_deleteDirContent _
      · trivial
    · refine Program.Within.onError (Program.Within.forM fun path _ => ?_)
        (keeping_deleteDirContent _)
      exact ((keeping_apexFile_open path).mapError _).bind fun apexFile =>
        (keeping_fsCall _).mapError _
  · trivial

end Keeping

/-! ### Mounting -/

/-- What is mounted is the file, temporarily or not as was asked for. -/
theorem wp_mountPackageImpl {mountPoint deviceName : String} {hashtreeFile : FilePath}
    {verifyImage reuseDevice tempMount : Bool} :
    wp failing Anything (mountPackageImpl env apex mountPoint deviceName hashtreeFile verifyImage
      reuseDevice tempMount) (fun result w' => w'.database = w.database ∧ ∀ data, result = .ok data →
        data.fullPath = apex.path ∧ data.isTempMount = tempMount) w := by
  refine wp_and (wp_keeping (keeping_mountPackageImpl _ _ _ _ _ _)) ?_
  unfold mountPackageImpl
  split
  · simp
  · rw [wp_bind, wp_ofExcept]
    cases env.repository.getPublicKey apex.manifest.name with
    | error e => simp
    | ok publicKey =>
      dsimp only
      rw [wp_bind, wp_mapError, wp_ofExcept]
      cases env.verifyApexVerity apex.archive publicKey with
      | error e => simp [Except.mapError]
      | ok treeSize =>
        refine wp_withFaults (fun reply w' answer => ⟨trivial, ?_⟩) fun _ e => ⟨trivial, by simp⟩
        have answered : KernelCall.Answers (.mountImage _) w reply w' := answer
        rintro data rfl
        simp only [KernelCall.Answers] at answered
        split at answered
        · cases answered.1
        · obtain ⟨_, _, _, same, _⟩ := answered
          cases same
          exact ⟨rfl, rfl⟩

theorem wp_addMountedApex {package : String} {data : MountedApexData}
    {Q : Except String Unit → World → Prop}
    (post : ∀ added, w.database.addMountedApex package data = some added →
      Q (.ok ()) { w with database := added }) :
    wp failing Anything (addMountedApex package data) Q w := by
  refine wp_withFaults (fun reply w' answer => ⟨trivial, ?_⟩) fun mayFail => mayFail.elim
  obtain ⟨added, isAdded, same⟩ := Option.map_eq_some_iff.mp answer
  cases same
  exact post added isAdded

theorem wp_removeMountedApex {package : String} {fullPath : FilePath}
    {Q : Except String Unit → World → Prop}
    (post : Q (.ok ()) { w with
      database := w.database.removeMountedApex package fullPath true }) :
    wp failing Anything (removeMountedApex package fullPath true) Q w := by
  refine wp_withFaults (fun reply w' answer => ⟨trivial, ?_⟩) fun mayFail => mayFail.elim
  cases answer
  exact post

/-- The database after a procedure that leaves a package mounted temporarily if it succeeds. -/
def AfterMount {α : Type} (S : Set String) (before : MountedApexDatabase) (package : String)
    (result : Except String α) (w : World) : Prop :=
  match result with
  | .ok _ => OnlyTempsOf (insert package S) before w.database
  | .error _ => OnlyTempsOf S before w.database

theorem wp_mountPackage_temp {mountPoint deviceName : String} {reuseDevice : Bool}
    (only : OnlyTempsOf S before w.database) : wp failing Anything
      (mountPackage env apex mountPoint deviceName reuseDevice true)
      (AfterMount S before apex.manifest.name) w := by
  rw [mountPackage, wp_bind]
  refine wp_mono wp_mountPackageImpl ?_
  rintro result w₁ ⟨same, mounted⟩
  rw [← same] at only
  cases result with
  | error e => exact only
  | ok data => exact wp_addMountedApex fun added isAdded => only.add isAdded (mounted data rfl).2

/-- A package that is verified is mounted temporarily, and if it was not before then once. -/
theorem wp_verifyAndTempMountPackage {mountPoint : String} (only : OnlyTempsOf S before w.database) :
    wp failing Anything (verifyAndTempMountPackage env apex mountPoint) (fun result w' =>
      AfterMount S before apex.manifest.name result w' ∧
        ∀ data, result = .ok data → apex.manifest.name ∉ S →
          ∃ mount, mount.fullPath = apex.path ∧
            (w'.database.mountsOf apex.manifest.name).temps = [mount]) w := by
  have mounting (w₁ : World) (same : w₁.database = w.database) : wp failing Anything (do
      let ret ← (mountPackageImpl env apex mountPoint (getPackageId apex.manifest ++ ".tmp")
        (getHashTreeFileName apex true) true false true).onError (unlink (getHashTreeFileName apex true))
      addMountedApex apex.manifest.name ret
      pure ret) (fun result w' => AfterMount S before apex.manifest.name result w' ∧
        ∀ data, result = .ok data → apex.manifest.name ∉ S →
          ∃ mount, mount.fullPath = apex.path ∧
            (w'.database.mountsOf apex.manifest.name).temps = [mount]) w₁ := by
    rw [wp_bind, wp_onError]
    refine wp_mono wp_mountPackageImpl ?_
    rintro result w₂ ⟨same₂, mounted⟩
    rw [← same, ← same₂] at only
    cases result with
    | error e =>
      refine wp_mono (wp_keeping (keeping_fsCall _)) fun _ w₃ same₃ => ⟨?_, by simp⟩
      rw [AfterMount, same₃]
      exact only
    | ok data =>
      obtain ⟨samePath, isTemp⟩ := mounted data rfl
      dsimp only
      rw [wp_bind]
      refine wp_addMountedApex fun added isAdded => ⟨only.add isAdded isTemp, fun _ _ notIn => ?_⟩
      exact ⟨data, samePath, only.temps_of_added isAdded isTemp notIn⟩
  rw [verifyAndTempMountPackage, wp_bind]
  refine wp_mono (wp_keeping (keeping_accessible _)) fun result w₁ same => ?_
  cases result with
  | error e =>
    refine ⟨?_, by simp⟩
    rw [AfterMount, same]
    exact only
  | ok found =>
    cases found with
    | false => exact mounting w₁ same
    | true =>
      change wp failing Anything (orErrno (unlink _) _ >>= fun _ => _) _ w₁
      rw [wp_bind]
      refine wp_mono (wp_keeping ((keeping_fsCall _).mapError _)) fun result w₂ same₂ => ?_
      cases result with
      | error e =>
        refine ⟨?_, by simp⟩
        rw [AfterMount, same₂, same]
        exact only
      | ok _ => exact mounting w₂ (same₂.trans same)

/-- The scope guard of a verification. -/
def verificationCleaner (apex : ApexFile) (data : MountedApexData) : Procedure Unit := do
  (unmount data false).ignore
  removeMountedApex apex.manifest.name apex.path true

/-- The scope guard takes the temporary mount back. -/
theorem wp_verificationCleaner {data : MountedApexData}
    (only : OnlyTempsOf (insert apex.manifest.name S) before w.database)
    (once : apex.manifest.name ∉ S → ∃ mount, mount.fullPath = apex.path ∧
      (w.database.mountsOf apex.manifest.name).temps = [mount]) :
    wp failing Anything (verificationCleaner apex data)
      (fun _ w' => OnlyTempsOf S before w'.database) w := by
  rw [verificationCleaner, wp_bind, wp_ignore]
  refine wp_mono (wp_keeping (keeping_unmount data false)) fun result w₁ same => ?_
  rw [← same] at only once
  refine wp_removeMountedApex (only.remove _ (fun notIn => ?_) subset_rfl)
  obtain ⟨mount, samePath, temps⟩ := once notIn
  rw [temps, List.eraseP_cons_of_pos (by simp [samePath])]

theorem wp_runVerifyFnInsideTempMount {verifyFn : Except String Unit} {unmountDuringCleanup : Bool}
    (only : OnlyTempsOf S before w.database) : wp failing Anything
      (runVerifyFnInsideTempMount env apex verifyFn unmountDuringCleanup) (fun result w' =>
        if unmountDuringCleanup then OnlyTempsOf S before w'.database
        else AfterMount S before apex.manifest.name result w') w := by
  rw [runVerifyFnInsideTempMount, wp_bind]
  refine wp_mono (wp_verifyAndTempMountPackage only) ?_
  rintro result w₁ ⟨after, once⟩
  cases result with
  | error e =>
    dsimp only
    split <;> exact after
  | ok data =>
    have cleaning : wp failing Anything (verificationCleaner apex data)
        (fun _ w' => OnlyTempsOf S before w'.database) w₁ :=
      wp_verificationCleaner after (once data rfl)
    dsimp only
    rw [wp_bind, wp_onError, wp_ofExcept]
    cases verifyFn with
    | error e =>
      refine wp_mono cleaning fun _ w₂ only₂ => ?_
      dsimp only
      split <;> exact only₂
    | ok _ =>
      cases unmountDuringCleanup with
      | false => exact after
      | true =>
        dsimp only
        rw [if_pos rfl, wp_ignore]
        exact cleaning

theorem wp_verifyPackageBoot (only : OnlyTempsOf S before w.database) :
    wp failing Anything (verifyPackageBoot env apex)
      (fun _ w' => OnlyTempsOf S before w'.database) w := by
  have versions (w₁ : World) (only₁ : OnlyTempsOf S before w₁.database) :
      wp failing Anything (verifyVndkVersion env apex)
        (fun _ w' => OnlyTempsOf S before w'.database) w₁ := by
    refine wp_mono (wp_keeping keeping_verifyVndkVersion) fun _ w₂ same => ?_
    rw [same]
    exact only₁
  rw [verifyPackageBoot, wp_bind, wp_ofExcept]
  cases env.repository.getPublicKey apex.manifest.name with
  | error e => exact only
  | ok publicKey =>
    dsimp only
    rw [wp_bind, wp_ofExcept]
    cases env.verifyApexVerity apex.archive publicKey with
    | error e => exact only
    | ok treeSize =>
      dsimp only
      split
      · rw [wp_bind, validateStagingShimApex, wp_bind]
        refine wp_mono (wp_keeping (keeping_apexFile_open _)) fun result w₁ same => ?_
        rw [← same] at only
        cases result with
        | error e => exact only
        | ok systemShim =>
          refine wp_mono (wp_runVerifyFnInsideTempMount only) fun result w₂ only₂ => ?_
          rw [if_pos rfl] at only₂
          cases result with
          | error e => exact only₂
          | ok _ => exact versions w₂ only₂
      · exact versions w only

theorem wp_verifyPackageStagedInstall (only : OnlyTempsOf S before w.database) :
    wp failing Anything (verifyPackageStagedInstall env apex)
      (AfterMount S before apex.manifest.name) w := by
  rw [verifyPackageStagedInstall, wp_bind]
  refine wp_mono (wp_verifyPackageBoot only) fun result w₁ only₁ => ?_
  cases result with
  | error e => exact only₁
  | ok _ =>
    dsimp only
    split
    · refine wp_mono (wp_keeping keeping_fatal) fun result w₂ same => ?_
      rw [← same] at only₁
      cases result with
      | error e => exact only₁
      | ok _ => exact only₁.mono (Set.subset_insert _ _)
    · refine wp_mono (wp_runVerifyFnInsideTempMount only₁) fun result w₂ after => ?_
      rw [if_neg Bool.false_ne_true] at after
      exact after

/-- A verified session directory leaves its package mounted temporarily, an error nothing. -/
theorem wp_verifySessionDir_temps {sessionId : Int} (only : OnlyTempsOf S before w.database) :
    wp failing Anything (verifySessionDir env sessionId) (fun result w' => match result with
      | .ok verified => OnlyTempsOf (insert verified.manifest.name S) before w'.database
      | .error _ => OnlyTempsOf S before w'.database) w := by
  rw [verifySessionDir, wp_bind]
  refine wp_mono (wp_keeping (keeping_findFilesBySuffix _ _)) fun result w₁ same => ?_
  rw [← same] at only
  cases result with
  | error e => exact only
  | ok scan =>
    dsimp only
    split
    · exact only
    · rw [wp_bind, verifyPackages, wp_bind]
      have atMostOne : (openApexFiles scan).Yields fun apexFiles => apexFiles.length ≤ 1 := by
        rename_i notMore
        unfold openApexFiles
        split
        · trivial
        · refine (Program.yields_collect _ _).mono fun apexFiles length => ?_
          rw [length]
          exact Nat.le_of_not_lt notMore
      refine wp_mono (wp_yields atMostOne (wp_keeping (keeping_openApexFiles _))) ?_
      rintro result w₂ ⟨same₂, short⟩
      rw [← same₂] at only
      cases result with
      | error e => exact only
      | ok apexFiles =>
        have short := short apexFiles rfl
        cases apexFiles with
        | nil => exact only
        | cons apexFile rest =>
          obtain rfl : rest = [] := by simpa using short
          dsimp only
          rw [wp_bind]
          change wp failing Anything (verifyPackageStagedInstall env apexFile >>= fun _ => pure ()) _ w₂
          rw [wp_bind]
          refine wp_mono (wp_verifyPackageStagedInstall only) fun result w₃ after => ?_
          cases result with
          | error e => exact after
          | ok _ => exact after

/-! ### Unmounting -/

theorem wp_forallMountedApexesOf {package : String} {matchTempMounts : Bool}
    {Q : Except String (List (MountedApexData × Bool)) → World → Prop}
    (post : Q (.ok (w.database.forallMountedApexesOf package matchTempMounts)) w) :
    wp failing Anything (forallMountedApexesOf package matchTempMounts) Q w := by
  refine wp_withFaults (fun reply w' answer => ⟨trivial, ?_⟩) fun mayFail => mayFail.elim
  cases answer
  exact post

theorem length_tempMounts (database : MountedApexDatabase) (package : String) :
    (database.forallMountedApexesOf package true).length = (database.mountsOf package).temps.length := by
  rw [← List.length_map Prod.fst, MountedApexDatabase.forallMountedApexesOf,
    MountedSet.map_fst_filter_reversed, List.length_reverse]

/-- The loop ends because it finds no temporary mount of the package, however many more rounds
it would be given. -/
theorem wp_unmountTempMounts {count : Nat} (only : OnlyTempsOf (insert apex.manifest.name S) before
      w.database) (enough : (w.database.mountsOf apex.manifest.name).temps.length ≤ count) :
    wp failing Anything (unmountTempMounts apex count)
      (fun result w' => result = .ok () ∧ OnlyTempsOf S before w'.database) w := by
  induction count generalizing w with
  | zero =>
    have none := List.length_eq_zero_iff.mp (Nat.le_zero.mp enough)
    exact ⟨rfl, only.of_temps_eq_nil none⟩
  | succ count ih =>
    rw [unmountTempMounts, wp_bind, getTempMountedApexData, wp_bind]
    apply wp_forallMountedApexesOf
    have visits := MountedSet.map_fst_filter_reversed (w.database.mountsOf apex.manifest.name)
    dsimp only
    rw [wp_pure, MountedApexDatabase.forallMountedApexesOf, ← List.head?_map, visits]
    cases first : (w.database.mountsOf apex.manifest.name).temps.reverse.head? with
    | none =>
      have none : (w.database.mountsOf apex.manifest.name).temps = [] := by simpa using first
      exact ⟨rfl, only.of_temps_eq_nil none⟩
    | some data =>
      have member : data ∈ (w.database.mountsOf apex.manifest.name).temps :=
        List.mem_reverse.mp (List.mem_of_mem_head? first)
      dsimp only
      rw [wp_bind]
      apply wp_removeMountedApex
      dsimp only
      rw [wp_bind, wp_ignore]
      refine wp_mono (wp_keeping (keeping_unmount data false)) fun _ w₁ same => ?_
      dsimp only at same
      have fewer := only.remove (T := insert apex.manifest.name S)
        data.fullPath (fun notIn => absurd (Set.mem_insert _ _) notIn) (Set.subset_insert _ _)
      rw [← same] at fewer
      refine ih fewer ?_
      rw [same, OnlyTempsOf.mountsOf_removeMountedApex, if_pos rfl, MountedSet.temps_remove,
        List.length_eraseP_of_mem member (by simp)]
      omega

theorem wp_unmountTempMount (only : OnlyTempsOf (insert apex.manifest.name S) before w.database) :
    wp failing Anything (unmountTempMount apex)
      (fun result w' => result = .ok () ∧ OnlyTempsOf S before w'.database) w := by
  rw [unmountTempMount, wp_bind]
  apply wp_forallMountedApexesOf
  exact wp_unmountTempMounts only (length_tempMounts _ _).ge

/-- The packages of some files. -/
def packagesOf (apexFiles : List ApexFile) : Set String :=
  {package | ∃ apex ∈ apexFiles, apex.manifest.name = package}

theorem packagesOf_cons (apex : ApexFile) (rest : List ApexFile) :
    packagesOf (apex :: rest) = insert apex.manifest.name (packagesOf rest) := by
  ext package
  simp [packagesOf, eq_comm]

theorem packagesOf_append_singleton (apexFiles : List ApexFile) (apex : ApexFile) :
    packagesOf (apexFiles ++ [apex]) = insert apex.manifest.name (packagesOf apexFiles) := by
  ext package
  simp only [packagesOf, List.mem_append, List.mem_singleton, Set.mem_ofPred_eq, Set.mem_insert_iff]
  grind

theorem wp_unmountAll {apexFiles : List ApexFile}
    (only : OnlyTempsOf (packagesOf apexFiles) before w.database) :
    wp failing Anything (apexFiles.forM unmountTempMount)
      (fun _ w' => OnlyTempsOf ∅ before w'.database) w := by
  induction apexFiles generalizing w with
  | nil => exact only.mono fun package member => by simp [packagesOf] at member
  | cons apex rest ih =>
    change wp failing Anything (unmountTempMount apex >>= fun _ => rest.forM unmountTempMount) _ w
    rw [wp_bind]
    rw [packagesOf_cons] at only
    refine wp_mono (wp_unmountTempMount only) ?_
    rintro _ w₁ ⟨rfl, only₁⟩
    exact ih only₁

/-! ### Submission and class paths -/

theorem wp_verifySessionDirs_temps {ids : List Int} {verified : List ApexFile}
    (only : OnlyTempsOf (packagesOf verified) before w.database) :
    wp failing Anything (verifySessionDirs env ids verified) (fun result w' => match result with
      | .ok apexFiles => OnlyTempsOf (packagesOf apexFiles) before w'.database
      | .error _ => OnlyTempsOf ∅ before w'.database) w := by
  induction ids generalizing verified w with
  | nil => exact only
  | cons id rest ih =>
    rw [verifySessionDirs, wp_bind, wp_onError]
    refine wp_mono (wp_verifySessionDir_temps only) fun result w₁ only₁ => ?_
    cases result with
    | error e => exact wp_unmountAll only₁
    | ok apex =>
      refine ih ?_
      rw [packagesOf_append_singleton]
      exact only₁

theorem wp_submitStagedSession_temps {sessionId : Int} {childSessionIds : List Int}
    {hasRollbackEnabled isRollback : Bool} {rollbackId : Int}
    (only : OnlyTempsOf ∅ before w.database) :
    wp failing Anything (submitStagedSession env sessionId childSessionIds hasRollbackEnabled
      isRollback rollbackId) (fun _ w' => OnlyTempsOf ∅ before w'.database) w := by
  have verifying (w₁ : World) (only₁ : OnlyTempsOf ∅ before w₁.database) : wp failing Anything
      (do
        let ret ← verifySessionDirs env (idsToScan sessionId childSessionIds) []
        (createVerifiedSession env sessionId childSessionIds hasRollbackEnabled isRollback rollbackId
          ret).onError (ret.forM unmountTempMount)
        ret.forM unmountTempMount
        pure ret) (fun _ w' => OnlyTempsOf ∅ before w'.database) w₁ := by
    rw [wp_bind]
    refine wp_mono (wp_verifySessionDirs_temps (only₁.mono (Set.empty_subset _))) ?_
    intro result w₂ only₂
    cases result with
    | error e => exact only₂
    | ok ret =>
      dsimp only
      rw [wp_bind, wp_onError]
      refine wp_mono (wp_keeping keeping_createVerifiedSession) fun result w₃ same => ?_
      rw [← same] at only₂
      cases result with
      | error e => exact wp_unmountAll only₂
      | ok _ =>
        dsimp only
        rw [wp_bind]
        refine wp_mono (wp_unmountAll only₂) fun result w₄ only₄ => ?_
        cases result <;> exact only₄
  unfold submitStagedSession
  split
  · exact only
  · dsimp only
    split
    · rw [wp_bind]
      refine wp_mono (wp_keeping keeping_backupActivePackages) fun result w₁ same => ?_
      rw [← same] at only
      cases result with
      | error e => exact only
      | ok _ => exact verifying w₁ only
    · exact verifying w only

theorem wp_mountAndDeriveClassPath {α : Type} {deriveClassPath : List String → Except String α}
    {apexFiles : List ApexFile} (only : OnlyTempsOf ∅ before w.database) :
    wp failing Anything (mountAndDeriveClassPath env deriveClassPath apexFiles)
      (fun _ w' => OnlyTempsOf ∅ before w'.database) w := by
  have mounting : wp failing Anything (.collect (fun apex => do
      let tempMountPoint := getPackageTempMountPoint apex.manifest
      mountPackage env apex tempMountPoint (getPackageId apex.manifest ++ ".tmp") false true
      pure tempMountPoint) apexFiles)
      (fun _ w' => OnlyTempsOf (packagesOf apexFiles) before w'.database) w := by
    refine wp_collect (fun done _ w' => OnlyTempsOf (packagesOf done) before w'.database)
      (only.mono (Set.empty_subset _)) ?_ fun _ _ only' => only'
    rintro done apex rest values w₁ rfl only₁
    have subset : insert apex.manifest.name (packagesOf done) ⊆ packagesOf (done ++ apex :: rest) := by
      intro package member
      simp only [packagesOf, Set.mem_insert_iff, Set.mem_ofPred_eq, List.mem_append, List.mem_cons] at *
      grind
    rw [wp_bind]
    refine wp_mono (wp_mountPackage_temp only₁) fun result w₂ after => ?_
    cases result with
    | error e => exact OnlyTempsOf.mono after ((Set.subset_insert _ _).trans subset)
    | ok _ =>
      rw [wp_pure, packagesOf_append_singleton]
      exact after
  rw [mountAndDeriveClassPath, wp_bind, wp_onError, wp_bind]
  refine wp_mono mounting fun result w₁ only₁ => ?_
  have unmounting := wp_unmountAll only₁
  cases result with
  | error e => exact unmounting
  | ok paths =>
    dsimp only
    rw [wp_ofExcept]
    cases deriveClassPath paths with
    | error e => exact unmounting
    | ok classPath =>
      dsimp only
      rw [wp_bind, wp_ignore]
      exact unmounting

theorem mountsNothing_unmountTempMounts (count : Nat) :
    (unmountTempMounts apex count).Within MountsNothing := by
  induction count with
  | zero => trivial
  | succ count ih =>
    have asking : (getTempMountedApexData apex.manifest.name).Within MountsNothing :=
      (Program.Within.perform (I := apexd) trivial).bind fun _ => trivial
    refine asking.bind fun found => ?_
    cases found with
    | none => trivial
    | some data =>
      have removing : (removeMountedApex apex.manifest.name data.fullPath true).Within
        MountsNothing := Program.Within.perform (I := apexd) trivial
      have unmounting : (unmount data false).Within MountsNothing := within_unmount trivial trivial
      exact removing.bind fun _ => unmounting.ignore.bind fun _ => ih

/-- Whatever fails, the database of mounts is as it was when a session was submitted or a class
path was derived, and the loop that unmounts temporary mounts ends because it finds none. -/
theorem tempMounts_never_leak (noTemp : ∀ package, (w.database.mountsOf package).temps = []) :
    (∀ sessionId childSessionIds hasRollbackEnabled isRollback rollbackId result w',
      Runs failing (submitStagedSession env sessionId childSessionIds hasRollbackEnabled isRollback
        rollbackId) w result w' → ∀ package,
          w'.database.mountsOf package = w.database.mountsOf package) ∧
    (∀ (α : Type) (deriveClassPath : List String → Except String α) apexFiles result w',
      Runs failing (mountAndDeriveClassPath env deriveClassPath apexFiles) w result w' →
        ∀ package, w'.database.mountsOf package = w.database.mountsOf package) ∧
    ∀ apex (w₁ : World) count,
      (w₁.database.mountsOf apex.manifest.name).temps.length ≤ count →
        (∃ result w', Runs failing (unmountTempMounts apex count) w₁ result w') ∧
        ∀ result w', Runs failing (unmountTempMounts apex count) w₁ result w' →
          result = .ok () ∧ (w'.database.mountsOf apex.manifest.name).temps = [] := by
  have start : OnlyTempsOf ∅ w.database w.database := ⟨fun _ => rfl, fun package _ => noTemp package⟩
  refine ⟨?_, ?_, ?_⟩
  · intro _ _ _ _ _ _ _ run package
    exact start.mountsOf_eq (wp_runs (wp_submitStagedSession_temps start) run)
  · intro _ _ _ _ _ run package
    exact start.mountsOf_eq (wp_runs (wp_mountAndDeriveClassPath start) run)
  · intro apex w₁ count enough
    refine ⟨(mountsNothing_unmountTempMounts count).exists_runs (fun request mountsNothing w₂ => ?_) w₁,
      fun result w' run => ?_⟩
    · obtain ⟨reply, w₃, answer⟩ := answered_of_mountsNothing request mountsNothing w₂
      exact ⟨reply, w₃, .inl answer⟩
    have others : OnlyTempsOf (insert apex.manifest.name {apex.manifest.name}ᶜ) w₁.database
        w₁.database := ⟨fun _ => rfl, fun package notIn => by
      simp [Classical.em] at notIn⟩
    obtain ⟨isOk, only⟩ := wp_runs (wp_unmountTempMounts others enough) run
    exact ⟨isOk, only.temps _ (by simp)⟩

/-- A device with two packages that wait, the second of which is not pre-installed. -/
def secondUnknown : World :=
  .ofDirectories [(.staged 1, [("foo.apex", .apex (.plain "foo" 2 1))]),
    (.staged 2, [("bar.apex", .apex (.plain "bar" 2 1))])]

theorem tempMounts_never_leak_secondUnknown : ∃ e w',
    Runs failing (submitStagedSession (.plain (.ofPackages ["foo"])) 3 [1, 2] false false 0)
      secondUnknown (.error e) w' ∧ (w'.database.mountsOf "foo").entries = [] := by
  obtain ⟨result, w', run, check⟩ := exists_runs deviceHandler_sound.withFaults
    (submitStagedSession (.plain (.ofPackages ["foo"])) 3 [1, 2] false false 0) secondUnknown
    (fun result w' => result.toOption = none && (w'.database.lookup "foo").isSome) (by decide +kernel)
  cases result with
  | ok apexFiles => simp [Except.toOption] at check
  | error e =>
    have same := (@tempMounts_never_leak secondUnknown (.plain (.ofPackages ["foo"]))
      fun _ => rfl).1 _ _ _ _ _ _ _ run "foo"
    exact ⟨e, w', run, by rw [same]; rfl⟩

end Apexd
