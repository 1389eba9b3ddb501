import Apexd.Model.Lifecycle
import Apexd.Process.Faults

/-! # What the procedures leave alone

Most procedures of apexd do not write a session, and each writes in a few directories only.
`Touches P` says so of a call; a procedure all of whose calls touch `P` at most changes neither
a session nor a directory outside of `P`, whatever the calls answer and whichever of them fail.
-/

namespace Apexd

open Process Storage

/-- A call that writes no session and changes directories in `P` only. -/
def Touches (P : DirId → Prop) : Call → Prop
  | .session .list | .session (.read _) => True
  | .session _ => False
  | .fs request => ∀ d, request.changes d = true → P d
  | .createFile path _ => P path.dir
  | _ => True

/-- Nothing outside of `P` changed on disk, and no session. -/
structure SameOutside (P : DirId → Prop) (w w' : World) : Prop where
  sessions : w'.sessions = w.sessions
  dir : ∀ d, ¬ P d → w'.fs.dir d = w.fs.dir d

variable {P : DirId → Prop} {w w' w'' : World}

theorem SameOutside.refl (P : DirId → Prop) (w : World) : SameOutside P w w :=
  ⟨rfl, fun _ _ => rfl⟩

theorem SameOutside.trans (first : SameOutside P w w') (second : SameOutside P w' w'') :
    SameOutside P w w'' :=
  ⟨second.sessions.trans first.sessions, fun d outside =>
    (second.dir d outside).trans (first.dir d outside)⟩

theorem database_effect_frame {request : DatabaseCall} {reply : Except String request.Reply}
    (answer : request.effect w = some (reply, w')) :
    w'.fs = w.fs ∧ w'.sessions = w.sessions := by
  cases request with
  | forallMountedApexesOf | forallMountedApexes | removeMountedApex =>
    cases answer
    exact ⟨rfl, rfl⟩
  | addMountedApex package data =>
    obtain ⟨database, _, same⟩ := Option.map_eq_some_iff.mp answer
    cases same
    exact ⟨rfl, rfl⟩
  | bindMountIfLatest package fullPath target source =>
    simp only [DatabaseCall.effect] at answer
    split at answer <;> cases answer <;> exact ⟨rfl, rfl⟩

theorem kernel_answers_frame {request : KernelCall} {reply : Except String request.Reply}
    (answer : request.Answers w reply w') : w'.fs = w.fs ∧ w'.sessions = w.sessions := by
  cases request with
  | mountImage request =>
    simp only [KernelCall.Answers] at answer
    split at answer
    · rw [answer.2]
      exact ⟨rfl, rfl⟩
    · obtain ⟨_, _, _, _, rfl⟩ := answer
      exact ⟨rfl, rfl⟩
  | umount target detach =>
    simp only [KernelCall.Answers, World.umount] at answer
    split at answer <;> cases answer <;> exact ⟨rfl, rfl⟩
  | listDevices | isSuspended name =>
    rw [answer.1]
    exact ⟨rfl, rfl⟩
  | deleteVerityDevice name deferred =>
    rcases answer.2 with rfl | ⟨_, rfl⟩ <;> exact ⟨rfl, rfl⟩

/-- The frame of a call. -/
theorem sameOutside_of_touches {request : Call} (touches : Touches P request)
    {reply : Except String (apexd.Reply request)} (answer : device request w reply w') :
    SameOutside P w w' := by
  have ofSame (same : w'.fs = w.fs ∧ w'.sessions = w.sessions) : SameOutside P w w' :=
    ⟨same.2, fun d _ => by rw [same.1]⟩
  cases request with
  | fs request =>
    obtain ⟨fs', answered, rfl⟩ := answer
    refine ⟨rfl, fun d outside => answered.frame ?_⟩
    exact Bool.not_eq_true _ ▸ fun changes => outside (touches d changes)
  | createFile path content =>
    simp only [device, World.createFile] at answer
    split at answer
    · cases answer
      exact .refl P w
    · split at answer
      · cases answer
        refine ⟨rfl, fun d outside => w.fs.dir_update_ne ?_ _⟩
        rintro rfl
        exact outside touches
      · cases answer
        exact .refl P w
  | getDeUserDirs =>
    rw [answer.1]
    exact .refl P w
  | restorecon dir =>
    rw [answer.2]
    exact .refl P w
  | session request =>
    obtain ⟨store, answered, rfl⟩ := answer
    cases request with
    | list =>
      rw [answered.1]
      exact .refl P w
    | read sessionDir =>
      have same : store = w.sessions := by
        refine (congrArg Prod.snd answered).trans ?_
        simp only [SessionCall.effect]
        split <;> rfl
      rw [same]
      exact .refl P w
    | createDir | commit | delete => exact touches.elim
  | database request => exact ofSame (database_effect_frame answer)
  | kernel request => exact ofSame (kernel_answers_frame answer)
  | outside request =>
    rw [answer.2]
    exact .refl P w
  | markChanged package =>
    obtain ⟨_, rfl⟩ := answer
    exact ofSame ⟨rfl, rfl⟩
  | fatal => exact answer.elim

/-! ## Calls and helpers -/

abbrev Frames {α : Type} (P : DirId → Prop) (p : Procedure α) : Prop :=
  p.Within (Touches P)

section Helpers

variable {α β : Type} {p : Procedure α}

theorem frames_fsCall {request : FsCall DirId} (within : ∀ d, request.changes d = true → P d) :
    Frames P (fsCall request) :=
  ⟨within, fun _ => trivial⟩

theorem frames_reading {request : FsCall DirId} (reads : ∀ d, request.changes d = false) :
    Frames P (fsCall request) :=
  frames_fsCall fun d changes => absurd changes (by simp [reads d])

theorem frames_kernelCall (request : KernelCall) : Frames P (kernelCall request) :=
  ⟨trivial, fun _ => trivial⟩

theorem frames_databaseCall (request : DatabaseCall) : Frames P (databaseCall request) :=
  ⟨trivial, fun _ => trivial⟩

theorem frames_fatal : Frames P (fatal : Procedure α) := by
  refine ⟨trivial, fun reply => ?_⟩
  cases reply with
  | ok impossible => exact impossible.elim
  | error e => trivial

theorem frames_orErrno (frames : Frames P p) (text : String) : Frames P (orErrno p text) :=
  frames.mapError _

theorem frames_unlink {path : FilePath} (inside : P path.dir) : Frames P (unlink path) :=
  frames_fsCall fun d changes => by
    simp only [FsCall.changes, decide_eq_true_eq] at changes
    exact changes ▸ inside

theorem frames_link {source target : FilePath} (inside : P target.dir) :
    Frames P (link source target) :=
  frames_fsCall fun d changes => by
    simp only [FsCall.changes, decide_eq_true_eq] at changes
    exact changes ▸ inside

theorem frames_rename {source target : FilePath} (inside : P source.dir)
    (inside' : P target.dir) : Frames P (rename source target) :=
  frames_fsCall fun d changes => by
    simp only [FsCall.changes, Bool.or_eq_true, decide_eq_true_eq] at changes
    rcases changes with rfl | rfl
    · exact inside
    · exact inside'

theorem frames_accessible (path : FilePath) : Frames P (accessible path) := by
  refine (frames_reading fun _ => rfl).attempt.bind fun found => ?_
  cases found <;> trivial

theorem frames_pathExists (d : DirId) : Frames P (pathExists d) :=
  ((frames_reading fun _ => rfl).mapError _).bind fun _ => trivial

theorem frames_createDirIfNeeded {d : DirId} (inside : P d) (mode : Nat) :
    Frames P (createDirIfNeeded d mode) := by
  have only {request : FsCall DirId} (changes : ∀ x, request.changes x = true → x = d) :
      Frames P (fsCall request) :=
    frames_fsCall fun x isChanged => changes x isChanged ▸ inside
  have chmodded : Frames P (orErrno (chmod d mode) ("Could not chmod " ++ d.text)) :=
    frames_orErrno (only fun x changes => by simpa [FsCall.changes] using changes) _
  refine (frames_orErrno (frames_reading fun _ => rfl) _).bind fun found => ?_
  cases found with
  | none =>
    refine (frames_orErrno (only fun x changes => ?_) _).bind fun _ => chmodded
    simpa [FsCall.changes] using changes
  | some mode => exact chmodded

theorem frames_deleteDirContent {d : DirId} (inside : P d) : Frames P (deleteDirContent d) := by
  refine ((frames_reading fun _ => rfl).mapError _).bind fun files => ?_
  refine Program.Within.forM fun name _ => (frames_fsCall fun x changes => ?_).mapError _
  simp only [FsCall.changes, decide_eq_true_eq] at changes
  exact changes ▸ inside

theorem frames_findFilesBySuffix (d : DirId) (suffixList : List String) :
    Frames P (findFilesBySuffix d suffixList) :=
  ((frames_reading fun _ => rfl).mapError _).bind fun _ => trivial

/-- The files that are found are in the directory that was searched. -/
theorem yields_findFilesBySuffix (d : DirId) (suffixList : List String) :
    (findFilesBySuffix d suffixList).Yields fun paths => ∀ path ∈ paths, path.dir = d := by
  refine (Program.yields_trivial _).bind fun names _ path member => ?_
  obtain ⟨name, _, rfl⟩ := List.mem_map.mp member
  rfl

theorem frames_apexFile_open (path : FilePath) : Frames P (ApexFile.open path) :=
  (frames_orErrno (frames_reading fun _ => rfl) _).bind fun _ => trivial

/-- An opened file remembers where it was opened. -/
theorem yields_apexFile_open (path : FilePath) :
    (ApexFile.open path).Yields fun apexFile => apexFile.path = path :=
  (Program.yields_trivial _).bind fun _ _ => Program.yields_ofExcept fun _ opened =>
    (openContent_eq_ok_iff.mp opened).2.1

theorem frames_openApexFiles (paths : List FilePath) : Frames P (openApexFiles paths) := by
  unfold openApexFiles
  split
  · trivial
  · exact Program.Within.collect fun path _ => frames_apexFile_open path

theorem frames_getSessions : Frames P getSessions := by
  have list : Frames P (sessionCall .list) := ⟨trivial, fun _ => trivial⟩
  refine list.attempt.bind fun found => ?_
  cases found <;> trivial

theorem frames_getDeUserDirs : Frames P getDeUserDirs :=
  ⟨trivial, fun _ => trivial⟩

end Helpers

/-- What a procedure leaves alone, in runs without faults. -/
theorem wp_sameOutside {α : Type} {p : Procedure α} {G : Guarantee apexd World}
    (frames : Frames P p)
    (guarantee : ∀ request w₁ w₂, SameOutside P w₁ w₂ → G request w₁ w₂) :
    wp device G p (fun _ w' => SameOutside P w w') w :=
  wp_frame frames (SameOutside P w) (fun _ touches _ _ _ kept answer =>
    ⟨guarantee _ _ _ (sameOutside_of_touches touches answer),
      kept.trans (sameOutside_of_touches touches answer)⟩) (.refl P w)

/-! ## Mounting and verification -/

section Verification

variable {env : Environment} {apex : ApexFile}

theorem frames_mountPackageImpl (mountPoint deviceName : String) (hashtreeFile : FilePath)
    (verifyImage reuseDevice tempMount : Bool) :
    Frames P (mountPackageImpl env apex mountPoint deviceName hashtreeFile verifyImage reuseDevice
      tempMount) := by
  unfold mountPackageImpl
  split
  · trivial
  · refine (Program.within_ofExcept _).bind fun publicKey => ?_
    exact ((Program.within_ofExcept _).mapError _).bind fun treeSize => frames_kernelCall _

/-- The two calls of an unmount. -/
theorem within_unmount {allowed : Call → Prop} {data : MountedApexData} {deferred : Bool}
    (umounts : allowed (.kernel (.umount data.mountPoint false)))
    (deletes : allowed (.kernel (.deleteVerityDevice data.deviceName deferred))) :
    (unmount data deferred).Within allowed := by
  have umounted : (umountIfMounted data.mountPoint).Within allowed := by
    have call : (kernelCall (.umount data.mountPoint false)).Within allowed :=
      ⟨umounts, fun _ => trivial⟩
    refine call.attempt.bind fun result => ?_
    cases result with
    | ok _ => trivial
    | error e =>
      dsimp only
      split <;> trivial
  refine umounted.bind fun _ => ?_
  split
  · exact ⟨deletes, fun _ => trivial⟩
  · trivial

theorem frames_unmount (data : MountedApexData) (deferred : Bool) :
    Frames P (unmount data deferred) :=
  within_unmount trivial trivial

theorem frames_verifyAndTempMountPackage (inside : P .hashTree) (mountPoint : String) :
    Frames P (verifyAndTempMountPackage env apex mountPoint) := by
  have mounting : Frames P (do
      let ret ← (mountPackageImpl env apex mountPoint (getPackageId apex.manifest ++ ".tmp")
        (getHashTreeFileName apex true) true false true).onError
          (unlink (getHashTreeFileName apex true))
      addMountedApex apex.manifest.name ret
      pure ret) :=
    ((frames_mountPackageImpl _ _ _ _ _ _).onError (frames_unlink inside)).bind fun ret =>
      (frames_databaseCall _).bind fun _ => trivial
  refine (frames_accessible _).bind fun found => ?_
  dsimp only
  split
  · exact (frames_orErrno (frames_unlink inside) _).bind fun _ => mounting
  · exact mounting

theorem frames_runVerifyFnInsideTempMount (inside : P .hashTree) (verifyFn : Except String Unit)
    (unmountDuringCleanup : Bool) :
    Frames P (runVerifyFnInsideTempMount env apex verifyFn unmountDuringCleanup) := by
  refine (frames_verifyAndTempMountPackage inside _).bind fun data => ?_
  have cleaner : Frames P (do
      (unmount data false).ignore
      removeMountedApex apex.manifest.name apex.path true) :=
    (frames_unmount _ _).ignore.bind fun _ => frames_databaseCall _
  refine ((Program.within_ofExcept _).onError cleaner).bind fun _ => ?_
  split
  · exact cleaner.ignore
  · trivial

theorem frames_unmountTempMounts (count : Nat) : Frames P (unmountTempMounts apex count) := by
  induction count with
  | zero => trivial
  | succ count ih =>
    refine ((frames_databaseCall _).bind fun _ => Program.within_pure _).bind fun found => ?_
    cases found with
    | none => trivial
    | some data =>
      exact (frames_databaseCall _).bind fun _ => (frames_unmount _ _).ignore.bind fun _ => ih

theorem frames_unmountTempMount : Frames P (unmountTempMount apex) :=
  (frames_databaseCall _).bind fun _ => frames_unmountTempMounts _

theorem frames_verifyVndkVersion : Frames P (verifyVndkVersion env apex) := by
  unfold verifyVndkVersion
  split
  · trivial
  · split
    · exact frames_fatal
    · trivial

theorem frames_verifyPackageBoot (inside : P .hashTree) : Frames P (verifyPackageBoot env apex) := by
  refine (Program.within_ofExcept _).bind fun publicKey => (Program.within_ofExcept _).bind fun _ => ?_
  dsimp only
  split
  · refine Program.Within.bind ?_ fun _ => frames_verifyVndkVersion
    exact (frames_apexFile_open _).bind fun _ => frames_runVerifyFnInsideTempMount inside _ _
  · exact frames_verifyVndkVersion

theorem frames_verifyPackageStagedInstall (inside : P .hashTree) :
    Frames P (verifyPackageStagedInstall env apex) := by
  refine (frames_verifyPackageBoot inside).bind fun _ => ?_
  split
  · exact frames_fatal
  · exact frames_runVerifyFnInsideTempMount inside _ _

theorem frames_verifySessionDir (inside : P .hashTree) (sessionId : Int) :
    Frames P (verifySessionDir env sessionId) := by
  refine (frames_findFilesBySuffix _ _).bind fun scan => ?_
  split
  · trivial
  · refine Program.Within.bind ?_ fun verified => ?_
    · exact (frames_openApexFiles _).bind fun apexFiles =>
        (Program.Within.forM fun apexFile _ => frames_verifyPackageStagedInstall inside).bind
          fun _ => trivial
    · cases verified <;> trivial

theorem frames_verifySessionDirs (inside : P .hashTree) (ids : List Int)
    (verified : List ApexFile) : Frames P (verifySessionDirs env ids verified) := by
  induction ids generalizing verified with
  | nil => trivial
  | cons id rest ih =>
    refine ((frames_verifySessionDir inside _).onError ?_).bind fun apex => ih _
    exact Program.Within.forM fun apexFile _ => frames_unmountTempMount

end Verification

/-! ## Staging -/

section Staging

variable {env : Environment} {apexFile : ApexFile}

theorem frames_promoteHashtree (inside : P .hashTree) : Frames P (promoteHashtree apexFile) := by
  refine (frames_accessible _).bind fun found => ?_
  split
  · exact (frames_orErrno (frames_rename inside inside) _).bind fun _ => trivial
  · trivial

theorem frames_linkPackage (inside : P .active) : Frames P (linkPackage apexFile) := by
  have linking : Frames P (orErrno (link apexFile.path (stageDestPath apexFile))
      ("Unable to link " ++ pathText apexFile.path ++ " to " ++
        pathText (stageDestPath apexFile))) :=
    frames_orErrno (frames_link inside) _
  refine (frames_accessible _).bind fun found => ?_
  dsimp only
  split
  · exact (frames_orErrno (frames_unlink inside) _).bind fun _ => linking
  · exact linking

theorem frames_deleter (staged : Staged) (inside : ∀ path ∈ staged.stagedFiles, P path.dir)
    (inside' : ∀ path ∈ staged.changedHashtreeFiles, P path.dir) : Frames P staged.deleter :=
  (Program.Within.forM fun path member => (frames_unlink (inside path member)).ignore).bind fun _ =>
    Program.Within.forM fun path member => (frames_unlink (inside' path member)).ignore

/-- What was promoted is in the hash tree directory. -/
theorem yields_promoteHashtree (apexFile : ApexFile) :
    (promoteHashtree apexFile).Yields fun changed => ∀ path ∈ changed.toList,
      path.dir = .hashTree := by
  refine (Program.yields_trivial _).bind fun found _ => ?_
  split
  · refine (Program.yields_trivial _).bind fun _ _ path member => ?_
    rw [List.mem_singleton.mp member]
    rfl
  · intro path member
    cases member

theorem frames_stageLoop (isActive : P .active) (isHashTree : P .hashTree)
    (apexFiles : List ApexFile) {staged : Staged} (inside : ∀ path ∈ staged.stagedFiles, P path.dir)
    (inside' : ∀ path ∈ staged.changedHashtreeFiles, P path.dir) :
    Frames P (stageLoop apexFiles staged) := by
  induction apexFiles generalizing staged with
  | nil => trivial
  | cons apexFile rest ih =>
    refine ((frames_promoteHashtree isHashTree).onError
      (frames_deleter staged inside inside')).bind_of_yields (yields_promoteHashtree apexFile).onError
      fun changed isChanged => ?_
    have promoted : ∀ path ∈ (staged.promoted changed).changedHashtreeFiles, P path.dir := by
      intro path member
      rcases List.mem_append.mp member with earlier | last
      · exact inside' path earlier
      · rw [isChanged path last]
        exact isHashTree
    refine ((frames_linkPackage isActive).onError (frames_deleter (staged.promoted changed) inside promoted)).bind fun _ =>
      ih ?_ promoted
    intro path member
    rcases List.mem_insert_iff.mp member with rfl | earlier
    · exact isActive
    · exact inside path earlier

theorem frames_removePreviouslyActiveApexFiles (isActive : P .active) (affected : List String)
    (keep : List FilePath) : Frames P (removePreviouslyActiveApexFiles affected keep) := by
  refine (frames_findFilesBySuffix _ _).bind_of_yields (yields_findFilesBySuffix _ _)
    fun paths inside => Program.Within.forM fun path member => ?_
  refine (frames_apexFile_open path).bind_of_yields (yields_apexFile_open path)
    fun apexFile samePath => ?_
  split
  · refine frames_orErrno (frames_unlink ?_) _
    rw [samePath, inside path member]
    exact isActive
  · trivial

theorem frames_stagePackages (isActive : P .active) (isHashTree : P .hashTree)
    (paths : List FilePath) : Frames P (stagePackages env paths) := by
  refine (frames_openApexFiles paths).bind fun apexFiles => ?_
  refine (Program.Within.forM fun apexFile _ => ?_).bind fun _ => ?_
  · unfold verifyBeforeStaging
    split
    · trivial
    · exact frames_verifyPackageBoot isHashTree
  · refine (frames_createDirIfNeeded isActive _).bind fun _ => ?_
    refine (frames_stageLoop isActive isHashTree apexFiles ?_ ?_).bind fun staged =>
      frames_removePreviouslyActiveApexFiles isActive _ _
    · simp [Staged.none]
    · simp [Staged.none]

theorem frames_openedNames (paths : List FilePath) : Frames P (openedNames paths) := by
  induction paths with
  | nil => trivial
  | cons path rest ih =>
    refine (frames_apexFile_open path).attempt.bind fun opened => ih.bind fun names => ?_
    cases opened <;> trivial

theorem frames_stageSession (isActive : P .active) (isHashTree : P .hashTree)
    (session : ApexSession) : Frames P (stageSession env session) := by
  unfold stageSession
  split
  · trivial
  · split
    · trivial
    · refine (Program.Within.collect fun stagingId _ => ?_).bind fun apexes => ?_
      · refine (frames_findFilesBySuffix _ _).bind fun found => ?_
        match found with
        | [] | [_] | _ :: _ :: _ => trivial
      · exact (frames_openedNames apexes).bind fun names =>
          ((frames_stagePackages isActive isHashTree apexes).mapError _).bind fun _ => trivial

end Staging

/-! ## Backup and restore -/

theorem frames_deleteBackup (inside : P .backup) : Frames P deleteBackup := by
  refine ((frames_pathExists _).mapError _).bind fun exists' => ?_
  split
  · exact frames_deleteDirContent inside
  · trivial

theorem frames_backupActivePackages (inside : P .backup) : Frames P backupActivePackages := by
  refine ((frames_createDirIfNeeded inside _).mapError _).bind fun _ => ?_
  refine ((frames_pathExists _).mapError _).bind fun exists' => ?_
  split
  · refine ((frames_findFilesBySuffix _ _).mapError _).bind fun packages => ?_
    refine ((frames_deleteBackup inside).mapError _).bind fun _ => ?_
    refine Program.Within.onError (Program.Within.forM fun path _ => ?_)
      (frames_deleteDirContent inside)
    exact ((frames_apexFile_open path).mapError _).bind fun apexFile =>
      frames_orErrno (frames_link inside) _
  · trivial

theorem frames_restoreActivePackages (isActive : P .active) (isBackup : P .backup) :
    Frames P restoreActivePackages := by
  refine (frames_pathExists _).bind fun exists' => ?_
  split
  · trivial
  · refine (frames_orErrno (frames_reading fun _ => rfl) _).bind fun mode => ?_
    cases mode with
    | none => trivial
    | some mode =>
      refine (frames_deleteDirContent isActive).bind fun _ => ?_
      refine (frames_orErrno (frames_fsCall fun d changes => ?_) _).bind fun _ => ?_
      · simp only [FsCall.changes, Bool.or_eq_true, decide_eq_true_eq] at changes
        rcases changes with rfl | rfl
        · exact isBackup
        · exact isActive
      · refine frames_orErrno (frames_fsCall fun d changes => ?_) _
        simp only [FsCall.changes, decide_eq_true_eq] at changes
        exact changes ▸ isActive

/-! ## Snapshots and clean-up -/

/-- The directories with data of APEXes and with snapshots of it. -/
def OfSnapshots : DirId → Prop
  | .apexData _ _ | .snapshots _ | .rollback _ _ _ | .snapshot _ _ _ _ => True
  | _ => False

/-- Those in one base directory. -/
def OfBase (base : String) : DirId → Prop
  | .apexData baseDir _ | .rollback baseDir _ _ | .snapshot baseDir _ _ _ => baseDir = base
  | _ => False

theorem OfBase.ofSnapshots {base : String} {d : DirId} (ofBase : OfBase base d) : OfSnapshots d := by
  cases d <;> trivial

theorem frames_getDeUserDirsOrDie : Frames P getDeUserDirsOrDie := by
  refine frames_getDeUserDirs.attempt.bind fun found => ?_
  cases found with
  | ok userDirs => trivial
  | error e => exact frames_fatal

section Snapshots

section Base

variable {baseDir : String} (inBase : ∀ d, OfBase baseDir d → P d)
include inBase

theorem frames_removeSnapshotDir {d : DirId} (ofBase : OfBase baseDir d) :
    Frames P (fsCall (.removeDir d)) := by
  refine frames_fsCall fun x changes => inBase x ?_
  simp only [FsCall.changes, Nested.inside, DirId.inside, Bool.or_eq_true, decide_eq_true_eq] at changes
  rcases changes with rfl | inside
  · exact ofBase
  · split at inside
    · exact ofBase.elim
    · exact ofBase.elim
    · simp only [Bool.and_eq_true, decide_eq_true_eq] at inside
      exact inside.1.1.trans ofBase
    · cases inside

theorem frames_replaceFiles {source target : DirId} (ofBase : OfBase baseDir target) :
    Frames P (replaceFiles source target) := by
  refine ((frames_removeSnapshotDir inBase ofBase).mapError _).bind fun _ => ?_
  refine Program.Within.onError ((frames_fsCall fun x changes => ?_).mapError _)
    (frames_removeSnapshotDir inBase ofBase)
  simp only [FsCall.changes, decide_eq_true_eq] at changes
  exact changes ▸ inBase _ ofBase

theorem frames_restoreDataDirectory (rollbackId : Int) (apexName : String) (preRestore : Bool) :
    Frames P (restoreDataDirectory baseDir rollbackId apexName preRestore) := by
  have restorecon : Frames P (restoreconPath (.dir (.apexData baseDir apexName))) := by
    have call : Frames P (.call (.restorecon (.dir (.apexData baseDir apexName))) .done : Procedure Unit) :=
      ⟨trivial, fun _ => trivial⟩
    exact frames_orErrno call _
  have isData : OfBase baseDir (.apexData baseDir apexName) := rfl
  have isSnapshot : OfBase baseDir (.snapshot baseDir rollbackId preRestore apexName) := rfl
  exact (frames_replaceFiles inBase isData).bind fun _ => restorecon.bind fun _ =>
    Program.Within.ignore ((frames_removeSnapshotDir inBase isSnapshot).mapError _)

theorem frames_snapshotOrRestoreDeIfNeeded (env : Environment) (session : ApexSession) :
    Frames P (snapshotOrRestoreDeIfNeeded env baseDir session) := by
  have snapshots (apexName : String) (rollbackId : Int) (preRestore : Bool) :
      Frames P (snapshotDataDirectory baseDir rollbackId apexName preRestore) := by
    have isRollback : OfBase baseDir (.rollback baseDir rollbackId preRestore) := rfl
    have isSnapshot : OfBase baseDir (.snapshot baseDir rollbackId preRestore apexName) := rfl
    exact ((frames_createDirIfNeeded (inBase _ isRollback) _).mapError _).bind fun _ =>
      frames_replaceFiles inBase isSnapshot
  unfold snapshotOrRestoreDeIfNeeded
  dsimp only
  split
  · exact Program.Within.forM fun apexName _ => (snapshots _ _ _).ignore
  · split
    · refine Program.Within.forM fun apexName _ => ?_
      have restored := (frames_restoreDataDirectory inBase session.state.rollbackId apexName
        false).ignore
      split
      · exact (snapshots _ _ _).ignore.bind fun _ => restored
      · exact restored
    · trivial

end Base

theorem frames_snapshotOrRestoreDeSysData (inBase : ∀ d, OfBase kDeSysDataDir d → P d)
    (env : Environment) : Frames P (snapshotOrRestoreDeSysData env) := by
  have sessions : Frames P (getSessionsInState .ACTIVATED) := frames_getSessions.bind fun _ => trivial
  exact sessions.bind fun sessions => Program.Within.forM fun session _ =>
    frames_snapshotOrRestoreDeIfNeeded inBase env session

variable (all : ∀ d, OfSnapshots d → P d)
include all

theorem frames_restoreDePreRestoreSnapshotsIfPresent (session : ApexSession) :
    Frames P (restoreDePreRestoreSnapshotsIfPresent session) := by
  have restores (baseDir : String) :
      Frames P (restorePreRestoreSnapshotsIfPresent baseDir session) := by
    refine Program.Within.bind ?_ fun exists' => ?_
    · refine (frames_pathExists _).attempt.bind fun found => ?_
      cases found <;> trivial
    · split
      · exact Program.Within.forM fun apexName _ =>
          (frames_restoreDataDirectory (fun d ofBase => all d ofBase.ofSnapshots) _ _ _).ignore
      · trivial
  exact (restores _).bind fun _ => frames_getDeUserDirsOrDie.bind fun userDirs =>
    Program.Within.forM fun userDir _ => restores userDir

theorem frames_deleteDePreRestoreSnapshots (session : ApexSession) :
    Frames P (deleteDePreRestoreSnapshots session) := by
  have deletes (baseDir : String) : Frames P (deleteDePreRestoreSnapshotsIn baseDir session) := by
    have isRollback : OfBase baseDir (.rollback baseDir session.state.rollbackId true) := rfl
    exact Program.Within.ignore ((frames_removeSnapshotDir (fun d ofBase => all d ofBase.ofSnapshots)
      isRollback).mapError _)
  exact (deletes _).bind fun _ => frames_getDeUserDirsOrDie.bind fun userDirs =>
    Program.Within.forM fun userDir _ => deletes userDir

end Snapshots

theorem frames_removeInactiveDataApex (all : ∀ d, P d) : Frames P removeInactiveDataApex := by
  have found (d : DirId) (suffixList : List String) :
      Frames P (filesOrNone (findFilesBySuffix d suffixList)) := by
    refine (frames_findFilesBySuffix _ _).attempt.bind fun result => ?_
    cases result <;> trivial
  refine (found _ _).bind fun active => (found _ _).bind fun decompressed =>
    Program.Within.forM fun path _ => ?_
  refine Program.Within.bind ?_ fun mounted => ?_
  · exact (frames_databaseCall _).bind fun _ => trivial
  · split
    · exact (frames_unlink (all _)).ignore
    · trivial

theorem frames_deleteUnusedVerityDevices (env : Environment) :
    Frames P (deleteUnusedVerityDevices env) := by
  refine (frames_kernelCall _).attempt.bind fun devices => ?_
  cases devices with
  | error e => trivial
  | ok allDevices =>
    refine Program.Within.forM fun dev _ => (frames_kernelCall _).bind fun suspended => ?_
    split
    · exact (frames_kernelCall _).ignore
    · trivial

end Apexd
