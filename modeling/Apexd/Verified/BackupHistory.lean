import Apexd.Verified.RevertRecovery

/-! # What a revert brings back

There is one backup for all sessions.  Every submission writes it anew, every session that is
marked successful empties it and every revert uses it up, so that what a revert brings back is
decided by the calls before it and not by the sessions that it marks.  The content of the backup
as a function of the calls is `afterCalls`; every entry point is shown to agree with it.
-/

namespace Apexd

open Process Storage

open Relation (ReflTransGen)

variable {env : Environment} {w₀ w w' : World}

/-! ## The content of the backup -/

/-- The packages of the backup by name, if there is one. -/
def World.backup (w : World) : Option (Directory Content) :=
  (w.fs.dir .backup).map Dir.files

/-- One more package for the backup, under its id; none where it cannot be backed up. -/
def keepPackage (fs : FileSystem DirId Content) (kept : Option (Directory Content))
    (path : FilePath) : Option (Directory Content) := do
  let packages ← kept
  match openAt fs path with
  | .error _ => none
  | .ok apexFile => packages.insertNew (backupPath apexFile).name (.apex apexFile.archive)

/-- The backup of the active directory; it is empty where a package cannot be opened or two
packages have one id. -/
def World.activeBackup (w : World) : Directory Content :=
  ((withSuffix .active [kApexPackageSuffix] (w.files .active).names).foldl (keepPackage w.fs)
    (some ∅)).getD ∅

/-- Whether there is a session that a revert takes up. -/
def World.hasActiveSession (w : World) : Bool :=
  (w.sessions.sessionsIn w.sessions.names).any isActive

/-- Whether there is a session whose revert was interrupted. -/
def World.hasRevertInProgress (w : World) : Bool :=
  sessionsInState w.sessions w.sessions.names .REVERT_IN_PROGRESS ≠ []

/-- What a revert in a state leaves of the backup. -/
def backupAfterRevert (env : Environment) (w : World) (backup : Option (Directory Content)) :
    Option (Directory Content) :=
  if !env.supportsFsCheckpoints && w.hasActiveSession && w.fs.has .active then none else backup

/-- What a call in a state makes of the backup. -/
def EntryPoint.backupAfter (backup : Option (Directory Content)) :
    EntryPoint × World → Option (Directory Content)
  | (.submitStagedSession env sessionId _ _ _ _, w) =>
    if sessionId = 0 || env.supportsFsCheckpoints then backup
    else some (if w.fs.has .active then w.activeBackup else backup.getD ∅)
  | (.markStagedSessionSuccessful _ sessionId, w) =>
    if w.stateIn (toString sessionId) = some .ACTIVATED then backup.map fun _ => ∅ else backup
  | (.revertActiveSessions env _ _, w) => backupAfterRevert env w backup
  | (.resumeRevertIfNeeded env, w) =>
    if w.hasRevertInProgress then backupAfterRevert env w backup else backup
  | _ => backup

/-- The backup after a history of calls, each with the state it was made in. -/
def afterCalls (backup : Option (Directory Content)) (calls : List (EntryPoint × World)) :
    Option (Directory Content) :=
  calls.foldl EntryPoint.backupAfter backup

/-! ## Calls that leave the backup alone -/

/-- A call that changes no directory but those in `P`. -/
def WritesIn (P : DirId → Prop) (request : Call) : Prop :=
  (∃ call, request = .session call) ∨ Touches P request

/-- Every directory but the backup. -/
def NotBackup (d : DirId) : Prop := d ≠ .backup

theorem backup_of_writesIn {request : Call} (writes : WritesIn NotBackup request)
    {reply : Except String (apexd.Reply request)} (answer : device request w reply w') :
    w'.fs.dir .backup = w.fs.dir .backup := by
  rcases writes with ⟨call, rfl⟩ | touches
  · obtain ⟨store, _, rfl⟩ := answer
    rfl
  · exact (sameOutside_of_touches touches answer).dir _ fun ne => ne rfl

/-- A procedure that writes elsewhere leaves the backup as it is, also where it is interrupted. -/
theorem wp_notBackup {α : Type} {p : Procedure α} (writes : p.Within (WritesIn NotBackup)) :
    wp device (fun _ w₁ w₂ => w₂.fs.dir .backup = w₁.fs.dir .backup) p
      (fun _ w' => w'.fs.dir .backup = w.fs.dir .backup) w := by
  refine wp_frame writes (fun w₁ : World => w₁.fs.dir .backup = w.fs.dir .backup) ?_ rfl
  intro request isWrite w₁ reply w₂ kept answer
  have same := backup_of_writesIn isWrite answer
  exact ⟨same, same.trans kept⟩

theorem wp_sameBackup {α : Type} {p : Procedure α} (writes : p.Within (WritesIn NotBackup)) :
    wp device Anything p (fun _ w' => w'.fs.dir .backup = w.fs.dir .backup) w :=
  wp_of_runs fun _ _ run => wp_runs (wp_notBackup writes) run

theorem writes_of_frames {α : Type} {p : Procedure α} (frames : Frames NotBackup p) :
    p.Within (WritesIn NotBackup) :=
  frames.mono fun _ => .inr

theorem writes_sessionCall {P : DirId → Prop} (request : SessionCall) :
    (sessionCall request).Within (WritesIn P) :=
  ⟨.inl ⟨request, rfl⟩, fun _ => trivial⟩

theorem writes_commit (session : ApexSession) (state : SessionState.State) :
    (session.updateStateAndCommit state).Within (WritesIn NotBackup) :=
  (writes_sessionCall _).mapError _

theorem notBackup_of_snapshots (d : DirId) (ofSnapshots : OfSnapshots d) : NotBackup d := by
  rintro rfl
  exact ofSnapshots

theorem writes_scanStagedSessionsDirAndStage :
    (scanStagedSessionsDirAndStage env).Within (WritesIn NotBackup) := by
  have inState (state : SessionState.State) : Frames NotBackup (getSessionsInState state) :=
    frames_getSessions.bind fun _ => trivial
  have sessions : Frames NotBackup (sessionsToActivate env) := by
    refine (inState _).bind fun staged => ?_
    split
    · exact (inState _).bind fun _ => trivial
    · trivial
  refine (writes_of_frames sessions).bind fun sessions => Program.Within.forM fun session _ => ?_
  have staging : Frames NotBackup (stageSession env session) := frames_stageSession nofun nofun session
  refine (writes_of_frames staging).attempt.bind fun staged => ?_
  cases staged with
  | error e => exact (writes_commit _ _).ignore
  | ok names =>
    refine (Program.Within.forM fun name _ => ?_).bind fun _ => (writes_commit _ _).ignore
    exact ⟨.inr trivial, fun _ => trivial⟩

theorem writes_getSession (sessionId : Int) :
    (getSession sessionId).Within (WritesIn NotBackup) :=
  ((writes_sessionCall _).mapError _).bind fun _ => trivial

theorem writes_markStagedSessionReady (sessionId : Int) :
    (markStagedSessionReady sessionId).Within (WritesIn NotBackup) := by
  refine (writes_getSession sessionId).bind fun session => ?_
  split
  · trivial
  · exact writes_commit _ _
  · trivial

theorem writes_abortStagedSession (sessionId : Int) :
    (abortStagedSession sessionId).Within (WritesIn NotBackup) := by
  refine ((writes_getSession sessionId).mapError _).bind fun session => ?_
  split
  · exact (writes_sessionCall _).mapError _
  · exact (writes_sessionCall _).mapError _
  · trivial

theorem writes_bootCompletedCleanup :
    (bootCompletedCleanup env).Within (WritesIn NotBackup) := by
  have found (d : DirId) (suffixList : List String) (isOther : NotBackup d) :
      (filesOrNone (findFilesBySuffix d suffixList)).Yields
        fun paths => ∀ path ∈ paths, NotBackup path.dir := by
    refine ((yields_findFilesBySuffix d suffixList).attempt
      (S := fun found => ∀ paths, found = .ok paths → ∀ path ∈ paths, path.dir = d) ?_ ?_).bind ?_
    · rintro paths inside _ ⟨⟩
      exact inside
    · exact fun e paths impossible => nomatch impossible
    · intro result inside
      cases result with
      | ok paths =>
        intro path member
        rw [inside paths rfl path member]
        exact isOther
      | error e => exact fun path member => nomatch member
  have finding (d : DirId) (suffixList : List String) :
      Frames NotBackup (filesOrNone (findFilesBySuffix d suffixList)) := by
    refine (frames_findFilesBySuffix _ _).attempt.bind fun result => ?_
    cases result <;> trivial
  have removes : Frames NotBackup removeInactiveDataApex := by
    refine (finding _ _).bind_of_yields (found .active [kApexPackageSuffix] nofun) fun active isActive => ?_
    refine (finding _ _).bind_of_yields (found .decompression [".decompressed.apex"] nofun)
      fun decompressed isDecompressed => Program.Within.forM fun path member => ?_
    refine Program.Within.bind ?_ fun mounted => ?_
    · exact (frames_databaseCall _).bind fun _ => trivial
    · split
      · refine (frames_unlink ?_).ignore
        rcases List.mem_append.mp member with inActive | inDecompressed
        · exact isActive path inActive
        · exact isDecompressed path inDecompressed
      · trivial
  refine (writes_of_frames removes).bind fun _ => Program.Within.bind ?_ fun _ =>
    writes_of_frames (frames_deleteUnusedVerityDevices env)
  refine (writes_of_frames frames_getSessions).bind fun sessions =>
    Program.Within.forM fun session _ => ?_
  split
  · exact ((writes_sessionCall _).mapError _).ignore
  · trivial

/-! ## Submissions -/

theorem backup_eq_of_has (exists' : w.fs.has .backup = true) :
    w.backup = some (w.fs.files .backup) := by
  obtain ⟨dir, found⟩ := Option.isSome_iff_exists.mp exists'
  rw [World.backup, FileSystem.files, found]
  rfl

theorem backup_eq_none (absent : w.fs.has .backup = false) : w.backup = none := by
  rw [World.backup, Option.map_eq_none_iff, ← Option.isNone_iff_eq_none]
  exact Option.isSome_eq_false_iff.mp absent

theorem files_backup (w : World) : w.fs.files .backup = w.backup.getD ∅ := by
  rw [World.backup, FileSystem.files]
  cases w.fs.dir .backup <;> rfl

theorem files_of_view {d : DirId} (same : w'.view d = w.view d) :
    w'.fs.files d = w.fs.files d :=
  Finmap.ext_lookup fun name => congrFun same name

theorem foldl_keepPackage_none (fs : FileSystem DirId Content) (paths : List FilePath) :
    paths.foldl (keepPackage fs) none = none := by
  induction paths with
  | nil => rfl
  | cons path rest ih => exact ih

/-- In which order the packages are backed up does not matter. -/
theorem keepPackage_comm (fs : FileSystem DirId Content) (kept : Option (Directory Content))
    (first second : FilePath) : keepPackage fs (keepPackage fs kept first) second =
      keepPackage fs (keepPackage fs kept second) first := by
  cases kept with
  | none => rfl
  | some packages =>
    simp only [keepPackage, Option.bind_eq_bind, Option.bind_some]
    cases openAt fs first with
    | error e => cases openAt fs second <;> simp
    | ok apex =>
      cases openAt fs second with
      | error e => simp
      | ok apex' => exact packages.insertNew_comm _ _ _ _

theorem activeBackup_of_isListing {listing : List String}
    (isListing : (w.files .active).IsListing listing) :
    ((withSuffix .active [kApexPackageSuffix] listing).foldl (keepPackage w.fs) (some ∅)).getD ∅ =
      w.activeBackup := by
  have perm : (withSuffix .active [kApexPackageSuffix] listing).Perm
      (withSuffix .active [kApexPackageSuffix] (w.files .active).names) :=
    (List.Perm.filter _ isListing).map _
  have : RightCommutative (keepPackage w.fs) := ⟨keepPackage_comm w.fs⟩
  rw [World.activeBackup, perm.foldl_eq]

/-- One package is linked into the backup, or it cannot be. -/
theorem wp_backupPackage {path : FilePath} (exists' : w.fs.has .backup = true) :
    wp device Anything (backupPackage path) (fun result w' => w.Within .backup w' ∧
      match keepPackage w.fs (some (w.fs.files .backup)) path with
      | some packages => result = .ok () ∧ w'.fs.files .backup = packages
      | none => ∃ e, result = .error e) w := by
  have start : w.Within .backup w := ⟨.refl _ w, exists'⟩
  rw [backupPackage, wp_bind, backupFailed, wp_mapError]
  refine wp_apexFile_open quiet_anything ?_
  simp only [keepPackage, Option.bind_eq_bind, Option.bind_some]
  cases opened : openAt w.fs path with
  | error e => exact ⟨start, _, rfl⟩
  | ok apexFile =>
    obtain ⟨found, isPath, -⟩ := openAt_eq_ok_iff.mp opened
    rw [← isPath] at found
    have inBackup : w.fs.file (backupPath apexFile) =
        (w.fs.files .backup).lookup (backupPath apexFile).name := rfl
    change wp device Anything (orErrno (link apexFile.path (backupPath apexFile)) _) _ w
    apply wp_orErrno
    dsimp only [Directory.insertNew]
    cases taken : (w.fs.files .backup).lookup (backupPath apexFile).name with
    | some content =>
      have refused : (FsCall.link apexFile.path (backupPath apexFile)).effect w.fs =
          (.error FsCall.fileExists, w.fs) := by
        simp [FsCall.effect, found, inBackup, taken]
      exact wp_fsCall (by simp) refused trivial ⟨start, _, rfl⟩
    | none =>
      refine wp_link found (inBackup.trans taken) exists' trivial ⟨⟨.write w _ _, ?_⟩, rfl, ?_⟩
      · exact (w.fs.has_write _ _ _).trans exists'
      · exact FileSystem.files_write exists' _

theorem keepPackage_congr {fs fs' : FileSystem DirId Content} {path : FilePath}
    (same : fs'.file path = fs.file path) (kept : Option (Directory Content)) :
    keepPackage fs' kept path = keepPackage fs kept path := by
  have opened : openAt fs' path = openAt fs path := by rw [openAt, openAt, same]
  rw [keepPackage, keepPackage, opened]

theorem wp_backupActivePackages :
    wp device Anything backupActivePackages (fun _ w' => w.OnlyIn .backup w' ∧
      w'.backup = some (if w.fs.has .active then w.activeBackup else w.backup.getD ∅)) w := by
  rw [backupActivePackages, wp_bind, backupFailed, wp_mapError]
  refine wp_createDirIfNeeded quiet_anything (fun _ _ _ _ _ _ _ => trivial)
    fun w₁ only₁ has₁ view₁ => ?_
  change wp device Anything (backupFailed (pathExists .active) >>= fun _ => _) _ w₁
  rw [wp_bind, backupFailed, wp_mapError]
  refine wp_pathExists quiet_anything ?_
  rw [only₁.has (x := .active) (by simp)]
  cases isActive : w.fs.has .active with
  | false => exact ⟨only₁, by rw [backup_eq_of_has has₁, files_of_view view₁, files_backup]; rfl⟩
  | true =>
    have files : w₁.files .active = w.files .active := FileSystem.files_of_dir_eq (only₁.dir (by simp))
    simp only [Except.mapError, if_true]
    rw [wp_bind, backupFailed, wp_mapError]
    refine wp_findFilesBySuffix quiet_anything ((only₁.has (x := .active) (by simp)).trans isActive) fun listing isListing => ?_
    rw [files] at isListing
    simp only [Except.mapError]
    rw [wp_bind, backupFailed, wp_mapError, deleteBackup, wp_bind, wp_mapError]
    refine wp_pathExists quiet_anything ?_
    simp only [has₁, Except.mapError, if_true]
    refine wp_deleteDirContent has₁ (fun _ _ _ _ _ => trivial) fun w₂ within₂ empty => ?_
    have only₂ := only₁.trans within₂.1
    have keeps (w₃ : World) (only₃ : w₂.OnlyIn .backup w₃) (path : FilePath) (inActive : path.dir = .active)
        (kept : Option (Directory Content)) : keepPackage w₃.fs kept path = keepPackage w.fs kept path := by
      refine keepPackage_congr ?_ kept
      rw [FileSystem.file, FileSystem.file, inActive,
        FileSystem.files_of_dir_eq ((only₂.trans only₃).dir (by simp))]
    rw [← activeBackup_of_isListing isListing]
    dsimp only
    rw [wp_onError]
    have paths {path : FilePath} (member : path ∈ withSuffix .active [kApexPackageSuffix] listing) :
        path.dir = .active := (mem_withSuffix_iff.mp member).1
    generalize withSuffix .active [kApexPackageSuffix] listing = packages at paths
    refine wp_forM (fun done w₃ => w₂.Within .backup w₃ ∧
      done.foldl (keepPackage w.fs) (some ∅) = some (w₃.fs.files .backup)) ⟨⟨.refl _ _, within₂.2⟩, ?_⟩ ?_ ?_
    · rw [empty]
      rfl
    · rintro done path rest w₃ split ⟨within₃, kept⟩
      refine wp_mono (wp_backupPackage within₃.2) ?_
      rintro result w₄ ⟨within₄, backedUp⟩
      have inActive := paths (split ▸ List.mem_append_right _ List.mem_cons_self)
      rw [keeps w₃ within₃.1 path inActive, ← kept] at backedUp
      have folded : (done ++ [path]).foldl (keepPackage w.fs) (some ∅) =
          keepPackage w.fs (done.foldl (keepPackage w.fs) (some ∅)) path := by
        rw [List.foldl_append]
        rfl
      cases outcome : keepPackage w.fs (done.foldl (keepPackage w.fs) (some ∅)) path with
      | some more =>
        rw [outcome] at backedUp
        obtain ⟨rfl, files₄⟩ := backedUp
        exact ⟨⟨within₃.1.trans within₄.1, within₄.2⟩, by rw [folded, outcome, files₄]⟩
      | none =>
        rw [outcome] at backedUp
        obtain ⟨e, rfl⟩ := backedUp
        refine wp_deleteDirContent within₄.2 (fun _ _ _ _ _ => trivial) fun w₅ within₅ empty₅ => ?_
        refine ⟨only₂.trans (within₃.1.trans (within₄.1.trans within₅.1)), ?_⟩
        rw [backup_eq_of_has within₅.2, empty₅, split, List.append_cons, List.foldl_append, folded,
          outcome, foldl_keepPackage_none]
        rfl
    · rintro w₃ ⟨within₃, kept⟩
      refine ⟨only₂.trans within₃.1, ?_⟩
      rw [backup_eq_of_has within₃.2, kept]
      rfl

theorem wp_submit_backup {sessionId : Int} {childSessionIds : List Int}
    {hasRollbackEnabled isRollback : Bool} {rollbackId : Int} :
    wp device Anything
      (submitStagedSession env sessionId childSessionIds hasRollbackEnabled isRollback rollbackId)
      (fun _ w' => w'.backup = EntryPoint.backupAfter w.backup
        (.submitStagedSession env sessionId childSessionIds hasRollbackEnabled isRollback rollbackId, w)) w := by
  have unmounting (files : List ApexFile) : Frames NotBackup (files.forM unmountTempMount) :=
    Program.Within.forM fun _ _ => frames_unmountTempMount
  have creating (ret : List ApexFile) : (createVerifiedSession env sessionId childSessionIds
      hasRollbackEnabled isRollback rollbackId ret).Within (WritesIn NotBackup) := by
    unfold createVerifiedSession
    split
    · trivial
    · refine Program.Within.bind ?_ fun session => writes_commit _ _
      exact ((writes_sessionCall _).mapError _).bind fun _ => trivial
  have verifying : Program.Within (WritesIn NotBackup) (do
      let ret ← verifySessionDirs env (idsToScan sessionId childSessionIds) []
      (createVerifiedSession env sessionId childSessionIds hasRollbackEnabled isRollback
        rollbackId ret).onError (ret.forM unmountTempMount)
      ret.forM unmountTempMount
      pure ret) :=
    (writes_of_frames (frames_verifySessionDirs (by simp [NotBackup]) _ _)).bind fun ret =>
      ((creating ret).onError (writes_of_frames (unmounting ret))).bind fun _ =>
        (writes_of_frames (unmounting ret)).bind fun _ => trivial
  have backup_eq {w₁ w₂ : World} (same : w₂.fs.dir .backup = w₁.fs.dir .backup) :
      w₂.backup = w₁.backup := by rw [World.backup, World.backup, same]
  rw [EntryPoint.backupAfter]
  unfold submitStagedSession
  split
  · rename_i isZero
    rw [wp_throw]
    simp [isZero]
  · rename_i notZero
    dsimp only
    split
    · rename_i noCheckpoints
      rw [wp_bind]
      refine wp_mono wp_backupActivePackages ?_
      rintro result w₁ ⟨_, backedUp⟩
      rw [if_neg (by simpa [notZero] using noCheckpoints)]
      cases result with
      | error e => exact backedUp
      | ok _ =>
        exact wp_mono (wp_sameBackup verifying) fun _ _ same => (backup_eq same).trans backedUp
    · rename_i checkpoints
      refine wp_mono (wp_sameBackup verifying) fun _ w₁ same => ?_
      rw [if_pos (by simp_all)]
      exact backup_eq same

/-! ## Sessions that are marked successful -/

theorem wp_deleteBackup : wp device Anything deleteBackup
    (fun _ w' => w'.backup = w.backup.map fun _ => ∅) w := by
  rw [deleteBackup, wp_bind, wp_mapError]
  refine wp_pathExists quiet_anything ?_
  cases exists' : w.fs.has .backup with
  | false =>
    rw [backup_eq_none exists']
    exact backup_eq_none exists'
  | true =>
    refine wp_deleteDirContent exists' (fun _ _ _ _ _ => trivial) fun w₁ within empty => ?_
    rw [backup_eq_of_has exists', backup_eq_of_has within.2, empty]
    rfl

theorem wp_success_backup {sessionId : Int} :
    wp device Anything (markStagedSessionSuccessful env sessionId) (fun _ w' =>
      w'.backup = EntryPoint.backupAfter w.backup (.markStagedSessionSuccessful env sessionId, w)) w := by
  rw [markStagedSessionSuccessful, wp_bind, EntryPoint.backupAfter]
  refine wp_getSession quiet_anything (fun state stored => ?_) fun unstored e => ?_
  · rw [World.stateIn, stored, persisted]
    dsimp only
    split
    · rename_i isSuccess
      rw [isSuccess, if_neg (by simp)]
      rfl
    · rename_i isActivated
      rw [isActivated, if_pos rfl]
      change wp device Anything (deleteBackup.mapError _ >>= fun _ => _) _ w
      rw [wp_bind, wp_mapError]
      refine wp_mono wp_deleteBackup fun result w₁ deleted => ?_
      have marking : Program.Within (WritesIn NotBackup) (do
          if state.isRollback && !env.supportsFsCheckpoints then
            deleteDePreRestoreSnapshots ⟨state, toString sessionId⟩
          ApexSession.updateStateAndCommit ⟨state, toString sessionId⟩ .SUCCESS) := by
        split
        · exact (writes_of_frames (frames_deleteDePreRestoreSnapshots notBackup_of_snapshots _)).bind
            fun _ => writes_commit _ _
        · exact writes_commit _ _
      cases result with
      | error e => exact deleted
      | ok _ =>
        refine wp_mono (wp_sameBackup marking) fun _ w₂ same => ?_
        rw [World.backup, same]
        exact deleted
    · rename_i notActivated
      rw [if_neg (by simpa using notActivated)]
      rfl
  · have notActivated : w.stateIn (toString sessionId) ≠ some .ACTIVATED := by
      intro activated
      obtain ⟨file, found⟩ := exists_file_of_stateIn activated
      rw [World.stateIn, found] at activated
      cases file with
      | missing | corrupt => cases activated
      | state state => exact unstored state found
    dsimp only
    rw [if_neg notActivated]

/-! ## Reverts -/

theorem hasActiveSession_iff : w.hasActiveSession = true ↔ ∃ dir, w.HasActive dir := by
  have activeIn := activeIn_of_isListing (w := w) (List.Perm.refl w.sessions.names) "" ""
  have listed : w.hasActiveSession = true ↔ (w.sessions.sessionsIn w.sessions.names).filter isActive ≠ [] := by
    simp [World.hasActiveSession, List.filter_eq_nil_iff]
  rw [listed]
  constructor
  · intro nonempty
    obtain ⟨session, member⟩ := List.exists_mem_of_ne_nil _ nonempty
    exact ⟨_, (activeIn.all _).mp (List.mem_map_of_mem (List.mem_map_of_mem member))⟩
  · rintro ⟨dir, active⟩ empty
    have member := (activeIn.all dir).mpr active
    rw [empty] at member
    cases member

/-- Without a backup or an active directory a restore does nothing. -/
theorem wp_restoreActivePackages_fails (missing : w.fs.has .backup = false ∨ w.fs.has .active = false)
    {Q : Except String Unit → World → Prop} (post : ∀ e, Q (.error e) w) :
    wp device Anything restoreActivePackages Q w := by
  cases backup : w.fs.has .backup with
  | false => exact wp_restoreActivePackages_absent quiet_anything backup post
  | true =>
    have absent := missing.resolve_left (by simp [backup])
    rw [FileSystem.has, Option.isSome_eq_false_iff, Option.isNone_iff_eq_none] at absent
    rw [restoreActivePackages, wp_bind]
    refine wp_pathExists quiet_anything ?_
    simp only [backup, Bool.not_true, Bool.false_eq_true, if_false]
    rw [wp_bind]
    apply wp_orErrno
    apply wp_stat quiet_anything
    rw [absent]
    exact post _

/-- Calls on sessions touch no file. -/
def OnSessions (request : Call) : Prop :=
  ∃ call, request = .session call

theorem wp_onSessions {α : Type} {p : Procedure α} (within : p.Within OnSessions) :
    wp device Anything p (fun _ w' => w'.fs = w.fs) w := by
  refine wp_frame within (fun w₁ : World => w₁.fs = w.fs) ?_ rfl
  rintro _ ⟨call, rfl⟩ w₁ reply w₂ kept ⟨store, _, rfl⟩
  exact ⟨trivial, kept⟩

theorem commit_onSessions (session : ApexSession) (state : SessionState.State) :
    (session.updateStateAndCommit state).Within OnSessions := by
  have call : (sessionCall (.commit session.sessionDir (session.withState state).state)).Within OnSessions :=
    ⟨⟨_, rfl⟩, fun _ => trivial⟩
  exact call.mapError _

theorem marking_onSessions (sessions : List ApexSession) :
    (sessions.forM markRevertInProgress).Within OnSessions :=
  Program.Within.forM fun session _ => (commit_onSessions session _).mapError _

theorem writes_markReverted (session : ApexSession) :
    (markReverted env session).Within (WritesIn NotBackup) := by
  unfold markReverted
  split
  · exact (writes_of_frames (frames_restoreDePreRestoreSnapshotsIfPresent notBackup_of_snapshots session)).bind
      fun _ => (writes_commit _ _).ignore
  · exact (writes_commit _ _).ignore

/-- What a revert makes of the backup and of the active directory. -/
structure RevertsTo (env : Environment) (w : World) (result : Except String Unit) (w' : World) : Prop where
  backup : w'.backup = backupAfterRevert env w w.backup
  active : env.supportsFsCheckpoints = false → result = .ok () →
    some (w'.fs.files .active) = w.backup ∧ w'.backup = none

theorem wp_revert_backup {native message : String} :
    wp device Anything (revertActiveSessions env native message) (RevertsTo env w) w := by
  by_cases goesThrough : env.supportsFsCheckpoints = false ∧ (∃ dir, w.HasActive dir) ∧
      w.fs.has .active = true ∧ w.fs.has .backup = true
  · obtain ⟨noCheckpoints, some', active, backup⟩ := goesThrough
    have reverts : wp device (StaysReverting w) (revertActiveSessions env native message)
        (fun result w' => result = .ok () ∧ RevertDone w w') w :=
      wp_revertActiveSessions_ongoing noCheckpoints backup some' (.refl active)
    refine wp_of_runs fun result w' run => ?_
    obtain ⟨-, done⟩ := wp_runs reverts run
    have used : w'.backup = none := by rw [World.backup, done.backup, Option.map_none]
    refine ⟨?_, fun _ _ => ⟨by rw [done.files, backup_eq_of_has backup], used⟩⟩
    rw [used, backupAfterRevert, noCheckpoints, hasActiveSession_iff.mpr some', active]
    rfl
  · -- the backup stays, and without checkpoints the revert fails
    have stays : w.backup = backupAfterRevert env w w.backup := by
      rw [backupAfterRevert]
      split
      · rename_i consumes
        simp only [Bool.and_eq_true, Bool.not_eq_true', hasActiveSession_iff] at consumes
        refine backup_eq_none (Bool.not_eq_true _ ▸ fun backup => ?_)
        exact goesThrough ⟨consumes.1.1, consumes.1.2, consumes.2, backup⟩
      · rfl
    have kept {result : Except String Unit} {w' : World} (same : w'.fs.dir .backup = w.fs.dir .backup)
        (fails : env.supportsFsCheckpoints = false → result ≠ .ok ()) : RevertsTo env w result w' := by
      refine ⟨?_, fun noCheckpoints isOk => absurd isOk (fails noCheckpoints)⟩
      rw [← stays, World.backup, World.backup, same]
    rw [revertActiveSessions, wp_bind]
    refine wp_getSessions quiet_anything fun listing isListing => ?_
    have activeIn := activeIn_of_isListing isListing native message
    dsimp only
    generalize ((w.sessions.sessionsIn listing).filter isActive).map (withFailure native message) =
      sessions at activeIn
    split
    · exact kept rfl fun _ isOk => by cases isOk
    · rename_i nonempty
      have some' : ∃ dir, w.HasActive dir := by
        obtain ⟨session, member⟩ := List.exists_mem_of_ne_nil _ nonempty
        exact ⟨_, (activeIn.all _).mp (List.mem_map_of_mem member)⟩
      rw [wp_bind]
      refine wp_mono (wp_onSessions (marking_onSessions sessions)) fun marked w₁ fs => ?_
      cases marked with
      | error e => exact kept (by rw [fs]) fun _ isOk => by cases isOk
      | ok _ =>
        cases supports : env.supportsFsCheckpoints with
        | true =>
          simp only [Bool.not_true, Bool.false_eq_true, if_false]
          have reverting : (sessions.forM (markReverted env)).Within (WritesIn NotBackup) :=
            Program.Within.forM fun session _ => writes_markReverted session
          refine wp_mono (wp_sameBackup reverting) fun _ w₂ same => kept (same.trans (by rw [fs])) ?_
          rw [supports]
          exact fun noCheckpoints => by cases noCheckpoints
        | false =>
          simp only [Bool.not_false, if_true]
          rw [wp_bind, wp_attempt]
          have missing : w₁.fs.has .backup = false ∨ w₁.fs.has .active = false := by
            rw [fs, ← Bool.not_eq_true, ← Bool.not_eq_true, ← not_and_or]
            exact fun both => goesThrough ⟨supports, some', both.2, both.1⟩
          refine wp_restoreActivePackages_fails missing fun e => ?_
          have failing : (sessions.forM fun session =>
              (session.updateStateAndCommit .REVERT_FAILED).ignore).Within OnSessions :=
            Program.Within.forM fun session _ => (commit_onSessions session _).ignore
          dsimp only
          rw [wp_bind]
          refine wp_mono (wp_onSessions failing) fun failed w₂ fs₂ => ?_
          have same : w₂.fs.dir .backup = w.fs.dir .backup := by rw [fs₂, fs]
          cases failed with
          | error e => exact kept same fun _ isOk => by cases isOk
          | ok _ => exact kept same fun _ isOk => by cases isOk

theorem wp_resume_backup : wp device Anything (resumeRevertIfNeeded env) (fun _ w' =>
    w'.backup = EntryPoint.backupAfter w.backup (.resumeRevertIfNeeded env, w)) w := by
  rw [resumeRevertIfNeeded, wp_bind, EntryPoint.backupAfter]
  refine wp_getSessionsInState quiet_anything fun listing isListing => ?_
  have inProgress : w.hasRevertInProgress = true ↔
      sessionsInState w.sessions listing .REVERT_IN_PROGRESS ≠ [] := by
    rw [World.hasRevertInProgress, decide_eq_true_eq, mem_inProgress isListing, mem_inProgress (.refl _)]
  dsimp only
  split
  · rename_i none
    rw [if_neg (by rw [inProgress, none]; simp)]
    rfl
  · rename_i nonempty
    rw [if_pos (inProgress.mpr nonempty)]
    exact wp_mono wp_revert_backup fun _ _ reverted => reverted.backup

/-! ## Histories -/

/-- An entry point makes of the backup what `backupAfter` says. -/
theorem wp_program_backup (entry : EntryPoint) :
    wp device Anything entry.program (fun _ w' => w'.backup = EntryPoint.backupAfter w.backup (entry, w)) w := by
  have keeps {p : Procedure Unit} (writes : p.Within (WritesIn NotBackup)) :
      wp device Anything p (fun _ w' => w'.backup = w.backup) w :=
    wp_mono (wp_sameBackup writes) fun _ _ same => by rw [World.backup, World.backup, same]
  cases entry with
  | submitStagedSession env sessionId childSessionIds hasRollbackEnabled isRollback rollbackId =>
    rw [EntryPoint.program, wp_bind]
    refine wp_mono wp_submit_backup fun result w' same => ?_
    cases result <;> exact same
  | markStagedSessionReady sessionId => exact keeps (writes_markStagedSessionReady sessionId)
  | abortStagedSession sessionId => exact keeps (writes_abortStagedSession sessionId)
  | scanStagedSessionsDirAndStage env => exact keeps writes_scanStagedSessionsDirAndStage
  | markStagedSessionSuccessful env sessionId => exact wp_success_backup
  | revertActiveSessions env native message =>
    exact wp_mono wp_revert_backup fun _ _ reverted => reverted.backup
  | resumeRevertIfNeeded env => exact wp_resume_backup
  | bootCompletedCleanup env => exact keeps writes_bootCompletedCleanup

/-- The entry points that leave the backup alone. -/
def EntryPoint.leavesBackup : EntryPoint → Bool
  | .markStagedSessionReady _ | .abortStagedSession _ | .scanStagedSessionsDirAndStage _
  | .bootCompletedCleanup _ => true
  | _ => false

theorem writes_of_leavesBackup {entry : EntryPoint} (leaves : entry.leavesBackup = true) :
    entry.program.Within (WritesIn NotBackup) := by
  cases entry with
  | markStagedSessionReady sessionId => exact writes_markStagedSessionReady sessionId
  | abortStagedSession sessionId => exact writes_abortStagedSession sessionId
  | scanStagedSessionsDirAndStage env => exact writes_scanStagedSessionsDirAndStage
  | bootCompletedCleanup env => exact writes_bootCompletedCleanup
  | _ => cases leaves

/-- The calls that completed since `w₀`, each with the state it was made in.  Between them calls
that leave the backup alone may be interrupted, and whatever else there is may change anything
but the backup. -/
inductive History (w₀ : World) : List (EntryPoint × World) → World → Prop
  | start : History w₀ [] w₀
  | call {calls : List (EntryPoint × World)} {entry : EntryPoint} {w w' : World}
      {result : Except String Unit} (before : History w₀ calls w)
      (run : Runs device entry.program w result w') : History w₀ (calls ++ [(entry, w)]) w'
  | interrupted {calls : List (EntryPoint × World)} {entry : EntryPoint} {w w' : World}
      (before : History w₀ calls w) (leaves : entry.leavesBackup = true)
      (reaches : Reaches device entry.program w w') : History w₀ calls w'
  | others {calls : List (EntryPoint × World)} {w w' : World} (before : History w₀ calls w)
      (same : w'.fs.dir .backup = w.fs.dir .backup) : History w₀ calls w'

theorem dir_of_reaches {entry : EntryPoint} (leaves : entry.leavesBackup = true)
    (reaches : Reaches device entry.program w w') : w'.fs.dir .backup = w.fs.dir .backup := by
  have steps := wp_reaches (wp_notBackup (writes_of_leavesBackup leaves)) reaches
  clear reaches
  induction steps with
  | refl => rfl
  | tail _ step ih =>
    obtain ⟨_, same⟩ := step
    exact same.trans ih

theorem afterCalls_append (backup : Option (Directory Content)) (calls more : List (EntryPoint × World)) :
    afterCalls backup (calls ++ more) = afterCalls (afterCalls backup calls) more :=
  List.foldl_append

/-- Calls that make nothing of the backup. -/
theorem afterCalls_eq_self {backup : Option (Directory Content)} {calls : List (EntryPoint × World)}
    (leave : ∀ call ∈ calls, EntryPoint.backupAfter backup call = backup) :
    afterCalls backup calls = backup := by
  induction calls with
  | nil => rfl
  | cons call rest ih =>
    obtain ⟨first, later⟩ := List.forall_mem_cons.mp leave
    change afterCalls (EntryPoint.backupAfter backup call) rest = backup
    rw [first, ih later]

/-- The backup is what the history of calls makes of it. -/
theorem History.backup {calls : List (EntryPoint × World)} (history : History w₀ calls w) :
    w.backup = afterCalls w₀.backup calls := by
  induction history with
  | start => rfl
  | call before run ih =>
    rw [afterCalls_append, ← ih]
    exact wp_runs (wp_program_backup _) run
  | interrupted before leaves reaches ih => rw [← ih, World.backup, dir_of_reaches leaves reaches, World.backup]
  | others before same ih => rw [← ih, World.backup, same, World.backup]

/-- The entry point that writes the backup. -/
def EntryPoint.submits : EntryPoint → Bool
  | .submitStagedSession _ _ _ _ _ _ => true
  | _ => false

/-- Where there is no backup, only a submission makes one. -/
theorem backupAfter_none {call : EntryPoint × World} (notSubmits : call.1.submits = false) :
    EntryPoint.backupAfter none call = none := by
  obtain ⟨entry, w⟩ := call
  have reverted (env : Environment) : backupAfterRevert env w none = none := by
    rw [backupAfterRevert, ite_self]
  cases entry with
  | submitStagedSession => cases notSubmits
  | markStagedSessionSuccessful env sessionId =>
    rw [EntryPoint.backupAfter, Option.map_none, ite_self]
  | revertActiveSessions env => exact reverted env
  | resumeRevertIfNeeded env => rw [EntryPoint.backupAfter, reverted, ite_self]
  | _ => rfl

/-- After a submission and calls that make nothing of it, the backup is what was active then. -/
theorem afterCalls_of_submission {backup : Option (Directory Content)}
    {before after : List (EntryPoint × World)} {submitEnv : Environment} {sessionId rollbackId : Int}
    {childSessionIds : List Int} {hasRollbackEnabled isRollback : Bool} {submitted : World}
    (backsUp : sessionId ≠ 0 ∧ submitEnv.supportsFsCheckpoints = false)
    (active : submitted.fs.has .active = true)
    (leave : ∀ call ∈ after, EntryPoint.backupAfter (some submitted.activeBackup) call =
      some submitted.activeBackup) :
    afterCalls backup (before ++ (.submitStagedSession submitEnv sessionId childSessionIds
      hasRollbackEnabled isRollback rollbackId, submitted) :: after) = some submitted.activeBackup := by
  have written (backup : Option (Directory Content)) : EntryPoint.backupAfter backup
      (.submitStagedSession submitEnv sessionId childSessionIds hasRollbackEnabled isRollback
        rollbackId, submitted) = some submitted.activeBackup := by
    rw [EntryPoint.backupAfter, if_neg (by simp [backsUp.1, backsUp.2]), if_pos active]
  rw [afterCalls_append]
  change afterCalls (EntryPoint.backupAfter _ _) after = _
  rw [written, afterCalls_eq_self leave]

/-- A revert that succeeds uses the backup up and brings back what the calls before it made of it:
the packages that were active at the last submission, or none if a session was marked successful
since.  Until the next submission no other revert succeeds. -/
theorem active_of_revert {calls : List (EntryPoint × World)} {native message : String}
    (noCheckpoints : env.supportsFsCheckpoints = false) (history : History w₀ calls w)
    (reverts : Runs device (revertActiveSessions env native message) w (.ok ()) w') :
    some (w'.fs.files .active) = afterCalls w₀.backup calls ∧ w'.backup = none ∧
    ∀ later w₁, History w' later w₁ → (∀ call ∈ later, call.1.submits = false) →
      ∀ native' message' result w₂,
        Runs device (revertActiveSessions env native' message') w₁ result w₂ → result ≠ .ok () := by
  obtain ⟨active, used⟩ := (wp_runs wp_revert_backup reverts).active noCheckpoints rfl
  refine ⟨active.trans history.backup, used, fun later w₁ since notSubmits native' message' result w₂ again => ?_⟩
  rintro rfl
  have restored := ((wp_runs wp_revert_backup again).active noCheckpoints rfl).1
  rw [since.backup, used, afterCalls_eq_self fun call member => backupAfter_none (notSubmits call member)]
    at restored
  cases restored

/-- Session 1 has updated a package when session 2 is submitted, which fails; then session 1 is
reverted. -/
def submittedAndReverted : Option (World × Except String Unit × World) := do
  let (_, w) ← exec deviceHandler
    (EntryPoint.program (.submitStagedSession (.plain .create) 2 [] false false 0)) updatedByOne
  let (result, w') ← exec deviceHandler (revertActiveSessions (.plain .create) "" "") w
  pure (w, result, w')

/-- The revert does not bring the version before the update back. -/
theorem active_of_revert_resubmitted : ∃ w w', History updatedByOne
      [(.submitStagedSession (.plain .create) 2 [] false false 0, updatedByOne)] w ∧
    Runs device (revertActiveSessions (.plain .create) "" "") w (.ok ()) w' ∧
    some (w'.fs.files .active) = some updatedByOne.activeBackup ∧
    updatedByOne.activeBackup.lookup "foo@2.apex" = some (.apex (.plain "foo" 2 2)) := by
  obtain ⟨⟨w, result, w'⟩, evaluated, isOk⟩ := (Option.any_eq_true
    (fun found => found.2.1.isOk) submittedAndReverted).mp (by decide +kernel)
  cases result with
  | error e => cases isOk
  | ok _ =>
    simp only [submittedAndReverted, Option.bind_eq_bind, Option.bind_eq_some_iff, Option.pure_def,
      Option.some.injEq, Prod.mk.injEq] at evaluated
    obtain ⟨⟨_, _⟩, submitted, ⟨_, _⟩, reverted, rfl, rfl, rfl⟩ := evaluated
    have history : History updatedByOne
        [(.submitStagedSession (.plain .create) 2 [] false false 0, updatedByOne)] _ :=
      .call .start (exec_runs deviceHandler_sound submitted)
    have reverts := exec_runs deviceHandler_sound reverted
    refine ⟨_, _, history, reverts, ?_, by decide +kernel⟩
    have backup : afterCalls updatedByOne.backup ([] ++
        (.submitStagedSession (.plain .create) 2 [] false false 0, updatedByOne) :: []) =
        some updatedByOne.activeBackup :=
      afterCalls_of_submission ⟨by decide, rfl⟩ (by decide +kernel) (List.forall_mem_nil _)
    exact (active_of_revert rfl history reverts).1.trans backup

end Apexd
