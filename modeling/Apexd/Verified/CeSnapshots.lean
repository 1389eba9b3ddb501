import Apexd.Verified.Snapshots
import Apexd.Verified.TempMounts

/-! # Snapshots of credential-encrypted data

A snapshot that was taken is restored as it was taken, whatever other snapshots are taken,
restored and destroyed in between and whatever calls fail, and the snapshots of a user that are
to be retained are all that are left of those with a rollback id.
-/

namespace Apexd

open Process Storage
open Relation (ReflTransGen)

/-! ## Names of snapshot directories -/

/-- The directory of the snapshots of a rollback is deleted unless the rollback is listed. -/
theorem isNotSpecified_rollback {base : String} {rollbackId : Int} {preRestore : Bool}
    {retainRollbackIds : List Int} : isNotSpecified retainRollbackIds (.rollback base rollbackId preRestore) =
      decide (preRestore = false ∧ 0 ≤ rollbackId ∧ rollbackId ≤ 4294967295 ∧
        ∀ retained ∈ retainRollbackIds, asUint retained ≠ rollbackId) := by
  have noSlash : '/' ∉ (toString rollbackId ++ if preRestore then DirId.kPreRestoreSuffix else "").toList := by
    rw [String.toList_append, List.mem_append, not_or]
    refine ⟨fun member => ?_, ?_⟩
    · rcases Text.eq_minus_or_isDigit_of_mem member with minus | digit
      · exact absurd minus (by decide)
      · exact absurd digit (by decide)
    · cases preRestore <;> decide
  have name : Text.filename (DirId.text (.rollback base rollbackId preRestore)) =
      toString rollbackId ++ if preRestore then DirId.kPreRestoreSuffix else "" := by
    rw [← Text.filename_append noSlash, DirId.text, DirId.rollbackText, String.append_assoc]
  rw [isNotSpecified, name]
  cases preRestore with
  | true =>
    have written : (toString rollbackId ++ DirId.kPreRestoreSuffix).toList =
        (toString rollbackId).toList ++ '-' :: "prerestore".toList := by
      rw [String.toList_append]
      rfl
    have unread : Text.parseUint 4294967295 (toString rollbackId ++ DirId.kPreRestoreSuffix) = none :=
      Text.parseUint_eq_none written (by decide) (by decide)
    rw [if_pos rfl, unread]
    simp
  | false =>
    have read : Text.parseUint 4294967295 (toString rollbackId) =
        if 0 ≤ rollbackId ∧ rollbackId ≤ 4294967295 then some rollbackId.toNat else none :=
      Text.parseUint_toString
    rw [if_neg Bool.false_ne_true, String.append_empty, read]
    by_cases inRange : 0 ≤ rollbackId ∧ rollbackId ≤ 4294967295
    · have same : ((rollbackId.toNat : Nat) : Int) = rollbackId := Int.toNat_of_nonneg inRange.1
      rw [if_pos inRange, Bool.eq_iff_iff]
      simp [same, inRange.1, inRange.2]
    · rw [if_neg inRange]
      refine (decide_eq_false fun all => inRange ⟨all.2.1, all.2.2.1⟩).symm

/-! ## What the operations leave alone -/

variable {w w' w₀ w₁ w₂ w₃ : World} {P : DirId → Prop} {base : String} {userId rollbackId : Int}
  {apexName : String}

/-- What a procedure leaves alone, whatever calls fail. -/
theorem wp_failing_sameOutside {α : Type} {p : Procedure α} (frames : Frames P p) :
    wp failing Anything p (fun _ w' => SameOutside P w w') w := by
  refine wp_frame frames (SameOutside P w) (fun request touches w₁ reply w₂ kept answer =>
    ⟨trivial, ?_⟩) (.refl P w)
  rcases answer with answer | ⟨-, -, rfl⟩
  · exact kept.trans (sameOutside_of_touches touches answer)
  · exact kept

theorem frames_removeDir {d : DirId} (inside : ∀ x, Nested.inside x d = true → P x) :
    Frames P (fsCall (.removeDir d)) :=
  frames_fsCall inside

theorem frames_deleteDir {d : DirId} (inside : ∀ x, Nested.inside x d = true → P x) :
    Frames P (deleteDir d) :=
  (frames_removeDir inside).mapError _

theorem frames_replaceFilesOf {source target : DirId} (inside : ∀ x, Nested.inside x target = true → P x) :
    Frames P (replaceFiles source target) := by
  refine ((frames_removeDir inside).mapError _).bind fun _ =>
    Program.Within.onError ((frames_fsCall fun x changes => ?_).mapError _) (frames_removeDir inside)
  simp only [FsCall.changes, decide_eq_true_eq] at changes
  exact inside x (changes ▸ Nested.inside_self _)

/-- Taking a snapshot changes it and the directory it is in. -/
theorem frames_snapshotDataDirectory : Frames (fun d => d = .rollback base rollbackId false ∨
    d = .snapshot base rollbackId false apexName) (snapshotDataDirectory base rollbackId apexName false) :=
  ((frames_createDirIfNeeded (.inl rfl) _).mapError _).bind fun _ =>
    frames_replaceFilesOf fun x inside => .inr ((isLeaf_snapshot _ _ _ _ x).mp inside)

/-- Restoring a snapshot changes it and the data. -/
theorem frames_restoreDataDirectoryOf : Frames (fun d => d = .apexData base apexName ∨
    d = .snapshot base rollbackId false apexName) (restoreDataDirectory base rollbackId apexName false) := by
  have restorecon : Frames (fun d => d = .apexData base apexName ∨
      d = .snapshot base rollbackId false apexName)
      (.call (.restorecon (.dir (.apexData base apexName))) .done : Procedure Unit) :=
    ⟨trivial, fun _ => trivial⟩
  exact (frames_replaceFilesOf fun x inside => .inl ((isLeaf_apexData _ _ x).mp inside)).bind fun _ =>
    (frames_orErrno restorecon _).bind fun _ =>
      (frames_deleteDir fun x inside => .inr ((isLeaf_snapshot _ _ _ _ x).mp inside)).ignore

/-! ## Success -/

/-- A call of the file system that succeeds had its effect. -/
theorem wp_failing_fsCall {request : FsCall DirId} (notListing : ∀ d, request ≠ .readDir d)
    {Q : Except String (request.Reply Content) → World → Prop}
    (answered : ∀ value fs, request.effect w.fs = (.ok value, fs) → Q (.ok value) (w.withFs fs))
    (failed : ∀ e, Q (.error e) w) : wp failing Anything (fsCall request) Q w := by
  rintro reply w' (⟨fs, answer, rfl⟩ | ⟨-, ⟨e, rfl⟩, rfl⟩)
  · refine ⟨trivial, ?_⟩
    have outcome : request.effect w.fs = (reply, fs) := by
      cases request with
      | readDir d => exact absurd rfl (notListing d)
      | _ => exact Eq.symm answer
    cases reply with
    | ok value => exact answered value fs outcome
    | error e =>
      have same : fs = w.fs := by
        have unchanged := FsCall.effect_of_error (congrArg Prod.fst outcome)
        rwa [outcome] at unchanged
      rw [same]
      exact failed e
  · exact ⟨trivial, failed e⟩

/-- A copy that was made is of what was there. -/
theorem wp_failing_replaceFiles {source target : DirId} (apart : Nested.inside source target = false) :
    wp failing Anything (replaceFiles source target) (fun result w' => result = .ok () →
      w.fs.has source = true ∧ w'.fs.dir target = w.fs.dir source) w := by
  rw [replaceFiles, wp_bind, wp_mapError]
  refine wp_failing_fsCall (by simp) (fun _ fs removed => ?_) fun e isOk => by cases isOk
  have cleared : fs.dir source = w.fs.dir source ∧ fs.dir target = none := by
    obtain rfl : _ = fs := congrArg Prod.snd removed
    simp [FsCall.effect, apart, Nested.inside_self]
  dsimp only
  rw [wp_onError, wp_mapError]
  refine wp_failing_fsCall (by simp) (fun _ fs' copied => ?_) fun e => ?_
  · intro _
    cases found : fs.dir source with
    | none => simp [FsCall.effect, World.withFs, found] at copied
    | some dir =>
      simp only [FsCall.effect, World.withFs, found, FileSystem.has, cleared.2] at copied
      obtain rfl : _ = fs' := congrArg Prod.snd copied
      rw [← cleared.1, FileSystem.has, ← cleared.1, found]
      exact ⟨rfl, FileSystem.dir_set_self _ _ _⟩
  · exact wp_mono (wp_anything _ _) fun _ _ _ isOk => by cases isOk

/-- A snapshot that was taken is of the data. -/
theorem wp_failing_snapshotDataDirectory : wp failing Anything
    (snapshotDataDirectory base rollbackId apexName false) (fun result w' => result = .ok () →
      w.fs.has (.apexData base apexName) = true ∧
      w'.fs.dir (.snapshot base rollbackId false apexName) = w.fs.dir (.apexData base apexName)) w := by
  rw [snapshotDataDirectory, wp_bind, wp_mapError]
  refine wp_mono (wp_failing_sameOutside (frames_createDirIfNeeded rfl _)) fun result w₁ same => ?_
  have kept : w₁.fs.dir (.apexData base apexName) = w.fs.dir (.apexData base apexName) :=
    same.dir _ (by simp)
  cases result with
  | error e => exact fun isOk => by cases isOk
  | ok _ =>
    refine wp_mono (wp_failing_replaceFiles (by simp [Nested.inside, DirId.inside])) ?_
    rintro result w₂ copied isOk
    obtain ⟨found, same⟩ := copied isOk
    rw [FileSystem.has, kept] at found
    exact ⟨found, same.trans kept⟩

/-- What was restored is the snapshot. -/
theorem wp_failing_restoreDataDirectory : wp failing Anything
    (restoreDataDirectory base rollbackId apexName false) (fun result w' => result = .ok () →
      w'.fs.dir (.apexData base apexName) = w.fs.dir (.snapshot base rollbackId false apexName)) w := by
  rw [restoreDataDirectory, wp_bind]
  refine wp_mono (wp_failing_replaceFiles (by simp [Nested.inside, DirId.inside])) fun result w₁ copied => ?_
  cases result with
  | error e => exact fun isOk => by cases isOk
  | ok _ =>
    have rest : Frames (fun d => d = .snapshot base rollbackId false apexName) (do
        restoreconPath (.dir (.apexData base apexName))
        (deleteDir (.snapshot base rollbackId false apexName)).ignore) := by
      have restorecon : Frames (fun d => d = .snapshot base rollbackId false apexName)
          (.call (.restorecon (.dir (.apexData base apexName))) .done : Procedure Unit) :=
        ⟨trivial, fun _ => trivial⟩
      exact (frames_orErrno restorecon _).bind fun _ =>
        (frames_deleteDir fun x inside => (isLeaf_snapshot _ _ _ _ x).mp inside).ignore
    refine wp_mono (wp_failing_sameOutside rest) fun result w₂ same _ => ?_
    rw [same.dir _ (by simp), (copied rfl).2]

/-! ## Between a snapshot and its restoration -/

/-- Where the snapshot of the data of an APEX is. -/
abbrev ceSnapshot (userId rollbackId : Int) (apexName : String) : DirId :=
  .snapshot (ceDataDir userId) rollbackId false apexName

/-- What apexd is asked to do with snapshots. -/
inductive SnapshotRequest where
  | snapshotCeData (userId rollbackId : Int) (apexName : String)
  | restoreCeData (userId rollbackId : Int) (apexName : String)
  | destroyCeSnapshots (userId rollbackId : Int)
  | destroyCeSnapshotsNotSpecified (userId : Int) (retainRollbackIds : List Int)
  | destroyDeSnapshots (rollbackId : Int)
  | snapshotOrRestoreDeSysData (env : Environment)
  | snapshotOrRestoreDeUserData (env : Environment)

def SnapshotRequest.program (getSubdirs : DirId → Except String (List DirId)) :
    SnapshotRequest → Procedure Unit
  | .snapshotCeData userId rollbackId apexName => Apexd.snapshotCeData userId rollbackId apexName
  | .restoreCeData userId rollbackId apexName => Apexd.restoreCeData userId rollbackId apexName
  | .destroyCeSnapshots userId rollbackId => Apexd.destroyCeSnapshots userId rollbackId
  | .destroyCeSnapshotsNotSpecified userId retainRollbackIds =>
    Apexd.destroyCeSnapshotsNotSpecified getSubdirs userId retainRollbackIds
  | .destroyDeSnapshots rollbackId => Apexd.destroyDeSnapshots rollbackId
  | .snapshotOrRestoreDeSysData env => Apexd.snapshotOrRestoreDeSysData env
  | .snapshotOrRestoreDeUserData env => Apexd.snapshotOrRestoreDeUserData env

/-- The request neither takes, restores nor destroys the snapshot. -/
def SnapshotRequest.Spares (userId rollbackId : Int) (apexName : String) : SnapshotRequest → Prop
  | .snapshotCeData user rollback apex | .restoreCeData user rollback apex =>
    ¬ (user = userId ∧ rollback = rollbackId ∧ apex = apexName)
  | .destroyCeSnapshots user rollback => ¬ (user = userId ∧ rollback = rollbackId)
  | .destroyCeSnapshotsNotSpecified user retainRollbackIds => user = userId →
    rollbackId < 0 ∨ ∃ retained ∈ retainRollbackIds, asUint retained = rollbackId
  | .destroyDeSnapshots _ | .snapshotOrRestoreDeSysData _ | .snapshotOrRestoreDeUserData _ => True

/-- The subdirectories of the directory of snapshots: those of rollbacks, and others. -/
def ListsSubdirs (getSubdirs : DirId → Except String (List DirId)) : Prop :=
  ∀ base dirs, getSubdirs (.snapshots base) = .ok dirs → ∀ d ∈ dirs,
    (∃ rollbackId preRestore, d = .rollback base rollbackId preRestore) ∨ ∃ path, d = .other path

/-- What may happen to a device with a snapshot. -/
inductive SparingStep (userId rollbackId : Int) (apexName : String) (w w' : World) : Prop
  /-- a request, to its end or to an error -/
  | request (getSubdirs : DirId → Except String (List DirId)) (lists : ListsSubdirs getSubdirs)
      (apart : ceDataDir userId ∉ w.deUserDirs) (request : SnapshotRequest)
      (spares : request.Spares userId rollbackId apexName) (result : Except String Unit)
      (runs : Runs failing (request.program getSubdirs) w result w')
  /-- anything else, which leaves the snapshots alone -/
  | other (snapshots : ∀ base id preRestore apex,
      w'.fs.dir (.snapshot base id preRestore apex) = w.fs.dir (.snapshot base id preRestore apex))

theorem ceDataDir_inj {user : Int} : ceDataDir user = ceDataDir userId ↔ user = userId := by
  constructor
  · intro same
    exact Text.toString_int_inj ((String.append_right_inj _).mp same)
  · rintro rfl
    rfl

theorem ceDataDir_ne_deSysDataDir : ceDataDir userId ≠ kDeSysDataDir := by
  intro same
  have lengths := congrArg String.length same
  simp only [ceDataDir, String.length_append] at lengths
  have ce : kCeDataDir.length = 13 := rfl
  have sys : kDeSysDataDir.length = 10 := rfl
  omega

/-- What was deleted is gone with all that is in it, and what is elsewhere stays. -/
structure World.DeletedIf (w : World) (deletes : Bool) (other : DirId) (result : Except String Unit)
    (w' : World) : Prop where
  kept : ∀ d, (deletes = true → Nested.inside d other = false) → w'.fs.dir d = w.fs.dir d
  absent : ∀ d, w.fs.dir d = none → w'.fs.dir d = none
  deleted : result = .ok () → deletes = true → ∀ d, Nested.inside d other = true → w'.fs.dir d = none
  deUserDirs : w'.deUserDirs = w.deUserDirs

theorem wp_failing_deleteDir {other : DirId} :
    wp failing Anything (deleteDir other) (w.DeletedIf true other) w := by
  rw [deleteDir, wp_mapError]
  refine wp_failing_fsCall (by simp) (fun _ fs removed => ?_)
    fun e => ⟨fun _ _ => rfl, fun _ => id, (fun isOk => by cases isOk), rfl⟩
  obtain rfl : _ = fs := congrArg Prod.snd removed
  refine ⟨fun d outside => FsCall.effect_frame (outside rfl), fun d absent => ?_, fun _ _ d inside => ?_, rfl⟩
  · simp only [FsCall.effect, World.withFs]
    split
    · rfl
    · exact absent
  · simp [FsCall.effect, World.withFs, inside]

theorem wp_failing_deleteIf {deletes : Bool} {other : DirId} {f : String → String} :
    wp failing Anything (if deletes then (deleteDir other).mapError f else pure ())
      (w.DeletedIf deletes other) w := by
  cases deletes with
  | false => exact ⟨fun _ _ => rfl, fun _ => id, fun _ => nofun, rfl⟩
  | true =>
    rw [if_pos rfl, wp_mapError]
    refine wp_mono wp_failing_deleteDir fun result w' deleted => ?_
    cases result with
    | ok _ => exact deleted
    | error e => exact ⟨deleted.kept, deleted.absent, fun isOk => (nomatch isOk), deleted.deUserDirs⟩

theorem not_inside_rollback {user rollback : Int} (others : ¬ (user = userId ∧ rollback = rollbackId)) :
    Nested.inside (ceSnapshot userId rollbackId apexName) (.rollback (ceDataDir user) rollback false) = false := by
  simp only [Nested.inside, DirId.inside, ceSnapshot]
  have apart : ¬ (ceDataDir userId = ceDataDir user ∧ rollbackId = rollback) := fun both =>
    others ⟨(ceDataDir_inj.mp both.1).symm, both.2.symm⟩
  simpa using apart

theorem not_inside_rollbackOf {rollback : Int} (apart : base ≠ ceDataDir userId) :
    Nested.inside (ceSnapshot userId rollbackId apexName) (.rollback base rollback false) = false := by
  simp [Nested.inside, DirId.inside, ceSnapshot, apart.symm]

theorem ceSnapshot_ne_of_base {baseDir : String} (apart : baseDir ≠ ceDataDir userId) (d : DirId)
    (ofBase : OfBase baseDir d) : d ≠ ceSnapshot userId rollbackId apexName := by
  rintro rfl
  exact apart (Eq.symm ofBase)

/-- A request that spares a snapshot leaves it alone, whatever calls fail. -/
theorem wp_spares {getSubdirs : DirId → Except String (List DirId)} (lists : ListsSubdirs getSubdirs)
    (apart : ceDataDir userId ∉ w.deUserDirs) {request : SnapshotRequest}
    (spares : request.Spares userId rollbackId apexName) :
    wp failing Anything (request.program getSubdirs) (fun _ w' =>
      w'.fs.dir (ceSnapshot userId rollbackId apexName) = w.fs.dir (ceSnapshot userId rollbackId apexName)) w := by
  cases request with
  | snapshotCeData user rollback apex =>
    refine wp_mono (wp_failing_sameOutside frames_snapshotDataDirectory) fun _ w' same => same.dir _ ?_
    rintro (impossible | same)
    · cases impossible
    · obtain ⟨sameUser, sameRollback, -, sameApex⟩ := DirId.snapshot.inj same
      exact spares ⟨(ceDataDir_inj.mp sameUser).symm, sameRollback.symm, sameApex.symm⟩
  | restoreCeData user rollback apex =>
    refine wp_mono (wp_failing_sameOutside frames_restoreDataDirectoryOf) fun _ w' same => same.dir _ ?_
    rintro (impossible | same)
    · cases impossible
    · obtain ⟨sameUser, sameRollback, -, sameApex⟩ := DirId.snapshot.inj same
      exact spares ⟨(ceDataDir_inj.mp sameUser).symm, sameRollback.symm, sameApex.symm⟩
  | destroyCeSnapshots user rollback =>
    exact wp_mono wp_failing_deleteDir fun _ _ deleted => deleted.kept _ fun _ => not_inside_rollback spares
  | destroyCeSnapshotsNotSpecified user retainRollbackIds =>
    rw [SnapshotRequest.program, destroyCeSnapshotsNotSpecified, wp_bind, wp_mapError, wp_ofExcept]
    cases listed : getSubdirs (.snapshots (ceDataDir user)) with
    | error e => rfl
    | ok dirs =>
      refine wp_forM (fun _ w₁ => w₁.fs.dir (ceSnapshot userId rollbackId apexName) =
        w.fs.dir (ceSnapshot userId rollbackId apexName)) rfl ?_ fun _ kept => kept
      rintro before d after w₁ split kept
      have outside (notSpecified : isNotSpecified retainRollbackIds d = true) :
          Nested.inside (ceSnapshot userId rollbackId apexName) d = false := by
        rcases lists _ dirs listed d (by simp [split]) with ⟨id, preRestore, rfl⟩ | ⟨path, rfl⟩
        · rw [isNotSpecified_rollback, decide_eq_true_eq] at notSpecified
          obtain ⟨rfl, nonneg, -, notRetained⟩ := notSpecified
          refine not_inside_rollback fun ⟨sameUser, sameId⟩ => ?_
          rcases spares sameUser with negative | ⟨retained, member, same⟩
          · omega
          · exact notRetained retained member (same.trans sameId.symm)
        · rfl
      refine wp_mono wp_failing_deleteIf fun result w₂ deleted => ?_
      cases result <;> exact (deleted.kept _ outside).trans kept
  | destroyDeSnapshots rollback =>
    have sysOutside : Nested.inside (ceSnapshot userId rollbackId apexName)
        (.rollback kDeSysDataDir rollback false) = false :=
      not_inside_rollbackOf ceDataDir_ne_deSysDataDir.symm
    rw [SnapshotRequest.program, destroyDeSnapshots, wp_bind, wp_ignore]
    refine wp_mono wp_failing_deleteDir fun _ w₁ deleted => ?_
    have kept := deleted.kept (ceSnapshot userId rollbackId apexName) fun _ => sysOutside
    dsimp only
    rw [wp_bind, wp_mapError]
    rintro reply w₂ (⟨rfl, listing, perm, rfl⟩ | ⟨-, ⟨e, rfl⟩, rfl⟩)
    · refine ⟨trivial, wp_forM (fun _ w₃ => w₃.fs.dir (ceSnapshot userId rollbackId apexName) =
        w.fs.dir (ceSnapshot userId rollbackId apexName)) kept ?_ fun _ kept => kept⟩
      rintro before userDir after w₃ split kept₃
      have isUserDir : userDir ∈ w.deUserDirs := deleted.deUserDirs ▸ perm.mem_iff.mp (by simp [split])
      have userOutside : Nested.inside (ceSnapshot userId rollbackId apexName)
          (.rollback userDir rollback false) = false :=
        not_inside_rollbackOf fun same => apart (same ▸ isUserDir)
      rw [wp_ignore]
      exact wp_mono wp_failing_deleteDir fun _ _ deleted => (deleted.kept _ fun _ => userOutside).trans kept₃
    · exact ⟨trivial, kept⟩
  | snapshotOrRestoreDeSysData env =>
    have frames : Frames (· ≠ ceSnapshot userId rollbackId apexName) (snapshotOrRestoreDeSysData env) :=
      frames_snapshotOrRestoreDeSysData (ceSnapshot_ne_of_base ceDataDir_ne_deSysDataDir.symm) env
    exact wp_mono (wp_failing_sameOutside frames) fun _ w' same => same.dir _ (not_not_intro rfl)
  | snapshotOrRestoreDeUserData env =>
    rw [SnapshotRequest.program, snapshotOrRestoreDeUserData, wp_bind]
    rintro reply w₁ (⟨rfl, listing, perm, rfl⟩ | ⟨-, ⟨e, rfl⟩, rfl⟩)
    · have ofUsers : Frames (· ≠ ceSnapshot userId rollbackId apexName) (do
          let sessions ← getSessionsInState .ACTIVATED
          sessions.forM fun session =>
            listing.forM fun userDir => snapshotOrRestoreDeIfNeeded env userDir session) := by
        have sessions : Frames (· ≠ ceSnapshot userId rollbackId apexName)
          (getSessionsInState .ACTIVATED) := frames_getSessions.bind fun _ => trivial
        refine sessions.bind fun sessions => Program.Within.forM fun session _ =>
          Program.Within.forM fun userDir isUserDir => ?_
        refine frames_snapshotOrRestoreDeIfNeeded (ceSnapshot_ne_of_base fun same => ?_) env session
        exact apart (same ▸ perm.mem_iff.mp isUserDir)
      refine ⟨trivial, wp_mono (p := do
          let sessions ← getSessionsInState .ACTIVATED
          sessions.forM fun session =>
            listing.forM fun userDir => snapshotOrRestoreDeIfNeeded env userDir session)
        (wp_failing_sameOutside ofUsers) fun _ w' same => same.dir _ (not_not_intro rfl)⟩
    · exact ⟨trivial, rfl⟩

theorem SparingStep.dir (step : SparingStep userId rollbackId apexName w w') :
    w'.fs.dir (ceSnapshot userId rollbackId apexName) = w.fs.dir (ceSnapshot userId rollbackId apexName) := by
  cases step with
  | request getSubdirs lists apart request spares result runs => exact wp_runs (wp_spares lists apart spares) runs
  | other snapshots => exact snapshots _ _ _ _

/-- What was snapshot is restored: the data of the APEX is what it was when the snapshot was taken,
and nothing but the data and the snapshot changes. -/
theorem restoreCeData_of_snapshotCeData
    (taken : Runs failing (snapshotCeData userId rollbackId apexName) w₀ (.ok ()) w₁)
    (spared : ReflTransGen (SparingStep userId rollbackId apexName) w₁ w₂)
    (restored : Runs failing (restoreCeData userId rollbackId apexName) w₂ (.ok ()) w₃) :
    w₀.fs.has (.apexData (ceDataDir userId) apexName) = true ∧
      w₃.fs.dir (.apexData (ceDataDir userId) apexName) = w₀.fs.dir (.apexData (ceDataDir userId) apexName) ∧
      ∀ d, d ≠ .apexData (ceDataDir userId) apexName → d ≠ ceSnapshot userId rollbackId apexName →
        w₃.fs.dir d = w₂.fs.dir d := by
  obtain ⟨found, snapshot⟩ := wp_runs wp_failing_snapshotDataDirectory taken rfl
  have kept : w₂.fs.dir (ceSnapshot userId rollbackId apexName) =
      w₁.fs.dir (ceSnapshot userId rollbackId apexName) := by
    clear taken restored snapshot
    induction spared with
    | refl => rfl
    | tail _ step ih => exact step.dir.trans ih
  have same := wp_runs wp_failing_restoreDataDirectory restored rfl
  refine ⟨found, same.trans (kept.trans snapshot), fun d notData notSnapshot => ?_⟩
  exact (wp_runs (wp_failing_sameOutside frames_restoreDataDirectoryOf) restored).dir d
    (by simp [notData, notSnapshot])

/-- Data of an APEX for a user. -/
def ceData : World :=
  .ofDirectories [(.apexData "/data/misc_ce/0" "foo", [("settings", .data "old")])]

/-- The same after the APEX wrote to it. -/
def World.withSettings (w : World) (settings : String) : World :=
  w.withFs (w.fs.write ⟨.apexData "/data/misc_ce/0" "foo", "settings"⟩ (.data settings))

theorem restoreCeData_of_snapshotCeData_foo : ∃ w₁ w₂ w₃,
    Runs failing (snapshotCeData 0 7 "foo") ceData (.ok ()) w₁ ∧
    Runs failing (destroyCeSnapshots 0 8) (w₁.withSettings "new") (.ok ()) w₂ ∧
    Runs failing (restoreCeData 0 7 "foo") w₂ (.ok ()) w₃ ∧
    w₃.fs.dir (.apexData "/data/misc_ce/0" "foo") = ceData.fs.dir (.apexData "/data/misc_ce/0" "foo") := by
  have computed : ((exec deviceHandler (snapshotCeData 0 7 "foo") ceData).bind fun first =>
      (exec deviceHandler (destroyCeSnapshots 0 8) (first.2.withSettings "new")).bind
        fun second => (exec deviceHandler (restoreCeData 0 7 "foo") second.2).map
          fun third => (first, second, third)).any fun (first, second, third) =>
            first.1 = .ok () ∧ second.1 = .ok () ∧ third.1 = .ok () ∧ first.2.deUserDirs = [] := by
    decide +kernel
  obtain ⟨⟨⟨_, w₁⟩, ⟨_, w₂⟩, ⟨_, w₃⟩⟩, ran, succeeded⟩ := (Option.any_eq_true _ _).mp computed
  obtain ⟨rfl, rfl, rfl, noUsers⟩ := of_decide_eq_true succeeded
  obtain ⟨first, ranFirst, ran⟩ := Option.bind_eq_some_iff.mp ran
  obtain ⟨second, ranSecond, ran⟩ := Option.bind_eq_some_iff.mp ran
  obtain ⟨third, ranThird, same⟩ := Option.map_eq_some_iff.mp ran
  cases same
  have sound : deviceHandler.Sound failing := deviceHandler_sound.withFaults
  have taken := exec_runs sound ranFirst
  have destroyed := exec_runs sound ranSecond
  have restored := exec_runs sound ranThird
  have writes : SparingStep 0 7 "foo" w₁ (w₁.withSettings "new") :=
    .other fun _ _ _ _ => w₁.fs.dir_update_ne (by simp) _
  have destroys : SparingStep 0 7 "foo" (w₁.withSettings "new") w₂ :=
    .request (fun _ => .ok []) (fun _ _ listed => by cases listed; simp) (fun isUser => by
      rw [World.withSettings, World.withFs, noUsers] at isUser
      cases isUser) (.destroyCeSnapshots 0 8) (by simp [SnapshotRequest.Spares]) _ destroyed
  have same := restoreCeData_of_snapshotCeData taken (.tail (.single writes) destroys) restored
  exact ⟨w₁, w₂, w₃, taken, destroyed, restored, same.2.1⟩

/-! ## Destroying what is not specified -/

/-- Two directories of rollbacks have nothing in common, and none has anything in common with a
directory of another kind. -/
theorem eq_of_inside_rollback {d other : DirId} {preRestore : Bool}
    (isChild : (∃ id pre, other = .rollback base id pre) ∨ ∃ path, other = .other path)
    (inside : Nested.inside d (.rollback base rollbackId preRestore) = true)
    (insideOther : Nested.inside d other = true) : other = .rollback base rollbackId preRestore := by
  rcases isChild with ⟨id, pre, rfl⟩ | ⟨path, rfl⟩
  · cases d <;> simp [Nested.inside, DirId.inside] at inside insideOther ⊢
    all_goals grind
  · cases d <;> simp [Nested.inside, DirId.inside] at inside insideOther

/-- The subdirectories are those of the rollbacks that are there, and others. -/
def World.ListsRollbacks (w : World) (base : String) (dirs : List DirId) : Prop :=
  ∀ id preRestore, .rollback base id preRestore ∈ dirs ↔ w.fs.has (.rollback base id preRestore) = true

/-- Nothing is gone but what is to be destroyed, and after success all of that is. -/
structure World.DestroyedExactly (w : World) (base : String) (dirs : List DirId)
    (retainRollbackIds : List Int) (result : Except String Unit) (w' : World) : Prop where
  kept : ∀ d, (∀ other ∈ dirs, isNotSpecified retainRollbackIds other = true →
    Nested.inside d other = false) → w'.fs.dir d = w.fs.dir d
  destroyed : result = .ok () → ∀ id preRestore, .rollback base id preRestore ∈ dirs →
    ∀ d, Nested.inside d (.rollback base id preRestore) = true →
      w'.fs.dir d = if preRestore = false ∧ 0 ≤ id ∧ id ≤ 4294967295 ∧
        ∀ retained ∈ retainRollbackIds, asUint retained ≠ id then none else w.fs.dir d
  /-- where the listing is of the directories that are there, those of these rollbacks are left -/
  left : result = .ok () → w.ListsRollbacks base dirs → ∀ id preRestore,
    (w'.fs.has (.rollback base id preRestore) = true ↔
      w.fs.has (.rollback base id preRestore) = true ∧ ¬ (preRestore = false ∧ 0 ≤ id ∧
        id ≤ 4294967295 ∧ ∀ retained ∈ retainRollbackIds, asUint retained ≠ id))

/-- The snapshots of exactly those rollbacks are destroyed whose ids are unsigned numbers and are
not to be retained. -/
theorem destroyCeSnapshotsNotSpecified_exact {getSubdirs : DirId → Except String (List DirId)}
    {dirs : List DirId} {retainRollbackIds : List Int} {result : Except String Unit}
    (listed : getSubdirs (.snapshots (ceDataDir userId)) = .ok dirs)
    (children : ∀ d ∈ dirs, (∃ id preRestore, d = .rollback (ceDataDir userId) id preRestore) ∨
      ∃ path, d = .other path)
    (runs : Runs failing (destroyCeSnapshotsNotSpecified getSubdirs userId retainRollbackIds) w result w') :
    w.DestroyedExactly (ceDataDir userId) dirs retainRollbackIds result w' := by
  suffices spec : wp failing Anything (destroyCeSnapshotsNotSpecified getSubdirs userId retainRollbackIds)
      (w.DestroyedExactly (ceDataDir userId) dirs retainRollbackIds) w from wp_runs spec runs
  rw [destroyCeSnapshotsNotSpecified, wp_bind, wp_mapError, wp_ofExcept, listed]
  refine wp_forM (fun before w₁ =>
    (∀ d, (∀ other ∈ before, isNotSpecified retainRollbackIds other = true → Nested.inside d other = false) →
      w₁.fs.dir d = w.fs.dir d) ∧
    ∀ other ∈ before, isNotSpecified retainRollbackIds other = true →
      ∀ d, Nested.inside d other = true → w₁.fs.dir d = none) ⟨fun _ _ => rfl, by simp⟩ ?_ ?_
  · rintro before other after w₁ split ⟨kept, gone⟩
    refine wp_mono wp_failing_deleteIf fun result w₂ deleted => ?_
    have keeps (d : DirId) (outside : ∀ earlier ∈ before ++ [other],
        isNotSpecified retainRollbackIds earlier = true → Nested.inside d earlier = false) :
        w₂.fs.dir d = w.fs.dir d :=
      (deleted.kept d (outside other (by simp))).trans
        (kept d fun earlier member => outside earlier (by simp [member]))
    cases result with
    | error e =>
      refine ⟨fun d outside => keeps d fun earlier member => outside earlier ?_,
        (fun isOk => by cases isOk), (fun isOk => by cases isOk)⟩
      rw [split, List.append_cons]
      exact List.mem_append_left _ member
    | ok _ =>
      refine ⟨keeps, fun earlier member notSpecified d inside => ?_⟩
      rcases List.mem_append.mp member with member | member
      · exact deleted.absent d (gone earlier member notSpecified d inside)
      · obtain rfl := List.mem_singleton.mp member
        exact deleted.deleted rfl notSpecified d inside
  · rintro w₁ ⟨kept, gone⟩
    suffices destroyed : ∀ id preRestore, .rollback (ceDataDir userId) id preRestore ∈ dirs →
        ∀ d, Nested.inside d (.rollback (ceDataDir userId) id preRestore) = true →
          w₁.fs.dir d = if preRestore = false ∧ 0 ≤ id ∧ id ≤ 4294967295 ∧
            ∀ retained ∈ retainRollbackIds, asUint retained ≠ id then none else w.fs.dir d by
      refine ⟨kept, fun _ => destroyed, fun _ lists id preRestore => ?_⟩
      by_cases member : .rollback (ceDataDir userId) id preRestore ∈ dirs
      · have there := (lists id preRestore).mp member
        rw [FileSystem.has, destroyed id preRestore member _ (Nested.inside_self _)]
        split
        · rename_i isDestroyed
          exact ⟨(fun isSome => by cases isSome), fun both => absurd isDestroyed both.2⟩
        · rename_i isRetained
          exact ⟨fun _ => ⟨there, isRetained⟩, fun _ => there⟩
      · have absent : w.fs.has (.rollback (ceDataDir userId) id preRestore) ≠ true := fun there =>
          member ((lists id preRestore).mpr there)
        have same := kept (.rollback (ceDataDir userId) id preRestore) fun other isOther _ => by
          by_contra insideOther
          have isSame := eq_of_inside_rollback (children other isOther) (Nested.inside_self _)
            (by simpa using insideOther)
          exact member (isSame ▸ isOther)
        rw [FileSystem.has, same, ← FileSystem.has]
        exact ⟨fun there => absurd there absent, fun both => absurd both.1 absent⟩
    intro id preRestore member d inside
    have which : isNotSpecified retainRollbackIds (.rollback (ceDataDir userId) id preRestore) =
        decide (preRestore = false ∧ 0 ≤ id ∧ id ≤ 4294967295 ∧
          ∀ retained ∈ retainRollbackIds, asUint retained ≠ id) := isNotSpecified_rollback
    split
    · rename_i destroyed
      exact gone _ member (which.trans (decide_eq_true destroyed)) d inside
    · rename_i retained
      refine kept d fun other isOther notSpecified => ?_
      by_contra insideOther
      have same := eq_of_inside_rollback (children other isOther) inside (by simpa using insideOther)
      rw [same, which] at notSpecified
      exact retained (of_decide_eq_true notSpecified)

/-- Snapshots of two rollbacks of a user. -/
def twoSnapshots : World :=
  .ofDirectories [(.rollback "/data/misc_ce/0" 7 false, []),
    (.snapshot "/data/misc_ce/0" 7 false "foo", [("settings", .data "first")]),
    (.rollback "/data/misc_ce/0" 8 false, []),
    (.snapshot "/data/misc_ce/0" 8 false "foo", [("settings", .data "second")])]

def twoSubdirs : DirId → Except String (List DirId)
  | .snapshots base => .ok [.rollback base 8 false, .rollback base 7 false]
  | _ => .ok []

theorem listsRollbacks_twoSnapshots : twoSnapshots.ListsRollbacks "/data/misc_ce/0"
    [.rollback "/data/misc_ce/0" 8 false, .rollback "/data/misc_ce/0" 7 false] := by
  intro id preRestore
  simp only [twoSnapshots, World.ofDirectories, FileSystem.has]
  grind

theorem destroyCeSnapshotsNotSpecified_exact_two : ∃ w',
    Runs failing (destroyCeSnapshotsNotSpecified twoSubdirs 0 [7]) twoSnapshots (.ok ()) w' ∧
    w'.fs.dir (ceSnapshot 0 8 "foo") = none ∧
    w'.fs.dir (ceSnapshot 0 7 "foo") = twoSnapshots.fs.dir (ceSnapshot 0 7 "foo") ∧
    ∀ id preRestore, w'.fs.has (.rollback "/data/misc_ce/0" id preRestore) = true →
      id = 7 ∧ preRestore = false := by
  obtain ⟨result, w', runs, isOk⟩ := exists_runs (deviceHandler_sound.withFaults : deviceHandler.Sound failing)
    (destroyCeSnapshotsNotSpecified twoSubdirs 0 [7]) twoSnapshots (fun result _ => result = .ok ())
    (by decide +kernel)
  obtain rfl := of_decide_eq_true isOk
  have exact' := destroyCeSnapshotsNotSpecified_exact rfl (fun d member => .inl (by grind)) runs
  have inside (id : Int) : Nested.inside (ceSnapshot 0 id "foo") (.rollback (ceDataDir 0) id false) = true := by
    simp [Nested.inside, DirId.inside, ceSnapshot]
  refine ⟨w', runs, ?_, ?_, fun id preRestore isLeft => ?_⟩
  · exact (exact'.destroyed rfl 8 false (by simp) _ (inside 8)).trans (if_pos (by decide))
  · exact (exact'.destroyed rfl 7 false (by simp) _ (inside 7)).trans (if_neg (by decide))
  · obtain ⟨there, retained⟩ := (exact'.left rfl listsRollbacks_twoSnapshots id preRestore).mp isLeft
    have listed := (listsRollbacks_twoSnapshots id preRestore).mpr there
    simp only [List.mem_cons, DirId.rollback.injEq, true_and, List.not_mem_nil, or_false] at listed
    rcases listed with ⟨rfl, rfl⟩ | isSeven
    · exact absurd (by decide) retained
    · exact isSeven

end Apexd
