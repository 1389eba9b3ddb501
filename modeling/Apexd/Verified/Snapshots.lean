import Apexd.Model.Snapshots
import Apexd.Process.Execution
import Apexd.Verified.Calls

/-! # Snapshots of APEX data

Restoring a snapshot moves it over the data, whether or not there is one, so that what a restore
does to the data is decided by whether the snapshot exists.  From this follow the exact
conditions under which a revert leaves the data of an APEX alone and under which repeated boots
restore the same data.
-/

namespace Apexd

open Process Storage

/-! ## Moving and copying directories -/

namespace World

/-- The device after `target` was replaced by what is at `source`. -/
def replaceDir (w : World) (source target : DirId) : World :=
  w.withFs ⟨fun x => if x = target then w.fs.dir source else w.fs.dir x⟩

/-- The device after what is at `source` was moved over `target`. -/
def moveDir (w : World) (source target : DirId) : World :=
  w.withFs ⟨fun x => if x = target then w.fs.dir source else if x = source then none
    else w.fs.dir x⟩

variable {w : World} {source target x : DirId}

@[simp] theorem dir_replaceDir : (w.replaceDir source target).fs.dir x =
    if x = target then w.fs.dir source else w.fs.dir x := rfl

@[simp] theorem dir_moveDir : (w.moveDir source target).fs.dir x =
    if x = target then w.fs.dir source else if x = source then none else w.fs.dir x := rfl

end World

/-- No directory of the model lies inside of `d`. -/
def IsLeaf (d : DirId) : Prop :=
  ∀ x, Nested.inside x d = true ↔ x = d

theorem isLeaf_apexData (base apex : String) : IsLeaf (.apexData base apex) := by
  intro x
  cases x <;> simp [Nested.inside, DirId.inside]

theorem isLeaf_snapshot (base : String) (rollbackId : Int) (preRestore : Bool) (apex : String) :
    IsLeaf (.snapshot base rollbackId preRestore apex) := by
  intro x
  cases x <;> simp [Nested.inside, DirId.inside]

section Calls

variable {w : World} {source target : DirId}

/-- A call of the file system, with what it leaves of the directories. -/
theorem wp_fsCall_dir {request : FsCall DirId} (notListing : ∀ d, request ≠ .readDir d)
    {w' : World} {reply : Except String (request.Reply Content)}
    (effect : (request.effect w.fs).1 = reply) (fs : (request.effect w.fs).2 = w'.fs)
    (rest : w' = w.withFs w'.fs) {Q : Except String (request.Reply Content) → World → Prop}
    (post : Q reply w') : wp device Anything (fsCall request) Q w := by
  refine wp_fsCall notListing (Prod.ext effect fs) trivial ?_
  rw [← rest]
  exact post

theorem wp_removeLeaf {d : DirId} (leaf : IsLeaf d) {Q : Except String Unit → World → Prop}
    (post : Q (.ok ()) (w.withFs (w.fs.set d none))) :
    wp device Anything (fsCall (.removeDir d)) Q w := by
  refine wp_fsCall_dir (by simp) rfl ?_ rfl post
  simp only [FsCall.effect, FileSystem.set, World.withFs, FileSystem.mk.injEq]
  funext x
  simp only [leaf x]

/-- The target becomes what the source is; where there is no source, it is gone. -/
theorem wp_replaceFiles (leaf : IsLeaf target) (ne : source ≠ target)
    {Q : Except String Unit → World → Prop}
    (copied : w.fs.has source = true → Q (.ok ()) (w.replaceDir source target))
    (failed : w.fs.has source = false → ∀ e, Q (.error e) (w.replaceDir source target)) :
    wp device Anything (replaceFiles source target) Q w := by
  have same : (w.fs.set target none).dir source = w.fs.dir source := w.fs.dir_set_ne ne _
  have replaced (dir : Option (Dir Content)) (found : w.fs.dir source = dir) (fs : FileSystem DirId Content)
      (isFs : ∀ x, fs.dir x = if x = target then dir else w.fs.dir x) :
      w.replaceDir source target = w.withFs fs := by
    refine congrArg w.withFs (FileSystem.ext (funext fun x => ?_))
    rw [isFs x, found]
  rw [replaceFiles, wp_bind, wp_mapError]
  refine wp_removeLeaf leaf ?_
  change wp device Anything (Program.onError _ _) Q _
  rw [wp_onError, wp_mapError]
  cases found : w.fs.dir source with
  | none =>
    have effect : (FsCall.copyDir source target).effect (w.fs.set target none) =
        (.error FsCall.noSuchFile, w.fs.set target none) := by
      simp only [FsCall.effect, same, found]
    refine wp_fsCall (by simp) effect trivial (wp_removeLeaf leaf ?_)
    have isReplaced := replaced none found ((w.fs.set target none).set target none) fun x => by
      simp only [FileSystem.set]
      split <;> rfl
    exact isReplaced ▸ failed (by simp [FileSystem.has, found]) _
  | some dir =>
    have effect : (FsCall.copyDir source target).effect (w.fs.set target none) =
        (.ok (), (w.fs.set target none).set target (some dir)) := by
      simp [FsCall.effect, same, found, FileSystem.has]
    refine wp_fsCall (by simp) effect trivial ?_
    have isReplaced := replaced (some dir) found ((w.fs.set target none).set target (some dir))
      fun x => by
        simp only [FileSystem.set]
        split <;> rfl
    exact isReplaced ▸ copied (by simp [FileSystem.has, found])

/-- Restoring a snapshot moves it over the data of the APEX. -/
theorem wp_restoreDataDirectory {base apex : String} {rollbackId : Int} {preRestore : Bool}
    {Q : Except String Unit → World → Prop}
    (post : Q (.ok ()) (w.moveDir (.snapshot base rollbackId preRestore apex) (.apexData base apex))) :
    wp device Anything (restoreDataDirectory base rollbackId apex preRestore).ignore Q w := by
  rw [wp_ignore, restoreDataDirectory, wp_bind]
  have moved (fs : FileSystem DirId Content) (isFs : ∀ x, fs.dir x =
      if x = .apexData base apex then w.fs.dir (.snapshot base rollbackId preRestore apex)
      else if x = .snapshot base rollbackId preRestore apex then none else w.fs.dir x) :
      Q (.ok ()) (w.withFs fs) := by
    have same : fs = (w.moveDir (.snapshot base rollbackId preRestore apex) (.apexData base apex)).fs :=
      FileSystem.ext (funext isFs)
    exact same ▸ post
  refine wp_replaceFiles (isLeaf_apexData base apex) (by simp) (fun exists' => ?_) fun absent e => ?_
  · dsimp only
    rw [wp_bind, restoreconPath, orErrno, wp_mapError]
    rintro reply w' ⟨rfl, rfl⟩
    have found : (w.replaceDir (.snapshot base rollbackId preRestore apex)
        (.apexData base apex)).fs.has (.apexData base apex) = true := by
      simpa [FileSystem.has] using exists'
    refine ⟨trivial, ?_⟩
    rw [World.restorecon, World.hasPath, if_pos found]
    change wp device Anything (deleteDir _).ignore _ _
    rw [wp_ignore, deleteDir, wp_mapError]
    refine wp_removeLeaf (isLeaf_snapshot _ _ _ _) (moved _ fun x => ?_)
    simp only [FileSystem.set, World.replaceDir, World.withFs]
    split <;> simp_all
  · refine moved _ fun x => ?_
    have gone : w.fs.dir (.snapshot base rollbackId preRestore apex) = none := by
      simpa [FileSystem.has] using absent
    dsimp only
    split
    · rfl
    · split <;> simp_all

end Calls

/-! ## Reverting a rollback -/

section PreRestore

variable {base : String} {session : ApexSession} {w : World}

/-- The data of an APEX after `times` restores of the same snapshot of it: the first one takes
the snapshot, every other one finds none. -/
def restoredTimes (data snapshot : Option (Dir Content)) : Nat → Option (Dir Content)
  | 0 => data
  | 1 => snapshot
  | _ + 2 => none

def snapshotAfter (snapshot : Option (Dir Content)) : Nat → Option (Dir Content)
  | 0 => snapshot
  | _ + 1 => none

/-- Without a snapshot the data is gone after the first restore. -/
theorem restoredTimes_none (data : Option (Dir Content)) {times : Nat} (some' : 0 < times) :
    restoredTimes data none times = none := by
  match times with
  | 1 | _ + 2 => rfl

theorem restoredTimes_succ (data snapshot : Option (Dir Content)) (times : Nat) :
    restoredTimes data snapshot (times + 1) = snapshotAfter snapshot times := by
  cases times <;> rfl

/-- The data and snapshots after pre-restore snapshots of `names` were restored. -/
def RestoredPreRestore (base : String) (rollbackId : Int) (names : List String) (w w' : World) :
    Prop :=
  ∀ apex,
    w'.fs.dir (.apexData base apex) = restoredTimes (w.fs.dir (.apexData base apex))
      (w.fs.dir (.snapshot base rollbackId true apex)) (names.count apex) ∧
    w'.fs.dir (.snapshot base rollbackId true apex) =
      snapshotAfter (w.fs.dir (.snapshot base rollbackId true apex)) (names.count apex)

theorem RestoredPreRestore.moveDir {rollbackId : Int} {names : List String} {w' : World}
    (restored : RestoredPreRestore base rollbackId names w w') (apex : String) :
    RestoredPreRestore base rollbackId (names ++ [apex]) w
      (w'.moveDir (.snapshot base rollbackId true apex) (.apexData base apex)) := by
  intro other
  obtain ⟨data, snapshot⟩ := restored other
  simp only [World.dir_moveDir, List.count_append]
  by_cases same : other = apex
  · subst same
    simp [restoredTimes_succ, snapshotAfter, snapshot]
  · simp [same, Ne.symm same, data, snapshot]

/-- The loop runs whether or not there is a directory with pre-restore snapshots. -/
theorem wp_restorePreRestoreSnapshotsIfPresent {Q : Except String Unit → World → Prop}
    (post : ∀ w', RestoredPreRestore base session.state.rollbackId session.state.apexNames w w' →
      Q (.ok ()) w') :
    wp device Anything (restorePreRestoreSnapshotsIfPresent base session) Q w := by
  have quiet : Quiet (Anything : Guarantee apexd World) := quiet_anything
  rw [restorePreRestoreSnapshotsIfPresent, wp_bind, pathExistsOk, wp_bind, wp_attempt]
  refine wp_pathExists quiet ?_
  refine wp_forM (RestoredPreRestore base session.state.rollbackId · w) ?_ ?_ post
  · exact fun apex => ⟨rfl, rfl⟩
  · rintro names apex rest w' - restored
    exact wp_restoreDataDirectory (restored.moveDir apex)

theorem always_replaceFiles (source target : DirId) :
    (replaceFiles source target).Within AlwaysAnswered :=
  ((always_fsCall _).mapError _).bind fun _ =>
    ((always_fsCall _).mapError _).onError (always_fsCall _)

theorem always_restoreDataDirectory (base apex : String) (rollbackId : Int) (preRestore : Bool) :
    (restoreDataDirectory base rollbackId apex preRestore).Within AlwaysAnswered := by
  have restorecon : (.call (.restorecon (.dir (.apexData base apex))) .done : Procedure Unit).Within
      AlwaysAnswered := ⟨trivial, fun _ => trivial⟩
  exact (always_replaceFiles _ _).bind fun _ => (restorecon.mapError _).bind fun _ =>
    ((always_fsCall _).mapError _).ignore

theorem always_restorePreRestoreSnapshotsIfPresent (base : String) (session : ApexSession) :
    (restorePreRestoreSnapshotsIfPresent base session).Within AlwaysAnswered := by
  refine Program.Within.bind ?_ fun found => ?_
  · have exists' : (pathExists (.rollback base session.state.rollbackId true)).Within
        AlwaysAnswered := ((always_fsCall _).mapError _).bind fun _ => trivial
    refine exists'.attempt.bind fun found => ?_
    cases found <;> trivial
  · split
    · exact Program.Within.forM fun apex _ => (always_restoreDataDirectory _ _ _ _).ignore
    · trivial

/-- What a revert of a rollback has to do to the data of its APEXes. -/
structure RestoresWherePresent (base : String) (session : ApexSession) (w w' : World) : Prop where
  untouched : w.fs.has (.rollback base session.state.rollbackId true) = false →
    ∀ apex, w'.fs.dir (.apexData base apex) = w.fs.dir (.apexData base apex)
  restored : w.fs.has (.rollback base session.state.rollbackId true) = true →
    ∀ apex ∈ session.state.apexNames,
      w.fs.has (.snapshot base session.state.rollbackId true apex) = true →
        w'.fs.dir (.apexData base apex) =
          w.fs.dir (.snapshot base session.state.rollbackId true apex) ∧
        w'.fs.has (.snapshot base session.state.rollbackId true apex) = false

/-- Pre-restore snapshots are applied where they exist, and only there, exactly when no APEX of
the session has data that is lost for want of a snapshot. -/
theorem restoresWherePresent_iff (base : String) (session : ApexSession) (w : World)
    (nested : ∀ apex, w.fs.has (.snapshot base session.state.rollbackId true apex) = true →
      w.fs.has (.rollback base session.state.rollbackId true) = true) :
    (∀ result w', Runs device (restorePreRestoreSnapshotsIfPresent base session) w result w' →
      RestoresWherePresent base session w w') ↔
    if w.fs.has (.rollback base session.state.rollbackId true) then
      ∀ apex ∈ session.state.apexNames,
        w.fs.has (.snapshot base session.state.rollbackId true apex) = true →
          session.state.apexNames.count apex = 1
    else ∀ apex ∈ session.state.apexNames, w.fs.has (.apexData base apex) = false := by
  have outcome (result : Except String Unit) (w' : World)
      (run : Runs device (restorePreRestoreSnapshotsIfPresent base session) w result w') :
      RestoredPreRestore base session.state.rollbackId session.state.apexNames w w' := by
    have restores : wp device Anything (restorePreRestoreSnapshotsIfPresent base session)
        (fun _ w' => RestoredPreRestore base session.state.rollbackId session.state.apexNames w w')
        w := wp_restorePreRestoreSnapshotsIfPresent fun _ restored => restored
    exact wp_runs restores run
  have noSnapshot (absent : ¬ w.fs.has (.rollback base session.state.rollbackId true) = true)
      (apex : String) : w.fs.dir (.snapshot base session.state.rollbackId true apex) = none := by
    rw [← Option.not_isSome_iff_eq_none]
    exact fun found => absent (nested apex found)
  constructor
  · intro always
    obtain ⟨result, w', run⟩ :=
      (always_restorePreRestoreSnapshotsIfPresent base session).exists_runs answered_of_always w
    have restores := always result w' run
    have done := outcome result w' run
    split
    · rename_i present
      intro apex member exists'
      have data := (restores.restored present apex member exists').1
      obtain ⟨snapshot, found⟩ := Option.isSome_iff_exists.mp exists'
      rw [(done apex).1, found] at data
      match times : session.state.apexNames.count apex with
      | 0 => exact absurd (List.count_pos_iff.mpr member) (by omega)
      | 1 => rfl
      | _ + 2 =>
        rw [times] at data
        cases data
    · rename_i absent
      intro apex member
      have data := restores.untouched (by simpa using absent) apex
      rw [(done apex).1, noSnapshot absent, restoredTimes_none _ (List.count_pos_iff.mpr member)]
        at data
      rw [FileSystem.has, ← data]
      rfl
  · intro condition result w' run
    have done := outcome result w' run
    constructor
    · intro absent apex
      rw [absent] at condition
      simp only [Bool.false_eq_true, if_false] at condition
      rw [(done apex).1, noSnapshot (by simp [absent])]
      by_cases member : apex ∈ session.state.apexNames
      · have noData : w.fs.dir (.apexData base apex) = none := by
          simpa [FileSystem.has] using condition apex member
        rw [noData, restoredTimes_none _ (List.count_pos_iff.mpr member)]
      · rw [List.count_eq_zero.mpr member]
        rfl
    · intro present apex member exists'
      rw [if_pos present] at condition
      rw [FileSystem.has, (done apex).1, (done apex).2, condition apex member exists']
      exact ⟨rfl, rfl⟩

/-- A rollback session with data of one APEX and no pre-restore snapshot. -/
def rollbackOf (apexNames : List String) : ApexSession where
  state := { SessionState.initial 1 with
    state := .REVERT_IN_PROGRESS, isRollback := true, rollbackId := 7, apexNames := apexNames }
  sessionDir := "1"

def dataWithoutSnapshot : World :=
  .ofDirectories [(.apexData "/data/misc" "foo", [("settings", .data "kept")])]

def dataWithSnapshot : World :=
  .ofDirectories [(.apexData "/data/misc" "foo", [("settings", .data "new")]),
    (.rollback "/data/misc" 7 true, []),
    (.snapshot "/data/misc" 7 true "foo", [("settings", .data "old")])]

theorem restoresWherePresent_iff_snapshot :
    dataWithSnapshot.fs.has (.rollback "/data/misc" 7 true) = true ∧
    ∀ result w', Runs device
      (restorePreRestoreSnapshotsIfPresent "/data/misc" (rollbackOf ["foo"])) dataWithSnapshot
        result w' → RestoresWherePresent "/data/misc" (rollbackOf ["foo"]) dataWithSnapshot w' :=
  ⟨by decide +kernel, (restoresWherePresent_iff "/data/misc" (rollbackOf ["foo"]) dataWithSnapshot
    (fun _ _ => by decide +kernel)).mpr (by decide +kernel)⟩

/-- Reverting a rollback wipes the data of an APEX that has no pre-restore snapshot. -/
theorem revert_wipes_data_without_snapshot : ∃ result w',
    Runs device (restorePreRestoreSnapshotsIfPresent "/data/misc" (rollbackOf ["foo"]))
      dataWithoutSnapshot result w' ∧
    dataWithoutSnapshot.fs.has (.rollback "/data/misc" 7 true) = false ∧
    ¬ RestoresWherePresent "/data/misc" (rollbackOf ["foo"]) dataWithoutSnapshot w' := by
  obtain ⟨result, w', run, check⟩ := exists_runs deviceHandler_sound
    (restorePreRestoreSnapshotsIfPresent "/data/misc" (rollbackOf ["foo"])) dataWithoutSnapshot
    (fun _ w' => !w'.fs.has (.apexData "/data/misc" "foo")) (by decide +kernel)
  refine ⟨result, w', run, by decide +kernel, fun restores => ?_⟩
  have same := restores.untouched (by decide +kernel) "foo"
  have kept : w'.fs.has (.apexData "/data/misc" "foo") =
      dataWithoutSnapshot.fs.has (.apexData "/data/misc" "foo") := by
    rw [FileSystem.has, FileSystem.has, same]
  rw [kept] at check
  exact absurd check (by decide +kernel)

end PreRestore

/-! ## Repeated boots -/

section Repeated

variable {env : Environment} {base : String} {session : ApexSession} {w w' : World}

/-- Taking a snapshot, with whatever becomes of the directory it is in. -/
theorem wp_snapshotDataDirectory {apex : String} {rollbackId : Int} {preRestore : Bool}
    {Q : Except String Unit → World → Prop}
    (post : ∀ w', (∀ x, x ≠ .rollback base rollbackId preRestore → w'.fs.dir x =
      if x = .snapshot base rollbackId preRestore apex then w.fs.dir (.apexData base apex)
      else w.fs.dir x) → Q (.ok ()) w') :
    wp device Anything (snapshotDataDirectory base rollbackId apex preRestore).ignore Q w := by
  rw [wp_ignore, snapshotDataDirectory, wp_bind, wp_mapError]
  refine wp_createDirIfNeeded quiet_anything (fun _ _ _ _ _ _ _ => trivial) fun w₁ only _ _ => ?_
  have replaced (x : DirId) (ne : x ≠ .rollback base rollbackId preRestore) :
      (w₁.replaceDir (.apexData base apex) (.snapshot base rollbackId preRestore apex)).fs.dir x =
        if x = .snapshot base rollbackId preRestore apex then w.fs.dir (.apexData base apex)
        else w.fs.dir x := by
    rw [World.dir_replaceDir, only.dir (x := .apexData base apex) (by simp), only.dir ne]
  exact wp_replaceFiles (isLeaf_snapshot _ _ _ _) (by simp) (fun _ => post _ replaced)
    fun _ _ => post _ replaced

/-- The data and snapshots after a rollback took its snapshots of `names`: the data is what the
snapshot was, what it was is in the pre-restore snapshot, and the snapshot is gone. -/
def RolledBack (base : String) (rollbackId : Int) (names : List String) (w w' : World) : Prop :=
  ∀ apex, if apex ∈ names then
      w'.fs.dir (.apexData base apex) = w.fs.dir (.snapshot base rollbackId false apex) ∧
      w'.fs.dir (.snapshot base rollbackId true apex) = w.fs.dir (.apexData base apex) ∧
      w'.fs.dir (.snapshot base rollbackId false apex) = none
    else
      w'.fs.dir (.apexData base apex) = w.fs.dir (.apexData base apex) ∧
      w'.fs.dir (.snapshot base rollbackId false apex) =
        w.fs.dir (.snapshot base rollbackId false apex)

theorem wp_snapshotOrRestoreDeIfNeeded (noCheckpoints : env.supportsFsCheckpoints = false)
    (isRollback : session.state.isRollback = true)
    (notEnabled : session.state.rollbackEnabled = false)
    (distinct : session.state.apexNames.Nodup) :
    wp device Anything (snapshotOrRestoreDeIfNeeded env base session) (fun _ w' =>
      RolledBack base session.state.rollbackId session.state.apexNames w w') w := by
  simp only [snapshotOrRestoreDeIfNeeded, notEnabled, isRollback, noCheckpoints, Bool.false_eq_true,
    if_false, if_true, Bool.not_false]
  refine wp_forM (RolledBack base session.state.rollbackId · w) ?_ ?_ fun _ rolledBack => rolledBack
  · simp [RolledBack]
  · rintro names apex rest w₁ split rolledBack
    have fresh : apex ∉ names := by
      rw [split, List.nodup_middle] at distinct
      exact fun member => (List.nodup_cons.mp distinct).1 (List.mem_append_left _ member)
    obtain ⟨data, snapshot⟩ : _ ∧ _ := by simpa [fresh] using rolledBack apex
    rw [wp_bind]
    refine wp_snapshotDataDirectory fun w₂ dirs => wp_restoreDataDirectory fun other => ?_
    simp only [World.dir_moveDir, List.mem_append, List.mem_singleton]
    by_cases same : other = apex
    · subst same
      simp [dirs, data, snapshot]
    · have before := rolledBack other
      simp [dirs, same] at before ⊢
      exact before

theorem always_snapshotDataDirectory (base apex : String) (rollbackId : Int) (preRestore : Bool) :
    (snapshotDataDirectory base rollbackId apex preRestore).Within AlwaysAnswered :=
  ((always_createDirIfNeeded _ _).mapError _).bind fun _ => always_replaceFiles _ _

theorem always_snapshotOrRestoreDeIfNeeded (env : Environment) (base : String)
    (session : ApexSession) : (snapshotOrRestoreDeIfNeeded env base session).Within AlwaysAnswered := by
  unfold snapshotOrRestoreDeIfNeeded
  dsimp only
  split
  · exact Program.Within.forM fun apex _ => (always_snapshotDataDirectory _ _ _ _).ignore
  · split
    · refine Program.Within.forM fun apex _ => ?_
      split
      · exact (always_snapshotDataDirectory _ _ _ _).ignore.bind fun _ =>
          (always_restoreDataDirectory _ _ _ _).ignore
      · exact (always_restoreDataDirectory _ _ _ _).ignore
    · trivial

/-- `boots` boots, each of which found the session activated. -/
inductive RestoredBoots (env : Environment) (base : String) (session : ApexSession) :
    Nat → World → World → Prop
  | start (w : World) : RestoredBoots env base session 0 w w
  | boot {boots : Nat} {w w' w'' : World} {result : Except String Unit}
      (earlier : RestoredBoots env base session boots w w')
      (run : Runs device (snapshotOrRestoreDeIfNeeded env base session) w' result w'') :
      RestoredBoots env base session (boots + 1) w w''

/-- The data is what the snapshot was before the first boot, and the pre-restore snapshot what
the data was. -/
def RestoredOnce (base : String) (session : ApexSession) (w w' : World) : Prop :=
  ∀ apex ∈ session.state.apexNames,
    w'.fs.dir (.apexData base apex) =
      w.fs.dir (.snapshot base session.state.rollbackId false apex) ∧
    w'.fs.dir (.snapshot base session.state.rollbackId true apex) = w.fs.dir (.apexData base apex)

/-- After one boot there are no snapshots left, after another one no data. -/
theorem RestoredBoots.gone (noCheckpoints : env.supportsFsCheckpoints = false)
    (isRollback : session.state.isRollback = true)
    (notEnabled : session.state.rollbackEnabled = false)
    (distinct : session.state.apexNames.Nodup) {boots : Nat}
    (restored : RestoredBoots env base session boots w w') {apex : String}
    (member : apex ∈ session.state.apexNames) :
    (1 ≤ boots → w'.fs.dir (.snapshot base session.state.rollbackId false apex) = none) ∧
    (2 ≤ boots → w'.fs.dir (.apexData base apex) = none) := by
  induction restored with
  | start => simp
  | boot earlier run ih =>
    have rolledBack := wp_runs
      (wp_snapshotOrRestoreDeIfNeeded noCheckpoints isRollback notEnabled distinct) run apex
    rw [if_pos member] at rolledBack
    refine ⟨fun _ => rolledBack.2.2, fun more => ?_⟩
    rw [rolledBack.1]
    exact ih.1 (by omega)

theorem exists_restoredBoots (env : Environment) (base : String) (session : ApexSession)
    (boots : Nat) (w : World) : ∃ w', RestoredBoots env base session boots w w' := by
  induction boots with
  | zero => exact ⟨w, .start w⟩
  | succ boots ih =>
    obtain ⟨w', earlier⟩ := ih
    obtain ⟨result, w'', run⟩ :=
      (always_snapshotOrRestoreDeIfNeeded env base session).exists_runs answered_of_always w'
    exact ⟨w'', .boot earlier run⟩

/-- Repeated boots restore the same data exactly when there is one boot only, or nothing to
restore. -/
theorem restoredOnce_iff {boots : Nat} (noCheckpoints : env.supportsFsCheckpoints = false)
    (isRollback : session.state.isRollback = true)
    (notEnabled : session.state.rollbackEnabled = false)
    (distinct : session.state.apexNames.Nodup)
    (exist : ∀ apex ∈ session.state.apexNames, w.fs.has (.apexData base apex) = true ∧
      w.fs.has (.snapshot base session.state.rollbackId false apex) = true)
    (some' : 1 ≤ boots) :
    (∀ w', RestoredBoots env base session boots w w' → RestoredOnce base session w w') ↔
      boots = 1 ∨ session.state.apexNames = [] := by
  constructor
  · intro always
    obtain ⟨w', restored⟩ := exists_restoredBoots env base session boots w
    by_contra neither
    obtain ⟨several, notEmpty⟩ := not_or.mp neither
    obtain ⟨apex, member⟩ := List.exists_mem_of_ne_nil _ notEmpty
    have lost := (restored.gone noCheckpoints isRollback notEnabled distinct member).2 (by omega)
    obtain ⟨snapshot, found⟩ := Option.isSome_iff_exists.mp (exist apex member).2
    rw [(always w' restored apex member).1, found] at lost
    cases lost
  · rintro (rfl | empty) w' restored
    · intro apex member
      cases restored with
      | boot earlier run =>
        cases earlier
        have rolledBack := wp_runs
          (wp_snapshotOrRestoreDeIfNeeded noCheckpoints isRollback notEnabled distinct) run apex
        rw [if_pos member] at rolledBack
        exact ⟨rolledBack.1, rolledBack.2.1⟩
    · intro apex member
      rw [empty] at member
      cases member

/-- Data of an update, and the snapshot from before it. -/
def updatedData : World :=
  .ofDirectories [(.apexData "/data/misc" "foo", [("settings", .data "new")]),
    (.rollback "/data/misc" 7 false, []),
    (.snapshot "/data/misc" 7 false "foo", [("settings", .data "old")])]

theorem restoredOnce_iff_firstBoot : updatedData.fs.has (.snapshot "/data/misc" 7 false "foo") = true ∧
    ∀ w', RestoredBoots (.plain .create) "/data/misc" (rollbackOf ["foo"]) 1 updatedData w' →
      RestoredOnce "/data/misc" (rollbackOf ["foo"]) updatedData w' :=
  ⟨by decide +kernel,
    (restoredOnce_iff rfl rfl rfl (by decide) (by decide +kernel) (by decide)).mpr (.inl rfl)⟩

/-- The second boot of a rollback wipes the data that the first one restored. -/
theorem second_boot_wipes_data : ∃ w', RestoredBoots (.plain .create) "/data/misc"
    (rollbackOf ["foo"]) 2 updatedData w' ∧
      ¬ RestoredOnce "/data/misc" (rollbackOf ["foo"]) updatedData w' := by
  obtain ⟨w', restored⟩ := exists_restoredBoots (.plain .create) "/data/misc" (rollbackOf ["foo"])
    2 updatedData
  refine ⟨w', restored, fun once => ?_⟩
  have lost := (restored.gone rfl rfl rfl (by decide) (List.mem_singleton.mpr rfl)).2 le_rfl
  rw [(once "foo" (by decide)).1] at lost
  exact absurd (congrArg Option.isSome lost) (by decide +kernel)

end Repeated

end Apexd
