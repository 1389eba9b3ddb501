import Apexd.Process.Execution
import Apexd.Verified.BootStaging

/-! # Order and interruption of boots

The outcome of a boot depends neither on the order in which the sessions are visited nor on how
often it was interrupted before it completed, and with checkpoints not even on whether the data
directories were rolled back in between.
-/

namespace Apexd

open Process Storage

variable {env : Environment} {w₀ w w' w'' earlier : World}

theorem files_eq_of_view {d : DirId} (same : w.view d = w'.view d) : w.files d = w'.files d :=
  Finmap.ext_lookup fun name => congrFun same name

/-- The same boot, with the sessions visited in whatever order the directories are listed. -/
theorem scan_order_irrelevant {result result' : Except String Unit} {first second : World}
    (openable : w.Openable) (apart : Apart env w)
    (run : Runs device (scanStagedSessionsDirAndStage env) w result first)
    (run' : Runs device (scanStagedSessionsDirAndStage env) w result' second) :
    first.files .active = second.files .active ∧ first.sessions = second.sessions := by
  have ready : Ready env w := ⟨openable, apart⟩
  obtain ⟨-, -, -, completed⟩ := completed_of_runs ready run
  obtain ⟨-, -, -, completed'⟩ := completed_of_runs ready run'
  obtain ⟨active, -, sessions⟩ := completed.unique completed'
  exact ⟨files_eq_of_view active, sessions⟩

/-- A device that supports checkpoints and boots in checkpoint mode. -/
def checkpointMode : Environment :=
  { Environment.plain (.ofPackages ["foo", "bar"]) with
    supportsFsCheckpoints := true
    inFsCheckpointMode := true }

/-- Session 1 updates an active package, session 2 adds another one. -/
def twoSessions : World :=
  { World.ofDirectories [
      (.active, [("foo@1.apex", .apex (.plain "foo" 1 1)), ("note.txt", .data "kept")]),
      (.hashTree, [("foo@2.new", .data "tree")]),
      (.staged 1, [("foo.apex", .apex (.plain "foo" 2 2))]),
      (.staged 2, [("bar.apex", .apex (.plain "bar" 3 3))])] with
    sessions := storeOf [{ SessionState.initial 1 with state := .STAGED },
      { SessionState.initial 2 with state := .STAGED }] }

theorem twoSessions_openable : twoSessions.Openable := by
  decide +kernel

theorem twoSessions_apart : Apart checkpointMode twoSessions := by
  decide +kernel

/-- One answer for every call, the sessions listed backwards. -/
def backwardsHandler : Handler apexd String World
  | .session .list, w =>
    some (.ok (w.sessions.sessionsIn (Directory.names w.sessions).reverse), w)
  | request, w => deviceHandler request w

theorem backwardsHandler_sound : backwardsHandler.Sound device := by
  intro request w reply w' computed
  unfold backwardsHandler at computed
  split at computed
  · cases computed
    exact ⟨_, ⟨rfl, _, List.reverse_perm _, rfl⟩, rfl⟩
  · exact deviceHandler_sound computed

def activatesBoth (_ : Except String Unit) (w : World) : Bool :=
  (w.files .active).names = ["bar@3.apex", "foo@2.apex", "note.txt"]

theorem scan_order_irrelevant_twoSessions : ∃ result first result' second,
    Runs device (scanStagedSessionsDirAndStage checkpointMode) twoSessions result first ∧
    Runs device (scanStagedSessionsDirAndStage checkpointMode) twoSessions result' second ∧
    (first.files .active).names = ["bar@3.apex", "foo@2.apex", "note.txt"] ∧
    first.files .active = second.files .active ∧ first.sessions = second.sessions := by
  obtain ⟨result, first, run, activated⟩ := exists_runs deviceHandler_sound
    (scanStagedSessionsDirAndStage checkpointMode) twoSessions activatesBoth (by decide +kernel)
  obtain ⟨result', second, run', _⟩ := exists_runs backwardsHandler_sound
    (scanStagedSessionsDirAndStage checkpointMode) twoSessions activatesBoth (by decide +kernel)
  exact ⟨result, first, result', second, run, run', of_decide_eq_true activated,
    scan_order_irrelevant twoSessions_openable twoSessions_apart run run'⟩

/-! ## Interrupted boots -/

/-- A reboot: the sessions and the staging directories are those of `w'`, the active and the hash
tree directory those of `data`. -/
structure Rebooted (data w' w'' : World) : Prop where
  sessions : w''.sessions = w'.sessions
  staged : SameStaged w'.fs w''.fs
  active : w''.view .active = data.view .active
  hashTree : w''.view .hashTree = data.view .hashTree

/-- The states in which a device may boot after any number of interrupted boots. -/
inductive BootChain (env : Environment) (w₀ : World) : World → Prop
  | start : BootChain env w₀ w₀
  /-- the device crashes somewhere in the scan and boots again -/
  | crash {w w' w'' : World} (chain : BootChain env w₀ w)
      (reaches : Reaches device (scanStagedSessionsDirAndStage env) w w')
      (rebooted : Rebooted w' w' w'') : BootChain env w₀ w''
  /-- so it does, and the data directories are rolled back to what they were before a boot -/
  | rollback {earlier w w' w'' : World} (checkpoints : env.supportsFsCheckpoints = true)
      (chain : BootChain env w₀ w)
      (reaches : Reaches device (scanStagedSessionsDirAndStage env) w w')
      (before : BootChain env w₀ earlier) (rebooted : Rebooted earlier w' w'') :
      BootChain env w₀ w''

theorem Rebooted.toward {data : World} (rebooted : Rebooted data w' w'') (readyData : Ready env data)
    (toward : Toward env w₀ w') (towardData : Toward env w₀ data)
    (plans : plannedFiles env w' = plannedFiles env data) :
    Ready env w'' ∧ Toward env w₀ w'' := by
  have plans' : plannedFiles env w'' = plannedFiles env data :=
    (plannedFiles_of_same rebooted.sessions rebooted.staged).trans plans
  refine ⟨readyData.of_same plans' (openable_of_view rebooted.active readyData.openable),
    toward.staged.trans rebooted.staged, ?_, ?_, ?_, ?_⟩
  · rw [← towardData.active]
    unfold completedActive bootOverwrite
    rw [plans', rebooted.active]
  · rw [← towardData.hashTree]
    unfold completedHashTree bootIds
    rw [plans', rebooted.hashTree]
  · exact (completedSession_of_same rebooted.sessions rebooted.staged).trans toward.sessions
  · exact fun supports => plans'.trans (towardData.plans supports)

/-- However often it was interrupted, the device is on the way to the same completed boot. -/
theorem BootChain.toward (chain : BootChain env w₀ w) (ready : Ready env w₀) :
    Ready env w ∧ Toward env w₀ w := by
  have reached {w w' : World} (reaches : Reaches device (scanStagedSessionsDirAndStage env) w w')
      (ih : Ready env w ∧ Toward env w₀ w) : Ready env w' ∧ Toward env w₀ w' := by
    obtain ⟨ready', toward⟩ :=
      toward_of_steps (wp_reaches (wp_scanStagedSessionsDirAndStage ih.1) reaches) ih.1
    exact ⟨ready', ih.2.trans toward⟩
  induction chain with
  | start => exact ⟨ready, .refl env w₀⟩
  | crash chain reaches rebooted ih =>
    obtain ⟨ready', toward⟩ := reached reaches ih
    exact rebooted.toward ready' toward toward rfl
  | rollback checkpoints chain reaches before rebooted ih ihBefore =>
    obtain ⟨ready', toward⟩ := reached reaches ih
    refine rebooted.toward ihBefore.1 toward ihBefore.2 ?_
    rw [toward.plans checkpoints, ihBefore.2.plans checkpoints]

/-- The boot that completes leaves what one uninterrupted boot would have left, and running it
once more changes nothing. -/
theorem scan_resumable {result result₀ : Except String Unit} {last last₀ : World}
    (openable : w₀.Openable) (apart : Apart env w₀) (chain : BootChain env w₀ w)
    (run : Runs device (scanStagedSessionsDirAndStage env) w result last)
    (run₀ : Runs device (scanStagedSessionsDirAndStage env) w₀ result₀ last₀) :
    (last.files .active = last₀.files .active ∧ last.files .hashTree = last₀.files .hashTree ∧
      last.sessions = last₀.sessions) ∧
    ∀ result' again, Runs device (scanStagedSessionsDirAndStage env) last result' again →
      again.files .active = last.files .active ∧ again.files .hashTree = last.files .hashTree ∧
        again.sessions = last.sessions := by
  have ready₀ : Ready env w₀ := ⟨openable, apart⟩
  obtain ⟨ready, toward⟩ := chain.toward ready₀
  have holds := wp_scanStagedSessionsDirAndStage ready
  obtain ⟨-, ready', settled, -⟩ := completed_of_runs ready run
  obtain ⟨-, toward'⟩ := toward_of_steps (wp_reaches holds run.reaches) ready
  obtain ⟨-, -, -, completed₀⟩ := completed_of_runs ready₀ run₀
  have completed : Completed env w₀ last := (toward.trans toward').completed settled
  have equal {first second start : World} (one : Completed env start first)
      (other : Completed env start second) :
      first.files .active = second.files .active ∧ first.files .hashTree = second.files .hashTree ∧
        first.sessions = second.sessions := by
    obtain ⟨active, hashTree, sessions⟩ := one.unique other
    exact ⟨files_eq_of_view active, files_eq_of_view hashTree, sessions⟩
  refine ⟨equal completed completed₀, fun result' again run' => ?_⟩
  obtain ⟨-, -, -, completed'⟩ := completed_of_runs ready' run'
  exact equal completed' ((Toward.refl env last).completed settled)

/-- The device boots again with the data directories of `data`. -/
def World.rolledBack (data w : World) : World :=
  w.withFs ((w.fs.set .active (data.fs.dir .active)).set .hashTree (data.fs.dir .hashTree))

theorem rebooted_rolledBack (data w : World) : Rebooted data w (data.rolledBack w) where
  sessions := rfl
  staged stagingId := by
    refine ((w.fs.set _ _).dir_set_ne ?_ _).trans (w.fs.dir_set_ne ?_ _) <;> simp
  active := FileSystem.view_of_dir_eq <|
    ((w.fs.set _ _).dir_set_ne (by simp) _).trans (w.fs.dir_set_self _ _)
  hashTree := FileSystem.view_of_dir_eq ((w.fs.set _ _).dir_set_self _ _)

/-- A crash while session 2 is staged, after session 1 was activated, and a rollback. -/
theorem scan_resumable_twoSessions : ∃ w result last result₀ last₀,
    BootChain checkpointMode twoSessions w ∧ w.files .active = twoSessions.files .active ∧
    Runs device (scanStagedSessionsDirAndStage checkpointMode) w result last ∧
    Runs device (scanStagedSessionsDirAndStage checkpointMode) twoSessions result₀ last₀ ∧
    last.files .active = last₀.files .active ∧ last.files .hashTree = last₀.files .hashTree ∧
    last.sessions = last₀.sessions := by
  have computed : ((execSteps deviceHandler 25 (scanStagedSessionsDirAndStage checkpointMode)
      twoSessions).bind fun stopped => exec deviceHandler
        (scanStagedSessionsDirAndStage checkpointMode) (twoSessions.rolledBack stopped.2)).isSome =
      true := by
    decide +kernel
  obtain ⟨⟨result, last⟩, resumed⟩ := Option.isSome_iff_exists.mp computed
  obtain ⟨⟨rest, crashed⟩, stopped, completes⟩ := Option.bind_eq_some_iff.mp resumed
  obtain ⟨result₀, last₀, run₀, _⟩ := exists_runs deviceHandler_sound
    (scanStagedSessionsDirAndStage checkpointMode) twoSessions activatesBoth (by decide +kernel)
  have rebooted := rebooted_rolledBack twoSessions crashed
  have chain : BootChain checkpointMode twoSessions (twoSessions.rolledBack crashed) :=
    .rollback rfl .start ⟨rest, execSteps_steps deviceHandler_sound stopped⟩ .start rebooted
  have run := exec_runs deviceHandler_sound completes
  exact ⟨_, result, last, result₀, last₀, chain, files_eq_of_view rebooted.active, run, run₀,
    (scan_resumable twoSessions_openable twoSessions_apart chain run run₀).1⟩

end Apexd
