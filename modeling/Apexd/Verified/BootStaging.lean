import Apexd.Verified.Sessions
import Apexd.Verified.StagePackages

/-! # Staging sessions at boot

What `ScanStagedSessionsDirAndStage` will have done when it completes can be read off the state
it starts in: every session has its plan, and plans for different packages do not interfere.
`Toward` says that one state leads to the same completed boot as another; every call of the scan
keeps it, which makes the outcome independent of the order of the sessions and of crashes.
-/

namespace Apexd

open Process Storage

open Relation (ReflTransGen)

variable {env : Environment} {w w' w'' : World} {dir : String}

/-! ## The completed boot -/

/-- Whether a boot takes up a session. -/
def isPending (env : Environment) (state : SessionState) : Bool :=
  state.state = .STAGED || (env.supportsFsCheckpoints && state.state = .ACTIVATED)

/-- The packages that a boot stages for a session. -/
def filesToStage (env : Environment) (fs : FileSystem DirId Content) (state : SessionState) :
    List ApexFile :=
  if isPending env state then
    match stagingPlan env fs state with
    | .ok apexFiles => apexFiles
    | .error _ => []
  else []

/-- The packages that a boot stages for the session in a directory. -/
def plannedFiles (env : Environment) (w : World) (dir : String) : List ApexFile :=
  match w.sessions.stateOf dir with
  | some state => filesToStage env w.fs state
  | none => []

/-- The state of a session after the boot. -/
def completedState (env : Environment) (fs : FileSystem DirId Content) (state : SessionState) :
    SessionState :=
  if isPending env state then
    match stagingPlan env fs state with
    | .ok _ => { state with state := .ACTIVATED }
    | .error e => { state with errorMessage := e, state := .ACTIVATION_FAILED }
  else state

def completedFile (env : Environment) (fs : FileSystem DirId Content) : StateFile → StateFile
  | .state state => .state (completedState env fs state)
  | file => file

/-- The overwrite of the session in a directory. -/
def bootOverwrite (env : Environment) (w : World) (dir : String) : Overwrite String Content :=
  stagingOverwrite (plannedFiles env w dir)

/-- The ids of all packages that are staged. -/
def bootIds (env : Environment) (w : World) (id : String) : Prop :=
  ∃ dir, packageIds (plannedFiles env w dir) id

noncomputable def completedActive (env : Environment) (w : World) : String → Option Content :=
  (Overwrite.merge (bootOverwrite env w)).apply (w.view .active)

noncomputable def completedHashTree (env : Environment) (w : World) : String → Option Content :=
  promote newHashTree (bootIds env w) (w.view .hashTree)

def completedSession (env : Environment) (w : World) (dir : String) : Option StateFile :=
  (w.sessions.lookup dir).map (completedFile env w.fs)

/-- Different sessions stage different packages. -/
def Apart (env : Environment) (w : World) : Prop :=
  ∀ dir dir', dir ≠ dir' → ∀ apexFile ∈ plannedFiles env w dir,
    ∀ other ∈ plannedFiles env w dir', apexFile.manifest.name ≠ other.manifest.name

theorem plannedFiles_of_not_mem (absent : dir ∉ Directory.names w.sessions) :
    plannedFiles env w dir = [] := by
  have none : w.sessions.lookup dir = none :=
    Finmap.lookup_eq_none.mpr fun member => absent (Directory.mem_names.mpr member)
  simp [plannedFiles, SessionStore.stateOf, none]

instance (env : Environment) (w : World) : Decidable (Apart env w) :=
  decidable_of_iff (∀ dir ∈ Directory.names w.sessions, ∀ dir' ∈ Directory.names w.sessions,
    dir ≠ dir' → ∀ apexFile ∈ plannedFiles env w dir, ∀ other ∈ plannedFiles env w dir',
      apexFile.manifest.name ≠ other.manifest.name) <| by
    constructor
    · intro apart dir dir' ne apexFile member other member'
      by_cases listed : dir ∈ Directory.names w.sessions
      · by_cases listed' : dir' ∈ Directory.names w.sessions
        · exact apart dir listed dir' listed' ne apexFile member other member'
        · rw [plannedFiles_of_not_mem listed'] at member'
          cases member'
      · rw [plannedFiles_of_not_mem listed] at member
        cases member
    · intro apart dir _ dir' _
      exact apart dir dir'

/-- The conditions on a state to boot from. -/
structure Ready (env : Environment) (w : World) : Prop where
  openable : w.Openable
  apart : Apart env w

/-- The state `w'` leads to the same completed boot as `w`. -/
structure Toward (env : Environment) (w w' : World) : Prop where
  staged : SameStaged w.fs w'.fs
  active : completedActive env w' = completedActive env w
  hashTree : completedHashTree env w' = completedHashTree env w
  sessions : completedSession env w' = completedSession env w
  plans : env.supportsFsCheckpoints = true → plannedFiles env w' = plannedFiles env w

/-- Every call of a boot leads to the same completed boot. -/
abbrev Booting (env : Environment) : Guarantee apexd World :=
  fun _ w w' => Ready env w → Ready env w' ∧ Toward env w w'

theorem Toward.refl (env : Environment) (w : World) : Toward env w w where
  staged := .refl w.fs
  active := rfl
  hashTree := rfl
  sessions := rfl
  plans := fun _ => rfl

theorem Toward.trans (first : Toward env w w') (second : Toward env w' w'') : Toward env w w'' where
  staged := first.staged.trans second.staged
  active := second.active.trans first.active
  hashTree := second.hashTree.trans first.hashTree
  sessions := second.sessions.trans first.sessions
  plans := fun supports => (second.plans supports).trans (first.plans supports)

theorem quiet_booting : Quiet (Booting env) :=
  fun _ w ready => ⟨ready, .refl env w⟩

/-- What every call of a boot keeps, its runs keep. -/
theorem toward_of_steps (steps : ReflTransGen (Booting env).Change w w') (ready : Ready env w) :
    Ready env w' ∧ Toward env w w' := by
  induction steps with
  | refl => exact ⟨ready, .refl env w⟩
  | tail _ step ih =>
    obtain ⟨request, guarantee⟩ := step
    obtain ⟨ready', toward'⟩ := guarantee ih.1
    exact ⟨ready', ih.2.trans toward'⟩

/-! ## Plans -/

theorem waits_of_planned {apexFile : ApexFile} (planned : apexFile ∈ plannedFiles env w dir) :
    Waits w.fs apexFile := by
  unfold plannedFiles filesToStage at planned
  split at planned
  · split at planned
    · split at planned
      · rename_i outcome
        exact waits_of_plan outcome _ planned
      · cases planned
    · cases planned
  · cases planned

theorem SameStaged.filesToStage {fs fs' : FileSystem DirId Content} (same : SameStaged fs fs')
    (state : SessionState) : filesToStage env fs' state = Apexd.filesToStage env fs state := by
  unfold Apexd.filesToStage
  rw [same.stagingPlan]

theorem SameStaged.completedFile {fs fs' : FileSystem DirId Content} (same : SameStaged fs fs')
    (file : StateFile) : completedFile env fs' file = Apexd.completedFile env fs file := by
  cases file with
  | state state =>
    simp only [Apexd.completedFile, completedState]
    rw [same.stagingPlan]
  | _ => rfl

theorem plannedFiles_of_same (sessions : w'.sessions = w.sessions) (staged : SameStaged w.fs w'.fs) :
    plannedFiles env w' = plannedFiles env w := by
  funext dir
  unfold plannedFiles
  rw [sessions]
  cases w.sessions.stateOf dir with
  | none => rfl
  | some state => exact staged.filesToStage state

theorem completedSession_of_same (sessions : w'.sessions = w.sessions)
    (staged : SameStaged w.fs w'.fs) : completedSession env w' = completedSession env w := by
  funext dir
  unfold completedSession
  rw [sessions]
  cases w.sessions.lookup dir with
  | none => rfl
  | some file => exact congrArg some (staged.completedFile file)

theorem stagingOverwrite_nil : stagingOverwrite [] = Overwrite.skip := by
  simp only [stagingOverwrite, Overwrite.skip, Overwrite.mk.injEq]
  refine ⟨funext stagedAs_nil, ?_⟩
  funext name content
  simp

theorem dest_inj {apexFile other : ApexFile}
    (same : (stageDestPath apexFile).name = (stageDestPath other).name) :
    apexFile.manifest.name = other.manifest.name :=
  (getPackageId_inj ((String.append_left_inj _).mp same)).1

/-- Plans for different packages do not interfere. -/
theorem Apart.compatible (apart : Apart env w) : Overwrite.Compatible (bootOverwrite env w) := by
  intro dir dir' ne name content bound
  obtain ⟨other, member', rfl, rfl⟩ := exists_of_stagedAs bound
  constructor
  · refine stagedAs_eq_none.mpr fun apexFile member same => ?_
    exact apart dir dir' ne apexFile member other member' (dest_inj same)
  · rintro ⟨_, archive, isArchive, apexFile, member, named⟩
    cases isArchive
    exact apart dir dir' ne apexFile member other member' named

theorem bootIds_separate (env : Environment) (w : World) :
    Separate newHashTree (bootIds env w) := by
  rintro _ j ⟨dir, apexFile, _, rfl⟩ _
  exact getPackageId_ne_newHashTree _ _

/-! ## Steps -/

theorem Ready.of_same (ready : Ready env w) (plans : plannedFiles env w' = plannedFiles env w)
    (openable : w'.Openable) : Ready env w' where
  openable := openable
  apart := by
    unfold Apart
    rw [plans]
    exact ready.apart

/-- Progress with the packages of one session leads to the same completed boot. -/
theorem Progress.toward (progress : Progress (plannedFiles env w dir) w w') (ready : Ready env w) :
    Ready env w' ∧ Toward env w w' := by
  have plans : plannedFiles env w' = plannedFiles env w :=
    plannedFiles_of_same progress.sessions progress.staged
  refine ⟨ready.of_same plans (progress.openable ready.openable), progress.staged, ?_, ?_,
    completedSession_of_same progress.sessions progress.staged, fun _ => plans⟩
  · unfold completedActive bootOverwrite
    rw [plans]
    have same : (bootOverwrite env w dir).apply (w'.view .active) =
        (bootOverwrite env w dir).apply (w.view .active) := progress.active
    exact Overwrite.apply_merge_of_apply_eq same
  · unfold completedHashTree bootIds
    rw [plans]
    exact promote_of_promote_eq newHashTree_injective (bootIds_separate env w)
      (fun _ isId => ⟨dir, isId⟩) progress.hashTree

/-- A boot has nothing left to do for the session in a directory. -/
structure Settled (env : Environment) (w : World) (dir : String) : Prop where
  active : (bootOverwrite env w dir).Fixes (w.view .active)
  hashTree : ∀ id, packageIds (plannedFiles env w dir) id →
    w.view .hashTree (newHashTree id) = none
  session : completedSession env w dir = w.sessions.lookup dir

section Commit

variable {session : ApexSession} {state : SessionState}

theorem plannedFiles_commit_self (env : Environment) (w : World) (session : ApexSession) :
    plannedFiles env (w.commit session) session.sessionDir = filesToStage env w.fs session.state := by
  unfold plannedFiles
  rw [stateOf_eq_some.mpr (lookup_commit_self w session)]
  rfl

theorem plannedFiles_commit_ne (env : Environment) (w : World) (session : ApexSession)
    (ne : dir ≠ session.sessionDir) :
    plannedFiles env (w.commit session) dir = plannedFiles env w dir := by
  unfold plannedFiles SessionStore.stateOf
  rw [lookup_commit_ne w session ne]
  rfl

theorem completedSession_commit (stored : w.sessions.stateOf session.sessionDir = some state)
    (completed : completedState env w.fs session.state = completedState env w.fs state) :
    completedSession env (w.commit session) = completedSession env w := by
  funext dir
  unfold completedSession
  by_cases same : dir = session.sessionDir
  · subst same
    rw [lookup_commit_self, stateOf_eq_some.mp stored]
    exact congrArg (some ∘ StateFile.state) completed
  · rw [lookup_commit_ne w session same]
    rfl

/-- A commit after which the boot still has the same packages to stage. -/
theorem toward_commit (stored : w.sessions.stateOf session.sessionDir = some state)
    (completed : completedState env w.fs session.state = completedState env w.fs state)
    (files : filesToStage env w.fs session.state = filesToStage env w.fs state)
    (ready : Ready env w) : Ready env (w.commit session) ∧ Toward env w (w.commit session) := by
  have plans : plannedFiles env (w.commit session) = plannedFiles env w := by
    funext dir
    by_cases same : dir = session.sessionDir
    · subst same
      rw [plannedFiles_commit_self, files]
      unfold plannedFiles
      rw [stored]
    · exact plannedFiles_commit_ne env w session same
  refine ⟨ready.of_same plans ready.openable, .refl w.fs, ?_, ?_,
    completedSession_commit stored completed, fun _ => plans⟩
  · unfold completedActive bootOverwrite
    rw [plans]
    rfl
  · unfold completedHashTree bootIds
    rw [plans]
    rfl

/-- A commit after which the boot has nothing to stage for the session any more. -/
theorem toward_retire (stored : w.sessions.stateOf session.sessionDir = some state)
    (completed : completedState env w.fs session.state = completedState env w.fs state)
    (files : filesToStage env w.fs session.state = [])
    (settled : (bootOverwrite env w session.sessionDir).Fixes (w.view .active))
    (promoted : ∀ id, packageIds (plannedFiles env w session.sessionDir) id →
      w.view .hashTree (newHashTree id) = none)
    (noCheckpoints : env.supportsFsCheckpoints = false) (ready : Ready env w) :
    Ready env (w.commit session) ∧ Toward env w (w.commit session) := by
  have retired : plannedFiles env (w.commit session) session.sessionDir = [] := by
    rw [plannedFiles_commit_self, files]
  have fewer (dir : String) (apexFile : ApexFile)
      (member : apexFile ∈ plannedFiles env (w.commit session) dir) :
      apexFile ∈ plannedFiles env w dir := by
    by_cases same : dir = session.sessionDir
    · rw [same, retired] at member
      cases member
    · rwa [plannedFiles_commit_ne env w session same] at member
  refine ⟨⟨ready.openable, ?_⟩, .refl w.fs, ?_, ?_, completedSession_commit stored completed, ?_⟩
  · intro dir dir' ne apexFile member other member'
    exact ready.apart dir dir' ne apexFile (fewer _ _ member) other (fewer _ _ member')
  · refine Overwrite.apply_merge_retire ready.apart.compatible settled ?_ fun dir ne => ?_
    · rw [bootOverwrite, retired, stagingOverwrite_nil]
    · rw [bootOverwrite, bootOverwrite, plannedFiles_commit_ne env w session ne]
  · refine promote_retire (bootIds_separate env w) ?_ ?_
    · rintro id ⟨dir, apexFile, member, rfl⟩
      exact ⟨dir, apexFile, fewer _ _ member, rfl⟩
    · rintro id ⟨dir, isId⟩ gone
      by_cases same : dir = session.sessionDir
      · exact promoted id (same ▸ isId)
      · refine absurd ⟨dir, ?_⟩ gone
        rwa [plannedFiles_commit_ne env w session same]
  · intro supports
    rw [noCheckpoints] at supports
    cases supports

/-- The commit of a session leaves the others settled. -/
theorem Settled.commit (settled : Settled env w dir) (session : ApexSession)
    (ne : dir ≠ session.sessionDir) :
    Settled env (w.commit session) dir where
  active := by
    rw [bootOverwrite, plannedFiles_commit_ne env w session ne]
    exact settled.active
  hashTree := by
    rw [plannedFiles_commit_ne env w session ne]
    exact settled.hashTree
  session := by
    unfold completedSession
    rw [lookup_commit_ne w session ne]
    exact settled.session

end Commit

/-- Staging the packages of one session leaves the others settled. -/
theorem Settled.stage {other : String} (settled : Settled env w other) (ne : other ≠ dir)
    (apart : Apart env w) (progress : Progress (plannedFiles env w dir) w w')
    (active : w'.view .active = (bootOverwrite env w dir).apply (w.view .active))
    (hashTree : w'.view .hashTree =
      promote newHashTree (packageIds (plannedFiles env w dir)) (w.view .hashTree)) :
    Settled env w' other where
  active := by
    rw [bootOverwrite, plannedFiles_of_same progress.sessions progress.staged, active]
    exact settled.active.apply (apart.compatible other dir ne) (apart.compatible dir other ne.symm)
  hashTree := by
    rw [plannedFiles_of_same progress.sessions progress.staged, hashTree]
    intro id isId
    refine promote_new_of_none ?_ (settled.hashTree id isId)
    rintro _ ⟨apexFile, _, rfl⟩
    exact getPackageId_ne_newHashTree _ _
  session := by
    rw [completedSession_of_same progress.sessions progress.staged, progress.sessions]
    exact settled.session

/-! ## One session -/

section Session

variable {fs : FileSystem DirId Content} {session : ApexSession} {state : SessionState}

theorem stagingPlan_withState (state : SessionState) (s : SessionState.State) :
    stagingPlan env fs { state with state := s } = stagingPlan env fs state := rfl

theorem completedState_of_ok (pending : isPending env state = true) {apexFiles : List ApexFile}
    (plan : stagingPlan env fs state = .ok apexFiles) :
    completedState env fs state = { state with state := .ACTIVATED } := by
  rw [completedState, if_pos pending, plan]

theorem completedState_of_error (pending : isPending env state = true) {e : String}
    (plan : stagingPlan env fs state = .error e) :
    completedState env fs state = { state with errorMessage := e, state := .ACTIVATION_FAILED } := by
  rw [completedState, if_pos pending, plan]

/-- With checkpoints a session stays pending, without them it is done. -/
theorem filesToStage_completedState (state : SessionState) :
    filesToStage env fs (completedState env fs state) =
      if env.supportsFsCheckpoints then filesToStage env fs state else [] := by
  by_cases pending : isPending env state = true
  · cases plan : stagingPlan env fs state with
    | error e =>
      rw [completedState_of_error pending plan]
      simp [filesToStage, isPending, plan]
    | ok apexFiles =>
      rw [completedState_of_ok pending plan, filesToStage, stagingPlan_withState, plan, filesToStage,
        if_pos pending, plan]
      simp [isPending]
  · simp [completedState, filesToStage, pending]

theorem completedState_completedState (state : SessionState) :
    completedState env fs (completedState env fs state) = completedState env fs state := by
  by_cases pending : isPending env state = true
  · cases plan : stagingPlan env fs state with
    | error e =>
      rw [completedState_of_error pending plan]
      simp [completedState, isPending]
    | ok apexFiles =>
      rw [completedState_of_ok pending plan, completedState, stagingPlan_withState, plan]
      split <;> rfl
  · simp [completedState, pending]

/-- The commit that ends the round of a session. -/
theorem toward_completed (session : ApexSession)
    (stored : w.sessions.stateOf session.sessionDir = some state)
    (isCompleted : session.state = completedState env w.fs state)
    (fixes : (bootOverwrite env w session.sessionDir).Fixes (w.view .active))
    (promoted : ∀ id, packageIds (plannedFiles env w session.sessionDir) id →
      w.view .hashTree (newHashTree id) = none) (ready : Ready env w) :
    (Ready env (w.commit session) ∧ Toward env w (w.commit session)) ∧
      Settled env (w.commit session) session.sessionDir := by
  have planned : plannedFiles env w session.sessionDir = filesToStage env w.fs state := by
    unfold plannedFiles
    rw [stored]
  have completed : completedState env w.fs session.state = completedState env w.fs state := by
    rw [isCompleted, completedState_completedState]
  have isFile : completedSession env (w.commit session) session.sessionDir =
      (w.commit session).sessions.lookup session.sessionDir := by
    rw [completedSession_commit stored completed, lookup_commit_self, completedSession,
      stateOf_eq_some.mp stored, isCompleted]
    rfl
  by_cases supports : env.supportsFsCheckpoints = true
  · have files : filesToStage env w.fs session.state = filesToStage env w.fs state := by
      rw [isCompleted, filesToStage_completedState, if_pos supports]
    have plans : plannedFiles env (w.commit session) session.sessionDir =
        plannedFiles env w session.sessionDir := by
      rw [plannedFiles_commit_self, files, planned]
    refine ⟨toward_commit stored completed files ready, ?_, ?_, isFile⟩
    · rw [bootOverwrite, plans]
      exact fixes
    · rw [plans]
      exact promoted
  · have files : filesToStage env w.fs session.state = [] := by
      rw [isCompleted, filesToStage_completedState, if_neg supports]
    have plans : plannedFiles env (w.commit session) session.sessionDir = [] := by
      rw [plannedFiles_commit_self, files]
    refine ⟨toward_retire stored completed files fixes promoted (Bool.not_eq_true _ ▸ supports) ready,
      ?_, ?_, isFile⟩
    · rw [bootOverwrite, plans, stagingOverwrite_nil]
      exact Overwrite.apply_skip _
    · rw [plans]
      rintro id ⟨apexFile, member, _⟩
      cases member

/-- Calls on what is neither on disk nor in a session make no difference. -/
theorem toward_of_same (fs : w'.fs = w.fs) (sessions : w'.sessions = w.sessions)
    (ready : Ready env w) : Ready env w' ∧ Toward env w w' := by
  have staged : SameStaged w.fs w'.fs := fs ▸ .refl w.fs
  have plans : plannedFiles env w' = plannedFiles env w := plannedFiles_of_same sessions staged
  have view (d : DirId) : w'.view d = w.view d := by rw [World.view, World.view, fs]
  refine ⟨ready.of_same plans (openable_of_view (view _) ready.openable), staged, ?_, ?_,
    completedSession_of_same sessions staged, fun _ => plans⟩
  · unfold completedActive bootOverwrite
    rw [plans, view]
  · unfold completedHashTree bootIds
    rw [plans, view]

/-- The commit of a session, with what is known of the others before it. -/
theorem wp_commitCompleted (session : ApexSession) {s : SessionState.State}
    (stored : w.sessions.stateOf session.sessionDir = some state)
    (isCompleted : (session.withState s).state = completedState env w.fs state)
    (fixes : (bootOverwrite env w session.sessionDir).Fixes (w.view .active))
    (promoted : ∀ id, packageIds (plannedFiles env w session.sessionDir) id →
      w.view .hashTree (newHashTree id) = none) (ready : Ready env w)
    {Q : Except String Unit → World → Prop}
    (post : ∀ w', Settled env w' session.sessionDir →
      (∀ dir, dir ≠ session.sessionDir → w'.sessions.lookup dir = w.sessions.lookup dir) →
      (∀ dir, dir ≠ session.sessionDir → Settled env w dir → Settled env w' dir) → Q (.ok ()) w') :
    wp device (Booting env) (session.updateStateAndCommit s).ignore Q w := by
  rw [wp_ignore]
  obtain ⟨toward, settled⟩ :=
    toward_completed (session.withState s) stored isCompleted fixes promoted ready
  refine wp_updateStateAndCommit (stateOf_eq_some.mp stored) (fun _ => toward) ?_
  refine post _ settled (fun dir ne => ?_) fun dir ne other => ?_
  · exact lookup_commit_ne w (session.withState s) ne
  · exact other.commit (session.withState s) ne

/-- The round of one session. -/
theorem wp_activateSession (stored : w.sessions.stateOf session.sessionDir = some session.state)
    (pending : isPending env session.state = true) (ready : Ready env w)
    {Q : Except String Unit → World → Prop}
    (post : ∀ w', Settled env w' session.sessionDir →
      (∀ dir, dir ≠ session.sessionDir → w'.sessions.lookup dir = w.sessions.lookup dir) →
      (∀ dir, dir ≠ session.sessionDir → Settled env w dir → Settled env w' dir) → Q (.ok ()) w') :
    wp device (Booting env) (activateSession env session) Q w := by
  have planned : plannedFiles env w session.sessionDir = filesToStage env w.fs session.state := by
    unfold plannedFiles
    rw [stored]
  rw [activateSession, wp_bind, wp_attempt]
  refine wp_stageSession quiet_booting (fun e plan => ?_) fun apexFiles names context plan => ?_
  · -- the session fails before anything was touched
    have nothing : plannedFiles env w session.sessionDir = [] := by
      rw [planned, filesToStage, if_pos pending, plan]
    have completed : ((session.setErrorMessage e).withState .ACTIVATION_FAILED).state =
        completedState env w.fs session.state := (completedState_of_error pending plan).symm
    refine wp_commitCompleted (session.setErrorMessage e) stored completed ?_ ?_ ready post
    · change (stagingOverwrite (plannedFiles env w session.sessionDir)).Fixes _
      rw [nothing, stagingOverwrite_nil]
      exact Overwrite.apply_skip _
    · intro id isId
      obtain ⟨apexFile, member, _⟩ : packageIds (plannedFiles env w session.sessionDir) id := isId
      rw [nothing] at member
      cases member
  · have files : plannedFiles env w session.sessionDir = apexFiles := by
      rw [planned, filesToStage, if_pos pending, plan]
    subst files
    have staged : wp device (Booting env) (stageFiles (plannedFiles env w session.sessionDir))
        (fun result w₁ => (result = .ok () ∧
          w₁.view .active = (bootOverwrite env w session.sessionDir).apply (w.view .active) ∧
          w₁.view .hashTree = promote newHashTree
            (packageIds (plannedFiles env w session.sessionDir)) (w.view .hashTree)) ∧
          Progress (plannedFiles env w session.sessionDir) w w₁) w := by
      refine wp_guarantee (Progress (plannedFiles env w session.sessionDir) w) ?_ (.refl _ w)
        (wp_stageFiles (fun apexFile member => (waits_of_planned member).elsewhere) ready.openable
          fun w₁ _ active hashTree => ⟨rfl, active, hashTree⟩)
      intro request w₁ w₂ before step
      refine ⟨fun ready₁ => ?_, before.trans step⟩
      rw [← plannedFiles_of_same before.sessions before.staged] at step
      exact step.toward ready₁
    refine wp_mono staged ?_
    rintro _ w₁ ⟨⟨rfl, active, hashTree⟩, progress⟩
    change wp device (Booting env) (names.forM markChanged >>= fun _ => _) Q w₁
    rw [wp_bind]
    refine wp_markChanged names (fun _ _ _ => toward_of_same) fun w₂ fs sessions => ?_
    have view (d : DirId) : w₂.view d = w₁.view d := by rw [World.view, World.view, fs]
    have progress₂ : Progress (plannedFiles env w session.sessionDir) w w₂ :=
      progress.trans (.of_same fs sessions)
    have plans : plannedFiles env w₂ = plannedFiles env w :=
      plannedFiles_of_same progress₂.sessions progress₂.staged
    have active₂ : w₂.view .active =
        (bootOverwrite env w session.sessionDir).apply (w.view .active) := (view _).trans active
    have hashTree₂ : w₂.view .hashTree = promote newHashTree
        (packageIds (plannedFiles env w session.sessionDir)) (w.view .hashTree) :=
      (view _).trans hashTree
    have plan₂ : stagingPlan env w₂.fs session.state =
        .ok (plannedFiles env w session.sessionDir) := by
      rw [progress₂.staged.stagingPlan, plan]
    refine wp_commitCompleted session (progress₂.sessions ▸ stored)
      (completedState_of_ok pending plan₂).symm ?_ ?_
      (progress₂.toward ready).1 fun w₃ settled lookups others => ?_
    · rw [bootOverwrite, plans, active₂]
      exact Overwrite.fixes_apply _ _
    · rw [plans, hashTree₂]
      exact fun id isId => promote_new isId
    · refine post w₃ settled (fun dir ne => ?_) fun dir ne old => ?_
      · rw [lookups dir ne, progress₂.sessions]
      · exact others dir ne (old.stage ne ready.apart progress₂ active₂ hashTree₂)

end Session

/-! ## All sessions -/

/-- The sessions that a boot takes up, each of them once. -/
structure TakenUp (env : Environment) (w : World) (sessions : List ApexSession) : Prop where
  stored : ∀ session ∈ sessions, w.sessions.stateOf session.sessionDir = some session.state
  pending : ∀ session ∈ sessions, isPending env session.state = true
  nodup : (sessions.map ApexSession.sessionDir).Nodup
  all : ∀ dir state, w.sessions.stateOf dir = some state → isPending env state = true →
    ∃ session ∈ sessions, session.sessionDir = dir

/-- The sessions are read twice, and no session is in two states. -/
theorem wp_sessionsToActivate {G : Guarantee apexd World} (quiet : Quiet G)
    {Q : Except String (List ApexSession) → World → Prop}
    (post : ∀ sessions, TakenUp env w sessions → Q (.ok sessions) w) :
    wp device G (sessionsToActivate env) Q w := by
  rw [sessionsToActivate, wp_bind]
  refine wp_getSessionsInState quiet fun listing isListing => ?_
  dsimp only
  split
  · rename_i supports
    rw [wp_bind]
    refine wp_getSessionsInState quiet fun listing' isListing' => ?_
    refine post _ ⟨?_, ?_, ?_, ?_⟩
    · intro session member
      rcases List.mem_append.mp member with staged | activated
      · exact ((mem_sessionsInState isListing).mp staged).1
      · exact ((mem_sessionsInState isListing').mp activated).1
    · intro session member
      rcases List.mem_append.mp member with staged | activated
      · simp [isPending, ((mem_sessionsInState isListing).mp staged).2]
      · simp [isPending, ((mem_sessionsInState isListing').mp activated).2, supports]
    · rw [List.map_append]
      refine List.Nodup.append (nodup_sessionDirs isListing.nodup _)
        (nodup_sessionDirs isListing'.nodup _) ?_
      intro dir staged activated
      obtain ⟨first, member, rfl⟩ := List.mem_map.mp staged
      obtain ⟨second, member', same⟩ := List.mem_map.mp activated
      obtain ⟨stored, isStaged⟩ := (mem_sessionsInState isListing).mp member
      obtain ⟨stored', isActivated⟩ := (mem_sessionsInState isListing').mp member'
      rw [same, stored, Option.some.injEq] at stored'
      rw [← stored', isStaged] at isActivated
      cases isActivated
    · intro dir state stored pending
      simp only [isPending, supports, Bool.true_and, Bool.or_eq_true, decide_eq_true_eq] at pending
      rcases pending with isStaged | isActivated
      · exact ⟨⟨state, dir⟩, List.mem_append_left _
          ((mem_sessionsInState isListing).mpr ⟨stored, isStaged⟩), rfl⟩
      · exact ⟨⟨state, dir⟩, List.mem_append_right _
          ((mem_sessionsInState isListing').mpr ⟨stored, isActivated⟩), rfl⟩
  · rename_i noCheckpoints
    refine post _ ⟨?_, ?_, nodup_sessionDirs isListing.nodup _, ?_⟩
    · exact fun session member => ((mem_sessionsInState isListing).mp member).1
    · intro session member
      simp [isPending, ((mem_sessionsInState isListing).mp member).2]
    · intro dir state stored pending
      simp only [isPending, Bool.not_eq_true _ ▸ noCheckpoints, Bool.false_and, Bool.or_false,
        decide_eq_true_eq] at pending
      exact ⟨⟨state, dir⟩, (mem_sessionsInState isListing).mpr ⟨stored, pending⟩, rfl⟩

/-- Where no session is pending, nothing is left to do. -/
theorem settled_of_notPending (notPending : ∀ state, w.sessions.stateOf dir = some state →
    ¬ isPending env state = true) : Settled env w dir := by
  have nothing : plannedFiles env w dir = [] := by
    unfold plannedFiles
    cases stored : w.sessions.stateOf dir with
    | none => rfl
    | some state => simp [filesToStage, notPending state stored]
  refine ⟨?_, ?_, ?_⟩
  · rw [bootOverwrite, nothing, stagingOverwrite_nil]
    exact Overwrite.apply_skip _
  · rw [nothing]
    rintro id ⟨apexFile, member, _⟩
    cases member
  · unfold completedSession
    cases found : w.sessions.lookup dir with
    | none => rfl
    | some file =>
      cases file with
      | state state =>
        simp [completedFile, completedState, notPending state (stateOf_eq_some.mpr found)]
      | _ => rfl

/-- The scan settles every session. -/
theorem wp_scanStagedSessionsDirAndStage (ready : Ready env w) :
    wp device (Booting env) (scanStagedSessionsDirAndStage env)
      (fun result w' => result = .ok () ∧ ∀ dir, Settled env w' dir) w := by
  rw [scanStagedSessionsDirAndStage, wp_bind]
  refine wp_sessionsToActivate quiet_booting fun sessions takenUp => ?_
  have scanned : wp device (Booting env) (sessions.forM (activateSession env))
      (fun result w' => result = .ok () ∧ ∀ dir, Settled env w' dir) w := by
    refine wp_forM (fun before w' => Ready env w' ∧
      (∀ session ∈ sessions, session ∉ before →
        w'.sessions.stateOf session.sessionDir = some session.state) ∧
      ∀ dir, (∀ session ∈ sessions, session ∉ before → session.sessionDir ≠ dir) →
        Settled env w' dir) ⟨ready, ?_, ?_⟩ ?_ ?_
    · exact fun session member _ => takenUp.stored session member
    · intro dir untouched
      refine settled_of_notPending fun state stored pending => ?_
      obtain ⟨session, member, same⟩ := takenUp.all dir state stored pending
      exact untouched session member (by simp) same
    · rintro before session after w₁ split ⟨ready₁, stored, settled⟩
      have member : session ∈ sessions := by simp [split]
      have fresh : session ∉ before := by
        intro earlier
        have nodup := takenUp.nodup.of_map
        rw [split] at nodup
        exact List.disjoint_of_nodup_append nodup earlier (by simp)
      have round : wp device (Booting env) (activateSession env session)
          (fun result w₂ => result = .ok () ∧ Settled env w₂ session.sessionDir ∧
            (∀ dir, dir ≠ session.sessionDir → w₂.sessions.lookup dir = w₁.sessions.lookup dir) ∧
            ∀ dir, dir ≠ session.sessionDir → Settled env w₁ dir → Settled env w₂ dir) w₁ :=
        wp_activateSession (stored session member fresh) (takenUp.pending session member) ready₁
          fun w₂ settled₂ lookups others => ⟨rfl, settled₂, lookups, others⟩
      refine wp_mono (wp_keeps (Ready env) (fun _ _ _ ready step => (step ready).1) ready₁ round) ?_
      rintro _ w₂ ⟨⟨rfl, settled₂, lookups, others⟩, ready₂⟩
      refine ⟨ready₂, fun other otherMember notDone => ?_, fun dir untouched => ?_⟩
      · have ne : other.sessionDir ≠ session.sessionDir := by
          intro same
          have := List.inj_on_of_nodup_map takenUp.nodup otherMember member same
          simp [this] at notDone
        rw [SessionStore.stateOf, lookups _ ne]
        exact stored other otherMember fun earlier => notDone (by simp [earlier])
      · by_cases same : dir = session.sessionDir
        · rw [same]
          exact settled₂
        · refine others dir same (settled dir fun other otherMember notDone => ?_)
          by_cases isThis : other = session
          · rw [isThis]
            exact Ne.symm same
          · exact untouched other otherMember (by simp [notDone, isThis])
    · rintro w' ⟨_, _, settled⟩
      exact ⟨rfl, fun dir => settled dir fun session member notMember => absurd member notMember⟩
  exact scanned

/-! ## Complete runs -/

/-- The disk and the sessions are what a completed boot leaves. -/
structure Completed (env : Environment) (w w' : World) : Prop where
  active : w'.view .active = completedActive env w
  hashTree : w'.view .hashTree = completedHashTree env w
  sessions : ∀ dir, w'.sessions.lookup dir = completedSession env w dir

theorem Toward.completed (toward : Toward env w w') (settled : ∀ dir, Settled env w' dir) :
    Completed env w w' where
  active := (Overwrite.apply_merge_of_fixes fun dir => (settled dir).active).symm.trans toward.active
  hashTree := by
    refine Eq.trans (Eq.symm ?_) toward.hashTree
    refine promote_of_nothingNew (bootIds_separate env w') ?_
    rintro id ⟨dir, isId⟩
    exact (settled dir).hashTree id isId
  sessions dir := (settled dir).session.symm.trans (congrFun toward.sessions dir)

/-- Two boots that complete the same one leave the same disk and sessions. -/
theorem Completed.unique {first second : World} (completed : Completed env w first)
    (completed' : Completed env w second) :
    first.view .active = second.view .active ∧ first.view .hashTree = second.view .hashTree ∧
      first.sessions = second.sessions :=
  ⟨completed.active.trans completed'.active.symm,
    completed.hashTree.trans completed'.hashTree.symm,
    Finmap.ext_lookup fun dir => (completed.sessions dir).trans (completed'.sessions dir).symm⟩

theorem completed_of_runs (ready : Ready env w) {result : Except String Unit}
    (run : Runs device (scanStagedSessionsDirAndStage env) w result w') :
    result = .ok () ∧ Ready env w' ∧ (∀ dir, Settled env w' dir) ∧ Completed env w w' := by
  have holds := wp_scanStagedSessionsDirAndStage ready
  obtain ⟨isOk, settled⟩ := wp_runs holds run
  obtain ⟨ready', toward⟩ := toward_of_steps (wp_reaches holds run.reaches) ready
  exact ⟨isOk, ready', settled, toward.completed settled⟩

end Apexd
