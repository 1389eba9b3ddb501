import Apexd.Process.System
import Apexd.Verified.Frames
import Apexd.Verified.Sessions

/-! # The life of a session

Which changes of persisted sessions each entry point makes, whatever the order in which the
entry points are called, whichever operations but commits fail and wherever a reboot
interrupts them.
-/

namespace Apexd

open Process Storage

open Relation (ReflTransGen)

/-! ## Lawful changes -/

/-- The state of a session that is on disk. -/
def persisted : Option StateFile → Option SessionState.State
  | some (.state state) => some state.state
  | _ => none

/-- The states that a revert takes a session up in. -/
def SessionState.State.isActive (state : SessionState.State) : Bool :=
  !(state.isFinalized || state = .UNKNOWN)

def EntryPoint.reverts : EntryPoint → Bool
  | .revertActiveSessions _ _ _ | .resumeRevertIfNeeded _ => true
  | _ => false

/-- The changes of a persisted state that an entry point may make. -/
inductive Transition : EntryPoint → Option SessionState.State → SessionState.State → Prop
  | verified {env : Environment} {id : Int} {childIds : List Int} {enabled isRollback : Bool}
      {rollbackId : Int} :
      Transition (.submitStagedSession env id childIds enabled isRollback rollbackId) none .VERIFIED
  | staged {id : Int} : Transition (.markStagedSessionReady id) (some .VERIFIED) .STAGED
  | activated {env : Environment} :
      Transition (.scanStagedSessionsDirAndStage env) (some .STAGED) .ACTIVATED
  | activationFailed {env : Environment} :
      Transition (.scanStagedSessionsDirAndStage env) (some .STAGED) .ACTIVATION_FAILED
  | reactivated {env : Environment} (supports : env.supportsFsCheckpoints = true)
      (inMode : env.inFsCheckpointMode = true) :
      Transition (.scanStagedSessionsDirAndStage env) (some .ACTIVATED) .ACTIVATED
  | reactivationFailed {env : Environment} (supports : env.supportsFsCheckpoints = true) :
      Transition (.scanStagedSessionsDirAndStage env) (some .ACTIVATED) .ACTIVATION_FAILED
  | success {env : Environment} {id : Int} :
      Transition (.markStagedSessionSuccessful env id) (some .ACTIVATED) .SUCCESS
  | revertInProgress {entry : EntryPoint} {state : SessionState.State}
      (reverts : entry.reverts = true) (active : state.isActive = true) :
      Transition entry (some state) .REVERT_IN_PROGRESS
  | reverted {entry : EntryPoint} (reverts : entry.reverts = true) :
      Transition entry (some .REVERT_IN_PROGRESS) .REVERTED
  | revertFailed {entry : EntryPoint} (reverts : entry.reverts = true) :
      Transition entry (some .REVERT_IN_PROGRESS) .REVERT_FAILED

/-- The changes of a session directory that an entry point may make. -/
inductive SessionChange (entry : EntryPoint) : Option StateFile → Option StateFile → Prop
  | same (file : Option StateFile) : SessionChange entry file file
  | created {env : Environment} {id : Int} {childIds : List Int} {enabled isRollback : Bool}
      {rollbackId : Int}
      (submits : entry = .submitStagedSession env id childIds enabled isRollback rollbackId) :
      SessionChange entry none (some .missing)
  | committed {file : Option StateFile} {state : SessionState}
      (transition : Transition entry (persisted file) state.state) :
      SessionChange entry file (some (.state state))
  | aborted {id : Int} {state : SessionState} (aborts : entry = .abortStagedSession id)
      (waiting : state.state = .VERIFIED ∨ state.state = .STAGED) :
      SessionChange entry (some (.state state)) none
  | cleaned {env : Environment} {state : SessionState}
      (cleans : entry = .bootCompletedCleanup env) (finalized : state.state.isFinalized = true) :
      SessionChange entry (some (.state state)) none

/-- A finalized state is not the source of a transition. -/
theorem Transition.not_finalized {entry : EntryPoint} {state state' : SessionState.State}
    (transition : Transition entry (some state) state') : state.isFinalized = false := by
  cases transition with
  | revertInProgress _ active =>
    rw [SessionState.State.isActive, Bool.not_eq_true', Bool.or_eq_false_iff] at active
    exact active.1
  | _ => rfl

/-- A finalized session stays as it is or is deleted. -/
theorem SessionChange.finalized {entry : EntryPoint} {state : SessionState}
    {file : Option StateFile} (change : SessionChange entry (some (.state state)) file)
    (finalized : state.state.isFinalized = true) : file = some (.state state) ∨ file = none := by
  cases change with
  | same => exact .inl rfl
  | committed transition =>
    rw [persisted] at transition
    exact absurd (transition.not_finalized.symm.trans finalized) Bool.false_ne_true
  | aborted | cleaned => exact .inr rfl

/-- Every session changes as the entry point may change it. -/
abbrev Lawful (entry : EntryPoint) : Guarantee apexd World := fun _ w w' =>
  ∀ dir, SessionChange entry (w.sessions.lookup dir) (w'.sessions.lookup dir)

theorem lawful_of_same {entry : EntryPoint} {w w' : World} (same : w'.sessions = w.sessions)
    (dir : String) : SessionChange entry (w.sessions.lookup dir) (w'.sessions.lookup dir) :=
  same ▸ .same _

/-! ## Calls that may fail -/

/-- What may fail by itself: every operation on disk, on mounts and on devices but the commit
of a session. -/
def Fallible : Call → Prop
  | .fs _ | .createFile _ _ | .getDeUserDirs | .restorecon _ | .kernel _ | .outside _ => True
  | .session (.commit _ _) => False
  | .session _ => True
  | .database _ | .markChanged _ | .fatal => False

section Calls

variable {may : Call → Prop} {entry : EntryPoint} {w : World} {α : Type}

/-- A procedure that does not write sessions. -/
theorem wp_framed {p : Procedure α} (frames : Frames (fun _ => True) p) :
    wp (device.withFaults may) (Lawful entry) p (fun _ w' => w'.sessions = w.sessions) w := by
  refine wp_frame frames (fun w' : World => w'.sessions = w.sessions) ?_ rfl
  rintro request touches before reply after kept (answer | ⟨-, -, rfl⟩)
  · have same := (sameOutside_of_touches touches answer).sessions
    exact ⟨lawful_of_same same, same.trans kept⟩
  · exact ⟨lawful_of_same rfl, kept⟩

/-- A procedure that does not write sessions, and what follows it. -/
theorem wp_framed_bind {β : Type} {p : Procedure α} {f : α → Procedure β}
    {Q : Except String β → World → Prop} (frames : Frames (fun _ => True) p)
    (rest : ∀ value w', w'.sessions = w.sessions →
      wp (device.withFaults may) (Lawful entry) (f value) Q w')
    (failed : ∀ e w', w'.sessions = w.sessions → Q (.error e) w') :
    wp (device.withFaults may) (Lawful entry) (p >>= f) Q w := by
  rw [wp_bind]
  refine wp_mono (wp_framed frames) fun result w' same => ?_
  cases result with
  | ok value => exact rest value w' same
  | error e => exact failed e w' same

theorem wp_storedSession {sessionId : Int} {Q : Except String ApexSession → World → Prop}
    (found : ∀ state, w.sessions.lookup (toString sessionId) = some (.state state) →
      Q (.ok ⟨state, toString sessionId⟩) w) (failed : ∀ e, Q (.error e) w) :
    wp (device.withFaults may) (Lawful entry) (getSession sessionId) Q w := by
  rw [getSession, wp_bind, wp_mapError]
  refine wp_withFaults ?_ fun _ e => ⟨lawful_of_same rfl, failed _⟩
  rintro reply w' ⟨store, answer, rfl⟩
  change (reply, store) = SessionCall.effect (.read (toString sessionId)) w.sessions at answer
  simp only [SessionCall.effect] at answer
  split at answer
  · rename_i state stored
    cases answer
    exact ⟨lawful_of_same rfl, found state stored⟩
  · cases answer
    exact ⟨lawful_of_same rfl, failed _⟩
  · cases answer
    exact ⟨lawful_of_same rfl, failed _⟩

theorem wp_listedSessions {Q : Except String (List ApexSession) → World → Prop}
    (listed : ∀ listing, Directory.IsListing w.sessions listing →
      Q (.ok (w.sessions.sessionsIn listing)) w) (failed : may (.session .list) → Q (.ok []) w) :
    wp (device.withFaults may) (Lawful entry) getSessions Q w := by
  rw [getSessions, wp_bind, wp_attempt]
  refine wp_withFaults ?_ fun mayFail e => ⟨lawful_of_same rfl, failed mayFail⟩
  rintro reply w' ⟨store, ⟨rfl, listing, isListing, rfl⟩, rfl⟩
  exact ⟨lawful_of_same rfl, listed listing isListing⟩

/-- Some of the sessions in a state, each once. -/
theorem wp_listedSessionsInState {state : SessionState.State}
    {Q : Except String (List ApexSession) → World → Prop}
    (listed : ∀ sessions : List ApexSession, (sessions.map ApexSession.sessionDir).Nodup →
      (∀ session ∈ sessions, w.sessions.lookup session.sessionDir = some (.state session.state) ∧
        session.state.state = state) → Q (.ok sessions) w) :
    wp (device.withFaults may) (Lawful entry) (getSessionsInState state) Q w := by
  rw [getSessionsInState, wp_bind]
  refine wp_listedSessions (fun listing isListing => ?_) fun _ => ?_
  · refine listed _ (nodup_sessionDirs isListing.nodup state) fun session member => ?_
    obtain ⟨stored, inState⟩ := (mem_sessionsInState isListing).mp member
    exact ⟨stateOf_eq_some.mp stored, inState⟩
  · exact listed _ List.nodup_nil fun session member => by cases member

/-- Commit the same state for sessions that are all in states the entry point may change. -/
theorem wp_commitAll {sessions : List ApexSession} {body : ApexSession → Procedure PUnit}
    (before : SessionState.State → Prop) (after : SessionState.State)
    (distinct : (sessions.map ApexSession.sessionDir).Nodup)
    (start : ∀ session ∈ sessions, ∃ state,
      persisted (w.sessions.lookup session.sessionDir) = some state ∧ before state)
    (commits : ∀ session ∈ sessions, ∀ w₁ state,
      persisted (w₁.sessions.lookup session.sessionDir) = some state → before state →
      wp (device.withFaults may) (Lawful entry) (body session) (fun result w₂ => result = .ok () ∧
        persisted (w₂.sessions.lookup session.sessionDir) = some after ∧
        ∀ dir, dir ≠ session.sessionDir → w₂.sessions.lookup dir = w₁.sessions.lookup dir) w₁)
    {Q : Except String PUnit → World → Prop}
    (finish : ∀ w',
      (∀ session ∈ sessions, persisted (w'.sessions.lookup session.sessionDir) = some after) →
      (∀ dir, dir ∉ sessions.map ApexSession.sessionDir →
        w'.sessions.lookup dir = w.sessions.lookup dir) → Q (.ok ()) w') :
    wp (device.withFaults may) (Lawful entry) (sessions.forM body) Q w := by
  refine wp_forSessions (fun _ file => ∃ state, persisted file = some state ∧ before state)
    (fun _ file => persisted file = some after) (fun _ => True) distinct start trivial ?_
    fun w' _ => finish w'
  rintro session member w₁ - ⟨state, stored, holds⟩
  refine wp_mono (commits session member w₁ state stored holds) ?_
  rintro result w₂ ⟨isOk, now, others⟩
  exact ⟨isOk, trivial, now, others⟩

variable (fallible : ∀ request, may request → Fallible request)
include fallible

/-- A commit that the entry point may make. -/
theorem wp_commitTransition {session : ApexSession} {file : StateFile}
    {after : SessionState.State} (found : w.sessions.lookup session.sessionDir = some file)
    (transition : Transition entry (persisted (some file)) after) :
    wp (device.withFaults may) (Lawful entry) (session.updateStateAndCommit after)
      (fun result w' => result = .ok () ∧
        persisted (w'.sessions.lookup session.sessionDir) = some after ∧
        ∀ dir, dir ≠ session.sessionDir → w'.sessions.lookup dir = w.sessions.lookup dir) w := by
  have call : Program.Within (fun request => ¬ may request)
      (sessionCall (.commit session.sessionDir (session.withState after).state)) :=
    ⟨fallible _, fun _ => trivial⟩
  have lookup := lookup_commit_self w (session.withState after)
  refine wp_withFaults_of_within (call.mapError _) ?_
  refine wp_updateStateAndCommit found (fun dir => ?_) ⟨rfl, ?_, fun dir ne => ?_⟩
  · by_cases same : dir = session.sessionDir
    · subst same
      rw [found]
      exact lookup ▸ .committed transition
    · exact lookup_commit_ne w (session.withState after) same ▸ .same _
  · exact lookup ▸ rfl
  · exact lookup_commit_ne w (session.withState after) ne

/-- A commit for a session that is known by its persisted state. -/
theorem wp_commitPersisted {session : ApexSession} {before after : SessionState.State}
    (stored : persisted (w.sessions.lookup session.sessionDir) = some before)
    (transition : Transition entry (some before) after) :
    wp (device.withFaults may) (Lawful entry) (session.updateStateAndCommit after)
      (fun result w' => result = .ok () ∧
        persisted (w'.sessions.lookup session.sessionDir) = some after ∧
        ∀ dir, dir ≠ session.sessionDir → w'.sessions.lookup dir = w.sessions.lookup dir) w := by
  cases found : w.sessions.lookup session.sessionDir with
  | none =>
    rw [found] at stored
    cases stored
  | some file =>
    refine wp_commitTransition fallible found ?_
    rw [← found, stored]
    exact transition

end Calls

/-! ## Reverts -/

/-- What a revert with the given outcome leaves of a session. -/
def revertedTo (outcome : SessionState.State) (file : Option StateFile) :
    Option SessionState.State :=
  (persisted file).map fun state => if state.isActive then outcome else state

/-- After a revert every session that was active is reverted, or all of them failed to be. -/
def RevertOutcome (may : Call → Prop) (w : World) (result : Except String Unit) (w' : World) :
    Prop :=
  match result with
  | .ok _ => ∀ dir, persisted (w'.sessions.lookup dir) =
      revertedTo .REVERTED (w.sessions.lookup dir)
  | .error _ => (may (.session .list) ∧ w'.sessions = w.sessions) ∨
      ∀ dir, persisted (w'.sessions.lookup dir) =
        revertedTo .REVERT_FAILED (w.sessions.lookup dir)

/-- The sessions that a revert takes up. -/
structure ActiveIn (w : World) (active : List ApexSession) : Prop where
  distinct : (active.map ApexSession.sessionDir).Nodup
  all : ∀ dir, dir ∈ active.map ApexSession.sessionDir ↔
    ∃ state, persisted (w.sessions.lookup dir) = some state ∧ state.isActive = true

theorem map_withFailure_sessionDir (native message : String) (sessions : List ApexSession) :
    (sessions.map (withFailure native message)).map ApexSession.sessionDir =
      sessions.map ApexSession.sessionDir := by
  rw [List.map_map]
  refine List.map_congr_left fun session _ => ?_
  simp only [Function.comp_apply, withFailure]
  split <;> split <;> rfl

theorem activeIn_of_isListing {w : World} {listing : List String}
    (isListing : Directory.IsListing w.sessions listing) (native message : String) :
    ActiveIn w (((w.sessions.sessionsIn listing).filter isActive).map
      (withFailure native message)) where
  distinct := by
    rw [map_withFailure_sessionDir]
    exact nodup_filter_sessionsIn isListing.nodup isActive
  all := by
    intro dir
    rw [map_withFailure_sessionDir]
    constructor
    · intro member
      obtain ⟨session, listed, rfl⟩ := List.mem_map.mp member
      obtain ⟨stored, active⟩ := List.mem_filter.mp listed
      have found := stateOf_eq_some.mp ((mem_sessionsIn_of_isListing isListing).mp stored)
      exact ⟨session.state.state, congrArg persisted found, active⟩
    · rintro ⟨state, stored, active⟩
      cases found : w.sessions.lookup dir with
      | none => simp [found, persisted] at stored
      | some file =>
        cases file with
        | missing | corrupt => simp [found, persisted] at stored
        | state content =>
          simp only [found, persisted, Option.some.injEq] at stored
          refine List.mem_map.mpr ⟨⟨content, dir⟩, List.mem_filter.mpr ⟨?_, ?_⟩, rfl⟩
          · exact (mem_sessionsIn_of_isListing isListing).mpr (stateOf_eq_some.mpr found)
          · subst stored
            exact active

/-- With all active sessions committed and the others as before, the revert has its outcome. -/
theorem ActiveIn.revertedTo {w w' : World} {active : List ApexSession}
    {outcome : SessionState.State} (activeIn : ActiveIn w active)
    (committed : ∀ session ∈ active,
      persisted (w'.sessions.lookup session.sessionDir) = some outcome)
    (others : ∀ dir, dir ∉ active.map ApexSession.sessionDir →
      w'.sessions.lookup dir = w.sessions.lookup dir) (dir : String) :
    persisted (w'.sessions.lookup dir) = Apexd.revertedTo outcome (w.sessions.lookup dir) := by
  by_cases member : dir ∈ active.map ApexSession.sessionDir
  · obtain ⟨state, stored, isActive⟩ := (activeIn.all dir).mp member
    obtain ⟨session, listed, rfl⟩ := List.mem_map.mp member
    rw [committed session listed, Apexd.revertedTo, stored]
    simp [isActive]
  · rw [others dir member, Apexd.revertedTo]
    cases stored : persisted (w.sessions.lookup dir) with
    | none => rfl
    | some state =>
      have inactive : state.isActive = false := by
        rw [← Bool.not_eq_true]
        exact fun active => member ((activeIn.all dir).mpr ⟨state, stored, active⟩)
      simp [inactive]

section Reverts

variable {may : Call → Prop} {env : Environment} {w : World} {entry : EntryPoint}
  (fallible : ∀ request, may request → Fallible request)
include fallible

omit fallible in
theorem succeeds_restoreDePreRestoreSnapshotsIfPresent (session : ApexSession) :
    (restoreDePreRestoreSnapshotsIfPresent session).Succeeds (· = Call.fatal) := by
  have restores (baseDir : String) :
      (restorePreRestoreSnapshotsIfPresent baseDir session).Succeeds (· = Call.fatal) := by
    refine Program.Succeeds.bind ?_ fun found => ?_
    · refine (Program.succeeds_attempt _).bind fun found => ?_
      cases found <;> trivial
    · split
      · exact Program.Succeeds.forM fun apexName _ => Program.succeeds_ignore _
      · trivial
  refine (restores _).bind fun _ => Program.Succeeds.bind ?_ fun userDirs =>
    Program.Succeeds.forM fun userDir _ => restores userDir
  refine (Program.succeeds_attempt _).bind fun found => ?_
  cases found with
  | ok userDirs => trivial
  | error e => exact fun alive => absurd rfl alive

theorem wp_markRevertInProgress {session : ApexSession} {before : SessionState.State}
    (reverts : entry.reverts = true) (active : before.isActive = true)
    (stored : persisted (w.sessions.lookup session.sessionDir) = some before) :
    wp (device.withFaults may) (Lawful entry) (markRevertInProgress session)
      (fun result w' => result = .ok () ∧
        persisted (w'.sessions.lookup session.sessionDir) = some .REVERT_IN_PROGRESS ∧
        ∀ dir, dir ≠ session.sessionDir → w'.sessions.lookup dir = w.sessions.lookup dir) w := by
  rw [markRevertInProgress, wp_mapError]
  refine wp_mono (wp_commitPersisted fallible stored (.revertInProgress reverts active)) ?_
  rintro _ w' ⟨rfl, committed, others⟩
  exact ⟨rfl, committed, others⟩

theorem wp_markReverted {session : ApexSession} (reverts : entry.reverts = true)
    (stored : persisted (w.sessions.lookup session.sessionDir) = some .REVERT_IN_PROGRESS) :
    wp (device.withFaults may) (Lawful entry) (markReverted env session)
      (fun result w' => result = .ok () ∧
        persisted (w'.sessions.lookup session.sessionDir) = some .REVERTED ∧
        ∀ dir, dir ≠ session.sessionDir → w'.sessions.lookup dir = w.sessions.lookup dir) w := by
  have committing (w₁ : World) (same : w₁.sessions = w.sessions) :
      wp (device.withFaults may) (Lawful entry) (session.updateStateAndCommit .REVERTED).ignore
        (fun result w' => result = .ok () ∧
          persisted (w'.sessions.lookup session.sessionDir) = some .REVERTED ∧
          ∀ dir, dir ≠ session.sessionDir → w'.sessions.lookup dir = w.sessions.lookup dir) w₁ := by
    rw [wp_ignore]
    refine wp_mono (wp_commitPersisted fallible (same ▸ stored) (.reverted reverts)) ?_
    rintro _ w₂ ⟨-, committed, others⟩
    exact ⟨rfl, committed, fun dir ne => (others dir ne).trans (by rw [same])⟩
  have ends : ∀ request, request = Call.fatal → ∀ w₁ reply w₂,
      ¬ device.withFaults may request w₁ reply w₂ := by
    rintro _ rfl w₁ reply w₂ (answer | ⟨mayFail, _⟩)
    · exact answer
    · exact fallible _ mayFail
  rw [markReverted]
  dsimp only
  split
  · rw [wp_bind]
    refine wp_mono (wp_succeeds ends (succeeds_restoreDePreRestoreSnapshotsIfPresent session)
      (wp_framed (frames_restoreDePreRestoreSnapshotsIfPresent (fun _ _ => trivial) session))) ?_
    rintro _ w₁ ⟨same, _, rfl⟩
    exact committing w₁ same
  · exact committing w rfl

/-- A revert is lawful and has its outcome. -/
theorem wp_revertActiveSessions {native message : String} (reverts : entry.reverts = true) :
    wp (device.withFaults may) (Lawful entry) (revertActiveSessions env native message)
      (RevertOutcome may w) w := by
  rw [revertActiveSessions, wp_bind]
  refine wp_listedSessions (fun listing isListing => ?_) fun mayFail => .inl ⟨mayFail, rfl⟩
  have activeIn := activeIn_of_isListing isListing native message
  dsimp only
  generalize ((w.sessions.sessionsIn listing).filter isActive).map (withFailure native message) =
    active at activeIn
  split
  · rename_i none
    subst none
    exact .inr (activeIn.revertedTo (by simp) fun _ _ => rfl)
  · rw [wp_bind]
    refine wp_commitAll (fun state => state.isActive = true) .REVERT_IN_PROGRESS
      activeIn.distinct
      (fun session member => (activeIn.all _).mp (List.mem_map_of_mem member))
      (fun session _ w₁ state stored isActive =>
        wp_markRevertInProgress fallible reverts isActive stored) fun w₁ marked others => ?_
    have reverting (w₂ : World) (same : w₂.sessions = w₁.sessions) :
        wp (device.withFaults may) (Lawful entry) (active.forM (markReverted env))
          (RevertOutcome may w) w₂ := by
      refine wp_commitAll (· = .REVERT_IN_PROGRESS) .REVERTED activeIn.distinct
        (fun session member => ⟨_, same ▸ marked session member, rfl⟩)
        (fun session _ w₃ state stored isMarked =>
          wp_markReverted fallible reverts (isMarked ▸ stored)) fun w₃ reverted others' => ?_
      refine activeIn.revertedTo reverted fun dir outside => ?_
      rw [others' dir outside, same, others dir outside]
    dsimp only
    split
    · rw [wp_bind, wp_attempt]
      refine wp_mono (wp_framed (frames_restoreActivePackages trivial trivial)) fun result w₂ same => ?_
      cases result with
      | ok _ => exact reverting w₂ same
      | error e =>
        change wp _ _ (active.forM _ >>= fun _ => Program.throw e) _ w₂
        rw [wp_bind]
        refine wp_commitAll (· = .REVERT_IN_PROGRESS) .REVERT_FAILED activeIn.distinct
          (fun session member => ⟨_, same ▸ marked session member, rfl⟩)
          (fun session _ w₃ state stored isMarked => ?_) fun w₃ failed others' => ?_
        · rw [wp_ignore]
          refine wp_mono (wp_commitPersisted fallible (isMarked ▸ stored) (.revertFailed reverts)) ?_
          rintro _ w₄ ⟨-, committed, others⟩
          exact ⟨rfl, committed, others⟩
        · refine .inr (activeIn.revertedTo failed fun dir outside => ?_)
          rw [others' dir outside, same, others dir outside]
    · exact reverting w₁ rfl

theorem lawful_resumeRevertIfNeeded :
    wp (device.withFaults may) (Lawful (.resumeRevertIfNeeded env)) (resumeRevertIfNeeded env)
      (fun _ _ => True) w := by
  rw [resumeRevertIfNeeded, wp_bind]
  refine wp_listedSessionsInState fun sessions _ _ => ?_
  dsimp only
  split
  · trivial
  · exact wp_mono (wp_revertActiveSessions fallible rfl) fun _ _ _ => trivial

end Reverts

/-! ## Entry points -/

section EntryPoints

variable {may : Call → Prop} {env : Environment} {w : World}
  (fallible : ∀ request, may request → Fallible request)
include fallible

theorem lawful_createVerifiedSession {sessionId : Int} {childSessionIds : List Int}
    {hasRollbackEnabled isRollback : Bool} {rollbackId : Int} {ret : List ApexFile}
    (fresh : w.sessions.lookup (toString sessionId) = none) :
    wp (device.withFaults may)
      (Lawful (.submitStagedSession env sessionId childSessionIds hasRollbackEnabled isRollback
        rollbackId))
      (createVerifiedSession env sessionId childSessionIds hasRollbackEnabled isRollback rollbackId
        ret) (fun _ _ => True) w := by
  unfold createVerifiedSession
  split
  · trivial
  · have committing (w₁ : World) (found : w₁.sessions.lookup (toString sessionId) = some .missing) :
        wp (device.withFaults may)
          (Lawful (.submitStagedSession env sessionId childSessionIds hasRollbackEnabled isRollback
            rollbackId))
          ((submittedSession env ⟨.initial sessionId, toString sessionId⟩ childSessionIds
            hasRollbackEnabled isRollback rollbackId ret).updateStateAndCommit .VERIFIED)
          (fun _ _ => True) w₁ :=
      wp_mono (wp_commitTransition fallible found .verified) fun _ _ _ => trivial
    rw [wp_bind, createSession, wp_bind, orErrno, wp_mapError]
    refine wp_withFaults ?_ fun _ e => ⟨lawful_of_same rfl, trivial⟩
    rintro reply w' ⟨store, answer, rfl⟩
    change (reply, store) = SessionCall.effect (.createDir (toString sessionId)) w.sessions at answer
    simp only [SessionCall.effect, fresh, Option.isSome_none, Bool.false_eq_true, if_false] at answer
    cases answer
    refine ⟨fun dir => ?_, ?_⟩
    · by_cases same : dir = toString sessionId
      · subst same
        rw [fresh]
        exact (Finmap.lookup_insert w.sessions).symm ▸ .created rfl
      · exact (Finmap.lookup_insert_of_ne w.sessions same).symm ▸ .same _
    · exact committing _ (Finmap.lookup_insert w.sessions)

theorem lawful_submitStagedSession {sessionId : Int} {childSessionIds : List Int}
    {hasRollbackEnabled isRollback : Bool} {rollbackId : Int}
    (fresh : w.sessions.lookup (toString sessionId) = none) :
    wp (device.withFaults may)
      (Lawful (.submitStagedSession env sessionId childSessionIds hasRollbackEnabled isRollback
        rollbackId))
      (submitStagedSession env sessionId childSessionIds hasRollbackEnabled isRollback rollbackId)
      (fun _ _ => True) w := by
  have unmounting (files : List ApexFile) : Frames (fun _ => True) (files.forM unmountTempMount) :=
    Program.Within.forM fun _ _ => frames_unmountTempMount
  have verifying (w₁ : World) (fresh₁ : w₁.sessions.lookup (toString sessionId) = none) :
      wp (device.withFaults may)
        (Lawful (.submitStagedSession env sessionId childSessionIds hasRollbackEnabled isRollback
          rollbackId))
        (do
          let ret ← verifySessionDirs env (idsToScan sessionId childSessionIds) []
          (createVerifiedSession env sessionId childSessionIds hasRollbackEnabled isRollback
            rollbackId ret).onError (ret.forM unmountTempMount)
          ret.forM unmountTempMount
          pure ret) (fun _ _ => True) w₁ := by
    refine wp_framed_bind (frames_verifySessionDirs trivial _ _) (fun ret w₂ same => ?_)
      fun _ _ _ => trivial
    rw [wp_bind, wp_onError]
    refine wp_mono (lawful_createVerifiedSession fallible (same ▸ fresh₁)) fun result w₃ _ => ?_
    cases result with
    | error e => exact wp_mono (wp_framed (unmounting ret)) fun _ _ _ => trivial
    | ok _ => exact wp_framed_bind (unmounting ret) (fun _ _ _ => trivial) fun _ _ _ => trivial
  unfold submitStagedSession
  split
  · trivial
  · dsimp only
    split
    · exact wp_framed_bind (frames_backupActivePackages trivial)
        (fun _ w₁ same => verifying w₁ (same ▸ fresh)) fun _ _ _ => trivial
    · exact verifying w fresh

theorem lawful_markStagedSessionReady {sessionId : Int} :
    wp (device.withFaults may) (Lawful (.markStagedSessionReady sessionId))
      (markStagedSessionReady sessionId) (fun _ _ => True) w := by
  rw [markStagedSessionReady, wp_bind]
  refine wp_storedSession (fun state stored => ?_) fun _ => trivial
  dsimp only
  split
  · trivial
  · rename_i isVerified
    refine wp_mono (wp_commitTransition fallible stored ?_) fun _ _ _ => trivial
    rw [persisted, isVerified]
    exact .staged
  · trivial

omit fallible in
/-- Deleting a session that the entry point may delete. -/
theorem wp_deleteStored {entry : EntryPoint} {session : ApexSession} {state : SessionState}
    (stored : w.sessions.lookup session.sessionDir = some (.state state))
    (deletable : SessionChange entry (some (.state state)) none) :
    wp (device.withFaults may) (Lawful entry) session.deleteSession (fun _ w' =>
      ∀ dir, dir ≠ session.sessionDir → w'.sessions.lookup dir = w.sessions.lookup dir) w := by
  rw [ApexSession.deleteSession, wp_mapError]
  refine wp_withFaults ?_ fun _ e => ⟨lawful_of_same rfl, fun _ _ => rfl⟩
  rintro reply w' ⟨store, answer, rfl⟩
  cases answer
  refine ⟨fun dir => ?_, fun dir ne => Finmap.lookup_erase_ne ne⟩
  by_cases same : dir = session.sessionDir
  · subst same
    rw [stored]
    exact (Finmap.lookup_erase session.sessionDir w.sessions).symm ▸ deletable
  · exact (Finmap.lookup_erase_ne same).symm ▸ .same _

omit fallible in
theorem lawful_abortStagedSession {sessionId : Int} :
    wp (device.withFaults may) (Lawful (.abortStagedSession sessionId))
      (abortStagedSession sessionId) (fun _ _ => True) w := by
  rw [abortStagedSession, wp_bind, wp_mapError]
  refine wp_storedSession (fun state stored => ?_) fun _ => trivial
  dsimp only [Except.mapError]
  split
  · rename_i isVerified
    exact wp_mono (wp_deleteStored stored (.aborted rfl (.inl isVerified))) fun _ _ _ => trivial
  · rename_i isStaged
    exact wp_mono (wp_deleteStored stored (.aborted rfl (.inr isStaged))) fun _ _ _ => trivial
  · trivial

theorem lawful_markStagedSessionSuccessful {sessionId : Int} :
    wp (device.withFaults may) (Lawful (.markStagedSessionSuccessful env sessionId))
      (markStagedSessionSuccessful env sessionId) (fun _ _ => True) w := by
  rw [markStagedSessionSuccessful, wp_bind]
  refine wp_storedSession (fun state stored => ?_) fun _ => trivial
  dsimp only
  split
  · trivial
  · rename_i isActivated
    have committing (w₁ : World) (same : w₁.sessions = w.sessions) : wp (device.withFaults may)
        (Lawful (.markStagedSessionSuccessful env sessionId))
        (ApexSession.updateStateAndCommit ⟨state, toString sessionId⟩ .SUCCESS)
        (fun _ _ => True) w₁ := by
      refine wp_mono (wp_commitTransition fallible (same ▸ stored) ?_) fun _ _ _ => trivial
      rw [persisted, isActivated]
      exact .success
    refine wp_framed_bind ((frames_deleteBackup trivial).mapError _) (fun _ w₁ same => ?_)
      fun _ _ _ => trivial
    split
    · exact wp_framed_bind (frames_deleteDePreRestoreSnapshots (fun _ _ => trivial) _)
        (fun _ w₂ same₂ => committing w₂ (same₂.trans same)) fun _ _ _ => trivial
    · exact committing w₁ same
  · trivial

omit fallible in
theorem lawful_bootCompletedCleanup :
    wp (device.withFaults may) (Lawful (.bootCompletedCleanup env)) (bootCompletedCleanup env)
      (fun _ _ => True) w := by
  refine wp_framed_bind (frames_removeInactiveDataApex fun _ => trivial) (fun _ w₁ _ => ?_)
    fun _ _ _ => trivial
  rw [wp_bind, deleteFinalizedSessions, wp_bind]
  have finish (w₂ : World) : wp (device.withFaults may) (Lawful (.bootCompletedCleanup env))
      (deleteUnusedVerityDevices env) (fun _ _ => True) w₂ :=
    wp_mono (wp_framed (frames_deleteUnusedVerityDevices env)) fun _ _ _ => trivial
  refine wp_listedSessions (fun listing isListing => ?_) fun _ => finish w₁
  have distinct : ((w₁.sessions.sessionsIn listing).map ApexSession.sessionDir).Nodup := by
    have filtered := @nodup_filter_sessionsIn w₁.sessions _ isListing.nodup fun _ => true
    rwa [List.filter_true] at filtered
  refine wp_forSessions (fun session file => file = some (.state session.state))
    (fun _ _ => True) (fun _ => True) distinct (fun session member => ?_) trivial ?_
    fun w₂ _ _ _ => finish w₂
  · exact stateOf_eq_some.mp ((mem_sessionsIn_of_isListing isListing).mp member)
  · intro session _ w₂ _ stored
    split
    · rename_i finalized
      rw [wp_ignore]
      exact wp_mono (wp_deleteStored stored (.cleaned rfl finalized)) fun _ _ others =>
        ⟨rfl, trivial, trivial, others⟩
    · exact ⟨rfl, trivial, trivial, fun _ _ => rfl⟩

omit fallible in
/-- With checkpoints a session is staged in checkpoint mode only. -/
theorem yields_stageSession (env : Environment) (session : ApexSession) :
    (stageSession env session).Yields fun _ =>
      env.supportsFsCheckpoints = true → env.inFsCheckpointMode = true := by
  unfold stageSession
  split
  · trivial
  · split
    · trivial
    · rename_i unguarded
      refine Program.yields_of_forall (fun _ supports => ?_) _
      simpa [supports] using unguarded

theorem lawful_activateSession {session : ApexSession} {state : SessionState.State}
    (stored : persisted (w.sessions.lookup session.sessionDir) = some state)
    (waiting : state = .STAGED ∨ (env.supportsFsCheckpoints = true ∧ state = .ACTIVATED)) :
    wp (device.withFaults may) (Lawful (.scanStagedSessionsDirAndStage env))
      (activateSession env session) (fun result w' => result = .ok () ∧
        ∀ dir, dir ≠ session.sessionDir → w'.sessions.lookup dir = w.sessions.lookup dir) w := by
  have committing {after : SessionState.State} {other : ApexSession} (w₁ : World)
      (sameDir : other.sessionDir = session.sessionDir) (same : w₁.sessions = w.sessions)
      (transition : Transition (.scanStagedSessionsDirAndStage env) (some state) after) :
      wp (device.withFaults may) (Lawful (.scanStagedSessionsDirAndStage env))
        (other.updateStateAndCommit after).ignore (fun result w' => result = .ok () ∧
          ∀ dir, dir ≠ session.sessionDir → w'.sessions.lookup dir = w.sessions.lookup dir) w₁ := by
    rw [wp_ignore]
    rw [← same, ← sameDir] at stored
    refine wp_mono (wp_commitPersisted fallible stored transition) ?_
    rintro _ w₂ ⟨-, -, others⟩
    exact ⟨rfl, fun dir ne => (others dir (sameDir ▸ ne)).trans (by rw [same])⟩
  rw [activateSession, wp_bind, wp_attempt]
  refine wp_mono (wp_yields (yields_stageSession env session)
    (wp_framed (frames_stageSession trivial trivial session))) ?_
  rintro result w₁ ⟨same, inMode⟩
  cases result with
  | error e =>
    refine committing w₁ rfl same ?_
    rcases waiting with rfl | ⟨supports, rfl⟩
    · exact .activationFailed
    · exact .reactivationFailed supports
  | ok names =>
    have marking : (names.forM markChanged : Procedure PUnit).Within fun request => ¬ may request :=
      Program.Within.forM fun name _ => ⟨fallible _, fun _ => trivial⟩
    dsimp only
    rw [wp_bind]
    refine wp_withFaults_of_within marking (wp_markChanged names
      (fun _ _ _ _ same₂ => lawful_of_same same₂) fun w₂ _ same₂ => ?_)
    refine committing w₂ rfl (same₂.trans same) ?_
    rcases waiting with rfl | ⟨supports, rfl⟩
    · exact .activated
    · exact .reactivated supports (inMode names rfl supports)

/-- Only the sessions that a boot takes up change, each once. -/
theorem lawful_scanStagedSessionsDirAndStage :
    wp (device.withFaults may) (Lawful (.scanStagedSessionsDirAndStage env))
      (scanStagedSessionsDirAndStage env) (fun _ _ => True) w := by
  have activating (sessions : List ApexSession)
      (distinct : (sessions.map ApexSession.sessionDir).Nodup)
      (waiting : ∀ session ∈ sessions, ∃ state,
        persisted (w.sessions.lookup session.sessionDir) = some state ∧
          (state = .STAGED ∨ (env.supportsFsCheckpoints = true ∧ state = .ACTIVATED))) :
      wp (device.withFaults may) (Lawful (.scanStagedSessionsDirAndStage env))
        (sessions.forM (activateSession env)) (fun _ _ => True) w := by
    refine wp_forSessions (fun _ file => ∃ state, persisted file = some state ∧
        (state = .STAGED ∨ (env.supportsFsCheckpoints = true ∧ state = .ACTIVATED)))
      (fun _ _ => True) (fun _ => True) distinct waiting trivial ?_ fun _ _ _ _ => trivial
    rintro session - w₁ - ⟨state, stored, holds⟩
    refine wp_mono (lawful_activateSession fallible stored holds) ?_
    rintro result w₂ ⟨isOk, others⟩
    exact ⟨isOk, trivial, trivial, others⟩
  have stagedState {staged : List ApexSession} {state : SessionState.State} {session : ApexSession}
      (stored : ∀ session ∈ staged,
        w.sessions.lookup session.sessionDir = some (.state session.state) ∧
          session.state.state = state) (member : session ∈ staged) :
      persisted (w.sessions.lookup session.sessionDir) = some state := by
    rw [(stored session member).1, ← (stored session member).2]
    rfl
  rw [scanStagedSessionsDirAndStage, wp_bind, sessionsToActivate, wp_bind]
  refine wp_listedSessionsInState fun staged distinct stored => ?_
  dsimp only
  split
  · rename_i supports
    rw [wp_bind]
    refine wp_listedSessionsInState fun activated distinct' stored' => ?_
    refine activating (staged ++ activated) ?_ ?_
    · rw [List.map_append]
      refine distinct.append distinct' fun dir isStaged isActivated => ?_
      obtain ⟨first, member, rfl⟩ := List.mem_map.mp isStaged
      obtain ⟨second, member', same⟩ := List.mem_map.mp isActivated
      have impossible := stagedState stored' member'
      rw [same, stagedState stored member] at impossible
      cases impossible
    · intro session member
      rcases List.mem_append.mp member with isStaged | isActivated
      · exact ⟨_, stagedState stored isStaged, .inl rfl⟩
      · exact ⟨_, stagedState stored' isActivated, .inr ⟨supports, rfl⟩⟩
  · exact activating staged distinct fun session member => ⟨_, stagedState stored member, .inl rfl⟩

end EntryPoints

/-! ## Runs -/

/-- The entry points, called in any order; a reboot leaves the sessions as they are on disk. -/
def lifecycle (may : Call → Prop) : System apexd String World EntryPoint where
  semantics := device.withFaults may
  program := EntryPoint.program
  callable entry w := match entry with
    | .submitStagedSession _ sessionId _ _ _ _ => w.sessions.lookup (toString sessionId) = none
    | _ => True
  reboot w w' := w'.sessions = w.sessions

/-- What one step of the device does to the sessions. -/
structure LawfulStep (config config' : Config apexd String World EntryPoint) : Prop where
  lawful : ∀ dir, config'.state.sessions.lookup dir = config.state.sessions.lookup dir ∨
    ∃ entry p, config.running = some (entry, p) ∧
      SessionChange entry (config.state.sessions.lookup dir) (config'.state.sessions.lookup dir)
  finalized : ∀ dir state, config.state.sessions.stateOf dir = some state →
    state.state.isFinalized = true →
      config'.state.sessions.stateOf dir = some state ∨ config'.state.sessions.lookup dir = none

theorem lawful_program {may : Call → Prop} (fallible : ∀ request, may request → Fallible request)
    (entry : EntryPoint) {w : World} (callable : (lifecycle may).callable entry w) :
    wp (device.withFaults may) (Lawful entry) entry.program (fun _ _ => True) w := by
  cases entry with
  | submitStagedSession =>
    rw [EntryPoint.program, wp_bind]
    refine wp_mono (lawful_submitStagedSession fallible callable) fun result _ _ => ?_
    cases result <;> trivial
  | markStagedSessionReady => exact lawful_markStagedSessionReady fallible
  | abortStagedSession => exact lawful_abortStagedSession
  | scanStagedSessionsDirAndStage => exact lawful_scanStagedSessionsDirAndStage fallible
  | markStagedSessionSuccessful => exact lawful_markStagedSessionSuccessful fallible
  | revertActiveSessions =>
    exact wp_mono (wp_revertActiveSessions fallible rfl) fun _ _ _ => trivial
  | resumeRevertIfNeeded => exact lawful_resumeRevertIfNeeded fallible
  | bootCompletedCleanup => exact lawful_bootCompletedCleanup

/-- Every step of every run changes sessions lawfully, and every revert that completes brings all
active sessions to the same final state. -/
theorem sessions_change_lawfully {may : Call → Prop}
    (fallible : ∀ request, may request → Fallible request) :
    (∀ w config config', ReflTransGen (lifecycle may).Step (.idle w) config →
      (lifecycle may).Step config config' → LawfulStep config config') ∧
    ∀ env native message w result w',
      Runs (lifecycle may).semantics (revertActiveSessions env native message) w result w' →
        RevertOutcome may w result w' := by
  refine ⟨fun w config config' run step => ?_, fun env native message w result w' run => ?_⟩
  · have lawful (dir : String) :
        config'.state.sessions.lookup dir = config.state.sessions.lookup dir ∨
          ∃ entry p, config.running = some (entry, p) ∧ SessionChange entry
            (config.state.sessions.lookup dir) (config'.state.sessions.lookup dir) := by
      rcases System.guarantee_of_run (G := Lawful)
        (fun entry _ callable => lawful_program fallible entry callable) run step with
        ⟨entry, p, running, _, changes⟩ | rebooted | same
      · exact .inr ⟨entry, p, running, changes dir⟩
      · exact .inl (congrArg (Finmap.lookup dir) rebooted)
      · exact .inl (by rw [same])
    refine ⟨lawful, fun dir state stored finalized => ?_⟩
    have found := stateOf_eq_some.mp stored
    rcases lawful dir with same | ⟨entry, p, _, change⟩
    · exact .inl (stateOf_eq_some.mpr (same.trans found))
    · rw [found] at change
      exact (change.finalized finalized).imp_left stateOf_eq_some.mpr
  · have holds : wp (device.withFaults may) (Lawful (.revertActiveSessions env native message))
        (revertActiveSessions env native message) (RevertOutcome may w) w :=
      wp_revertActiveSessions fallible rfl
    exact wp_runs holds run


/-- Session 1 is activated and session 2 was successful. -/
def activatedAndSuccessful : World :=
  { World.ofDirectories [(.active, [])] with
    sessions := storeOf [{ SessionState.initial 1 with state := .ACTIVATED },
      { SessionState.initial 2 with state := .SUCCESS }] }

theorem faultless_sound : deviceHandler.Sound (device.withFaults Fallible) :=
  deviceHandler_sound.withFaults

theorem sessions_change_lawfully_revert :
    ∃ result w', RevertOutcome Fallible activatedAndSuccessful result w' ∧
      persisted (w'.sessions.lookup "1") = some .REVERT_FAILED := by
  have lawful := @sessions_change_lawfully Fallible fun _ isFallible => isFallible
  obtain ⟨result, w', run, check⟩ := exists_runs faultless_sound
    (revertActiveSessions (.plain .create) "" "") activatedAndSuccessful
    (fun _ w' => persisted (w'.sessions.lookup "1") = some .REVERT_FAILED) (by decide +kernel)
  exact ⟨result, w', lawful.2 _ _ _ _ _ _ run, of_decide_eq_true check⟩

/-- A device that supports checkpoints and does not boot in checkpoint mode. -/
def outsideCheckpointMode : Environment :=
  { Environment.plain .create with supportsFsCheckpoints := true }

/-- An activated session fails at a boot outside of checkpoint mode. -/
theorem activated_fails_outside_checkpointMode :
    ∃ config config' p, ReflTransGen (lifecycle Fallible).Step (.idle activatedAndSuccessful) config ∧
      (lifecycle Fallible).Step config config' ∧
      config.running = some (.scanStagedSessionsDirAndStage outsideCheckpointMode, p) ∧
      outsideCheckpointMode.inFsCheckpointMode = false ∧
      persisted (config.state.sessions.lookup "1") = some .ACTIVATED ∧
      persisted (config'.state.sessions.lookup "1") = some .ACTIVATION_FAILED := by
  obtain ⟨p, w, p', w', steps, step, check⟩ := exists_step faultless_sound 2
    (scanStagedSessionsDirAndStage outsideCheckpointMode) activatedAndSuccessful
    (fun w w' => persisted (w.sessions.lookup "1") = some .ACTIVATED &&
      persisted (w'.sessions.lookup "1") = some .ACTIVATION_FAILED) (by decide +kernel)
  simp only [Bool.and_eq_true, decide_eq_true_eq] at check
  have start : (lifecycle Fallible).Step (.idle activatedAndSuccessful)
      ⟨activatedAndSuccessful, some (.scanStagedSessionsDirAndStage outsideCheckpointMode,
        scanStagedSessionsDirAndStage outsideCheckpointMode)⟩ :=
    .start (EntryPoint.scanStagedSessionsDirAndStage outsideCheckpointMode) trivial
  exact ⟨_, _, p, .head start (System.run_of_steps steps), .call step, rfl, rfl, check.1, check.2⟩

end Apexd
