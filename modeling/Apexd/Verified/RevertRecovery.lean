import Apexd.Verified.Restore
import Apexd.Verified.SessionLifecycle

/-! # Recovery of an interrupted revert

A revert marks the active sessions, empties the active directory, renames the backup over it and
marks the sessions as reverted.  A boot after a crash starts over when a session is still marked,
which works as long as the backup has not been renamed.
-/

namespace Apexd

open Process Storage

open Relation (ReflTransGen)

variable {env : Environment} {w₀ w w' : World} {dir : String}

/-- The state of the session in a directory. -/
abbrev World.stateIn (w : World) (dir : String) : Option SessionState.State :=
  persisted (w.sessions.lookup dir)

/-- A session that a revert takes up. -/
def World.HasActive (w : World) (dir : String) : Prop :=
  ∃ state, w.stateIn dir = some state ∧ state.isActive = true

/-- The active sessions of `w₀` are in a state that satisfies `now`, the others as they were. -/
def Sessions (w₀ : World) (now : Option SessionState.State → Option SessionState.State → Prop)
    (w : World) : Prop :=
  ∀ dir, (w₀.HasActive dir → now (w₀.stateIn dir) (w.stateIn dir)) ∧
    (¬ w₀.HasActive dir → w.stateIn dir = w₀.stateIn dir)

/-- A revert that began in `w₀` and has not renamed the backup. -/
structure Ongoing (w₀ w : World) : Prop where
  sessions : Sessions w₀ (fun before now => now = before ∨ now = some .REVERT_IN_PROGRESS) w
  active : w.fs.has .active = true
  backup : w.fs.dir .backup = w₀.fs.dir .backup
  begun : w.fs.dir .active = w₀.fs.dir .active ∨ ∀ dir, w₀.HasActive dir → w.stateIn dir = some .REVERT_IN_PROGRESS

/-- A revert that began in `w₀` and has renamed the backup. -/
structure Renamed (w₀ : World) (now : Option SessionState.State → Prop) (w : World) : Prop where
  sessions : Sessions w₀ (fun _ => now) w
  active : w.fs.has .active = true
  files : w.fs.files .active = w₀.fs.files .backup
  backup : w.fs.dir .backup = none

def InProgressOrReverted (now : Option SessionState.State) : Prop :=
  now = some .REVERT_IN_PROGRESS ∨ now = some .REVERTED

/-- The states that a revert that began in `w₀` goes through. -/
def Reverting (w₀ w : World) : Prop :=
  Ongoing w₀ w ∨ Renamed w₀ InProgressOrReverted w

/-- The end of a revert. -/
abbrev RevertDone (w₀ : World) : World → Prop :=
  Renamed w₀ (· = some .REVERTED)

/-- Calls of a revert lead to states that it goes through. -/
abbrev StaysReverting (w₀ : World) : Guarantee apexd World := fun _ w₁ w₂ =>
  Reverting w₀ w₁ → Reverting w₀ w₂

theorem quiet_staysReverting (w₀ : World) : Quiet (StaysReverting w₀) :=
  fun _ _ => id

theorem Sessions.hasActive {now : Option SessionState.State → Option SessionState.State → Prop}
    (sessions : Sessions w₀ now w) (active : w.HasActive dir) : w₀.HasActive dir := by
  by_contra inactive
  obtain ⟨state, stored, isActive⟩ := active
  exact inactive ⟨state, ((sessions dir).2 inactive) ▸ stored, isActive⟩

/-- Before the rename the same sessions are active as at the beginning. -/
theorem Ongoing.hasActive_iff (ongoing : Ongoing w₀ w) : w.HasActive dir ↔ w₀.HasActive dir := by
  refine ⟨ongoing.sessions.hasActive, fun active => ?_⟩
  rcases (ongoing.sessions dir).1 active with same | marked
  · obtain ⟨state, stored, isActive⟩ := active
    exact ⟨state, same.trans stored, isActive⟩
  · exact ⟨_, marked, rfl⟩

theorem stateIn_commit_self (w : World) (session : ApexSession) (state : SessionState.State) :
    (w.commit (session.withState state)).stateIn session.sessionDir = some state := by
  rw [World.stateIn, show session.sessionDir = (session.withState state).sessionDir from rfl,
    lookup_commit_self]
  rfl

theorem stateIn_commit_ne (w : World) (session : ApexSession) (state : SessionState.State)
    (ne : dir ≠ session.sessionDir) :
    (w.commit (session.withState state)).stateIn dir = w.stateIn dir :=
  congrArg persisted (lookup_commit_ne w (session.withState state) ne)

/-- The commit of an active session to a state that it may be in. -/
theorem Sessions.commit {now : Option SessionState.State → Option SessionState.State → Prop}
    (sessions : Sessions w₀ now w) {session : ApexSession} {state : SessionState.State}
    (active : w₀.HasActive session.sessionDir) (allowed : now (w₀.stateIn session.sessionDir) (some state)) :
    Sessions w₀ now (w.commit (session.withState state)) := by
  intro dir
  by_cases same : dir = session.sessionDir
  · subst same
    rw [stateIn_commit_self]
    exact ⟨fun _ => allowed, fun inactive => absurd active inactive⟩
  · rw [stateIn_commit_ne w session state same]
    exact sessions dir

theorem Ongoing.mark (ongoing : Ongoing w₀ w) {session : ApexSession}
    (active : w₀.HasActive session.sessionDir) :
    Ongoing w₀ (w.commit (session.withState .REVERT_IN_PROGRESS)) where
  sessions := ongoing.sessions.commit active (.inr rfl)
  active := ongoing.active
  backup := ongoing.backup
  begun := by
    refine ongoing.begun.imp id fun marked dir isActive => ?_
    by_cases same : dir = session.sessionDir
    · rw [same, stateIn_commit_self]
    · rw [stateIn_commit_ne w session _ same, marked dir isActive]

theorem Renamed.commit {now : Option SessionState.State → Prop} (renamed : Renamed w₀ now w)
    {session : ApexSession} {state : SessionState.State}
    (active : w₀.HasActive session.sessionDir) (allowed : now (some state)) :
    Renamed w₀ now (w.commit (session.withState state)) where
  sessions := renamed.sessions.commit active allowed
  active := renamed.active
  files := renamed.files
  backup := renamed.backup

theorem exists_file_of_stateIn {state : SessionState.State} (stored : w.stateIn dir = some state) :
    ∃ file, w.sessions.lookup dir = some file := by
  cases found : w.sessions.lookup dir with
  | none => simp [World.stateIn, found, persisted] at stored
  | some file => exact ⟨file, rfl⟩

section Run

variable {sessions : List ApexSession} {Q : Except String Unit → World → Prop}

/-- Marking the active sessions. -/
theorem wp_markAll (activeIn : ActiveIn w sessions) (ongoing : Ongoing w₀ w)
    (post : ∀ w', Ongoing w₀ w' → w'.fs = w.fs →
      (∀ dir, w₀.HasActive dir → w'.stateIn dir = some .REVERT_IN_PROGRESS) → Q (.ok ()) w') :
    wp device (StaysReverting w₀) (sessions.forM markRevertInProgress) Q w := by
  have active {session : ApexSession} (member : session ∈ sessions) :
      w₀.HasActive session.sessionDir :=
    ongoing.hasActive_iff.mp ((activeIn.all _).mp (List.mem_map_of_mem member))
  refine wp_forSessions (fun _ file => ∃ file', file = some file')
    (fun _ file => persisted file = some .REVERT_IN_PROGRESS)
    (fun w₁ => Ongoing w₀ w₁ ∧ w₁.fs = w.fs) activeIn.distinct ?_ ⟨ongoing, rfl⟩ ?_ ?_
  · intro session member
    obtain ⟨state, stored, _⟩ := (activeIn.all _).mp (List.mem_map_of_mem member)
    exact exists_file_of_stateIn stored
  · rintro session member w₁ ⟨ongoing₁, fs⟩ ⟨file, found⟩
    have marked := ongoing₁.mark (active member)
    rw [markRevertInProgress, wp_mapError]
    refine wp_updateStateAndCommit found (fun _ => .inl marked) ⟨rfl, ⟨marked, fs⟩, ?_, ?_⟩
    · exact stateIn_commit_self w₁ session _
    · exact fun dir ne => lookup_commit_ne w₁ _ ne
  · rintro w' ⟨ongoing', fs⟩ marked others
    refine post w' ongoing' fs fun dir isActive => ?_
    obtain ⟨session, member, rfl⟩ := List.mem_map.mp
      ((activeIn.all dir).mpr (ongoing.hasActive_iff.mpr isActive))
    exact marked session member

end Run

section Snapshots

variable (same : SameOutside OfSnapshots w w')
include same

theorem SameOutside.stateIn (dir : String) : w'.stateIn dir = w.stateIn dir := by
  rw [World.stateIn, World.stateIn, same.sessions]

theorem SameOutside.renamed {now : Option SessionState.State → Prop}
    (renamed : Renamed w₀ now w) : Renamed w₀ now w' where
  sessions dir := by
    rw [same.stateIn]
    exact renamed.sessions dir
  active := by
    rw [FileSystem.has, same.dir .active id, ← FileSystem.has, renamed.active]
  files := by rw [FileSystem.files_of_dir_eq (same.dir .active id), renamed.files]
  backup := by rw [same.dir .backup id, renamed.backup]

/-- What is done to snapshots is no step of the revert. -/
theorem SameOutside.reverting (reverting : Reverting w₀ w) : Reverting w₀ w' := by
  refine reverting.imp (fun ongoing => ?_) same.renamed
  refine ⟨fun dir => ?_, ?_, ?_, ?_⟩
  · rw [same.stateIn]
    exact ongoing.sessions dir
  · rw [FileSystem.has, same.dir .active id, ← FileSystem.has, ongoing.active]
  · rw [same.dir .backup id, ongoing.backup]
  · simpa only [same.dir .active id, same.stateIn] using ongoing.begun

end Snapshots

section Run

variable {sessions : List ApexSession} {Q : Except String Unit → World → Prop}

/-- Marking the sessions as reverted. -/
theorem wp_markAllReverted (distinct : (sessions.map ApexSession.sessionDir).Nodup)
    (listed : ∀ dir, dir ∈ sessions.map ApexSession.sessionDir ↔ w₀.HasActive dir)
    (renamed : Renamed w₀ InProgressOrReverted w)
    (post : ∀ w', RevertDone w₀ w' → Q (.ok ()) w') :
    wp device (StaysReverting w₀) (sessions.forM (markReverted env)) Q w := by
  have active {session : ApexSession} (member : session ∈ sessions) :
      w₀.HasActive session.sessionDir := (listed _).mp (List.mem_map_of_mem member)
  have committing (session : ApexSession) (member : session ∈ sessions) (w₁ : World)
      (renamed₁ : Renamed w₀ InProgressOrReverted w₁) :
      wp device (StaysReverting w₀) (session.updateStateAndCommit .REVERTED).ignore
        (fun result w₂ => result = .ok () ∧ Renamed w₀ InProgressOrReverted w₂ ∧
          persisted (w₂.sessions.lookup session.sessionDir) = some .REVERTED ∧
          ∀ dir, dir ≠ session.sessionDir → w₂.sessions.lookup dir = w₁.sessions.lookup dir) w₁ := by
    obtain ⟨state, stored⟩ : ∃ state, w₁.stateIn session.sessionDir = some state := by
      rcases (renamed₁.sessions _).1 (active member) with stored | stored <;> exact ⟨_, stored⟩
    obtain ⟨file, found⟩ := exists_file_of_stateIn stored
    have reverted := renamed₁.commit (active member) (.inr rfl : InProgressOrReverted (some .REVERTED))
    rw [wp_ignore]
    refine wp_updateStateAndCommit found (fun _ => .inr reverted) ⟨rfl, reverted, ?_, ?_⟩
    · exact stateIn_commit_self w₁ session _
    · exact fun dir ne => lookup_commit_ne w₁ _ ne
  refine wp_forSessions (fun _ _ => True)
    (fun _ file => persisted file = some .REVERTED)
    (fun w₁ => Renamed w₀ InProgressOrReverted w₁) distinct (fun _ _ => trivial) renamed ?_ ?_
  · intro session member w₁ renamed₁ _
    rw [markReverted]
    dsimp only
    split
    · have ends : ∀ request, request = Call.fatal → ∀ w reply w', ¬ device request w reply w' := by
        rintro _ rfl _ _ _ answer
        exact answer
      have restoring := wp_sameOutside (w := w₁) (G := StaysReverting w₀)
        (frames_restoreDePreRestoreSnapshotsIfPresent (fun _ => id) session)
        fun _ _ _ same reverting => same.reverting reverting
      rw [wp_bind]
      refine wp_mono (wp_succeeds ends (succeeds_restoreDePreRestoreSnapshotsIfPresent session)
        restoring) ?_
      rintro _ w₂ ⟨same, _, rfl⟩
      refine wp_mono (committing session member w₂ (same.renamed renamed₁)) ?_
      rintro result w₃ ⟨isOk, renamed₃, reverted, others⟩
      exact ⟨isOk, renamed₃, reverted, fun dir ne => by rw [others dir ne, same.sessions]⟩
    · exact committing session member w₁ renamed₁
  · intro w' renamed' reverted _
    refine post w' ⟨fun dir => ⟨fun isActive => ?_, (renamed'.sessions dir).2⟩, renamed'.active,
      renamed'.files, renamed'.backup⟩
    obtain ⟨session, member, rfl⟩ := List.mem_map.mp ((listed dir).mpr isActive)
    exact reverted session member

theorem World.Restored.stateIn (restored : w.Restored w') (dir : String) :
    w'.stateIn dir = w.stateIn dir := by
  rw [restored.rest]
  rfl

/-- A revert that is taken up before the rename goes through to its end. -/
theorem wp_revertActiveSessions_ongoing {native message : String}
    (noCheckpoints : env.supportsFsCheckpoints = false) (backup : w₀.fs.has .backup = true)
    (some' : ∃ dir, w₀.HasActive dir) (ongoing : Ongoing w₀ w) :
    wp device (StaysReverting w₀) (revertActiveSessions env native message)
      (fun result w' => result = .ok () ∧ RevertDone w₀ w') w := by
  rw [revertActiveSessions, wp_bind]
  refine wp_getSessions (quiet_staysReverting w₀) fun listing isListing => ?_
  have activeIn := activeIn_of_isListing isListing native message
  dsimp only
  generalize ((w.sessions.sessionsIn listing).filter isActive).map (withFailure native message) =
    sessions at activeIn
  have listed (dir : String) : dir ∈ sessions.map ApexSession.sessionDir ↔ w₀.HasActive dir :=
    (activeIn.all dir).trans ongoing.hasActive_iff
  split
  · rename_i none
    obtain ⟨dir, active⟩ := some'
    have member := (listed dir).mpr active
    rw [none] at member
    cases member
  · rw [wp_bind]
    refine wp_markAll activeIn ongoing fun w₁ ongoing₁ fs marked => ?_
    have hasBackup : w₁.fs.has .backup = true := by
      rw [FileSystem.has, ongoing₁.backup, ← FileSystem.has, backup]
    have emptying (w₂ : World) (within : w₁.Within .active w₂) : Reverting w₀ w₂ := by
      have same (dir : String) : w₂.stateIn dir = w₁.stateIn dir := by
        rw [World.stateIn, World.stateIn, within.1.sessions]
      refine .inl ⟨fun dir => ?_, within.2, ?_, .inr fun dir active => ?_⟩
      · rw [same]
        exact ongoing₁.sessions dir
      · rw [within.1.dir (by simp), ongoing₁.backup]
      · rw [same, marked dir active]
    have renamed (w₂ : World) (restored : w₁.Restored w₂) : Renamed w₀ InProgressOrReverted w₂ := by
      refine ⟨fun dir => ⟨fun active => ?_, fun inactive => ?_⟩, restored.has, ?_, restored.backup⟩
      · rw [restored.stateIn]
        exact .inl (marked dir active)
      · rw [restored.stateIn, (ongoing₁.sessions dir).2 inactive]
      · rw [restored.files, FileSystem.files_of_dir_eq ongoing₁.backup]
    simp only [noCheckpoints, Bool.not_false, if_true]
    rw [wp_bind, wp_attempt]
    refine wp_restoreActivePackages (G := StaysReverting w₀) hasBackup ongoing₁.active
      (fun _ _ w₃ _ within _ => emptying w₃ within)
      (fun _ _ w₃ _ restored _ => .inr (renamed w₃ restored))
      (fun _ _ w₃ _ restored _ => .inr (renamed w₃ restored)) fun w₂ restored => ?_
    exact wp_markAllReverted activeIn.distinct listed (renamed w₂ restored) fun w' done => ⟨rfl, done⟩

end Run

/-! ## Boots after a crash -/

/-- A session is still marked, so that the next boot resumes the revert. -/
def World.Marked (w : World) : Prop :=
  ∃ dir, w.stateIn dir = some .REVERT_IN_PROGRESS

theorem Ongoing.refl (active : w.fs.has .active = true) : Ongoing w w where
  sessions _ := ⟨fun _ => .inl rfl, fun _ => rfl⟩
  active := active
  backup := rfl
  begun := .inl rfl

theorem reverting_of_steps {w₁ w₂ : World} (steps : ReflTransGen (StaysReverting w₀).Change w₁ w₂)
    (start : Reverting w₀ w₁) : Reverting w₀ w₂ := by
  induction steps with
  | refl => exact start
  | tail _ step ih =>
    obtain ⟨request, stays⟩ := step
    exact stays ih

theorem hasActive_of_marked (marked : w.stateIn dir = some .REVERT_IN_PROGRESS) : w.HasActive dir :=
  ⟨_, marked, rfl⟩

/-- Where a session is marked, it is one that the revert took up. -/
theorem Reverting.hasActive (reverting : Reverting w₀ w) (active : w.HasActive dir) :
    w₀.HasActive dir := by
  rcases reverting with ongoing | renamed
  · exact ongoing.sessions.hasActive active
  · exact renamed.sessions.hasActive active

theorem Reverting.ongoing (reverting : Reverting w₀ w) (backup : w.fs.has .backup = true) :
    Ongoing w₀ w := by
  rcases reverting with ongoing | renamed
  · exact ongoing
  · rw [FileSystem.has, renamed.backup] at backup
    cases backup

theorem Reverting.done (reverting : Reverting w₀ w) (backup : w₀.fs.has .backup = true)
    (absent : w.fs.has .backup = false) (unmarked : ¬ w.Marked) : RevertDone w₀ w := by
  rcases reverting with ongoing | renamed
  · rw [FileSystem.has, ongoing.backup, ← FileSystem.has, backup] at absent
    cases absent
  · refine ⟨fun dir => ⟨fun active => ?_, (renamed.sessions dir).2⟩, renamed.active, renamed.files,
      renamed.backup⟩
    exact ((renamed.sessions dir).1 active).resolve_left fun marked => unmarked ⟨dir, marked⟩

theorem mem_inProgress {listing : List String} (isListing : Directory.IsListing w.sessions listing) :
    sessionsInState w.sessions listing .REVERT_IN_PROGRESS ≠ [] ↔ w.Marked := by
  constructor
  · intro nonempty
    obtain ⟨session, member⟩ := List.exists_mem_of_ne_nil _ nonempty
    obtain ⟨stored, inProgress⟩ := (mem_sessionsInState isListing).mp member
    refine ⟨session.sessionDir, ?_⟩
    rw [World.stateIn, stateOf_eq_some.mp stored, persisted, inProgress]
  · rintro ⟨dir, marked⟩
    obtain ⟨file, found⟩ := exists_file_of_stateIn marked
    rw [World.stateIn, found] at marked
    cases file with
    | missing | corrupt => cases marked
    | state state =>
      simp only [persisted, Option.some.injEq] at marked
      exact List.ne_nil_of_mem (a := ⟨state, dir⟩) ((mem_sessionsInState isListing).mpr
        ⟨stateOf_eq_some.mpr found, marked⟩)

/-- A resume where no session is marked does nothing. -/
theorem wp_resume_unmarked (unmarked : ¬ w.Marked) :
    wp device (fun _ w₁ w₂ => w₁ = w → w₂ = w) (resumeRevertIfNeeded env) (fun _ w' => w' = w) w := by
  rw [resumeRevertIfNeeded, wp_bind]
  refine wp_getSessionsInState (fun _ _ => id) fun listing isListing => ?_
  have none : sessionsInState w.sessions listing .REVERT_IN_PROGRESS = [] :=
    not_not.mp (mt (mem_inProgress isListing).mp unmarked)
  dsimp only
  rw [none, if_pos rfl]
  exact rfl

/-- A resume before the rename goes through to the end of the revert. -/
theorem wp_resume_ongoing (noCheckpoints : env.supportsFsCheckpoints = false)
    (backup : w₀.fs.has .backup = true) (ongoing : Ongoing w₀ w) (marked : w.Marked) :
    wp device (StaysReverting w₀) (resumeRevertIfNeeded env) (fun _ w' => RevertDone w₀ w') w := by
  rw [resumeRevertIfNeeded, wp_bind]
  refine wp_getSessionsInState (quiet_staysReverting w₀) fun listing isListing => ?_
  dsimp only
  rw [if_neg ((mem_inProgress isListing).mpr marked)]
  obtain ⟨dir, inProgress⟩ := marked
  have some' : ∃ dir, w₀.HasActive dir :=
    ⟨dir, ongoing.hasActive_iff.mp (hasActive_of_marked inProgress)⟩
  exact wp_mono (wp_revertActiveSessions_ongoing noCheckpoints backup some' ongoing) fun _ _ => And.right

/-- The backup is gone and the session was not marked as reverted before. -/
def Stuck (dir : String) (w : World) : Prop :=
  w.fs.has .backup = false ∧
    (w.stateIn dir = some .REVERT_IN_PROGRESS ∨ w.stateIn dir = some .REVERT_FAILED)

abbrev StaysStuck (dir : String) : Guarantee apexd World := fun _ w₁ w₂ =>
  Stuck dir w₁ → Stuck dir w₂

theorem wp_commit_stuck {session : ApexSession} {state : SessionState.State}
    (allowed : state = .REVERT_IN_PROGRESS ∨ state = .REVERT_FAILED) (stuck : Stuck dir w) :
    wp device (StaysStuck dir) (session.updateStateAndCommit state) (fun _ w' => Stuck dir w') w := by
  have committed : Stuck dir (w.commit (session.withState state)) := by
    refine ⟨stuck.1, ?_⟩
    by_cases same : dir = session.sessionDir
    · rw [same, stateIn_commit_self]
      exact allowed.imp (congrArg some) (congrArg some)
    · rw [stateIn_commit_ne w session state same]
      exact stuck.2
  cases found : w.sessions.lookup session.sessionDir with
  | some file => exact wp_updateStateAndCommit found (fun _ => committed) committed
  | none =>
    have effect : (SessionCall.commit session.sessionDir (session.withState state).state).effect
        w.sessions = (.error FsCall.noSuchFile, w.sessions) := by
      simp [SessionCall.effect, found]
    rw [ApexSession.updateStateAndCommit, wp_mapError]
    exact wp_sessionCall (by simp) effect id stuck

/-- A resume after the rename never marks such a session as reverted. -/
theorem wp_resume_stuck (noCheckpoints : env.supportsFsCheckpoints = false) (stuck : Stuck dir w) :
    wp device (StaysStuck dir) (resumeRevertIfNeeded env) (fun _ w' => Stuck dir w') w := by
  rw [resumeRevertIfNeeded, wp_bind]
  refine wp_getSessionsInState (fun _ _ => id) fun listing isListing => ?_
  dsimp only
  split
  · exact stuck
  · rw [revertActiveSessions, wp_bind]
    refine wp_getSessions (fun _ _ => id) fun listing _ => ?_
    dsimp only
    split
    · exact stuck
    · rw [wp_bind]
      refine wp_forM (fun _ w₁ => Stuck dir w₁) stuck ?_ ?_
      · intro _ session _ w₁ _ stuck₁
        rw [markRevertInProgress, wp_mapError]
        refine wp_mono (wp_commit_stuck (.inl rfl) stuck₁) fun result _ stuck₂ => ?_
        cases result <;> exact stuck₂
      · intro w₁ stuck₁
        simp only [noCheckpoints, Bool.not_false, if_true]
        rw [wp_bind, wp_attempt]
        refine wp_restoreActivePackages_absent (fun _ _ => id) stuck₁.1 fun e => ?_
        dsimp only
        rw [wp_bind]
        refine wp_forM (fun _ w₂ => Stuck dir w₂) stuck₁ ?_ fun _ stuck₂ => stuck₂
        intro _ session _ w₂ _ stuck₂
        rw [wp_ignore]
        exact wp_commit_stuck (.inr rfl) stuck₂

/-- The boots after a crash that left `w`: `crashes` is what later crashes left, and `w'` what
there is after the first boot that completes. -/
inductive Recovers (env : Environment) : World → List World → World → Prop
  | completes {w w' : World} {result : Except String Unit}
      (run : Runs device (resumeRevertIfNeeded env) w result w') : Recovers env w [] w'
  | crash {w w₁ w' : World} {crashes : List World}
      (reaches : Reaches device (resumeRevertIfNeeded env) w w₁)
      (rest : Recovers env w₁ crashes w') : Recovers env w (w₁ :: crashes) w'

/-- A crash that leaves the backup exactly when it leaves a session to take up again. -/
def World.Resumable (w : World) : Prop :=
  w.Marked ↔ w.fs.has .backup = true

/-- What a recovered revert promises: the content of the backup, and that every session left
marked by a crash is marked as reverted.  Of the other sessions it says nothing: a revert that is
interrupted before it has marked the first one is not resumed and reverts none. -/
def RevertRecovered (w₀ : World) (crashes : List World) (w' : World) : Prop :=
  w'.fs.files .active = w₀.fs.files .backup ∧
    ∀ w ∈ crashes, ∀ dir, w.stateIn dir = some .REVERT_IN_PROGRESS → w'.stateIn dir = some .REVERTED

theorem Recovers.unmarked {crashes : List World} (recovers : Recovers env w crashes w')
    (unmarked : ¬ w.Marked) : w' = w ∧ ∀ crashed ∈ crashes, crashed = w := by
  induction recovers with
  | completes run => exact ⟨wp_runs (wp_resume_unmarked unmarked) run, by simp⟩
  | @crash w w₁ w' crashes reaches rest ih =>
    have same : w₁ = w := by
      have steps := wp_reaches (wp_resume_unmarked unmarked) reaches
      clear ih rest reaches
      induction steps with
      | refl => rfl
      | tail _ step ih =>
        obtain ⟨_, stays⟩ := step
        exact stays ih
    subst same
    obtain ⟨kept, all⟩ := ih unmarked
    exact ⟨kept, List.forall_mem_cons.mpr ⟨rfl, all⟩⟩

theorem stuck_of_steps {w₁ w₂ : World} (steps : ReflTransGen (StaysStuck dir).Change w₁ w₂)
    (start : Stuck dir w₁) : Stuck dir w₂ := by
  induction steps with
  | refl => exact start
  | tail _ step ih =>
    obtain ⟨_, stays⟩ := step
    exact stays ih

theorem Recovers.stuck (noCheckpoints : env.supportsFsCheckpoints = false) {crashes : List World}
    (recovers : Recovers env w crashes w') (stuck : Stuck dir w) : Stuck dir w' := by
  induction recovers with
  | completes run => exact wp_runs (wp_resume_stuck noCheckpoints stuck) run
  | crash reaches rest ih =>
    exact ih (stuck_of_steps (wp_reaches (wp_resume_stuck noCheckpoints stuck) reaches) stuck)

theorem Stuck.not_reverted (stuck : Stuck dir w) : w.stateIn dir ≠ some .REVERTED := by
  rcases stuck.2 with marked | failed
  · rw [marked]
    exact nofun
  · rw [failed]
    exact nofun

/-- A crash between the rename of the backup and the last commit. -/
theorem Recovers.not_recovered (noCheckpoints : env.supportsFsCheckpoints = false)
    {crashes : List World} (recovers : Recovers env w crashes w') (marked : w.Marked)
    (absent : w.fs.has .backup = false) (before : List World) : ¬ RevertRecovered w₀ (before ++ w :: crashes) w' := by
  rintro ⟨_, reverted⟩
  obtain ⟨dir, inProgress⟩ := marked
  exact (recovers.stuck noCheckpoints ⟨absent, .inl inProgress⟩).not_reverted
    (reverted w (by simp) dir inProgress)

/-- What a resume that is interrupted once leaves. -/
theorem Reverting.of_resume (noCheckpoints : env.supportsFsCheckpoints = false)
    (backup : w₀.fs.has .backup = true) (ongoing : Ongoing w₀ w) (marked : w.Marked) {w₁ : World}
    (reaches : Reaches device (resumeRevertIfNeeded env) w w₁) : Reverting w₀ w₁ :=
  reverting_of_steps (wp_reaches (wp_resume_ongoing noCheckpoints backup ongoing marked) reaches)
    (.inl ongoing)

/-- A session marked before a resume is still marked where the resume has not come to the rename. -/
theorem marked_of_resume (noCheckpoints : env.supportsFsCheckpoints = false)
    (active : w.fs.has .active = true) (backup : w.fs.has .backup = true) (marked : w.Marked)
    {w₁ : World} (reaches : Reaches device (resumeRevertIfNeeded env) w w₁)
    (backup₁ : w₁.fs.has .backup = true) : w₁.Marked := by
  have ongoing := (Reverting.of_resume noCheckpoints backup (.refl active) marked reaches).ongoing
    backup₁
  obtain ⟨dir, inProgress⟩ := marked
  rcases (ongoing.sessions dir).1 (hasActive_of_marked inProgress) with same | again
  · exact ⟨dir, same.trans inProgress⟩
  · exact ⟨dir, again⟩

theorem RevertDone.recovered {crashes : List World} (done : RevertDone w₀ w')
    (listed : ∀ w ∈ crashes, Reverting w₀ w) : RevertRecovered w₀ crashes w' :=
  ⟨done.files, fun w member dir marked =>
    (done.sessions dir).1 ((listed w member).hasActive (hasActive_of_marked marked))⟩

/-- From a crash before the rename, boots recover when no later crash falls between the rename
and the last commit. -/
theorem Recovers.done (noCheckpoints : env.supportsFsCheckpoints = false)
    (backup₀ : w₀.fs.has .backup = true) {crashes : List World}
    (recovers : Recovers env w crashes w') (ongoing : Ongoing w₀ w) (marked : w.Marked)
    (resumable : ∀ crashed ∈ crashes, crashed.Resumable) :
    RevertDone w₀ w' ∧ ∀ crashed ∈ crashes, Reverting w₀ crashed := by
  induction recovers with
  | completes run =>
    exact ⟨wp_runs (wp_resume_ongoing noCheckpoints backup₀ ongoing marked) run, by simp⟩
  | @crash w w₁ w' crashes reaches rest ih =>
    obtain ⟨first, later⟩ := List.forall_mem_cons.mp resumable
    have reverting := Reverting.of_resume noCheckpoints backup₀ ongoing marked reaches
    by_cases marked₁ : w₁.Marked
    · obtain ⟨done, all⟩ := ih (reverting.ongoing (first.mp marked₁)) marked₁ later
      exact ⟨done, List.forall_mem_cons.mpr ⟨reverting, all⟩⟩
    · have absent : w₁.fs.has .backup = false := Bool.not_eq_true _ ▸ mt first.mpr marked₁
      obtain ⟨rfl, all⟩ := rest.unmarked marked₁
      refine ⟨reverting.done backup₀ absent marked₁, List.forall_mem_cons.mpr ⟨reverting, ?_⟩⟩
      intro crashed member
      rw [all crashed member]
      exact reverting

/-- A later crash between the rename and the last commit is not recovered from. -/
theorem Recovers.resumable (noCheckpoints : env.supportsFsCheckpoints = false)
    {crashes : List World} (recovers : Recovers env w crashes w')
    (active : w.fs.has .active = true) (backup : w.fs.has .backup = true) (marked : w.Marked)
    (before : List World) (recovered : RevertRecovered w₀ (before ++ crashes) w') :
    ∀ crashed ∈ crashes, crashed.Resumable := by
  induction recovers generalizing before with
  | completes run => simp
  | @crash w w₁ w' crashes reaches rest ih =>
    have reverting := Reverting.of_resume noCheckpoints backup (.refl active) marked reaches
    by_cases backup₁ : w₁.fs.has .backup = true
    · have marked₁ := marked_of_resume noCheckpoints active backup marked reaches backup₁
      refine List.forall_mem_cons.mpr ⟨⟨fun _ => backup₁, fun _ => marked₁⟩, ?_⟩
      refine ih (reverting.ongoing backup₁).active backup₁ marked₁ (before ++ [w₁]) ?_
      rwa [List.append_assoc]
    · have absent : w₁.fs.has .backup = false := Bool.not_eq_true _ ▸ backup₁
      by_cases marked₁ : w₁.Marked
      · exact absurd recovered (rest.not_recovered noCheckpoints marked₁ absent before)
      · obtain ⟨_, all⟩ := rest.unmarked marked₁
        have resumable : w₁.Resumable := ⟨fun marked => absurd marked marked₁, fun has =>
          absurd has backup₁⟩
        refine List.forall_mem_cons.mpr ⟨resumable, fun crashed member => ?_⟩
        rw [all crashed member]
        exact resumable

/-- A revert that is interrupted once leaves one of the states that it goes through. -/
theorem Reverting.of_revert {native message : String}
    (noCheckpoints : env.supportsFsCheckpoints = false) (active : w₀.fs.has .active = true)
    (backup : w₀.fs.has .backup = true) (some' : ∃ dir, w₀.HasActive dir)
    (reaches : Reaches device (revertActiveSessions env native message) w₀ w) : Reverting w₀ w :=
  reverting_of_steps (wp_reaches
    (wp_revertActiveSessions_ongoing noCheckpoints backup some' (.refl active)) reaches)
    (.inl (.refl active))

/-- Before a session is marked the active directory is as it was. -/
theorem Ongoing.files_of_unmarked (ongoing : Ongoing w₀ w) (some' : ∃ dir, w₀.HasActive dir)
    (unmarked : ¬ w.Marked) : w.fs.files .active = w₀.fs.files .active := by
  refine FileSystem.files_of_dir_eq (ongoing.begun.resolve_right fun marked => ?_)
  obtain ⟨dir, isActive⟩ := some'
  exact unmarked ⟨dir, marked dir isActive⟩

/-- Boots recover from a revert that was interrupted, and from every interruption of the recovery,
exactly when no crash falls between the rename of the backup and the last commit of a session.
A crash before the first session is marked leaves no trace of the revert. -/
theorem revertRecovered_iff {native message : String} {w₁ : World} {crashes : List World}
    (noCheckpoints : env.supportsFsCheckpoints = false) (active : w₀.fs.has .active = true)
    (backup : w₀.fs.has .backup = true) (some' : ∃ dir, w₀.HasActive dir)
    (reaches : Reaches device (revertActiveSessions env native message) w₀ w₁)
    (recovers : Recovers env w₁ crashes w') :
    RevertRecovered w₀ (w₁ :: crashes) w' ↔ (∀ crashed ∈ w₁ :: crashes, crashed.Resumable) ∨
      (¬ w₁.Marked ∧ w₁.fs.has .backup = true ∧ w₀.fs.files .active = w₀.fs.files .backup) := by
  have reverting := Reverting.of_revert noCheckpoints active backup some' reaches
  by_cases marked : w₁.Marked <;> by_cases backup₁ : w₁.fs.has .backup = true
  · -- the next boot takes the revert up
    have ongoing := reverting.ongoing backup₁
    constructor
    · intro recovered
      exact .inl (List.forall_mem_cons.mpr ⟨⟨fun _ => backup₁, fun _ => marked⟩,
        recovers.resumable noCheckpoints ongoing.active backup₁ marked [w₁] recovered⟩)
    · rintro (resumable | ⟨unmarked, _⟩)
      · obtain ⟨_, later⟩ := List.forall_mem_cons.mp resumable
        obtain ⟨done, all⟩ := recovers.done noCheckpoints backup ongoing marked later
        exact done.recovered (List.forall_mem_cons.mpr ⟨reverting, all⟩)
      · exact absurd marked unmarked
  · -- the next boot takes the revert up without a backup
    have absent : w₁.fs.has .backup = false := Bool.not_eq_true _ ▸ backup₁
    refine ⟨fun recovered => ?_, ?_⟩
    · exact absurd recovered (recovers.not_recovered noCheckpoints marked absent [])
    · rintro (resumable | ⟨unmarked, _⟩)
      · exact absurd ((List.forall_mem_cons.mp resumable).1.mp marked) backup₁
      · exact absurd marked unmarked
  · -- the revert left no trace
    have ongoing := reverting.ongoing backup₁
    obtain ⟨rfl, all⟩ := recovers.unmarked marked
    have files := ongoing.files_of_unmarked some' marked
    constructor
    · rintro ⟨content, _⟩
      exact .inr ⟨marked, backup₁, files.symm.trans content⟩
    · rintro (resumable | ⟨_, _, same⟩)
      · exact absurd ((List.forall_mem_cons.mp resumable).1.mpr backup₁) marked
      · refine ⟨files.trans same, List.forall_mem_cons.mpr ⟨?_, fun crashed member => ?_⟩⟩
        · exact fun dir inProgress => absurd ⟨dir, inProgress⟩ marked
        · rw [all crashed member]
          exact fun dir inProgress => absurd ⟨dir, inProgress⟩ marked
  · -- the revert was at its end
    have absent : w₁.fs.has .backup = false := Bool.not_eq_true _ ▸ backup₁
    obtain ⟨rfl, all⟩ := recovers.unmarked marked
    have done := reverting.done backup absent marked
    have resumable : w'.Resumable := ⟨fun isMarked => absurd isMarked marked, fun has =>
      absurd has backup₁⟩
    refine ⟨fun _ => .inl (List.forall_mem_cons.mpr ⟨resumable, fun crashed member => ?_⟩), fun _ => ?_⟩
    · rw [all crashed member]
      exact resumable
    · refine done.recovered (List.forall_mem_cons.mpr ⟨reverting, fun crashed member => ?_⟩)
      rw [all crashed member]
      exact reverting

/-- Session 1 has updated a package whose previous version is in the backup. -/
def updatedByOne : World :=
  { World.ofDirectories [
      (.active, [("foo@2.apex", .apex (.plain "foo" 2 2))]),
      (.backup, [("foo@1.apex", .apex (.plain "foo" 1 1))])] with
    sessions := storeOf [{ SessionState.initial 1 with state := .ACTIVATED }] }

/-- The outcome of a boot after a revert that was interrupted after some calls. -/
def interruptedRevert (env : Environment) (steps : Nat) (w : World) : Option (World × World) := do
  let stopped ← execSteps deviceHandler steps (revertActiveSessions env "" "") w
  let resumed ← exec deviceHandler (resumeRevertIfNeeded env) stopped.2
  pure (stopped.2, resumed.2)

theorem interruptedRevert_recovers {steps : Nat} {w₁ : World}
    (computed : interruptedRevert env steps w = some (w₁, w')) :
    Reaches device (revertActiveSessions env "" "") w w₁ ∧ Recovers env w₁ [] w' := by
  simp only [interruptedRevert, Option.bind_eq_bind, Option.bind_eq_some_iff, Option.pure_def,
    Option.some.injEq, Prod.mk.injEq] at computed
  obtain ⟨⟨rest, _⟩, stopped, ⟨result, _⟩, resumed, rfl, rfl⟩ := computed
  exact ⟨⟨rest, execSteps_steps deviceHandler_sound stopped⟩,
    .completes (exec_runs deviceHandler_sound resumed)⟩

theorem updatedByOne_hasActive : ∃ dir, updatedByOne.HasActive dir :=
  ⟨"1", .ACTIVATED, by decide +kernel, rfl⟩

/-- A crash after the session was marked, before a file was removed. -/
theorem revertRecovered_iff_marked : ∃ w₁ w',
    Reaches device (revertActiveSessions (.plain .create) "" "") updatedByOne w₁ ∧
    w₁.stateIn "1" = some .REVERT_IN_PROGRESS ∧ Recovers (.plain .create) w₁ [] w' ∧
    RevertRecovered updatedByOne [w₁] w' := by
  have computed : (match interruptedRevert (.plain .create) 2 updatedByOne with
      | some (w₁, _) => decide (w₁.stateIn "1" = some .REVERT_IN_PROGRESS) && w₁.fs.has .backup
      | none => false) = true := by
    decide +kernel
  split at computed
  · rename_i w₁ w' evaluated
    obtain ⟨reaches, recovers⟩ := interruptedRevert_recovers evaluated
    simp only [Bool.and_eq_true, decide_eq_true_eq] at computed
    refine ⟨w₁, w', reaches, computed.1, recovers, ?_⟩
    refine (revertRecovered_iff rfl (by decide +kernel) (by decide +kernel) updatedByOne_hasActive
      reaches recovers).mpr (.inl (List.forall_mem_singleton.mpr ?_))
    exact ⟨fun _ => computed.2, fun _ => ⟨"1", computed.1⟩⟩
  · cases computed

/-- A crash after the rename: the boot finds no backup and gives the session up. -/
theorem revert_fails_after_rename : ∃ w₁ w',
    Reaches device (revertActiveSessions (.plain .create) "" "") updatedByOne w₁ ∧
    Recovers (.plain .create) w₁ [] w' ∧ w₁.stateIn "1" = some .REVERT_IN_PROGRESS ∧
    w'.stateIn "1" = some .REVERT_FAILED ∧ ¬ RevertRecovered updatedByOne [w₁] w' := by
  have computed : (match interruptedRevert (.plain .create) 7 updatedByOne with
      | some (w₁, w') => decide (w₁.stateIn "1" = some .REVERT_IN_PROGRESS) &&
        decide (w'.stateIn "1" = some .REVERT_FAILED)
      | none => false) = true := by
    decide +kernel
  split at computed
  · rename_i w₁ w' evaluated
    obtain ⟨reaches, recovers⟩ := interruptedRevert_recovers evaluated
    simp only [Bool.and_eq_true, decide_eq_true_eq] at computed
    refine ⟨w₁, w', reaches, recovers, computed.1, computed.2, fun recovered => ?_⟩
    have reverted := recovered.2 w₁ (by simp) "1" computed.1
    rw [computed.2] at reverted
    cases reverted
  · cases computed

end Apexd
