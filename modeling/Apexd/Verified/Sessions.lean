import Apexd.Verified.Calls

/-! # The store of sessions

What a commit does to the store, which sessions a listing gives, and the rule for a loop that
goes through sessions and works on one of them at a time.
-/

namespace Apexd

open Process Storage

variable {w : World} {dir : String}

theorem stateOf_eq_some {store : SessionStore} {state : SessionState} :
    store.stateOf dir = some state ↔ store.lookup dir = some (.state state) := by
  unfold SessionStore.stateOf
  split
  · rename_i found
    simp [found]
  · rename_i other
    simp only [reduceCtorEq, false_iff]
    exact other state

theorem lookup_commit_self (w : World) (session : ApexSession) :
    (w.commit session).sessions.lookup session.sessionDir = some (.state session.state) := by
  simp [World.commit, World.withSessions]

theorem lookup_commit_ne (w : World) (session : ApexSession) (ne : dir ≠ session.sessionDir) :
    (w.commit session).sessions.lookup dir = w.sessions.lookup dir := by
  simp [World.commit, World.withSessions, Finmap.lookup_insert_of_ne, ne]

/-! ## Listings -/

theorem map_sessionDir_sessionsIn (store : SessionStore) (listing : List String) :
    (store.sessionsIn listing).map ApexSession.sessionDir =
      listing.filter fun dir => (store.stateOf dir).isSome := by
  induction listing with
  | nil => rfl
  | cons dir rest ih =>
    simp only [SessionStore.sessionsIn] at ih ⊢
    cases found : store.stateOf dir <;> simp [found, ih]

/-- The sessions of a listing have different directories, however they are filtered. -/
theorem nodup_filter_sessionsIn {store : SessionStore} {listing : List String}
    (nodup : listing.Nodup) (p : ApexSession → Bool) :
    (((store.sessionsIn listing).filter p).map ApexSession.sessionDir).Nodup :=
  (nodup.filter _).sublist (map_sessionDir_sessionsIn store listing ▸ List.filter_sublist.map _)

theorem nodup_sessionDirs {store : SessionStore} {listing : List String} (nodup : listing.Nodup)
    (state : SessionState.State) :
    ((sessionsInState store listing state).map ApexSession.sessionDir).Nodup :=
  nodup_filter_sessionsIn nodup _

theorem mem_sessionsIn_of_isListing {store : SessionStore} {listing : List String}
    (isListing : Directory.IsListing store listing) {session : ApexSession} :
    session ∈ store.sessionsIn listing ↔
      store.stateOf session.sessionDir = some session.state := by
  rw [SessionStore.mem_sessionsIn, and_iff_right_iff_imp]
  exact fun stored => isListing.mem_iff.mpr ⟨_, stateOf_eq_some.mp stored⟩

theorem mem_sessionsInState {store : SessionStore} {listing : List String}
    (isListing : Directory.IsListing store listing) {s : SessionState.State}
    {session : ApexSession} : session ∈ sessionsInState store listing s ↔
      store.stateOf session.sessionDir = some session.state ∧ session.state.state = s := by
  simp only [sessionsInState, List.mem_filter, mem_sessionsIn_of_isListing isListing,
    decide_eq_true_eq]

/-! ## Reading a session -/

theorem wp_getSession {G : Guarantee apexd World} (quiet : Quiet G) {sessionId : Int}
    {Q : Except String ApexSession → World → Prop}
    (found : ∀ state, w.sessions.lookup (toString sessionId) = some (.state state) →
      Q (.ok ⟨state, toString sessionId⟩) w)
    (failed : (∀ state, w.sessions.lookup (toString sessionId) ≠ some (.state state)) →
      ∀ e, Q (.error e) w) :
    wp device G (getSession sessionId) Q w := by
  rw [getSession, wp_bind, wp_mapError]
  cases stored : w.sessions.lookup (toString sessionId) with
  | none =>
    have effect : (SessionCall.read (toString sessionId)).effect w.sessions =
        (.error "Failed to open ", w.sessions) := by simp only [SessionCall.effect, stored]
    exact wp_sessionCall (by simp) effect (quiet _ w) (failed (by simp [stored]) _)
  | some file =>
    cases file with
    | missing =>
      have effect : (SessionCall.read (toString sessionId)).effect w.sessions =
          (.error "Failed to open ", w.sessions) := by simp only [SessionCall.effect, stored]
      exact wp_sessionCall (by simp) effect (quiet _ w) (failed (by simp [stored]) _)
    | corrupt =>
      have effect : (SessionCall.read (toString sessionId)).effect w.sessions =
          (.error "Failed to parse ", w.sessions) := by simp only [SessionCall.effect, stored]
      exact wp_sessionCall (by simp) effect (quiet _ w) (failed (by simp [stored]) _)
    | state state =>
      have effect : (SessionCall.read (toString sessionId)).effect w.sessions =
          (.ok state, w.sessions) := by simp only [SessionCall.effect, stored]
      exact wp_sessionCall (by simp) effect (quiet _ w) (found state stored)

/-! ## Loops over sessions -/

section Loop

variable {M : Semantics apexd String World} {G : Guarantee apexd World}
  {sessions : List ApexSession} {body : ApexSession → Procedure PUnit}

/-- A loop whose body brings the session it is at from `before` to `after` and leaves the
others alone does so for all of them; `inv` is what it keeps of the rest of the device. -/
theorem wp_forSessions (before after : ApexSession → Option StateFile → Prop)
    (inv : World → Prop) (distinct : (sessions.map ApexSession.sessionDir).Nodup)
    (start : ∀ session ∈ sessions, before session (w.sessions.lookup session.sessionDir))
    (holds : inv w)
    (each : ∀ session ∈ sessions, ∀ w₁, inv w₁ →
      before session (w₁.sessions.lookup session.sessionDir) →
      wp M G (body session) (fun result w₂ => result = .ok () ∧ inv w₂ ∧
        after session (w₂.sessions.lookup session.sessionDir) ∧
        ∀ dir, dir ≠ session.sessionDir → w₂.sessions.lookup dir = w₁.sessions.lookup dir) w₁)
    {Q : Except String PUnit → World → Prop}
    (finish : ∀ w', inv w' →
      (∀ session ∈ sessions, after session (w'.sessions.lookup session.sessionDir)) →
      (∀ dir, dir ∉ sessions.map ApexSession.sessionDir →
        w'.sessions.lookup dir = w.sessions.lookup dir) → Q (.ok ()) w') :
    wp M G (sessions.forM body) Q w := by
  refine wp_forM (fun done w' => inv w' ∧
    (∀ session ∈ done, after session (w'.sessions.lookup session.sessionDir)) ∧
    ∀ dir, dir ∉ done.map ApexSession.sessionDir →
      w'.sessions.lookup dir = w.sessions.lookup dir) ?_ ?_ ?_
  · exact ⟨holds, by simp, fun _ _ => rfl⟩
  · rintro done session rest w₁ rfl ⟨kept, processed, others⟩
    rw [List.map_append, List.map_cons, List.nodup_middle, List.nodup_cons] at distinct
    have notDone : session.sessionDir ∉ done.map ApexSession.sessionDir := fun member =>
      distinct.1 (List.mem_append_left _ member)
    have waiting : before session (w₁.sessions.lookup session.sessionDir) := by
      rw [others _ notDone]
      exact start session (by simp)
    refine wp_mono (each session (by simp) w₁ kept waiting) ?_
    rintro _ w₂ ⟨rfl, kept₂, now, same⟩
    refine ⟨kept₂, ?_, fun dir outside => ?_⟩
    · intro other member
      rcases List.mem_append.mp member with earlier | last
      · have ne : other.sessionDir ≠ session.sessionDir := fun equal =>
          notDone (equal ▸ List.mem_map_of_mem earlier)
        rw [same _ ne]
        exact processed other earlier
      · rw [List.mem_singleton.mp last]
        exact now
    · simp only [List.map_append, List.map_cons, List.map_nil, List.mem_append,
        List.mem_singleton, not_or] at outside
      rw [same dir outside.2, others dir outside.1]
  · rintro w' ⟨kept, processed, others⟩
    exact finish w' kept processed others

end Loop

end Apexd
