import Apexd.Process.Execution

/-! # Calls that fail

`withFaults` lets some calls fail without effect, as often as they are made; `withLog` does so
too and logs the calls that failed.  `withOneFault` lets at most one call fail that way and keeps
a journal of where the run was when its first call failed, so that a statement can speak of every
point of failure.
-/

namespace Process

variable {I : Interface} {ε σ α : Type}

/-- Calls in `may` may also fail without any effect. -/
def Semantics.withFaults (M : Semantics I ε σ) (may : I.Call → Prop) : Semantics I ε σ :=
  fun request state reply state' =>
    M request state reply state' ∨ (may request ∧ (∃ e, reply = .error e) ∧ state' = state)

/-- Where no call may fail there are no faults. -/
theorem Semantics.withFaults_false (M : Semantics I ε σ) : M.withFaults (fun _ => False) = M := by
  funext request state reply state'
  simp [Semantics.withFaults]

section Faults

variable {M : Semantics I ε σ} {may : I.Call → Prop} {G : Guarantee I σ}
  {Q : Except ε α → σ → Prop} {state : σ}

/-- A call that is answered as it is without faults, or fails. -/
theorem wp_withFaults {request : I.Call} {next : Except ε (I.Reply request) → Program I ε α}
    (answers : ∀ reply state', M request state reply state' →
      G request state state' ∧ wp (M.withFaults may) G (next reply) Q state')
    (faults : may request → ∀ e,
      G request state state ∧ wp (M.withFaults may) G (next (.error e)) Q state) :
    wp (M.withFaults may) G (.call request next) Q state := by
  rintro reply state' (answer | ⟨mayFail, ⟨e, rfl⟩, rfl⟩)
  · exact answers reply state' answer
  · exact faults mayFail e

/-- What no call of a program can fail at by itself is as it is without faults. -/
theorem wp_withFaults_of_within {p : Program I ε α} (within : p.Within fun request => ¬ may request)
    (holds : wp M G p Q state) : wp (M.withFaults may) G p Q state := by
  induction p generalizing state with
  | done result => exact holds
  | call request next ih =>
    refine wp_withFaults (fun reply state' answer => ?_) fun mayFail => absurd mayFail within.1
    exact ⟨(holds reply state' answer).1, ih reply (within.2 reply) (holds reply state' answer).2⟩

/-- Answer as another handler does, but fail at every call that is chosen to fail. -/
def Handler.failingOn (handler : Handler I ε σ) (chosen : I.Call → Bool) (e : ε) :
    Handler I ε σ := fun request state =>
  if chosen request then some (.error e, state) else handler request state

theorem Handler.failingOn_sound {handler : Handler I ε σ} (sound : handler.Sound M)
    {chosen : I.Call → Bool} (mayFail : ∀ request, chosen request = true → may request) (e : ε) :
    (handler.failingOn chosen e).Sound (M.withFaults may) := by
  intro request state reply state' computed
  unfold Handler.failingOn at computed
  split at computed
  · rename_i isChosen
    cases computed
    exact .inr ⟨mayFail request isChosen, ⟨e, rfl⟩, rfl⟩
  · exact .inl (sound computed)

theorem Handler.Sound.withFaults {handler : Handler I ε σ} (sound : handler.Sound M) :
    handler.Sound (M.withFaults may) :=
  fun _ _ _ _ answered => .inl (sound answered)

end Faults

/-- A call in `may` may also fail without any effect, where `may` allows it; the calls that fail
are logged. -/
def Semantics.withLog (M : Semantics I ε σ) (may : I.Call → σ → Prop) :
    Semantics I ε (σ × List I.Call) :=
  fun request state reply state' => match reply with
    | .ok _ => M request state.1 reply state'.1 ∧ state'.2 = state.2
    | .error _ => (M request state.1 reply state'.1 ∨ (may request state.1 ∧ state'.1 = state.1)) ∧
        state'.2 = state.2 ++ [request]

/-- Only calls in `allowed` were logged. -/
def Logged {Call : Type} (allowed : Call → Prop) (log log' : List Call) : Prop :=
  ∃ more, log' = log ++ more ∧ ∀ request ∈ more, allowed request

namespace Logged

variable {Call : Type} {allowed other : Call → Prop} {log log' log'' : List Call}

theorem refl (allowed : Call → Prop) (log : List Call) : Logged allowed log log :=
  ⟨[], by simp, by simp⟩

theorem single {request : Call} (isAllowed : allowed request) :
    Logged allowed log (log ++ [request]) :=
  ⟨[request], rfl, by simpa using isAllowed⟩

theorem trans (first : Logged allowed log log') (second : Logged allowed log' log'') :
    Logged allowed log log'' := by
  obtain ⟨more, rfl, ofFirst⟩ := first
  obtain ⟨rest, rfl, ofSecond⟩ := second
  refine ⟨more ++ rest, by simp, fun request member => ?_⟩
  rcases List.mem_append.mp member with inMore | inRest
  · exact ofFirst request inMore
  · exact ofSecond request inRest

theorem mono (logged : Logged allowed log log') (implies : ∀ request, allowed request → other request) :
    Logged other log log' := by
  obtain ⟨more, same, isAllowed⟩ := logged
  exact ⟨more, same, fun request member => implies request (isAllowed request member)⟩

/-- What is in a log stays in it. -/
theorem mem (logged : Logged allowed log log') {request : Call} (member : request ∈ log) :
    request ∈ log' := by
  obtain ⟨more, rfl, _⟩ := logged
  exact List.mem_append_left _ member

theorem forall_mem (logged : Logged allowed log log') (before : ∀ request ∈ log, allowed request) :
    ∀ request ∈ log', allowed request := by
  obtain ⟨more, rfl, isAllowed⟩ := logged
  intro request member
  rcases List.mem_append.mp member with inLog | inMore
  · exact before request inLog
  · exact isAllowed request inMore

end Logged

section Log

variable {M : Semantics I ε σ} {may : I.Call → σ → Prop} {state : σ} {log : List I.Call}

/-- A call that succeeds as it does without faults, or fails and is logged. -/
theorem wp_withLog {request : I.Call} {next : Except ε (I.Reply request) → Program I ε α}
    {G : Guarantee I (σ × List I.Call)} {Q : Except ε α → σ × List I.Call → Prop}
    (succeeds : ∀ value state', M request state (.ok value) state' →
      G request (state, log) (state', log) ∧ wp (M.withLog may) G (next (.ok value)) Q (state', log))
    (fails : ∀ e state', (M request state (.error e) state' ∨ (may request state ∧ state' = state)) →
      G request (state, log) (state', log ++ [request]) ∧
        wp (M.withLog may) G (next (.error e)) Q (state', log ++ [request])) :
    wp (M.withLog may) G (.call request next) Q (state, log) := by
  rintro reply ⟨state', log'⟩ answer
  cases reply with
  | ok value =>
    obtain ⟨answered, same⟩ := answer
    cases same
    exact succeeds value state' answered
  | error e =>
    obtain ⟨answered, same⟩ := answer
    cases same
    exact fails e state' answered

/-- What holds whatever fails holds of logged runs, and only calls that are made are logged. -/
theorem wp_withLog_of_withFaults {may' : I.Call → Prop} {allowed : I.Call → Prop}
    (covers : ∀ request state, may request state → may' request ∨
      (¬ allowed request ∧ ∃ reply state', M request state reply state'))
    {p : Program I ε α} {Q : Except ε α → σ → Prop}
    (holds : wp (M.withFaults may') (fun request _ _ => allowed request) p Q state) :
    wp (M.withLog may) Anything p
      (fun result state' => Q result state'.1 ∧ Logged allowed log state'.2) (state, log) := by
  suffices general : ∀ log', Logged allowed log log' → wp (M.withLog may) Anything p
      (fun result state' => Q result state'.1 ∧ Logged allowed log state'.2) (state, log') from
    general log (.refl allowed log)
  intro log' logged
  induction p generalizing state log' with
  | done result => exact ⟨holds, logged⟩
  | call request next ih =>
    refine wp_withLog (fun value state' answer => ⟨trivial, ?_⟩) fun e state' answer => ⟨trivial, ?_⟩
    · exact ih _ (holds _ _ (.inl answer)).2 log' logged
    · rcases answer with answer | ⟨mayFail, rfl⟩
      · obtain ⟨isAllowed, rest⟩ := holds _ _ (.inl answer)
        exact ih _ rest _ (logged.trans (.single isAllowed))
      · rcases covers _ _ mayFail with mayFail' | ⟨notAllowed, _, _, answer⟩
        · obtain ⟨isAllowed, rest⟩ := holds (.error e) state' (.inr ⟨mayFail', ⟨e, rfl⟩, rfl⟩)
          exact ih _ rest _ (logged.trans (.single isAllowed))
        · exact absurd (holds _ _ (.inl answer)).1 notAllowed

/-- A run of calls that succeed as without faults, or fail where that is allowed, is a logged run. -/
theorem exists_runs_withLog {M' : Semantics I ε σ} {allowed : I.Call → Prop}
    (succeeds : ∀ request state value state', M' request state (.ok value) state' →
      M request state (.ok value) state')
    (fails : ∀ request state e state', M' request state (.error e) state' → allowed request ∧
      (M request state (.error e) state' ∨ (may request state ∧ state' = state)))
    {p : Program I ε α} {state' : σ} {result : Except ε α} (run : Runs M' p state result state') :
    ∃ log', Runs (M.withLog may) p (state, log) result (state', log') ∧ Logged allowed log log' := by
  induction p generalizing state log with
  | done first =>
    obtain ⟨rfl, rfl⟩ := runs_done.mp run
    exact ⟨log, runs_done.mpr ⟨rfl, rfl⟩, .refl _ _⟩
  | call request next ih =>
    obtain ⟨reply, middle, answer, rest⟩ := runs_call.mp run
    cases reply with
    | ok value =>
      obtain ⟨log', run', logged⟩ := ih (.ok value) rest
      exact ⟨log', runs_call.mpr ⟨.ok value, (middle, log), ⟨succeeds _ _ _ _ answer, rfl⟩, run'⟩, logged⟩
    | error e =>
      obtain ⟨isAllowed, failed⟩ := fails _ _ _ _ answer
      obtain ⟨log', run', logged⟩ := ih (.error e) rest
      exact ⟨log', runs_call.mpr ⟨.error e, (middle, log ++ [request]), ⟨failed, rfl⟩, run'⟩,
        (Logged.single isAllowed).trans logged⟩

/-- Answer as another handler does, but fail where that is chosen, and log the calls that failed. -/
def Handler.logging (handler : Handler I ε σ) (chosen : I.Call → σ → Bool) (e : ε) :
    Handler I ε (σ × List I.Call) :=
  fun request (state, log) =>
    if chosen request state then some (.error e, state, log ++ [request])
    else match handler request state with
      | none => none
      | some (.ok value, state') => some (.ok value, state', log)
      | some (.error e, state') => some (.error e, state', log ++ [request])

theorem Handler.logging_sound {handler : Handler I ε σ} (sound : handler.Sound M)
    {chosen : I.Call → σ → Bool}
    (mayFail : ∀ request state, chosen request state = true → may request state) (e : ε) :
    (handler.logging chosen e).Sound (M.withLog may) := by
  rintro request ⟨state, log⟩ reply ⟨state', log'⟩ computed
  simp only [Handler.logging] at computed
  split at computed
  · rename_i isChosen
    cases computed
    exact ⟨.inr ⟨mayFail request state isChosen, rfl⟩, rfl⟩
  · split at computed
    · cases computed
    · rename_i answered
      cases computed
      exact ⟨sound answered, rfl⟩
    · rename_i answered
      cases computed
      exact ⟨.inl (sound answered), rfl⟩

end Log

/-- The calls that succeeded before the first one failed, and which one that was. -/
structure Journal (I : Interface) where
  calls : List I.Call
  failed : Option I.Call

namespace Journal

def empty : Journal I where
  calls := []
  failed := none

/-- After a call that succeeded. -/
def record (journal : Journal I) (request : I.Call) : Journal I :=
  match journal.failed with
  | none => { journal with calls := journal.calls ++ [request] }
  | some _ => journal

/-- After a call that failed. -/
def fail (journal : Journal I) (request : I.Call) : Journal I :=
  match journal.failed with
  | none => { journal with failed := some request }
  | some _ => journal

variable {journal : Journal I} {request : I.Call}

@[simp] theorem failed_record : (journal.record request).failed = journal.failed := by
  unfold record
  split <;> simp_all

theorem calls_record (running : journal.failed = none) :
    (journal.record request).calls = journal.calls ++ [request] := by
  simp [record, running]

@[simp] theorem calls_fail : (journal.fail request).calls = journal.calls := by
  unfold fail
  split <;> rfl

theorem failed_fail (running : journal.failed = none) :
    (journal.fail request).failed = some request := by
  simp [fail, running]

theorem record_of_failed (failed : journal.failed ≠ none) : journal.record request = journal := by
  unfold record
  split
  · contradiction
  · rfl

theorem fail_of_failed (failed : journal.failed ≠ none) : journal.fail request = journal := by
  unfold fail
  split
  · contradiction
  · rfl

end Journal

/-- As long as no call has failed, one in `may` may fail without effect. -/
def Semantics.withOneFault (M : Semantics I ε σ) (may : I.Call → Prop) :
    Semantics I ε (σ × Journal I) :=
  fun request state reply state' => match reply with
    | .ok _ => M request state.1 reply state'.1 ∧ state'.2 = state.2.record request
    | .error _ => (M request state.1 reply state'.1 ∨
        (state.2.failed = none ∧ may request ∧ state'.1 = state.1)) ∧
        state'.2 = state.2.fail request

variable {M : Semantics I ε σ} {may : I.Call → Prop} {state : σ} {journal : Journal I}

/-- A call that succeeds as it does without faults, or fails with or without one. -/
theorem wp_withOneFault {request : I.Call} {G : Guarantee I (σ × Journal I)}
    {next : Except ε (I.Reply request) → Program I ε α}
    {Q : Except ε α → σ × Journal I → Prop}
    (succeeds : ∀ value state', M request state (.ok value) state' →
      G request (state, journal) (state', journal.record request) ∧
        wp (M.withOneFault may) G (next (.ok value)) Q (state', journal.record request))
    (fails : ∀ e state', M request state (.error e) state' →
      G request (state, journal) (state', journal.fail request) ∧
        wp (M.withOneFault may) G (next (.error e)) Q (state', journal.fail request))
    (faults : journal.failed = none → may request → ∀ e,
      G request (state, journal) (state, journal.fail request) ∧
        wp (M.withOneFault may) G (next (.error e)) Q (state, journal.fail request)) :
    wp (M.withOneFault may) G (.call request next) Q (state, journal) := by
  rintro reply ⟨state', journal'⟩ answer
  cases reply with
  | ok value =>
    obtain ⟨answered, rfl⟩ := answer
    exact succeeds value state' answered
  | error e =>
    obtain ⟨answered | ⟨running, mayFail, same⟩, rfl⟩ := answer
    · exact fails e state' answered
    · cases same
      exact faults running mayFail e

/-- Answer as another handler does, but fail at the first call that is chosen to fail. -/
def Handler.failingAt (handler : Handler I ε σ) (chosen : I.Call → Bool) (e : ε) :
    Handler I ε (σ × Journal I) := fun request (state, journal) =>
  if journal.failed.isNone && chosen request then
    some (.error e, state, journal.fail request)
  else match handler request state with
    | none => none
    | some (.ok value, state') => some (.ok value, state', journal.record request)
    | some (.error e, state') => some (.error e, state', journal.fail request)

theorem Handler.failingAt_sound {handler : Handler I ε σ} (sound : handler.Sound M)
    {chosen : I.Call → Bool} (mayFail : ∀ request, chosen request = true → may request) (e : ε) :
    (handler.failingAt chosen e).Sound (M.withOneFault may) := by
  rintro request ⟨state, journal⟩ reply ⟨state', journal'⟩ computed
  simp only [Handler.failingAt] at computed
  split at computed
  · rename_i now
    cases computed
    simp only [Bool.and_eq_true, Option.isNone_iff_eq_none] at now
    exact ⟨.inr ⟨now.1, mayFail request now.2, rfl⟩, rfl⟩
  · split at computed
    · cases computed
    · rename_i answered
      cases computed
      exact ⟨sound answered, rfl⟩
    · rename_i answered
      cases computed
      exact ⟨.inl (sound answered), rfl⟩

end Process
