import Apexd.Process.Semantics

/-! # Programs that come to an end

A program tree is finite, so that a run can only stop short at a call without an answer, such as
that of a loop whose fuel is used up.  `Ends` says that a program does not come to one.
-/

namespace Process

open Relation (ReflTransGen)

variable {I : Interface} {ε σ α β : Type}

/-- Every call that the program comes to make is answered. -/
def Ends (M : Semantics I ε σ) : Program I ε α → σ → Prop
  | .done _, _ => True
  | .call request next, state => (∃ reply state', M request state reply state') ∧
      ∀ reply state', M request state reply state' → Ends M (next reply) state'

variable {M : Semantics I ε σ}

theorem Ends.exists_runs {p : Program I ε α} {state : σ} (ends : Ends M p state) :
    ∃ result state', Runs M p state result state' := by
  induction p generalizing state with
  | done result => exact ⟨result, state, runs_done.mpr ⟨rfl, rfl⟩⟩
  | call request next ih =>
    obtain ⟨⟨reply, middle, answer⟩, rest⟩ := ends
    obtain ⟨result, state', run⟩ := ih reply (rest reply middle answer)
    exact ⟨result, state', runs_call.mpr ⟨reply, middle, answer, run⟩⟩

/-- However far a run has come, it can be completed. -/
theorem Ends.completes {p rest : Program I ε α} {state middle : σ} (ends : Ends M p state)
    (steps : ReflTransGen (Step M) (p, state) (rest, middle)) :
    ∃ result state', Runs M rest middle result state' := by
  suffices general : ∀ config, ReflTransGen (Step M) (p, state) config →
      Ends M config.1 config.2 from (general _ steps).exists_runs
  intro config steps
  induction steps with
  | refl => exact ends
  | tail _ step ih =>
    cases step with
    | call answer => exact ih.2 _ _ answer

/-- The program is sure to come to an end, always with the same result, and changes nothing. -/
structure Returns (M : Semantics I ε σ) (p : Program I ε α) (result : Except ε α) (state : σ) :
    Prop where
  runs : Runs M p state result state
  only : ∀ {result' state'}, Runs M p state result' state' → result' = result ∧ state' = state

theorem Computes.returns {G : Guarantee I σ} {p : Program I ε α} {result : Except ε α} {state : σ}
    (computes : Computes M G p result state) (ends : Ends M p state) : Returns M p result state := by
  obtain ⟨result', state', run⟩ := ends.exists_runs
  obtain ⟨rfl, rfl⟩ := computes.runs run
  exact ⟨run, computes.runs⟩

/-- The program is sure to come to an end, and with a result of this kind. -/
structure Gives (M : Semantics I ε σ) (p : Program I ε α) (Q : Except ε α → Prop) (state : σ) :
    Prop where
  runs : ∃ result state', Runs M p state result state'
  only : ∀ {result state'}, Runs M p state result state' → Q result

theorem Ends.gives {p : Program I ε α} {Q : Except ε α → Prop} {state : σ} (ends : Ends M p state)
    (results : wp M Anything p (fun result _ => Q result) state) : Gives M p Q state :=
  ⟨ends.exists_runs, wp_runs results⟩

/-- What follows runs on the result. -/
theorem Returns.runs_bind {p : Program I ε α} {f : α → Program I ε β} {value : α}
    {state state' : σ} {result : Except ε β} (returns : Returns M p (.ok value) state)
    (run : Runs M (p >>= f) state result state') : Runs M (f value) state result state' := by
  obtain ⟨first, middle, firstRun, rest⟩ := Process.runs_bind.mp run
  obtain ⟨rfl, rfl⟩ := returns.only firstRun
  exact rest

theorem Ends.first {p : Program I ε α} {f : α → Program I ε β} {state : σ}
    (ends : Ends M (p >>= f) state) : Ends M p state := by
  induction p generalizing state with
  | done result => trivial
  | call request next ih =>
    exact ⟨ends.1, fun reply state' answer => ih reply (ends.2 reply state' answer)⟩

/-- After the first program the second one comes to an end. -/
theorem Ends.rest {p : Program I ε α} {f : α → Program I ε β} {state state' : σ} {value : α}
    (ends : Ends M (p >>= f) state) (run : Runs M p state (.ok value) state') :
    Ends M (f value) state' := by
  induction p generalizing state with
  | done result =>
    obtain ⟨rfl, rfl⟩ := runs_done.mp run
    exact ends
  | call request next ih =>
    obtain ⟨reply, middle, answer, later⟩ := runs_call.mp run
    exact ih reply (ends.2 reply middle answer) later

theorem Ends.of_within {allowed : I.Call → Prop} {p : Program I ε α} (within : p.Within allowed)
    (answered : ∀ request, allowed request → ∀ state, ∃ reply state', M request state reply state')
    (state : σ) : Ends M p state := by
  induction p generalizing state with
  | done result => trivial
  | call request next ih =>
    exact ⟨answered request within.1 state, fun reply state' _ => ih reply (within.2 reply) state'⟩

theorem Ends.of_answered (answered : ∀ request state, ∃ reply state', M request state reply state')
    (p : Program I ε α) (state : σ) : Ends M p state := by
  induction p generalizing state with
  | done result => trivial
  | call request next ih =>
    exact ⟨answered request state, fun reply state' _ => ih reply state'⟩

theorem Ends.mapError {p : Program I ε α} {state : σ} (ends : Ends M p state) (f : ε → ε) :
    Ends M (p.mapError f) state := by
  induction p generalizing state with
  | done result => cases result <;> trivial
  | call request next ih =>
    exact ⟨ends.1, fun reply state' answer => ih reply (ends.2 reply state' answer)⟩

theorem Ends.bind {p : Program I ε α} {f : α → Program I ε β} {state : σ} (ends : Ends M p state)
    (rest : wp M Anything p
      (fun result state' => ∀ value, result = .ok value → Ends M (f value) state') state) :
    Ends M (p >>= f) state := by
  induction p generalizing state with
  | done result =>
    cases result with
    | ok value => exact rest value rfl
    | error e => trivial
  | call request next ih =>
    refine ⟨ends.1, fun reply state' answer => ?_⟩
    exact ih reply (ends.2 reply state' answer) (rest reply state' answer).2

theorem Ends.fold {f : α → β → Program I ε α} {xs : List β} {first : α} {state : σ}
    (inv : α → σ → Prop) (start : inv first state)
    (body : ∀ x ∈ xs, ∀ value state, inv value state → Ends M (f value x) state ∧
      wp M Anything (f value x) (fun result state' => ∀ value', result = .ok value' →
        inv value' state') state) :
    Ends M (Program.fold f first xs) state := by
  induction xs generalizing first state with
  | nil => trivial
  | cons x xs ih =>
    obtain ⟨ends, kept⟩ := body x (by simp) first state start
    refine ends.bind (wp_mono kept fun result state' holds value' isValue => ?_)
    exact ih (holds value' isValue) fun y member => body y (by simp [member])

end Process
