import Apexd.Process.Semantics

/-! # Running programs

A handler picks one answer for every call, so that a program can be evaluated.  What a sound
handler computes is a run of the semantics, and stopping it after some calls is a crash.
-/

namespace Process

variable {I : Interface} {ε σ α β : Type}

/-- One answer for each call, or none where the process ends. -/
abbrev Handler (I : Interface) (ε σ : Type) :=
  (request : I.Call) → σ → Option (Except ε (I.Reply request) × σ)

def Handler.Sound (handler : Handler I ε σ) (M : Semantics I ε σ) : Prop :=
  ∀ ⦃request state reply state'⦄, handler request state = some (reply, state') →
    M request state reply state'

/-- Run a program to its end. -/
def exec (handler : Handler I ε σ) : Program I ε α → σ → Option (Except ε α × σ)
  | .done result, state => some (result, state)
  | .call request next, state => match handler request state with
    | none => none
    | some (reply, state') => exec handler (next reply) state'

/-- Run a program for at most `steps` calls. -/
def execSteps (handler : Handler I ε σ) : Nat → Program I ε α → σ → Option (Program I ε α × σ)
  | 0, p, state => some (p, state)
  | _ + 1, .done result, state => some (.done result, state)
  | steps + 1, .call request next, state => match handler request state with
    | none => none
    | some (reply, state') => execSteps handler steps (next reply) state'

variable {M : Semantics I ε σ} {handler : Handler I ε σ}

theorem exec_runs (sound : handler.Sound M) {p : Program I ε α} {state state' : σ}
    {result : Except ε α} (computed : exec handler p state = some (result, state')) :
    Runs M p state result state' := by
  induction p generalizing state with
  | done first =>
    simp only [exec, Option.some.injEq, Prod.mk.injEq] at computed
    exact runs_done.mpr ⟨computed.1.symm, computed.2.symm⟩
  | call request next ih =>
    cases answered : handler request state with
    | none => simp [exec, answered] at computed
    | some answer =>
      obtain ⟨reply, middle⟩ := answer
      simp only [exec, answered] at computed
      exact runs_call.mpr ⟨reply, middle, sound answered, ih reply computed⟩

/-- Answer as another handler does where the call succeeds. -/
def Handler.succeeding (handler : Handler I ε σ) : Handler I ε σ := fun request state =>
  match handler request state with
  | some (.ok value, state') => some (.ok value, state')
  | _ => none

theorem Handler.succeeding_sound {M' : Semantics I ε σ} (sound : handler.Sound M)
    (succeeds : ∀ request state value state', M request state (.ok value) state' →
      M' request state (.ok value) state') : handler.succeeding.Sound M' := by
  intro request state reply state' computed
  unfold Handler.succeeding at computed
  split at computed
  · rename_i answered
    cases computed
    exact succeeds _ _ _ _ (sound answered)
  · cases computed

/-- A run whose outcome passes a test, from an evaluation that says so. -/
theorem exists_runs (sound : handler.Sound M) (p : Program I ε α) (state : σ)
    (check : Except ε α → σ → Bool)
    (computed : (match exec handler p state with
      | some (result, state') => check result state'
      | none => false) = true) :
    ∃ result state', Runs M p state result state' ∧ check result state' = true := by
  split at computed
  · rename_i result state' evaluated
    exact ⟨result, state', exec_runs sound evaluated, computed⟩
  · cases computed

theorem execSteps_steps (sound : handler.Sound M) {steps : Nat} {p rest : Program I ε α}
    {state state' : σ} (computed : execSteps handler steps p state = some (rest, state')) :
    Relation.ReflTransGen (Step M) (p, state) (rest, state') := by
  induction steps generalizing p state with
  | zero =>
    cases computed
    exact .refl
  | succ steps ih =>
    cases p with
    | done result =>
      cases computed
      exact .refl
    | call request next =>
      cases answered : handler request state with
      | none => simp [execSteps, answered] at computed
      | some answer =>
        obtain ⟨reply, middle⟩ := answer
        simp only [execSteps, answered] at computed
        exact .head (.call (sound answered)) (ih computed)

/-- A state in which a crash can leave a run and that passes a test. -/
theorem exists_reaches (sound : handler.Sound M) (steps : Nat) (p : Program I ε α) (state : σ)
    (check : σ → Bool)
    (computed : (match execSteps handler steps p state with
      | some (_, state') => check state'
      | none => false) = true) : ∃ state', Reaches M p state state' ∧ check state' = true := by
  split at computed
  · rename_i rest state' evaluated
    exact ⟨state', ⟨rest, execSteps_steps sound evaluated⟩, computed⟩
  · cases computed

/-- A call of a run whose states before and after pass a test, from an evaluation that says so. -/
theorem exists_step (sound : handler.Sound M) (steps : Nat) (p : Program I ε α) (state : σ)
    (check : σ → σ → Bool)
    (computed : (match execSteps handler steps p state with
      | some (.call request _, before) => match handler request before with
        | some (_, after) => check before after
        | none => false
      | _ => false) = true) :
    ∃ rest before rest' after, Relation.ReflTransGen (Step M) (p, state) (rest, before) ∧
      Step M (rest, before) (rest', after) ∧ check before after = true := by
  split at computed
  · rename_i request next before evaluated
    cases answered : handler request before with
    | none => simp [answered] at computed
    | some answer =>
      obtain ⟨reply, after⟩ := answer
      simp only [answered] at computed
      exact ⟨_, before, _, after, execSteps_steps sound evaluated, .call (sound answered), computed⟩
  · cases computed

/-! ## Deterministic calls -/

/-- What every call does, where it has only one answer. -/
abbrev Effect (I : Interface) (ε σ : Type) :=
  (request : I.Call) → σ → Except ε (I.Reply request) × σ

/-- The semantics in which every call has the answer of `effect`. -/
def deterministic (effect : Effect I ε σ) : Semantics I ε σ :=
  fun request state reply state' => (reply, state') = effect request state

variable {effect : Effect I ε σ}

theorem wp_call_deterministic {G : Guarantee I σ} {request : I.Call}
    {next : Except ε (I.Reply request) → Program I ε α} {Q : Except ε α → σ → Prop} {state : σ}
    (guarantee : G request state (effect request state).2)
    (rest : wp (deterministic effect) G (next (effect request state).1) Q
      (effect request state).2) : wp (deterministic effect) G (.call request next) Q state := by
  intro reply state' answer
  have replied : reply = (effect request state).1 := congrArg Prod.fst answer
  have left : state' = (effect request state).2 := congrArg Prod.snd answer
  rw [replied, left]
  exact ⟨guarantee, rest⟩

/-- A program of deterministic calls comes to an end. -/
theorem exists_runs_deterministic (p : Program I ε α) (state : σ) :
    ∃ result state', Runs (deterministic effect) p state result state' := by
  induction p generalizing state with
  | done result => exact ⟨result, state, runs_done.mpr ⟨rfl, rfl⟩⟩
  | call request next ih =>
    obtain ⟨result, state', run⟩ := ih (effect request state).1 (effect request state).2
    exact ⟨result, state', runs_call.mpr ⟨_, _, rfl, run⟩⟩

end Process
