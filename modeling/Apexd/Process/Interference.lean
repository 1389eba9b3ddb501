import Apexd.Process.Semantics

/-! # Programs among others

`wpUnder M G interferes p Q s` is the proof rule for a program that others interrupt: between two
of its calls the state changes in any number of steps that `interferes` allows.  Without
interference it is `wp`.
-/

namespace Process

open Relation (ReflTransGen)

variable {I : Interface} {ε σ α β : Type}

/-- From `state`, however others interfere, every call of `p` satisfies `G`, and `Q` holds of
every result and goes on to hold. -/
def wpUnder (M : Semantics I ε σ) (G : Guarantee I σ) (interferes : σ → σ → Prop) :
    Program I ε α → (Except ε α → σ → Prop) → σ → Prop
  | .done result, Q, state => ∀ state', ReflTransGen interferes state state' → Q result state'
  | .call request next, Q, state => ∀ before, ReflTransGen interferes state before →
      ∀ reply after, M request before reply after →
        G request before after ∧ wpUnder M G interferes (next reply) Q after

variable {M : Semantics I ε σ} {G : Guarantee I σ} {interferes : σ → σ → Prop} {state : σ}

/-- Interference before the program starts does no harm. -/
theorem wpUnder_stable {p : Program I ε α} {Q : Except ε α → σ → Prop} {state' : σ}
    (holds : wpUnder M G interferes p Q state) (steps : ReflTransGen interferes state state') :
    wpUnder M G interferes p Q state' := by
  cases p with
  | done result => exact fun last more => holds last (steps.trans more)
  | call request next => exact fun before more => holds before (steps.trans more)

theorem wpUnder_mono {p : Program I ε α} {Q R : Except ε α → σ → Prop}
    (holds : wpUnder M G interferes p Q state)
    (implies : ∀ result state', Q result state' → R result state') :
    wpUnder M G interferes p R state := by
  induction p generalizing state with
  | done result => exact fun state' steps => implies _ _ (holds state' steps)
  | call request next ih =>
    intro before steps reply after answer
    obtain ⟨guarantee, later⟩ := holds before steps reply after answer
    exact ⟨guarantee, ih reply later⟩

/-- The rule of sequencing. -/
theorem wpUnder_bind {p : Program I ε α} {f : α → Program I ε β} {Q : Except ε β → σ → Prop}
    (holds : wpUnder M G interferes p (fun result state' => match result with
      | .ok value => wpUnder M G interferes (f value) Q state'
      | .error e => Q (.error e) state') state) :
    wpUnder M G interferes (p >>= f) Q state := by
  induction p generalizing state with
  | done result =>
    cases result with
    | ok value => exact holds state .refl
    | error e => exact holds
  | call request next ih =>
    rw [Program.call_bind]
    intro before steps reply after answer
    obtain ⟨guarantee, later⟩ := holds before steps reply after answer
    exact ⟨guarantee, ih reply later⟩

theorem wpUnder_attempt {p : Program I ε α} {Q : Except ε (Except ε α) → σ → Prop}
    (holds : wpUnder M G interferes p (fun result => Q (.ok result)) state) :
    wpUnder M G interferes p.attempt Q state := by
  induction p generalizing state with
  | done result => exact holds
  | call request next ih =>
    intro before steps reply after answer
    obtain ⟨guarantee, later⟩ := holds before steps reply after answer
    exact ⟨guarantee, ih reply later⟩

theorem wpUnder_mapError {p : Program I ε α} {f : ε → ε} {Q : Except ε α → σ → Prop}
    (holds : wpUnder M G interferes p (fun result => Q (result.mapError f)) state) :
    wpUnder M G interferes (p.mapError f) Q state := by
  induction p generalizing state with
  | done result => cases result <;> exact holds
  | call request next ih =>
    intro before steps reply after answer
    obtain ⟨guarantee, later⟩ := holds before steps reply after answer
    exact ⟨guarantee, ih reply later⟩

/-- What the interference does not invalidate holds when a program comes to its end. -/
theorem wpUnder_done_stable {result : Except ε α} {Q : Except ε α → σ → Prop} {P : σ → Prop}
    (stable : ∀ state state', interferes state state' → P state → P state') (holds : P state)
    (post : ∀ state', P state' → Q result state') : wpUnder M G interferes (.done result) Q state := by
  intro state' steps
  refine post state' ?_
  induction steps with
  | refl => exact holds
  | tail _ step ih => exact stable _ _ step ih

/-- What the interference does not invalidate holds when a program makes its next call. -/
theorem wpUnder_call_stable {request : I.Call} {next : Except ε (I.Reply request) → Program I ε α}
    {Q : Except ε α → σ → Prop} {P : σ → Prop}
    (stable : ∀ state state', interferes state state' → P state → P state') (holds : P state)
    (post : ∀ before reply after, P before → M request before reply after →
      G request before after ∧ wpUnder M G interferes (next reply) Q after) :
    wpUnder M G interferes (.call request next) Q state := by
  intro before steps reply after answer
  have reached : P before := by
    clear answer
    induction steps with
    | refl => exact holds
    | tail _ step ih => exact stable _ _ step ih
  exact post before reply after reached answer

/-- The rule of folding: `inv done value state` holds after the elements of `done`. -/
theorem wpUnder_fold {xs : List β} {f : α → β → Program I ε α} {first : α}
    {Q : Except ε α → σ → Prop} (inv : List β → α → σ → Prop) (start : inv [] first state)
    (body : ∀ before x after value state', xs = before ++ x :: after → inv before value state' →
      wpUnder M G interferes (f value x) (fun result last => match result with
        | .ok value' => inv (before ++ [x]) value' last
        | .error e => Q (.error e) last) state')
    (finish : ∀ value state', inv xs value state' →
      wpUnder M G interferes (.done (.ok value)) Q state') :
    wpUnder M G interferes (Program.fold f first xs) Q state := by
  suffices general : ∀ rest before value state', xs = before ++ rest → inv before value state' →
      wpUnder M G interferes (Program.fold f value rest) Q state' from
    general xs [] first state rfl start
  intro rest
  induction rest with
  | nil =>
    intro before value state' split holds
    rw [List.append_nil] at split
    subst split
    exact finish value state' holds
  | cons x rest ih =>
    intro before value state' split holds
    rw [Program.fold]
    refine wpUnder_bind (wpUnder_mono (body before x rest value state' split holds) ?_)
    intro result last post
    cases result with
    | error e => exact post
    | ok value' => exact ih (before ++ [x]) value' last (by rw [split, List.append_assoc]; rfl) post

/-- A step of the program itself. -/
theorem wpUnder_step {p rest : Program I ε α} {Q : Except ε α → σ → Prop} {state' : σ}
    (holds : wpUnder M G interferes p Q state) (step : Step M (p, state) (rest, state')) :
    G.Change state state' ∧ wpUnder M G interferes rest Q state' := by
  cases step with
  | call answer => exact ⟨⟨_, (holds _ .refl _ _ answer).1⟩, (holds _ .refl _ _ answer).2⟩

end Process
