import Mathlib.Logic.Basic
import Mathlib.Order.Basic

/-! # Loops

A loop runs its body until the body leaves it.  Whether it comes to an end is part of what is
proved about it: `Returns` only holds of a loop that does.
-/

namespace Process

/-- What one pass through the body of a loop does: go on with a new state, or leave. -/
inductive Pass (σ α : Type) where
  | again (state : σ)
  | leave (result : α)

namespace Loop

variable {σ α : Type} {body : σ → Pass σ α}

/-- The loop that starts in `state` comes to an end with the result. -/
inductive Returns (body : σ → Pass σ α) : σ → α → Prop
  | leave {state : σ} {result : α} (pass : body state = .leave result) :
      Returns body state result
  | again {state next : σ} {result : α} (pass : body state = .again next)
      (rest : Returns body next result) : Returns body state result

/-- The first passes of the loop, as far as the fuel reaches. -/
def run (body : σ → Pass σ α) : Nat → σ → Option α
  | 0, _ => none
  | fuel + 1, state => match body state with
    | .again next => run body fuel next
    | .leave result => some result

theorem returns_of_run : ∀ {fuel : Nat} {state : σ} {result : α},
    run body fuel state = some result → Returns body state result
  | 0, _, _, ran => by cases ran
  | fuel + 1, state, result, ran => by
    unfold run at ran
    cases pass : body state with
    | again next =>
      rw [pass] at ran
      exact .again pass (returns_of_run ran)
    | leave result' =>
      rw [pass] at ran
      cases ran
      exact .leave pass

theorem Returns.unique {state : σ} {first second : α} (returns : Returns body state first)
    (returns' : Returns body state second) : first = second := by
  induction returns with
  | leave pass =>
    cases returns' with
    | leave pass' => cases pass.symm.trans pass'; rfl
    | again pass' rest => cases pass.symm.trans pass'
  | again pass rest ih =>
    cases returns' with
    | leave pass' => cases pass.symm.trans pass'
    | again pass' rest' =>
      cases pass.symm.trans pass'
      exact ih rest'

/-- What a pass has to do: keep the invariant, or leave with the postcondition. -/
def PassKeeps (inv : σ → Prop) (Q : α → Prop) : Pass σ α → Prop
  | .again next => inv next
  | .leave result => Q result

theorem Returns.post {inv : σ → Prop} {Q : α → Prop}
    (keeps : ∀ state, inv state → PassKeeps inv Q (body state)) {state : σ} {result : α}
    (returns : Returns body state result) (first : inv state) : Q result := by
  induction returns with
  | leave pass => simpa only [PassKeeps, pass] using keeps _ first
  | again pass rest ih => exact ih (by simpa only [PassKeeps, pass] using keeps _ first)

/-- A loop whose variant decreases comes to an end. -/
theorem exists_returns {inv : σ → Prop} {Q : α → Prop} (variant : σ → Nat)
    (keeps : ∀ state, inv state →
      PassKeeps (fun next => inv next ∧ variant next < variant state) Q (body state))
    {state : σ} (first : inv state) : ∃ result, Returns body state result ∧ Q result := by
  induction below : variant state using Nat.strongRecOn generalizing state with
  | _ n ih =>
    have pass := keeps state first
    cases here : body state with
    | leave result =>
      rw [here] at pass
      exact ⟨result, .leave here, pass⟩
    | again next =>
      rw [here] at pass
      obtain ⟨result, returns, post⟩ := ih _ (below ▸ pass.2) pass.1 rfl
      exact ⟨result, .again here returns, post⟩

/-- A loop that never leaves does not come to an end. -/
theorem not_returns {inv : σ → Prop}
    (keeps : ∀ state, inv state → PassKeeps inv (fun _ => False) (body state)) {state : σ}
    (first : inv state) : ¬ ∃ result, Returns body state result :=
  fun ⟨_, returns⟩ => returns.post keeps first

end Loop

end Process
