import Mathlib.Logic.Relation

/-! # Programs as trees of calls

A program either has finished with a result or performs one call of its interface and goes
on with the reply.  The tree says nothing about what a call does: that is the business of a
semantics, so that the same program can be run without faults, with faults, interrupted by
a crash, or interleaved with other programs.
-/

namespace Process

/-- The calls a program may perform, each with the type of its reply. -/
structure Interface where
  Call : Type
  Reply : Call → Type

/-- A program over `I`: every call may be answered by a reply or by an error. -/
inductive Program (I : Interface) (ε α : Type) where
  | done (result : Except ε α)
  | call (request : I.Call) (next : Except ε (I.Reply request) → Program I ε α)

namespace Program

variable {I : Interface} {ε α β γ : Type}

/-- Sequencing: an error of the first program is the result of the whole. -/
def bind : Program I ε α → (α → Program I ε β) → Program I ε β
  | .done (.ok value), f => f value
  | .done (.error e), _ => .done (.error e)
  | .call request next, f => .call request fun reply => (next reply).bind f

instance : Monad (Program I ε) where
  pure value := .done (.ok value)
  bind := bind

def perform (request : I.Call) : Program I ε (I.Reply request) :=
  .call request .done

def throw (e : ε) : Program I ε α :=
  .done (.error e)

/-- Lift a computation without calls. -/
def ofExcept (result : Except ε α) : Program I ε α :=
  .done result

/-- Run a program and hand its result, error or not, to the rest. -/
def attempt : Program I ε α → Program I ε (Except ε α)
  | .done result => .done (.ok result)
  | .call request next => .call request fun reply => (next reply).attempt

def mapError (f : ε → ε) : Program I ε α → Program I ε α
  | .done (.ok value) => .done (.ok value)
  | .done (.error e) => .done (.error (f e))
  | .call request next => .call request fun reply => (next reply).mapError f

/-- A scope guard: when `body` fails, `cleanup` runs, its own errors are dropped, and the
error of `body` is the result. -/
def onError (body : Program I ε α) (cleanup : Program I ε Unit) : Program I ε α := do
  match ← body.attempt with
  | .ok value => pure value
  | .error e =>
    let _ ← cleanup.attempt
    throw e

/-- Run a program and drop its result, error or not. -/
def ignore (p : Program I ε α) : Program I ε Unit := do
  let _ ← p.attempt

/-- Run a program on every element and collect the results; the first error ends it. -/
def collect (f : β → Program I ε α) : List β → Program I ε (List α)
  | [] => pure []
  | x :: xs => do
    let value ← f x
    let values ← collect f xs
    pure (value :: values)

/-- Run a program on every element, each time with the result of the one before. -/
def fold (f : α → β → Program I ε α) : α → List β → Program I ε α
  | value, [] => pure value
  | value, x :: xs => do
    let value' ← f value x
    fold f value' xs

theorem pure_eq (value : α) : (pure value : Program I ε α) = .done (.ok value) := rfl

@[simp] theorem done_ok_bind (value : α) (f : α → Program I ε β) :
    (.done (.ok value) : Program I ε α) >>= f = f value := rfl

@[simp] theorem done_error_bind (e : ε) (f : α → Program I ε β) :
    (.done (.error e) : Program I ε α) >>= f = .done (.error e) := rfl

@[simp] theorem call_bind (request : I.Call) (next : Except ε (I.Reply request) → Program I ε α)
    (f : α → Program I ε β) :
    (.call request next : Program I ε α) >>= f = .call request fun reply => next reply >>= f := rfl

@[simp] theorem pure_bind (value : α) (f : α → Program I ε β) :
    (pure value : Program I ε α) >>= f = f value := rfl

@[simp] theorem bind_assoc (p : Program I ε α) (f : α → Program I ε β) (g : β → Program I ε γ) :
    (p >>= f) >>= g = p >>= fun value => f value >>= g := by
  induction p with
  | done result => cases result <;> rfl
  | call request next ih =>
    simp only [call_bind]
    congr 1
    funext reply
    exact ih reply

/-- Every call the program can perform, whatever the replies, satisfies `allowed`. -/
def Within (allowed : I.Call → Prop) : Program I ε α → Prop
  | .done _ => True
  | .call request next => allowed request ∧ ∀ reply, (next reply).Within allowed

section Within

variable {allowed : I.Call → Prop}

@[simp] theorem within_done (result : Except ε α) : (.done result : Program I ε α).Within allowed :=
  trivial

@[simp] theorem within_pure (value : α) : (pure value : Program I ε α).Within allowed := trivial

@[simp] theorem within_throw (e : ε) : (throw e : Program I ε α).Within allowed := trivial

@[simp] theorem within_ofExcept (result : Except ε α) :
    (ofExcept result : Program I ε α).Within allowed := trivial

@[simp] theorem within_perform (request : I.Call) :
    (perform request : Program I ε _).Within allowed ↔ allowed request := by
  simp [perform, Within]

theorem Within.perform {request : I.Call} (isAllowed : allowed request) :
    (.perform request : Program I ε _).Within allowed :=
  (within_perform request).mpr isAllowed

theorem Within.bind {p : Program I ε α} {f : α → Program I ε β} (first : p.Within allowed)
    (rest : ∀ value, (f value).Within allowed) : (p >>= f).Within allowed := by
  induction p with
  | done result =>
    cases result with
    | ok value => exact rest value
    | error e => trivial
  | call request next ih => exact ⟨first.1, fun reply => ih reply (first.2 reply)⟩

theorem Within.attempt {p : Program I ε α} (within : p.Within allowed) : p.attempt.Within allowed := by
  induction p with
  | done result => trivial
  | call request next ih => exact ⟨within.1, fun reply => ih reply (within.2 reply)⟩

theorem Within.mapError {p : Program I ε α} (within : p.Within allowed) (f : ε → ε) :
    (p.mapError f).Within allowed := by
  induction p with
  | done result => cases result <;> trivial
  | call request next ih => exact ⟨within.1, fun reply => ih reply (within.2 reply)⟩

theorem Within.ignore {p : Program I ε α} (within : p.Within allowed) : p.ignore.Within allowed :=
  within.attempt.bind fun _ => trivial

theorem Within.onError {p : Program I ε α} {cleanup : Program I ε Unit} (within : p.Within allowed)
    (cleanupWithin : cleanup.Within allowed) : (p.onError cleanup).Within allowed := by
  refine within.attempt.bind fun result => ?_
  cases result with
  | ok value => trivial
  | error e => exact cleanupWithin.attempt.bind fun _ => trivial

theorem Within.forM {xs : List β} {f : β → Program I ε PUnit}
    (within : ∀ x ∈ xs, (f x).Within allowed) : (xs.forM f).Within allowed := by
  induction xs with
  | nil => trivial
  | cons x xs ih =>
    exact (within x (by simp)).bind fun _ => ih fun y member => within y (by simp [member])

theorem Within.collect {xs : List β} {f : β → Program I ε α}
    (within : ∀ x ∈ xs, (f x).Within allowed) : (Program.collect f xs).Within allowed := by
  induction xs with
  | nil => trivial
  | cons x xs ih =>
    refine (within x (by simp)).bind fun value => ?_
    exact (ih fun y member => within y (by simp [member])).bind fun _ => trivial

theorem Within.and {other : I.Call → Prop} {p : Program I ε α} (within : p.Within allowed)
    (within' : p.Within other) : p.Within fun request => allowed request ∧ other request := by
  induction p with
  | done result => trivial
  | call request next ih => exact ⟨⟨within.1, within'.1⟩, fun reply => ih reply (within.2 reply) (within'.2 reply)⟩

theorem Within.mono {other : I.Call → Prop} {p : Program I ε α} (within : p.Within allowed)
    (implies : ∀ request, allowed request → other request) : p.Within other := by
  induction p with
  | done result => trivial
  | call request next ih => exact ⟨implies _ within.1, fun reply => ih reply (within.2 reply)⟩

end Within

/-- Every result of the program, whatever the replies, satisfies `R`. -/
def Yields (R : α → Prop) : Program I ε α → Prop
  | .done (.ok value) => R value
  | .done (.error _) => True
  | .call _ next => ∀ reply, (next reply).Yields R

section Yields

variable {R : α → Prop} {allowed : I.Call → Prop} {p : Program I ε α}

theorem yields_ofExcept {result : Except ε α} (holds : ∀ value, result = .ok value → R value) :
    (ofExcept result : Program I ε α).Yields R := by
  cases result with
  | ok value => exact holds value rfl
  | error e => trivial

theorem Yields.bind {S : β → Prop} {f : α → Program I ε β} (yields : p.Yields R)
    (rest : ∀ value, R value → (f value).Yields S) : (p >>= f).Yields S := by
  induction p with
  | done result =>
    cases result with
    | ok value => exact rest value yields
    | error e => trivial
  | call request next ih => exact fun reply => ih reply (yields reply)

theorem Yields.mono {S : α → Prop} (yields : p.Yields R) (implies : ∀ value, R value → S value) :
    p.Yields S := by
  induction p with
  | done result =>
    cases result with
    | ok value => exact implies value yields
    | error e => trivial
  | call request next ih => exact fun reply => ih reply (yields reply)

theorem yields_of_forall (holds : ∀ value, R value) (p : Program I ε α) : p.Yields R := by
  induction p with
  | done result =>
    cases result with
    | ok value => exact holds value
    | error e => trivial
  | call request next ih => exact ih

theorem yields_trivial (p : Program I ε α) : p.Yields fun _ => True :=
  yields_of_forall (fun _ => trivial) p

theorem Yields.attempt {S : Except ε α → Prop} (yields : p.Yields R)
    (ok : ∀ value, R value → S (.ok value)) (error : ∀ e, S (.error e)) : p.attempt.Yields S := by
  induction p with
  | done result =>
    cases result with
    | ok value => exact ok value yields
    | error e => exact error e
  | call request next ih => exact fun reply => ih reply (yields reply)

theorem Yields.mapError (yields : p.Yields R) (f : ε → ε) : (p.mapError f).Yields R := by
  induction p with
  | done result => cases result <;> exact yields
  | call request next ih => exact fun reply => ih reply (yields reply)

theorem Yields.onError {cleanup : Program I ε Unit} (yields : p.Yields R) :
    (p.onError cleanup).Yields R := by
  refine (yields.attempt (S := fun result => ∀ value, result = .ok value → R value) ?_ ?_).bind ?_
  · rintro value holds _ ⟨⟩
    exact holds
  · rintro e _ ⟨⟩
  · intro result holds
    cases result with
    | ok value => exact holds value rfl
    | error e => exact (yields_trivial _).bind fun _ _ => trivial

theorem yields_collect (f : β → Program I ε α) (xs : List β) :
    (collect f xs).Yields fun values => values.length = xs.length := by
  induction xs with
  | nil => exact rfl
  | cons x xs ih =>
    refine (yields_trivial (f x)).bind fun value _ => ih.bind fun values length => ?_
    change (value :: values).length = (x :: xs).length
    rw [List.length_cons, List.length_cons, length]

/-- Sequencing, with what is known of the first result. -/
theorem Within.bind_of_yields {f : α → Program I ε β} (first : p.Within allowed)
    (yields : p.Yields R) (rest : ∀ value, R value → (f value).Within allowed) :
    (p >>= f).Within allowed := by
  induction p with
  | done result =>
    cases result with
    | ok value => exact rest value yields
    | error e => trivial
  | call request next ih => exact ⟨first.1, fun reply => ih reply (first.2 reply) (yields reply)⟩

end Yields

/-- The program ends without an error, unless it makes a call in `dead`. -/
def Succeeds (dead : I.Call → Prop) : Program I ε α → Prop
  | .done (.ok _) => True
  | .done (.error _) => False
  | .call request next => ¬ dead request → ∀ reply, (next reply).Succeeds dead

section Succeeds

variable {dead : I.Call → Prop}

theorem Succeeds.bind {p : Program I ε α} {f : α → Program I ε β} (first : p.Succeeds dead)
    (rest : ∀ value, (f value).Succeeds dead) : (p >>= f).Succeeds dead := by
  induction p with
  | done result =>
    cases result with
    | ok value => exact rest value
    | error e => exact first.elim
  | call request next ih => exact fun alive reply => ih reply (first alive reply)

theorem succeeds_attempt (p : Program I ε α) : p.attempt.Succeeds dead := by
  induction p with
  | done result => trivial
  | call request next ih => exact fun _ reply => ih reply

theorem succeeds_ignore (p : Program I ε α) : p.ignore.Succeeds dead :=
  (succeeds_attempt p).bind fun _ => trivial

theorem Succeeds.forM {xs : List β} {f : β → Program I ε PUnit}
    (each : ∀ x ∈ xs, (f x).Succeeds dead) : (xs.forM f).Succeeds dead := by
  induction xs with
  | nil => trivial
  | cons x xs ih =>
    exact (each x (by simp)).bind fun _ => ih fun y member => each y (by simp [member])

end Succeeds

end Program

end Process
