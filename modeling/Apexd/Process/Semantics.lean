import Mathlib.Data.List.Forall2
import Apexd.Process.Program

/-! # Meaning of programs

A semantics relates a call and the state before it to the reply and the state after it; it
need not be a function, so that an unspecified order of a directory listing or an injected
fault is one more reply.  `Step` runs a program call by call, `Runs` runs it to its end and
`Reaches` stops it anywhere, as a crash does.

`wp M G p Q s` is the proof rule: from `s` every call of `p` is one that the guarantee `G`
allows, in the state before and with the state after it, and `Q` holds of every result.
`wp_runs` and `wp_reaches` read it back as facts about runs.
-/

namespace Process

open Relation (ReflTransGen)

/-- What a call does: its reply and the state after it, for each state before it. -/
abbrev Semantics (I : Interface) (ε σ : Type) :=
  (request : I.Call) → σ → Except ε (I.Reply request) → σ → Prop

variable {I : Interface} {ε σ α β : Type}

/-- One call of a program. -/
inductive Step (M : Semantics I ε σ) : Program I ε α × σ → Program I ε α × σ → Prop
  | call {request : I.Call} {next : Except ε (I.Reply request) → Program I ε α} {state state' : σ}
      {reply : Except ε (I.Reply request)} (answer : M request state reply state') :
      Step M (.call request next, state) (next reply, state')

/-- The program runs from `state` to its end with the given result. -/
def Runs (M : Semantics I ε σ) (p : Program I ε α) (state : σ) (result : Except ε α)
    (state' : σ) : Prop :=
  ReflTransGen (Step M) (p, state) (.done result, state')

/-- The program, started in `state`, is in `state'` at some moment of its run. -/
def Reaches (M : Semantics I ε σ) (p : Program I ε α) (state state' : σ) : Prop :=
  ∃ rest, ReflTransGen (Step M) (p, state) (rest, state')

/-! ## Runs -/

/-- What every call promises: which call it is, the state before and the state after. -/
abbrev Guarantee (I : Interface) (σ : Type) := I.Call → σ → σ → Prop

/-- A change of the state that some call with the guarantee makes. -/
def Guarantee.Change (G : Guarantee I σ) (state state' : σ) : Prop :=
  ∃ request, G request state state'

variable {M : Semantics I ε σ} {G : Guarantee I σ}

theorem not_step_done {result : Except ε α} {state : σ} {config : Program I ε α × σ} :
    ¬ Step M (.done result, state) config := by
  intro step
  cases step

@[simp] theorem runs_done {result result' : Except ε α} {state state' : σ} :
    Runs M (.done result) state result' state' ↔ result' = result ∧ state' = state := by
  constructor
  · intro run
    rcases run.cases_head with equal | ⟨_, step, _⟩
    · cases equal
      exact ⟨rfl, rfl⟩
    · exact absurd step not_step_done
  · rintro ⟨rfl, rfl⟩
    exact .refl

theorem runs_call {request : I.Call} {next : Except ε (I.Reply request) → Program I ε α}
    {state state' : σ} {result : Except ε α} :
    Runs M (.call request next) state result state' ↔
      ∃ reply middle, M request state reply middle ∧ Runs M (next reply) middle result state' := by
  constructor
  · intro run
    rcases run.cases_head with equal | ⟨_, step, rest⟩
    · cases equal
    · cases step with
      | call answer => exact ⟨_, _, answer, rest⟩
  · rintro ⟨reply, middle, answer, rest⟩
    exact .head (.call answer) rest

theorem Runs.reaches {p : Program I ε α} {state state' : σ} {result : Except ε α}
    (run : Runs M p state result state') : Reaches M p state state' :=
  ⟨_, run⟩

theorem Reaches.refl (p : Program I ε α) (state : σ) : Reaches M p state state :=
  ⟨p, .refl⟩

@[simp] theorem reaches_done {result : Except ε α} {state state' : σ} :
    Reaches M (.done result) state state' ↔ state' = state := by
  constructor
  · rintro ⟨rest, steps⟩
    rcases steps.cases_head with equal | ⟨_, step, _⟩
    · cases equal
      rfl
    · exact absurd step not_step_done
  · rintro rfl
    exact .refl _ _

theorem reaches_call {request : I.Call} {next : Except ε (I.Reply request) → Program I ε α}
    {state state' : σ} :
    Reaches M (.call request next) state state' ↔ state' = state ∨
      ∃ reply middle, M request state reply middle ∧ Reaches M (next reply) middle state' := by
  constructor
  · rintro ⟨rest, steps⟩
    rcases steps.cases_head with equal | ⟨_, step, later⟩
    · cases equal
      exact .inl rfl
    · cases step with
      | call answer => exact .inr ⟨_, _, answer, rest, later⟩
  · rintro (rfl | ⟨reply, middle, answer, rest, later⟩)
    · exact .refl _ _
    · exact ⟨rest, .head (.call answer) later⟩

@[simp] theorem reaches_mapError {p : Program I ε α} {f : ε → ε} {state state' : σ} :
    Reaches M (p.mapError f) state state' ↔ Reaches M p state state' := by
  induction p generalizing state with
  | done result => cases result <;> simp [Program.mapError]
  | call request next ih => simp only [Program.mapError, reaches_call, ih]

/-- A program tree is finite, so it comes to an end where each of its calls has an answer. -/
theorem Program.Within.exists_runs {allowed : I.Call → Prop} {p : Program I ε α}
    (within : p.Within allowed)
    (answered : ∀ request, allowed request → ∀ state, ∃ reply state', M request state reply state')
    (state : σ) : ∃ result state', Runs M p state result state' := by
  induction p generalizing state with
  | done result => exact ⟨result, state, runs_done.mpr ⟨rfl, rfl⟩⟩
  | call request next ih =>
    obtain ⟨reply, middle, answer⟩ := answered request within.1 state
    obtain ⟨result, state', run⟩ := ih reply (within.2 reply) middle
    exact ⟨result, state', runs_call.mpr ⟨reply, middle, answer, run⟩⟩

theorem runs_bind {p : Program I ε α} {f : α → Program I ε β} {state state' : σ}
    {result : Except ε β} :
    Runs M (p >>= f) state result state' ↔ ∃ first middle, Runs M p state first middle ∧
      match first with
      | .ok value => Runs M (f value) middle result state'
      | .error e => result = .error e ∧ state' = middle := by
  induction p generalizing state with
  | done first =>
    cases first with
    | ok value =>
      constructor
      · intro run
        exact ⟨.ok value, state, runs_done.mpr ⟨rfl, rfl⟩, run⟩
      · rintro ⟨first, middle, run, rest⟩
        obtain ⟨rfl, rfl⟩ := runs_done.mp run
        exact rest
    | error e =>
      simp only [Program.done_error_bind, runs_done]
      constructor
      · rintro ⟨rfl, rfl⟩
        exact ⟨_, _, ⟨rfl, rfl⟩, rfl, rfl⟩
      · rintro ⟨first, middle, ⟨rfl, rfl⟩, rest⟩
        exact rest
  | call request next ih =>
    simp only [Program.call_bind, runs_call, ih]
    constructor
    · rintro ⟨reply, middle, answer, first, last, run, rest⟩
      exact ⟨first, last, ⟨reply, middle, answer, run⟩, rest⟩
    · rintro ⟨first, last, ⟨reply, middle, answer, run⟩, rest⟩
      exact ⟨reply, middle, answer, first, last, run, rest⟩

theorem Runs.bind {p : Program I ε α} {f : α → Program I ε β} {value : α} {state middle state' : σ}
    {result : Except ε β} (first : Runs M p state (.ok value) middle)
    (rest : Runs M (f value) middle result state') : Runs M (p >>= f) state result state' :=
  runs_bind.mpr ⟨.ok value, middle, first, rest⟩

theorem runs_attempt {p : Program I ε α} {state state' : σ} {result : Except ε (Except ε α)} :
    Runs M p.attempt state result state' ↔
      ∃ first, Runs M p state first state' ∧ result = .ok first := by
  induction p generalizing state with
  | done first =>
    simp only [Program.attempt, runs_done]
    exact ⟨fun ⟨same, unchanged⟩ => ⟨first, ⟨rfl, unchanged⟩, same⟩,
      fun ⟨_, ⟨rfl, unchanged⟩, same⟩ => ⟨same, unchanged⟩⟩
  | call request next ih =>
    simp only [Program.attempt, runs_call, ih]
    exact ⟨fun ⟨reply, middle, answer, first, run, same⟩ => ⟨first, ⟨reply, middle, answer, run⟩, same⟩,
      fun ⟨first, ⟨reply, middle, answer, run⟩, same⟩ => ⟨reply, middle, answer, first, run, same⟩⟩

/-- What a program yields holds of what its runs return. -/
theorem runs_ignore {p : Program I ε α} {state state' : σ} {result : Except ε Unit} :
    Runs M p.ignore state result state' ↔ result = .ok () ∧ ∃ first, Runs M p state first state' := by
  rw [Program.ignore, runs_bind]
  constructor
  · rintro ⟨first, middle, attempted, rest⟩
    obtain ⟨result', run, rfl⟩ := runs_attempt.mp attempted
    obtain ⟨rfl, rfl⟩ := runs_done.mp rest
    exact ⟨rfl, result', run⟩
  · rintro ⟨rfl, first, run⟩
    exact ⟨.ok first, state', runs_attempt.mpr ⟨first, run, rfl⟩, runs_done.mpr ⟨rfl, rfl⟩⟩

theorem runs_onError_error {p : Program I ε α} {cleanup : Program I ε Unit} {state state' : σ}
    {e : ε} :
    Runs M (p.onError cleanup) state (.error e) state' ↔
      ∃ middle, Runs M p state (.error e) middle ∧ ∃ result, Runs M cleanup middle result state' := by
  rw [Program.onError, runs_bind]
  constructor
  · rintro ⟨first, middle, attempted, rest⟩
    obtain ⟨result, run, rfl⟩ := runs_attempt.mp attempted
    cases result with
    | ok value => cases (runs_done.mp rest).1
    | error e' =>
      obtain ⟨_, middle', cleaned, rest'⟩ := runs_bind.mp rest
      obtain ⟨result', cleanupRun, rfl⟩ := runs_attempt.mp cleaned
      obtain ⟨same, rfl⟩ := runs_done.mp rest'
      cases same
      exact ⟨middle, run, result', cleanupRun⟩
  · rintro ⟨middle, run, result, cleanupRun⟩
    refine ⟨.ok (.error e), middle, runs_attempt.mpr ⟨_, run, rfl⟩, ?_⟩
    exact runs_bind.mpr ⟨.ok result, state', runs_attempt.mpr ⟨_, cleanupRun, rfl⟩, runs_done.mpr ⟨rfl, rfl⟩⟩

/-- Semantics that agree on the calls a program can make run it in the same way. -/
theorem Runs.of_agree {M' : Semantics I ε σ} {allowed : I.Call → Prop} {p : Program I ε α}
    {state state' : σ} {result : Except ε α} (run : Runs M p state result state')
    (within : p.Within allowed) (agree : ∀ request, allowed request → ∀ state reply state',
      M request state reply state' → M' request state reply state') : Runs M' p state result state' := by
  induction p generalizing state with
  | done first => exact runs_done.mpr (runs_done.mp run)
  | call request next ih =>
    obtain ⟨reply, middle, answer, rest⟩ := runs_call.mp run
    exact runs_call.mpr ⟨reply, middle, agree request within.1 _ _ _ answer,
      ih reply rest (within.2 reply)⟩

theorem Runs.yields {R : α → Prop} {p : Program I ε α} {state state' : σ} {value : α}
    (run : Runs M p state (.ok value) state') (yields : p.Yields R) : R value := by
  induction p generalizing state with
  | done result =>
    obtain ⟨rfl, _⟩ := runs_done.mp run
    exact yields
  | call request next ih =>
    obtain ⟨reply, _, _, rest⟩ := runs_call.mp run
    exact ih reply rest (yields reply)

/-! ## The proof rule -/

/-- From `state`, every call of `p` satisfies `G` and `Q` holds of every result. -/
def wp (M : Semantics I ε σ) (G : Guarantee I σ) :
    Program I ε α → (Except ε α → σ → Prop) → σ → Prop
  | .done result, Q, state => Q result state
  | .call request next, Q, state => ∀ reply state', M request state reply state' →
      G request state state' ∧ wp M G (next reply) Q state'

/-- No restriction on the calls. -/
abbrev Anything : Guarantee I σ := fun _ _ _ => True

@[simp] theorem wp_done (result : Except ε α) (Q : Except ε α → σ → Prop) (state : σ) :
    wp M G (.done result) Q state = Q result state := rfl

@[simp] theorem wp_pure (value : α) (Q : Except ε α → σ → Prop) (state : σ) :
    wp M G (pure value) Q state = Q (.ok value) state := rfl

@[simp] theorem wp_throw (e : ε) (Q : Except ε α → σ → Prop) (state : σ) :
    wp M G (.throw e) Q state = Q (.error e) state := rfl

@[simp] theorem wp_ofExcept (result : Except ε α) (Q : Except ε α → σ → Prop) (state : σ) :
    wp M G (.ofExcept result) Q state = Q result state := rfl

theorem wp_mono {p : Program I ε α} {Q R : Except ε α → σ → Prop} {state : σ}
    (holds : wp M G p Q state) (implies : ∀ result state', Q result state' → R result state') :
    wp M G p R state := by
  induction p generalizing state with
  | done result => exact implies _ _ holds
  | call request next ih =>
    intro reply state' answer
    exact ⟨(holds reply state' answer).1, ih reply (holds reply state' answer).2⟩

/-- The rule of sequencing. -/
theorem wp_bind (p : Program I ε α) (f : α → Program I ε β) (Q : Except ε β → σ → Prop)
    (state : σ) :
    wp M G (p >>= f) Q state = wp M G p (fun result state' => match result with
      | .ok value => wp M G (f value) Q state'
      | .error e => Q (.error e) state') state := by
  induction p generalizing state with
  | done result => cases result <;> rfl
  | call request next ih => simp only [Program.call_bind, wp, ih]

theorem wp_attempt (p : Program I ε α) (Q : Except ε (Except ε α) → σ → Prop) (state : σ) :
    wp M G p.attempt Q state = wp M G p (fun result => Q (.ok result)) state := by
  induction p generalizing state with
  | done result => rfl
  | call request next ih => simp only [Program.attempt, wp, ih]

theorem wp_mapError (p : Program I ε α) (f : ε → ε) (Q : Except ε α → σ → Prop) (state : σ) :
    wp M G (p.mapError f) Q state = wp M G p (fun result => Q (result.mapError f)) state := by
  induction p generalizing state with
  | done result => cases result <;> rfl
  | call request next ih => simp only [Program.mapError, wp, ih]

theorem wp_ignore (p : Program I ε α) (Q : Except ε Unit → σ → Prop) (state : σ) :
    wp M G p.ignore Q state = wp M G p (fun _ => Q (.ok ())) state := by
  rw [Program.ignore, wp_bind, wp_attempt]
  rfl

theorem wp_onError (p : Program I ε α) (cleanup : Program I ε Unit) (Q : Except ε α → σ → Prop)
    (state : σ) :
    wp M G (p.onError cleanup) Q state = wp M G p (fun result state' => match result with
      | .ok value => Q (.ok value) state'
      | .error e => wp M G cleanup (fun _ => Q (.error e)) state') state := by
  rw [Program.onError, wp_bind, wp_attempt]
  congr 1
  funext result state'
  cases result with
  | ok value => rfl
  | error e =>
    change wp M G (cleanup.attempt >>= fun _ => .throw e) Q state' = _
    rw [wp_bind, wp_attempt]
    rfl

/-- The rule of iteration: `inv done state` holds after the elements of `done`, and an error
of the body ends the loop. -/
theorem wp_forM {xs : List β} {f : β → Program I ε PUnit} {Q : Except ε PUnit → σ → Prop}
    (inv : List β → σ → Prop) {state : σ} (start : inv [] state)
    (body : ∀ before x after state', xs = before ++ x :: after → inv before state' →
      wp M G (f x) (fun result last => match result with
        | .ok _ => inv (before ++ [x]) last
        | .error e => Q (.error e) last) state')
    (finish : ∀ state', inv xs state' → Q (.ok ()) state') :
    wp M G (xs.forM f) Q state := by
  suffices general : ∀ rest before state', xs = before ++ rest → inv before state' →
      wp M G (rest.forM f) Q state' from general xs [] state rfl start
  intro rest
  induction rest with
  | nil =>
    intro before state' split holds
    rw [List.append_nil] at split
    subst split
    exact finish state' holds
  | cons x rest ih =>
    intro before state' split holds
    change wp M G (f x >>= fun _ => rest.forM f) Q state'
    rw [wp_bind]
    refine wp_mono (body before x rest state' split holds) ?_
    intro result last post
    cases result with
    | error e => exact post
    | ok _ => exact ih (before ++ [x]) last (by rw [split, List.append_assoc]; rfl) post

/-- The rule of collection: `inv done values state` holds after the elements of `done`. -/
theorem wp_collect {xs : List β} {f : β → Program I ε α} {Q : Except ε (List α) → σ → Prop}
    (inv : List β → List α → σ → Prop) {state : σ} (start : inv [] [] state)
    (body : ∀ before x after values state', xs = before ++ x :: after → inv before values state' →
      wp M G (f x) (fun result last => match result with
        | .ok value => inv (before ++ [x]) (values ++ [value]) last
        | .error e => Q (.error e) last) state')
    (finish : ∀ values state', inv xs values state' → Q (.ok values) state') :
    wp M G (Program.collect f xs) Q state := by
  suffices general : ∀ rest before values state', xs = before ++ rest →
      inv before values state' →
      wp M G (Program.collect f rest) (fun result last => match result with
        | .ok more => Q (.ok (values ++ more)) last
        | .error e => Q (.error e) last) state' by
    refine wp_mono (general xs [] [] state rfl start) ?_
    intro result last post
    cases result <;> exact post
  intro rest
  induction rest with
  | nil =>
    intro before values state' split holds
    rw [List.append_nil] at split
    subst split
    rw [Program.collect, wp_pure]
    dsimp only
    rw [List.append_nil]
    exact finish values state' holds
  | cons x rest ih =>
    intro before values state' split holds
    rw [Program.collect, wp_bind]
    refine wp_mono (body before x rest values state' split holds) ?_
    intro result middle post
    cases result with
    | error e => exact post
    | ok value =>
      dsimp only at post ⊢
      rw [wp_bind]
      have later := ih (before ++ [x]) (values ++ [value]) middle
        (by rw [split, List.append_assoc]; rfl) post
      refine wp_mono later ?_
      intro result last post
      cases result with
      | error e => exact post
      | ok more =>
        dsimp only at post
        rw [List.append_assoc] at post
        exact post

/-- The rule of folding: `inv done value state` holds after the elements of `done`. -/
theorem wp_fold {xs : List β} {f : α → β → Program I ε α} {first : α}
    {Q : Except ε α → σ → Prop} (inv : List β → α → σ → Prop) {state : σ}
    (start : inv [] first state)
    (body : ∀ before x after value state', xs = before ++ x :: after → inv before value state' →
      wp M G (f value x) (fun result last => match result with
        | .ok value' => inv (before ++ [x]) value' last
        | .error e => Q (.error e) last) state')
    (finish : ∀ value state', inv xs value state' → Q (.ok value) state') :
    wp M G (Program.fold f first xs) Q state := by
  suffices general : ∀ rest before value state', xs = before ++ rest → inv before value state' →
      wp M G (Program.fold f value rest) Q state' from general xs [] first state rfl start
  intro rest
  induction rest with
  | nil =>
    intro before value state' split holds
    rw [List.append_nil] at split
    subst split
    exact finish value state' holds
  | cons x rest ih =>
    intro before value state' split holds
    rw [Program.fold, wp_bind]
    refine wp_mono (body before x rest value state' split holds) ?_
    intro result last post
    cases result with
    | error e => exact post
    | ok value' => exact ih (before ++ [x]) value' last (by rw [split, List.append_assoc]; rfl) post

theorem wp_and {p : Program I ε α} {Q R : Except ε α → σ → Prop} {state : σ}
    (left : wp M G p Q state) (right : wp M G p R state) :
    wp M G p (fun result state' => Q result state' ∧ R result state') state := by
  induction p generalizing state with
  | done result => exact ⟨left, right⟩
  | call request next ih =>
    intro reply state' answer
    exact ⟨(left reply state' answer).1,
      ih reply (left reply state' answer).2 (right reply state' answer).2⟩

/-- A postcondition that was shown without a guarantee. -/
theorem wp_and_anything {p : Program I ε α} {Q R : Except ε α → σ → Prop} {state : σ}
    (left : wp M Anything p Q state) (right : wp M G p R state) :
    wp M G p (fun result state' => Q result state' ∧ R result state') state := by
  induction p generalizing state with
  | done result => exact ⟨left, right⟩
  | call request next ih =>
    intro reply state' answer
    exact ⟨(right reply state' answer).1,
      ih reply (left reply state' answer).2 (right reply state' answer).2⟩

/-- What the program says about its results, added to the postcondition. -/
theorem wp_yields {p : Program I ε α} {R : α → Prop} {Q : Except ε α → σ → Prop} {state : σ}
    (yields : p.Yields R) (holds : wp M G p Q state) :
    wp M G p (fun result state' => Q result state' ∧ ∀ value, result = .ok value → R value)
      state := by
  induction p generalizing state with
  | done result =>
    refine ⟨holds, ?_⟩
    rintro value rfl
    exact yields
  | call request next ih =>
    intro reply state' answer
    exact ⟨(holds reply state' answer).1, ih reply (yields reply) (holds reply state' answer).2⟩

/-- A program that succeeds, where the calls in `dead` end the process. -/
theorem wp_succeeds {dead : I.Call → Prop} {p : Program I ε α} {Q : Except ε α → σ → Prop}
    {state : σ} (ends : ∀ request, dead request → ∀ state reply state', ¬ M request state reply state')
    (succeeds : p.Succeeds dead) (holds : wp M G p Q state) :
    wp M G p (fun result state' => Q result state' ∧ ∃ value, result = .ok value) state := by
  induction p generalizing state with
  | done result =>
    cases result with
    | ok value => exact ⟨holds, value, rfl⟩
    | error e => exact succeeds.elim
  | call request next ih =>
    intro reply state' answer
    have alive : ¬ dead request := fun isDead => ends request isDead _ _ _ answer
    exact ⟨(holds reply state' answer).1, ih reply (succeeds alive reply) (holds reply state' answer).2⟩

theorem wp_anything (p : Program I ε α) (state : σ) :
    wp M Anything p (fun _ _ => True) state := by
  induction p generalizing state with
  | done result => trivial
  | call request next ih => exact fun reply state' _ => ⟨trivial, ih reply state'⟩

/-! ## Programs that only compute -/

/-- Where the program comes to an end in `state`, it does so with `result` and has changed nothing. -/
def Computes (M : Semantics I ε σ) (G : Guarantee I σ) (p : Program I ε α) (result : Except ε α)
    (state : σ) : Prop :=
  ∀ Q : Except ε α → σ → Prop, Q result state → wp M G p Q state

theorem computes_ofExcept (result : Except ε α) (state : σ) :
    Computes M G (.ofExcept result) result state :=
  fun _ post => post

theorem Computes.bind {p : Program I ε α} {f : α → Program I ε β} {result : Except ε α}
    {g : α → Except ε β} {state : σ} (first : Computes M G p result state)
    (rest : ∀ value, result = .ok value → Computes M G (f value) (g value) state) :
    Computes M G (p >>= f) (result >>= g) state := by
  intro Q post
  rw [wp_bind]
  apply first
  cases result with
  | error e => exact post
  | ok value => exact rest value rfl Q post

/-- The results of a computation on every element, up to the first error. -/
def collectResults (f : β → Except ε α) : List β → Except ε (List α)
  | [] => .ok []
  | x :: xs => do
    let value ← f x
    let values ← collectResults f xs
    .ok (value :: values)

/-- The first error of a check on every element. -/
def checkAll (f : β → Except ε Unit) : List β → Except ε Unit
  | [] => .ok ()
  | x :: xs => do
    f x
    checkAll f xs

theorem collectResults_cons_eq_ok_iff {f : β → Except ε α} {x : β} {xs : List β} {values : List α} :
    collectResults f (x :: xs) = .ok values ↔
      ∃ value rest, f x = .ok value ∧ collectResults f xs = .ok rest ∧ values = value :: rest := by
  rw [collectResults]
  cases first : f x with
  | error e => simp [bind, Except.bind]
  | ok value =>
    cases later : collectResults f xs <;> simp [bind, Except.bind, eq_comm]

/-- The results are those of the elements, one by one. -/
theorem collectResults_eq_ok_iff {f : β → Except ε α} {xs : List β} {values : List α} :
    collectResults f xs = .ok values ↔ List.Forall₂ (fun x value => f x = .ok value) xs values := by
  induction xs generalizing values with
  | nil => simp [collectResults, eq_comm]
  | cons x xs ih =>
    rw [collectResults_cons_eq_ok_iff, List.forall₂_cons_left_iff]
    simp only [ih]

/-- Every result comes from an element. -/
theorem exists_of_mem_collectResults {f : β → Except ε α} {xs : List β} {values : List α}
    (collected : collectResults f xs = .ok values) {value : α} (member : value ∈ values) :
    ∃ x ∈ xs, f x = .ok value := by
  induction xs generalizing values with
  | nil =>
    cases collected
    cases member
  | cons x xs ih =>
    obtain ⟨first, rest, computed, later, rfl⟩ := collectResults_cons_eq_ok_iff.mp collected
    rcases List.mem_cons.mp member with rfl | inRest
    · exact ⟨x, by simp, computed⟩
    · obtain ⟨y, inXs, found⟩ := ih later inRest
      exact ⟨y, by simp [inXs], found⟩

/-- Every element has a result. -/
theorem exists_of_mem_of_collectResults {f : β → Except ε α} {xs : List β} {values : List α}
    (collected : collectResults f xs = .ok values) {x : β} (member : x ∈ xs) :
    ∃ value ∈ values, f x = .ok value := by
  induction xs generalizing values with
  | nil => cases member
  | cons y xs ih =>
    obtain ⟨first, rest, computed, later, rfl⟩ := collectResults_cons_eq_ok_iff.mp collected
    rcases List.mem_cons.mp member with rfl | inXs
    · exact ⟨first, by simp, computed⟩
    · obtain ⟨value, inRest, found⟩ := ih later inXs
      exact ⟨value, by simp [inRest], found⟩

theorem collectResults_append_singleton {f : β → Except ε α} {xs : List β} {values : List α}
    {x : β} {value : α} (collected : collectResults f xs = .ok values) (last : f x = .ok value) :
    collectResults f (xs ++ [x]) = .ok (values ++ [value]) := by
  induction xs generalizing values with
  | nil =>
    cases collected
    exact collectResults_cons_eq_ok_iff.mpr ⟨value, [], last, rfl, rfl⟩
  | cons y xs ih =>
    obtain ⟨first, rest, computed, later, rfl⟩ := collectResults_cons_eq_ok_iff.mp collected
    exact collectResults_cons_eq_ok_iff.mpr ⟨first, rest ++ [value], computed, ih later, rfl⟩

theorem collectResults_congr {f g : β → Except ε α} {xs : List β} (same : ∀ x ∈ xs, f x = g x) :
    collectResults f xs = collectResults g xs := by
  induction xs with
  | nil => rfl
  | cons x xs ih =>
    rw [collectResults, collectResults, same x (by simp), ih fun y member => same y (by simp [member])]

theorem Computes.collect {f : β → Program I ε α} {g : β → Except ε α} {xs : List β} {state : σ}
    (each : ∀ x ∈ xs, Computes M G (f x) (g x) state) :
    Computes M G (Program.collect f xs) (collectResults g xs) state := by
  induction xs with
  | nil => exact computes_ofExcept (.ok []) state
  | cons x xs ih =>
    refine (each x (by simp)).bind fun value _ => ?_
    refine (ih fun y member => each y (by simp [member])).bind fun values _ => ?_
    exact computes_ofExcept (.ok _) state

theorem Computes.forM {f : β → Program I ε PUnit} {g : β → Except ε Unit} {xs : List β} {state : σ}
    (each : ∀ x ∈ xs, Computes M G (f x) (g x) state) :
    Computes M G (xs.forM f) (checkAll g xs) state := by
  induction xs with
  | nil => exact computes_ofExcept (.ok ()) state
  | cons x xs ih =>
    exact (each x (by simp)).bind fun _ _ => ih fun y member => each y (by simp [member])

/-- A weaker guarantee, for states that `inv` holds of. -/
theorem wp_guarantee {G' : Guarantee I σ} {p : Program I ε α} {Q : Except ε α → σ → Prop}
    {state : σ} (inv : σ → Prop) (keeps : ∀ request state state', inv state →
      G request state state' → G' request state state' ∧ inv state')
    (start : inv state) (holds : wp M G p Q state) :
    wp M G' p (fun result state' => Q result state' ∧ inv state') state := by
  induction p generalizing state with
  | done result => exact ⟨holds, start⟩
  | call request next ih =>
    intro reply state' answer
    obtain ⟨guarantee, later⟩ := holds reply state' answer
    obtain ⟨guarantee', kept⟩ := keeps request state state' start guarantee
    exact ⟨guarantee', ih reply kept later⟩

/-- What every call keeps, the whole program keeps. -/
theorem wp_keeps (inv : σ → Prop) (keeps : ∀ request state state', inv state →
      G request state state' → inv state') {p : Program I ε α} {Q : Except ε α → σ → Prop}
    {state : σ} (start : inv state) (holds : wp M G p Q state) :
    wp M G p (fun result state' => Q result state' ∧ inv state') state :=
  wp_guarantee inv (fun request state state' before guarantee =>
    ⟨guarantee, keeps request state state' before guarantee⟩) start holds

/-- An invariant that the answers to the calls of a program keep. -/
theorem wp_invariant (inv : σ → Prop) (keeps : ∀ request state reply state', inv state →
      G request state state' → M request state reply state' → inv state') {p : Program I ε α}
    {Q : Except ε α → σ → Prop} {state : σ} (start : inv state) (holds : wp M G p Q state) :
    wp M G p (fun result state' => Q result state' ∧ inv state') state := by
  induction p generalizing state with
  | done result => exact ⟨holds, start⟩
  | call request next ih =>
    intro reply state' answer
    obtain ⟨guarantee, rest⟩ := holds reply state' answer
    exact ⟨guarantee, ih reply (keeps _ _ _ _ start guarantee answer) rest⟩

/-! ## What the rule says about runs -/

theorem wp_step {p rest : Program I ε α} {Q : Except ε α → σ → Prop} {state state' : σ}
    (holds : wp M G p Q state) (step : Step M (p, state) (rest, state')) :
    G.Change state state' ∧ wp M G rest Q state' := by
  cases step with
  | call answer => exact ⟨⟨_, (holds _ _ answer).1⟩, (holds _ _ answer).2⟩

theorem wp_steps {p rest : Program I ε α} {Q : Except ε α → σ → Prop} {state state' : σ}
    (holds : wp M G p Q state) (steps : ReflTransGen (Step M) (p, state) (rest, state')) :
    ReflTransGen G.Change state state' ∧ wp M G rest Q state' := by
  suffices general : ∀ config, ReflTransGen (Step M) (p, state) config →
      ReflTransGen G.Change state config.2 ∧ wp M G config.1 Q config.2 from general _ steps
  intro config steps
  induction steps with
  | refl => exact ⟨.refl, holds⟩
  | tail _ step ih =>
    obtain ⟨guarantee, later⟩ := wp_step ih.2 step
    exact ⟨ih.1.tail guarantee, later⟩

/-- The postcondition holds of every complete run. -/
theorem wp_runs {p : Program I ε α} {Q : Except ε α → σ → Prop} {state state' : σ}
    {result : Except ε α} (holds : wp M G p Q state) (run : Runs M p state result state') :
    Q result state' :=
  (wp_steps holds run).2

/-- What holds of every run is a postcondition. -/
theorem wp_of_runs {p : Program I ε α} {Q : Except ε α → σ → Prop} {state : σ}
    (holds : ∀ result state', Runs M p state result state' → Q result state') :
    wp M Anything p Q state := by
  induction p generalizing state with
  | done result => exact holds _ _ (runs_done.mpr ⟨rfl, rfl⟩)
  | call request next ih =>
    intro reply middle answer
    refine ⟨trivial, ih reply fun result state' run => ?_⟩
    exact holds _ _ (runs_call.mpr ⟨reply, middle, answer, run⟩)

theorem Computes.runs {p : Program I ε α} {state state' : σ} {first result : Except ε α}
    (computes : Computes M G p first state) (run : Runs M p state result state') :
    result = first ∧ state' = state :=
  wp_runs (computes (fun result state' => result = first ∧ state' = state) ⟨rfl, rfl⟩) run

/-- Every state of an interrupted run is reached by steps that the guarantee allows. -/
theorem wp_reaches {p : Program I ε α} {Q : Except ε α → σ → Prop} {state state' : σ}
    (holds : wp M G p Q state) (reaches : Reaches M p state state') :
    ReflTransGen G.Change state state' := by
  obtain ⟨rest, steps⟩ := reaches
  exact (wp_steps holds steps).1

/-! ## Frames -/

/-- A program whose calls all respect the guarantee does so in every state. -/
theorem wp_of_within {allowed : I.Call → Prop} {p : Program I ε α} (within : p.Within allowed)
    (respects : ∀ request, allowed request → ∀ state reply state', M request state reply state' →
      G request state state') (state : σ) : wp M G p (fun _ _ => True) state := by
  induction p generalizing state with
  | done result => trivial
  | call request next ih =>
    intro reply state' answer
    exact ⟨respects request within.1 _ _ _ answer, ih reply (within.2 reply) state'⟩

/-- A program whose calls all keep `inv` keeps it, and its steps respect the guarantee. -/
theorem wp_frame {allowed : I.Call → Prop} {p : Program I ε α} (within : p.Within allowed)
    (inv : σ → Prop) (respects : ∀ request, allowed request → ∀ state reply state', inv state →
      M request state reply state' → G request state state' ∧ inv state') {state : σ} (holds : inv state) :
    wp M G p (fun _ => inv) state := by
  induction p generalizing state with
  | done result => exact holds
  | call request next ih =>
    intro reply state' answer
    obtain ⟨guarantee, kept⟩ := respects request within.1 _ _ _ holds answer
    exact ⟨guarantee, ih reply (within.2 reply) kept⟩

end Process
