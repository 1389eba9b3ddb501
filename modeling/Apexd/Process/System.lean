import Apexd.Process.Execution

/-! # Systems of entry points

A system runs one program after another, each started by an entry point, call by call; at any
moment it may be rebooted, which ends the program that is running.  A guarantee that every
entry point is shown to give is given by every step of every run.
-/

namespace Process

open Relation (ReflTransGen)

/-- A set of entry points with the semantics of their calls. -/
structure System (I : Interface) (ε σ κ : Type) where
  semantics : Semantics I ε σ
  program : κ → Program I ε Unit
  /-- the states in which an entry point may be called -/
  callable : κ → σ → Prop
  /-- what a reboot may do to the state -/
  reboot : σ → σ → Prop

variable {I : Interface} {ε σ κ : Type}

/-- The state of a system and what it is running. -/
structure Config (I : Interface) (ε σ κ : Type) where
  state : σ
  running : Option (κ × Program I ε Unit)

/-- A system at rest. -/
def Config.idle (state : σ) : Config I ε σ κ where
  state := state
  running := none

inductive System.Step (S : System I ε σ κ) : Config I ε σ κ → Config I ε σ κ → Prop
  | start {state : σ} (entry : κ) (callable : S.callable entry state) :
      S.Step (.idle state) ⟨state, some (entry, S.program entry)⟩
  | call {entry : κ} {p p' : Program I ε Unit} {state state' : σ}
      (step : Process.Step S.semantics (p, state) (p', state')) :
      S.Step ⟨state, some (entry, p)⟩ ⟨state', some (entry, p')⟩
  | finish {entry : κ} {result : Except ε Unit} {state : σ} :
      S.Step ⟨state, some (entry, .done result)⟩ (.idle state)
  | reboot {config : Config I ε σ κ} {state : σ} (rebooted : S.reboot config.state state) :
      S.Step config (.idle state)

variable {S : System I ε σ κ} {G : κ → Guarantee I σ}

/-- The program that is running still has to keep its guarantee. -/
def Config.Keeps (M : Semantics I ε σ) (G : κ → Guarantee I σ) (config : Config I ε σ κ) : Prop :=
  ∀ entry p, config.running = some (entry, p) →
    wp M (G entry) p (fun _ _ => True) config.state

/-- The calls of a program are steps of the system that runs it. -/
theorem System.run_of_steps {entry : κ} {p p' : Program I ε Unit} {state state' : σ}
    (steps : ReflTransGen (Process.Step S.semantics) (p, state) (p', state')) :
    ReflTransGen S.Step ⟨state, some (entry, p)⟩ ⟨state', some (entry, p')⟩ := by
  suffices general : ∀ config, ReflTransGen (Process.Step S.semantics) (p, state) config →
      ReflTransGen S.Step ⟨state, some (entry, p)⟩ ⟨config.2, some (entry, config.1)⟩ from
    general _ steps
  intro config steps
  induction steps with
  | refl => exact .refl
  | tail _ step ih => exact ih.tail (.call step)

theorem System.Step.keeps (guaranteed : ∀ entry state, S.callable entry state →
      wp S.semantics (G entry) (S.program entry) (fun _ _ => True) state)
    {config config' : Config I ε σ κ} (step : S.Step config config')
    (keeps : config.Keeps S.semantics G) : config'.Keeps S.semantics G := by
  cases step with
  | start entry callable =>
    rintro _ _ ⟨⟩
    exact guaranteed entry _ callable
  | call step =>
    rintro _ _ ⟨⟩
    exact (wp_step (keeps _ _ rfl) step).2
  | finish | reboot => exact fun _ _ impossible => nomatch impossible

theorem System.keeps_of_run (guaranteed : ∀ entry state, S.callable entry state →
      wp S.semantics (G entry) (S.program entry) (fun _ _ => True) state)
    {state : σ} {config : Config I ε σ κ} (run : ReflTransGen S.Step (.idle state) config) :
    config.Keeps S.semantics G := by
  induction run with
  | refl => exact fun _ _ impossible => nomatch impossible
  | tail _ step ih => exact step.keeps guaranteed ih

/-- Every step of every run is a call with its guarantee, a reboot, or changes nothing. -/
theorem System.guarantee_of_run (guaranteed : ∀ entry state, S.callable entry state →
      wp S.semantics (G entry) (S.program entry) (fun _ _ => True) state)
    {state : σ} {config config' : Config I ε σ κ}
    (run : ReflTransGen S.Step (.idle state) config) (step : S.Step config config') :
    (∃ entry p, config.running = some (entry, p) ∧
      (G entry).Change config.state config'.state) ∨
    S.reboot config.state config'.state ∨ config'.state = config.state := by
  have keeps := System.keeps_of_run guaranteed run
  cases step with
  | start | finish => exact .inr (.inr rfl)
  | call step => exact .inl ⟨_, _, rfl, (wp_step (keeps _ _ rfl) step).1⟩
  | reboot rebooted => exact .inr (.inl rebooted)

/-- The states of a system between calls, each of which runs to its end. -/
inductive System.Between (S : System I ε σ κ) (initial : σ → Prop) : σ → Prop
  | start {state : σ} (isInitial : initial state) : S.Between initial state
  | call {state state' : σ} {entry : κ} {result : Except ε Unit} (before : S.Between initial state)
      (callable : S.callable entry state)
      (run : Runs S.semantics (S.program entry) state result state') : S.Between initial state'

/-- What holds first and is kept by every entry point holds between any calls. -/
theorem System.invariant {initial : σ → Prop} (inv : σ → Prop)
    (holds : ∀ state, initial state → inv state)
    (keeps : ∀ entry state, S.callable entry state → inv state →
      wp S.semantics Anything (S.program entry) (fun _ => inv) state)
    {state : σ} (between : S.Between initial state) : inv state := by
  induction between with
  | start isInitial => exact holds _ isInitial
  | call before callable run ih => exact wp_runs (keeps _ _ callable ih) run

/-- Evaluate one entry point after another, each where it passes the test. -/
def System.execAll (S : System I ε σ κ) (handler : Handler I ε σ) (test : κ → σ → Bool) :
    List κ → σ → Option σ
  | [], state => some state
  | entry :: rest, state => if test entry state then
      match exec handler (S.program entry) state with
      | none => none
      | some (_, state') => S.execAll handler test rest state'
    else none

theorem System.between_of_execAll {handler : Handler I ε σ} (sound : handler.Sound S.semantics)
    {test : κ → σ → Bool} (callable : ∀ entry state, test entry state = true → S.callable entry state)
    {initial : σ → Prop} {entries : List κ} {state state' : σ} (before : S.Between initial state)
    (computed : S.execAll handler test entries state = some state') : S.Between initial state' := by
  induction entries generalizing state with
  | nil =>
    cases computed
    exact before
  | cons entry rest ih =>
    unfold System.execAll at computed
    split at computed
    · rename_i passes
      split at computed
      · cases computed
      · rename_i answered
        exact ih (before.call (callable entry state passes) (exec_runs sound answered)) computed
    · cases computed

end Process
