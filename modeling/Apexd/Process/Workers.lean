import Mathlib.Data.List.Perm.Basic
import Mathlib.Data.List.Perm.Subperm
import Apexd.Process.Execution
import Apexd.Process.Interference

/-! # Workers that empty a queue

Any number of workers take the items of a queue and run the program of each, call by call and in
any interleaving.  `Pool.Cooperates.runs` is the rule for them: what the program of an item achieves
when the programs of the other items interfere, the pool achieves for every item.
-/

namespace Process

open Relation (ReflTransGen)

variable {I : Interface} {ε σ α κ : Type}

/-- What a worker is doing. -/
inductive Task (I : Interface) (ε α κ : Type) where
  | waiting
  | working (item : κ) (rest : Program I ε α)
  | ended

/-- A worker and the results it has so far. -/
structure Worker (I : Interface) (ε α κ : Type) where
  task : Task I ε α κ
  results : List (κ × Except ε α)

structure Pool (I : Interface) (ε σ α κ : Type) where
  queue : List κ
  workers : List (Worker I ε α κ)
  state : σ

namespace Pool

/-- One step of one of the workers. -/
inductive Step (M : Semantics I ε σ) (program : κ → Program I ε α) :
    Pool I ε σ α κ → Pool I ε σ α κ → Prop
  | take {item : κ} {queue : List κ} {before after : List (Worker I ε α κ)}
      {results : List (κ × Except ε α)} {state : σ} :
      Step M program ⟨item :: queue, before ++ ⟨.waiting, results⟩ :: after, state⟩
        ⟨queue, before ++ ⟨.working item (program item), results⟩ :: after, state⟩
  | call {item : κ} {queue : List κ} {before after : List (Worker I ε α κ)}
      {results : List (κ × Except ε α)} {p p' : Program I ε α} {state state' : σ}
      (step : Process.Step M (p, state) (p', state')) :
      Step M program ⟨queue, before ++ ⟨.working item p, results⟩ :: after, state⟩
        ⟨queue, before ++ ⟨.working item p', results⟩ :: after, state'⟩
  | finish {item : κ} {queue : List κ} {before after : List (Worker I ε α κ)}
      {results : List (κ × Except ε α)} {result : Except ε α} {state : σ} :
      Step M program ⟨queue, before ++ ⟨.working item (.done result), results⟩ :: after, state⟩
        ⟨queue, before ++ ⟨.waiting, results ++ [(item, result)]⟩ :: after, state⟩
  | leave {before after : List (Worker I ε α κ)} {results : List (κ × Except ε α)} {state : σ} :
      Step M program ⟨[], before ++ ⟨.waiting, results⟩ :: after, state⟩
        ⟨[], before ++ ⟨.ended, results⟩ :: after, state⟩

def start (queue : List κ) (count : Nat) (state : σ) : Pool I ε σ α κ where
  queue := queue
  workers := .replicate count ⟨.waiting, []⟩
  state := state

def Finished (pool : Pool I ε σ α κ) : Prop :=
  ∀ worker ∈ pool.workers, worker.task = .ended

/-- The results of all workers, one worker after the other. -/
def results (pool : Pool I ε σ α κ) : List (κ × Except ε α) :=
  pool.workers.flatMap Worker.results

/-- `count` workers empty the queue and come to an end. -/
def Runs (M : Semantics I ε σ) (program : κ → Program I ε α) (queue : List κ) (count : Nat)
    (state : σ) (results : List (κ × Except ε α)) (state' : σ) : Prop :=
  ∃ pool, ReflTransGen (Step M program) (start queue count state) pool ∧ pool.Finished ∧
    pool.results = results ∧ pool.state = state'

end Pool

/-! ## Stages of an item -/

/-- How far an item has come. -/
inductive Stage (I : Interface) (ε α : Type) where
  | queued
  | at (rest : Program I ε α)

/-- The item a worker is working on. -/
def Task.stages : Task I ε α κ → List (κ × Stage I ε α)
  | .working item rest => [(item, .at rest)]
  | .waiting | .ended => []

def Worker.stages (worker : Worker I ε α κ) : List (κ × Stage I ε α) :=
  worker.task.stages ++ worker.results.map fun (item, result) => (item, .at (.done result))

namespace Pool

/-- Every item with the stage it has come to. -/
def stages (pool : Pool I ε σ α κ) : List (κ × Stage I ε α) :=
  pool.queue.map (·, .queued) ++ pool.workers.flatMap Worker.stages

variable {M : Semantics I ε σ} {program : κ → Program I ε α} {pool pool' : Pool I ε σ α κ}

theorem stages_split (queue : List κ) (before after : List (Worker I ε α κ))
    (worker : Worker I ε α κ) (state : σ) :
    (Pool.mk queue (before ++ worker :: after) state).stages.Perm
      (worker.stages ++ (Pool.mk queue (before ++ after) state).stages) := by
  simp only [stages, List.flatMap_append, List.flatMap_cons]
  exact ((List.perm_append_comm_assoc _ _ _).append_left _).trans (List.perm_append_comm_assoc _ _ _)

/-- A step takes at most one item further. -/
theorem Step.stages (step : Step M program pool pool') :
    (pool'.stages.Perm pool.stages ∧ pool'.state = pool.state) ∨
    (∃ item rest, pool.stages.Perm ((item, .queued) :: rest) ∧
      pool'.stages.Perm ((item, .at (program item)) :: rest) ∧ pool'.state = pool.state) ∨
    ∃ item p p' rest, pool.stages.Perm ((item, .at p) :: rest) ∧
      pool'.stages.Perm ((item, .at p') :: rest) ∧
      Process.Step M (p, pool.state) (p', pool'.state) := by
  cases step with
  | @take item queue before after results state =>
    refine .inr (.inl ⟨item, _, .refl _, ?_, rfl⟩)
    have taken := stages_split queue before after ⟨.working item (program item), results⟩ state
    have left := stages_split queue before after
      (⟨.waiting, results⟩ : Worker I ε α κ) state
    exact taken.trans (left.symm.cons _)
  | @call item queue before after results p p' state state' step =>
    refine .inr (.inr ⟨item, p, p', _, stages_split queue before after _ state,
      stages_split queue before after _ state', step⟩)
  | @finish item queue before after results result state =>
    refine .inl ⟨?_, rfl⟩
    refine (stages_split queue before after _ state).trans
      (.trans ?_ (stages_split queue before after _ state).symm)
    refine List.Perm.append_right _ ?_
    simp only [Worker.stages, Task.stages, List.map_append, List.map_cons, List.map_nil,
      List.nil_append]
    exact List.perm_append_comm
  | @leave before after results state =>
    have waiting := stages_split [] before after (⟨.waiting, results⟩ : Worker I ε α κ) state
    exact .inl ⟨(stages_split [] before after ⟨.ended, results⟩ state).trans waiting.symm, rfl⟩

/-! ## The rule -/

section Rule

variable (M) (G : κ → Guarantee I σ) (interferes : κ → σ → σ → Prop) (pre : κ → σ → Prop)
  (Q : κ → Except ε α → σ → Prop)

/-- What holds of an item at a stage. -/
def StageHolds (state : σ) : κ × Stage I ε α → Prop
  | (item, .queued) => pre item state
  | (item, .at rest) => wpUnder M (G item) (interferes item) rest (Q item) state

/-- Every item is at some stage, once, and what should hold of it does. -/
structure Holds (items : List κ) (pool : Pool I ε σ α κ) : Prop where
  perm : (pool.stages.map Prod.fst).Perm items
  each : ∀ entry ∈ pool.stages, StageHolds M G interferes pre Q pool.state entry

/-- What has to be shown of the items: that each of them tolerates what the others do, and that
its program does what it should. -/
structure Cooperates (program : κ → Program I ε α) (items : List κ) : Prop where
  covers : ∀ item other state state', (items.Nodup → other ≠ item) →
    (G other).Change state state' → interferes item state state'
  stable : ∀ item state state', interferes item state state' → pre item state → pre item state'
  programs : ∀ item ∈ items, ∀ state, pre item state →
    wpUnder M (G item) (interferes item) (program item) (Q item) state

variable {M G interferes pre Q} {items : List κ}

theorem Cooperates.stageHolds (cooperates : Cooperates M G interferes pre Q program items)
    {state state' : σ} {item : κ} {entry : κ × Stage I ε α}
    (holds : StageHolds M G interferes pre Q state entry) (ne : items.Nodup → item ≠ entry.1)
    (change : (G item).Change state state') : StageHolds M G interferes pre Q state' entry := by
  have others := cooperates.covers entry.1 item state state' ne change
  obtain ⟨other, stage⟩ := entry
  cases stage with
  | queued => exact cooperates.stable other state state' others holds
  | «at» rest => exact wpUnder_stable holds (.single others)

theorem Step.holds (cooperates : Cooperates M G interferes pre Q program items)
    (step : Step M program pool pool') (holds : Holds M G interferes pre Q items pool) :
    Holds M G interferes pre Q items pool' ∧
      (pool'.state = pool.state ∨ ∃ item ∈ items, (G item).Change pool.state pool'.state) := by
  obtain ⟨perm, each⟩ := holds
  rcases step.stages with ⟨same, state⟩ | ⟨item, rest, before, after, state⟩ |
    ⟨item, p, p', rest, before, after, called⟩
  · refine ⟨⟨(same.map _).trans perm, fun entry member => ?_⟩, .inl state⟩
    rw [state]
    exact each entry (same.mem_iff.mp member)
  · have moved : ((item, Stage.queued) :: rest).map Prod.fst =
        ((item, Stage.at (program item)) :: rest).map Prod.fst := rfl
    have items' := (before.map Prod.fst).symm.trans perm
    have entry := each (item, .queued) (before.mem_iff.mpr (by simp))
    refine ⟨⟨(after.map Prod.fst).trans (moved ▸ items'), fun entry' member => ?_⟩, .inl state⟩
    rw [state]
    rcases List.mem_cons.mp (after.mem_iff.mp member) with rfl | inRest
    · exact cooperates.programs item (items'.mem_iff.mp (by simp)) _ entry
    · exact each entry' (before.mem_iff.mpr (by simp [inRest]))
  · have items' := (before.map Prod.fst).symm.trans perm
    have moved : ((item, Stage.at p) :: rest).map Prod.fst =
        ((item, Stage.at p') :: rest).map Prod.fst := rfl
    have entry := each (item, .at p) (before.mem_iff.mpr (by simp))
    obtain ⟨change, later⟩ := wpUnder_step entry called
    refine ⟨⟨(after.map Prod.fst).trans (moved ▸ items'), fun entry' member => ?_⟩,
      .inr ⟨item, items'.mem_iff.mp (by simp), change⟩⟩
    rcases List.mem_cons.mp (after.mem_iff.mp member) with rfl | inRest
    · exact later
    · refine cooperates.stageHolds (each entry' (before.mem_iff.mpr (by simp [inRest]))) ?_ change
      intro nodup same
      have distinct := (List.nodup_cons.mp (items'.nodup_iff.mpr nodup)).1
      have inItems : entry'.1 ∈ rest.map Prod.fst := List.mem_map_of_mem inRest
      exact distinct (same ▸ inItems)

theorem start_stages (queue : List κ) (count : Nat) (state : σ) :
    (start queue count state : Pool I ε σ α κ).stages = queue.map (·, .queued) := by
  have none : (List.replicate count (⟨.waiting, []⟩ : Worker I ε α κ)).flatMap Worker.stages = [] :=
    List.flatMap_eq_nil_iff.mpr fun worker member => by
      rw [List.eq_of_mem_replicate member]
      rfl
  rw [stages, start, none, List.append_nil]

/-- What the programs of the items achieve among one another, the pool keeps up. -/
theorem Cooperates.holds_of_run (cooperates : Cooperates M G interferes pre Q program items)
    {count : Nat} {state : σ} (begins : ∀ item ∈ items, pre item state)
    (run : ReflTransGen (Step M program) (start items count state) pool) :
    Holds M G interferes pre Q items pool ∧
      ReflTransGen (fun before after => ∃ item ∈ items, (G item).Change before after)
        state pool.state := by
  induction run with
  | refl =>
    refine ⟨⟨?_, fun entry member => ?_⟩, .refl⟩
    · rw [start_stages]
      simp [Function.comp_def]
    · rw [start_stages] at member
      obtain ⟨item, inItems, rfl⟩ := List.mem_map.mp member
      exact begins item inItems
  | tail _ step ih =>
    obtain ⟨holds, steps⟩ := ih
    obtain ⟨holds', same | change⟩ := step.holds cooperates holds
    · rw [same]
      exact ⟨holds', steps⟩
    · exact ⟨holds', steps.tail change⟩

end Rule

/-! ## Completed runs -/

def HasEnded (workers : List (Worker I ε α κ)) : Prop :=
  ∃ worker ∈ workers, worker.task = .ended

theorem hasEnded_other {before after : List (Worker I ε α κ)} {worker : Worker I ε α κ}
    (ended : HasEnded (before ++ worker :: after)) (busy : worker.task ≠ .ended)
    (worker' : Worker I ε α κ) : HasEnded (before ++ worker' :: after) := by
  obtain ⟨other, member, isEnded⟩ := ended
  refine ⟨other, ?_, isEnded⟩
  have ne : other ≠ worker := fun same => busy (same ▸ isEnded)
  simp only [List.mem_append, List.mem_cons, ne, false_or] at member ⊢
  exact member.imp_right .inr

/-- A worker only leaves when the queue is empty. -/
theorem queue_of_ended {queue : List κ} {count : Nat} {state : σ}
    (run : ReflTransGen (Step M program) (start queue count state) pool)
    (ended : HasEnded pool.workers) : pool.queue = [] := by
  induction run with
  | refl =>
    obtain ⟨worker, member, ended⟩ := ended
    rw [List.eq_of_mem_replicate member] at ended
    cases ended
  | tail _ step ih =>
    cases step with
    | take => exact absurd (ih (hasEnded_other ended nofun _)) nofun
    | call => exact ih (hasEnded_other ended nofun _)
    | finish => exact ih (hasEnded_other ended nofun _)
    | leave => rfl

theorem workers_ne_nil {queue : List κ} {count : Nat} (some' : 0 < count) {state : σ}
    (run : ReflTransGen (Step M program) (start queue count state) pool) : pool.workers ≠ [] := by
  cases run with
  | refl =>
    rw [start, ← List.length_pos_iff, List.length_replicate]
    exact some'
  | tail _ step => cases step <;> simp

/-- Where all workers have left, every stage is a result. -/
theorem stages_of_finished {queue : List κ} {count : Nat} (some' : 0 < count) {state : σ}
    (run : ReflTransGen (Step M program) (start queue count state) pool)
    (finished : pool.Finished) :
    pool.stages = pool.results.map fun (item, result) => (item, .at (.done result)) := by
  obtain ⟨worker, member⟩ := List.exists_mem_of_ne_nil _ (workers_ne_nil some' run)
  have empty := queue_of_ended run ⟨worker, member, finished worker member⟩
  rw [stages, empty, results, List.map_nil, List.nil_append, List.map_flatMap]
  refine List.flatMap_congr fun worker member => ?_
  rw [Worker.stages, finished worker member]
  rfl

/-- Every result is a stage. -/
theorem mem_stages_of_mem_results {entry : κ × Except ε α} (member : entry ∈ pool.results) :
    (entry.1, Stage.at (.done entry.2)) ∈ pool.stages := by
  obtain ⟨worker, isWorker, isResult⟩ := List.mem_flatMap.mp member
  refine List.mem_append_right _ (List.mem_flatMap.mpr ⟨worker, isWorker, ?_⟩)
  exact List.mem_append_right _ (List.mem_map.mpr ⟨entry, isResult, rfl⟩)

section Cooperates

variable {G : κ → Guarantee I σ} {interferes : κ → σ → σ → Prop} {pre : κ → σ → Prop}
  {Q : κ → Except ε α → σ → Prop} {items : List κ}
  (cooperates : Cooperates M G interferes pre Q program items) {count : Nat} {state state' : σ}
  (begins : ∀ item ∈ items, pre item state) {results : List (κ × Except ε α)}
  (run : Runs M program items count state results state')
include cooperates begins run

/-- A completed run is one of steps that the programs may make. -/
theorem Cooperates.changes :
    ReflTransGen (fun before after => ∃ item ∈ items, (G item).Change before after) state state' := by
  obtain ⟨pool, steps, _, _, rfl⟩ := run
  exact (cooperates.holds_of_run begins steps).2

/-- The rule for a completed run: every item has a result, and every result what its program
achieves among the others. -/
theorem Cooperates.runs (some' : 0 < count) :
    (results.map Prod.fst).Perm items ∧ ∀ entry ∈ results, Q entry.1 entry.2 state' := by
  obtain ⟨pool, steps, finished, rfl, rfl⟩ := run
  obtain ⟨perm, each⟩ := (cooperates.holds_of_run begins steps).1
  have stages := stages_of_finished some' steps finished
  refine ⟨?_, fun entry member => ?_⟩
  · rw [stages, List.map_map] at perm
    exact perm
  · have inStages : (entry.1, Stage.at (.done entry.2)) ∈ pool.stages := by
      rw [stages]
      exact List.mem_map.mpr ⟨entry, member, rfl⟩
    exact each _ inStages pool.state .refl

omit begins run in
/-- Without items there are no results. -/
theorem Cooperates.results_nil (nothing : items = [])
    (run : Runs M program items count state results state') : results = [] := by
  obtain ⟨pool, steps, -, rfl, -⟩ := run
  have perm := (cooperates.holds_of_run (by simp [nothing]) steps).1.perm
  rw [nothing, List.perm_nil, List.map_eq_nil_iff] at perm
  refine List.eq_nil_iff_forall_not_mem.mpr fun entry member => ?_
  have stage := mem_stages_of_mem_results member
  rw [perm] at stage
  cases stage

end Cooperates

end Pool

/-! ## Running workers -/

namespace Pool

variable {handler : Handler I ε σ}

/-- What the worker with an index does next; nothing when it has ended. -/
def execStep (handler : Handler I ε σ) (program : κ → Program I ε α) (pool : Pool I ε σ α κ)
    (index : Nat) : Option (Pool I ε σ α κ) :=
  let before := pool.workers.take index
  match pool.workers.drop index, pool.queue with
  | [], _ => some pool
  | ⟨.waiting, results⟩ :: after, item :: queue =>
    some ⟨queue, before ++ ⟨.working item (program item), results⟩ :: after, pool.state⟩
  | ⟨.waiting, results⟩ :: after, [] =>
    some ⟨[], before ++ ⟨.ended, results⟩ :: after, pool.state⟩
  | ⟨.working item (.done result), results⟩ :: after, queue =>
    some ⟨queue, before ++ ⟨.waiting, results ++ [(item, result)]⟩ :: after, pool.state⟩
  | ⟨.working item (.call request next), results⟩ :: after, queue =>
    (handler request pool.state).map fun (reply, state') =>
      ⟨queue, before ++ ⟨.working item (next reply), results⟩ :: after, state'⟩
  | ⟨.ended, _⟩ :: _, _ => some pool

/-- Every worker makes one step, one after the other. -/
def execRound (handler : Handler I ε σ) (program : κ → Program I ε α) (pool : Pool I ε σ α κ) :
    Option (Pool I ε σ α κ) :=
  (List.range pool.workers.length).foldlM (execStep handler program) pool

def hasEnded (pool : Pool I ε σ α κ) : Bool :=
  pool.workers.all fun worker => match worker.task with
    | .ended => true
    | .waiting | .working _ _ => false

/-- Round after round until all workers have ended. -/
def execRounds (handler : Handler I ε σ) (program : κ → Program I ε α) :
    Nat → Pool I ε σ α κ → Option (Pool I ε σ α κ)
  | 0, _ => none
  | rounds + 1, pool =>
    if pool.hasEnded then some pool
    else (execRound handler program pool).bind (execRounds handler program rounds)

theorem steps_of_execStep (sound : handler.Sound M) {index : Nat}
    (computed : execStep handler program pool index = some pool') :
    ReflTransGen (Step M program) pool pool' := by
  obtain ⟨queue, workers, state⟩ := pool
  have split := List.take_append_drop index workers
  unfold execStep at computed
  dsimp only at computed
  cases next : workers.drop index with
  | nil =>
    rw [next] at computed
    cases computed
    exact .refl
  | cons worker after =>
    obtain ⟨task, results⟩ := worker
    rw [next] at computed split
    cases task with
    | ended =>
      cases computed
      exact .refl
    | waiting =>
      cases queue with
      | nil =>
        rw [← Option.some.inj computed]
        nth_rewrite 1 [← split]
        exact .single .leave
      | cons item queue =>
        rw [← Option.some.inj computed]
        nth_rewrite 1 [← split]
        exact .single .take
    | working item rest =>
      cases rest with
      | done result =>
        rw [← Option.some.inj computed]
        nth_rewrite 1 [← split]
        exact .single .finish
      | call request next =>
        obtain ⟨⟨reply, state'⟩, answer, rfl⟩ := Option.map_eq_some_iff.mp computed
        nth_rewrite 1 [← split]
        exact .single (.call (.call (sound answer)))

theorem steps_of_execRound (sound : handler.Sound M)
    (computed : execRound handler program pool = some pool') :
    ReflTransGen (Step M program) pool pool' := by
  unfold execRound at computed
  generalize List.range pool.workers.length = indices at computed
  induction indices generalizing pool with
  | nil =>
    cases computed
    exact .refl
  | cons index rest ih =>
    rw [List.foldlM_cons] at computed
    obtain ⟨middle, first, later⟩ := Option.bind_eq_some_iff.mp computed
    exact (steps_of_execStep sound first).trans (ih later)

theorem steps_of_execRounds (sound : handler.Sound M) {rounds : Nat}
    (computed : execRounds handler program rounds pool = some pool') :
    ReflTransGen (Step M program) pool pool' ∧ pool'.hasEnded = true := by
  induction rounds generalizing pool with
  | zero => cases computed
  | succ rounds ih =>
    rw [execRounds] at computed
    split at computed
    · rename_i ended
      cases computed
      exact ⟨.refl, ended⟩
    · obtain ⟨middle, first, later⟩ := Option.bind_eq_some_iff.mp computed
      exact ⟨(steps_of_execRound sound first).trans (ih later).1, (ih later).2⟩

theorem finished_of_hasEnded {pool : Pool I ε σ α κ} (ended : pool.hasEnded = true) : pool.Finished := by
  intro worker member
  have isEnded := List.all_eq_true.mp ended worker member
  cases task : worker.task with
  | ended => rfl
  | waiting => simp [task] at isEnded
  | working item rest => simp [task] at isEnded

end Pool

/-- Workers that take turns call by call, for at most so many rounds. -/
def execPool (handler : Handler I ε σ) (program : κ → Program I ε α) (rounds count : Nat)
    (queue : List κ) (state : σ) : Option (List (κ × Except ε α) × σ) :=
  (Pool.execRounds handler program rounds (.start queue count state)).map fun pool =>
    (pool.results, pool.state)

theorem runs_of_execPool {handler : Handler I ε σ} (sound : handler.Sound M) {rounds count : Nat}
    {queue : List κ} {state state' : σ} {results : List (κ × Except ε α)}
    (computed : execPool handler program rounds count queue state = some (results, state')) :
    Pool.Runs M program queue count state results state' := by
  obtain ⟨pool, ended, same⟩ := Option.map_eq_some_iff.mp computed
  cases same
  obtain ⟨steps, hasEnded⟩ := Pool.steps_of_execRounds sound ended
  exact ⟨pool, steps, Pool.finished_of_hasEnded hasEnded, rfl, rfl⟩

end Process
