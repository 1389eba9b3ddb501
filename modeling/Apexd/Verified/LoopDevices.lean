import Apexd.Model.LoopDevices
import Mathlib.Data.Finset.Card
import Mathlib.Data.Finset.Range

/-! # Loop devices are allocated and waited for

The loops of `PreAllocateLoopDevices` and `WaitForDevice` come to an end, and with the result they
are meant to have, but for the very first device and for a single attempt.
-/

namespace Apexd

open Process

/-! ## Allocation -/

namespace PreAllocation

variable {num : Nat} {state : PreAllocation}

/-- A pass goes on to the next id, whose device exists from then on. -/
theorem pass_again (more : state.cnt < num)
    (added : state.id ≠ 0 ∨ state.driver.existing state.id = true ∨
      state.driver.errno = .EEXIST) :
    ∃ driver, pass num state = .again {
        id := state.id + 1
        cnt := if state.id ∈ state.driver.busy then state.cnt else state.cnt + 1
        driver := driver } ∧
      driver.busy = state.driver.busy ∧
      ∀ id, driver.existing id = true ↔ id = state.id ∨ state.driver.existing id = true := by
  obtain ⟨id, cnt, driver⟩ := state
  unfold pass
  simp only at more added
  rw [if_pos more]
  cases there : driver.existing id with
  | true =>
    -- LOOP_CTL_ADD fails with EEXIST
    have same : ∀ other, driver.existing other = true ↔
        other = id ∨ driver.existing other = true := by
      intro other
      exact ⟨.inr, fun either => either.elim (fun same => same ▸ there) (fun kept => kept)⟩
    by_cases used : id ∈ driver.busy
    · simp only [LoopDriver.ctlAdd, there, LoopDriver.accessBackingFile, used, if_true]
      exact ⟨_, rfl, rfl, same⟩
    · simp only [LoopDriver.ctlAdd, there, LoopDriver.accessBackingFile, used, if_true, if_false]
      exact ⟨_, rfl, rfl, same⟩
  | false =>
    have unused : id ∉ driver.busy := fun used => by
      rw [driver.inUse id used] at there
      cases there
    simp only [LoopDriver.ctlAdd, there, LoopDriver.accessBackingFile, unused, if_false,
      Bool.false_eq_true]
    rcases Nat.eq_zero_or_pos id with rfl | positive
    · -- the new id is 0, which is taken for a failure: errno decides
      have stale : driver.errno = .EEXIST := by simpa [there] using added
      simp only [stale, if_true]
      exact ⟨_, rfl, rfl, by simp⟩
    · have positive' : (id : Int) > 0 := by omega
      simp only [positive', if_true]
      exact ⟨_, rfl, rfl, by simp⟩

/-- What holds before each pass of the loop over devices of which some are busy. -/
structure Counting (num : Nat) (busy : Finset Nat) (state : PreAllocation) : Prop where
  sameBusy : state.driver.busy = busy
  passed : ∀ id < state.id, state.driver.existing id = true
  count : state.cnt = (Finset.range state.id \ busy).card
  bounded : state.cnt ≤ num
  first : state.id = 0 → state.cnt < num →
    state.driver.existing 0 = true ∨ state.driver.errno = .EEXIST

/-- What the loop is for. -/
def Delivers (num : Nat) (result : Except String Unit × LoopDriver) : Prop :=
  result.1 = .ok () ∧ ∃ devices : Finset Nat, num ≤ devices.card ∧
    ∀ id ∈ devices, result.2.Idle id

/-- Either a device is found, or one of those in use is passed. -/
def variant (num : Nat) (busy : Finset Nat) (state : PreAllocation) : Nat :=
  (num - state.cnt) + (busy.filter (state.id ≤ ·)).card

theorem Counting.pass {busy : Finset Nat} (counting : Counting num busy state) :
    Loop.PassKeeps
      (fun next => Counting num busy next ∧ variant num busy next < variant num busy state)
      (Delivers num) (pass num state) := by
  by_cases more : state.cnt < num
  · have added : state.id ≠ 0 ∨ state.driver.existing state.id = true ∨
        state.driver.errno = .EEXIST := by
      by_cases zero : state.id = 0
      · exact .inr (zero ▸ counting.first zero more)
      · exact .inl zero
    obtain ⟨driver, again, sameBusy, existing⟩ := pass_again more added
    rw [again]
    have passed : ∀ id < state.id + 1, driver.existing id = true := by
      intro id below
      rcases Nat.lt_succ_iff_lt_or_eq.mp below with earlier | same
      · exact (existing id).mpr (.inr (counting.passed id earlier))
      · exact (existing id).mpr (.inl same)
    have fewer : busy.filter (state.id + 1 ≤ ·) ⊆ busy.filter (state.id ≤ ·) := by
      intro id member
      simp only [Finset.mem_filter] at member ⊢
      exact ⟨member.1, by omega⟩
    by_cases used : state.id ∈ busy
    · have count : (Finset.range (state.id + 1) \ busy).card =
          (Finset.range state.id \ busy).card := by
        rw [Finset.range_add_one, Finset.insert_sdiff_of_mem _ used]
      have strictly : (busy.filter (state.id + 1 ≤ ·)).card < (busy.filter (state.id ≤ ·)).card := by
        refine Finset.card_lt_card (Finset.ssubset_iff_of_subset fewer |>.mpr ⟨state.id, ?_, ?_⟩)
        · simp [used]
        · simp
      simp only [Loop.PassKeeps, counting.sameBusy, used, if_true, variant]
      refine ⟨⟨sameBusy.trans counting.sameBusy, passed, ?_, counting.bounded, ?_⟩, ?_⟩
      · exact counting.count.trans count.symm
      · intro zero
        exact absurd zero (Nat.succ_ne_zero _)
      · omega
    · have count : (Finset.range (state.id + 1) \ busy).card =
          (Finset.range state.id \ busy).card + 1 := by
        rw [Finset.range_add_one, Finset.insert_sdiff_of_notMem _ used,
          Finset.card_insert_of_notMem (by simp)]
      have less := Finset.card_le_card fewer
      simp only [Loop.PassKeeps, counting.sameBusy, used, if_false, variant]
      refine ⟨⟨sameBusy.trans counting.sameBusy, passed, ?_, more, ?_⟩, ?_⟩
      · rw [count, ← counting.count]
      · intro zero
        exact absurd zero (Nat.succ_ne_zero _)
      · omega
  · unfold PreAllocation.pass
    rw [if_neg more]
    refine ⟨rfl, Finset.range state.id \ busy, ?_, ?_⟩
    · rw [← counting.count]
      exact Nat.le_of_not_lt more
    · intro id member
      rw [Finset.mem_sdiff, Finset.mem_range] at member
      exact ⟨counting.passed id member.1, counting.sameBusy ▸ member.2⟩

end PreAllocation

open PreAllocation

/-- The loop delivers the devices unless it creates device 0 and finds no old error in `errno`. -/
theorem preAllocateLoopDevices_delivers_iff (num : Nat) (driver : LoopDriver) :
    (∃ result, PreAllocateLoopDevices num driver result ∧ Delivers num result) ↔
      driver.control = .ok () ∧
        (num = 0 ∨ driver.existing 0 = true ∨ driver.errno = .EEXIST) := by
  unfold PreAllocateLoopDevices
  cases driver.control with
  | error e =>
    constructor
    · rintro ⟨_, rfl, failed, _⟩
      cases failed
    · rintro ⟨failed, _⟩
      cases failed
  | ok ready =>
    simp only [true_and]
    constructor
    · rintro ⟨result, returns, ok, _⟩
      by_contra broken
      obtain ⟨some, missing, fresh⟩ : num ≠ 0 ∧ driver.existing 0 = false ∧
          driver.errno ≠ .EEXIST := by simpa using broken
      have more : 0 < num := Nat.pos_of_ne_zero some
      -- the first pass already gives up
      have gaveUp : pass num { id := 0, cnt := 0, driver := driver } =
          .leave (.error ("Failed LOOP_CTL_ADD id = " ++ toString 0 ++ ": " ++ driver.errno.text),
            (driver.ctlAdd 0).2) := by
        simp [PreAllocation.pass, more, LoopDriver.ctlAdd, missing, fresh]
      rw [← (Loop.Returns.leave gaveUp).unique returns] at ok
      cases ok
    · intro added
      refine Loop.exists_returns (variant num driver.busy) (fun state => Counting.pass) ?_
      exact {
        sameBusy := rfl
        passed := fun _ below => absurd below (Nat.not_lt_zero _)
        count := by simp
        bounded := Nat.zero_le _
        first := fun _ some => added.resolve_left (Nat.ne_of_gt some) }

/-- A kernel without loop devices. -/
def noLoopDevices : LoopDriver where
  control := .ok ()
  existing _ := false
  busy := ∅
  inUse := by simp
  errno := .other "Success"

theorem not_delivers_noLoopDevices :
    ¬ ∃ result, PreAllocateLoopDevices 1 noLoopDevices result ∧ Delivers 1 result := by
  rintro ⟨result, returns, ok, _⟩
  have failed : PreAllocateLoopDevices 1 noLoopDevices
      (.error "Failed LOOP_CTL_ADD id = 0: Success", (noLoopDevices.ctlAdd 0).2) :=
    Loop.Returns.leave rfl
  rw [← failed.unique returns] at ok
  cases ok

/-! ## Waiting -/

namespace Waiting

variable {timeline : Timeline} {num : Int} {attempts : Nat} {state : Waiting}

/-- What holds before each pass, of the attempts made so far. -/
structure Polling (timeline : Timeline) (num : Int) (attempts : Nat) (state : Waiting) : Prop where
  bounded : state.i ≤ attempts
  counted : state.i ≤ state.made
  notOpened : ∀ attempt < state.made, timeline.open num attempt = none
  seen : state.coldBootDone = true → timeline.coldBootDone (4 * state.made) = true
  /-- while cold boot is pending, the counter starts again with each attempt -/
  pending : state.coldBootDone = false → state.i ≤ 1
  /-- the counter covers the attempts that follow an attempt after cold boot -/
  follow : ∀ attempt, timeline.coldBootDone (attemptStart attempt) = true →
    state.made ≤ attempt + state.i ∧ (state.coldBootDone = false → state.made ≤ attempt)

/-- The state after an attempt that opened nothing. -/
def next (timeline : Timeline) (state : Waiting) : Waiting where
  i := (if state.coldBootDone || timeline.coldBootDone (attemptStart state.made)
    then state.i else 0) + 1
  coldBootDone := state.coldBootDone || timeline.coldBootDone (attemptStart state.made)
  made := state.made + 1

theorem pass_of_none (more : state.i ≠ attempts) (none : timeline.open num state.made = none) :
    pass timeline num attempts state = .again (state.next timeline) := by
  unfold pass next
  rw [if_pos more, none]
  cases state.coldBootDone with
  | true => rfl
  | false => cases timeline.coldBootDone (attemptStart state.made) <;> rfl

theorem pass_of_some {device : String} (more : state.i ≠ attempts)
    (some : timeline.open num state.made = some device) :
    pass timeline num attempts state = .leave (.ok device, state.made + 1) := by
  unfold pass
  rw [if_pos more, some]

theorem pass_of_last (last : state.i = attempts) :
    pass timeline num attempts state =
      .leave (.error ("Failed to open loopback device " ++ toString num), state.made) := by
  unfold pass
  rw [if_neg (not_not.mpr last)]

theorem Polling.next (polling : Polling timeline num attempts state) (more : state.i ≠ attempts)
    (none : timeline.open num state.made = none) :
    Polling timeline num attempts (state.next timeline) := by
  have below : state.i < attempts := Nat.lt_of_le_of_ne polling.bounded more
  have counted := polling.counted
  cases done : state.coldBootDone || timeline.coldBootDone (attemptStart state.made) with
  | true =>
    have start : timeline.coldBootDone (attemptStart state.made) = true := by
      rcases Bool.or_eq_true_iff.mp done with before | now
      · exact timeline.stays (by unfold attemptStart; omega) (polling.seen before)
      · exact now
    refine ⟨?_, ?_, ?_, ?_, ?_, ?_⟩ <;> simp only [Waiting.next, done, if_true]
    · omega
    · omega
    · intro attempt earlier
      rcases Nat.lt_succ_iff_lt_or_eq.mp earlier with before | same
      · exact polling.notOpened attempt before
      · exact same ▸ none
    · intro _
      exact timeline.stays (by unfold attemptStart; omega) start
    · exact nofun
    · intro attempt after
      have follow := (polling.follow attempt after).1
      exact ⟨by omega, nofun⟩
  | false =>
    obtain ⟨-, unseen⟩ := Bool.or_eq_false_iff.mp done
    refine ⟨?_, ?_, ?_, ?_, ?_, ?_⟩ <;>
      simp only [Waiting.next, done, Bool.false_eq_true, if_false]
    · omega
    · omega
    · intro attempt earlier
      rcases Nat.lt_succ_iff_lt_or_eq.mp earlier with before | same
      · exact polling.notOpened attempt before
      · exact same ▸ none
    · exact nofun
    · omega
    · intro attempt after
      -- the property was not set at this attempt, hence the other one is later
      have later : state.made < attempt := by
        by_contra notLater
        have earlier : timeline.coldBootDone (attemptStart state.made) = true :=
          timeline.stays (by unfold attemptStart; omega) after
        rw [unseen] at earlier
        cases earlier
      omega

theorem polling_start (timeline : Timeline) (num : Int) (attempts : Nat) :
    Polling timeline num attempts
      { i := 0, coldBootDone := timeline.coldBootDone 0, made := 0 } where
  bounded := Nat.zero_le _
  counted := Nat.le_refl _
  notOpened _ earlier := absurd earlier (Nat.not_lt_zero _)
  seen done := done
  pending _ := Nat.zero_le _
  follow _ _ := ⟨Nat.zero_le _, fun _ => Nat.zero_le _⟩

/-- A single attempt is enough only if it opens the node or cold boot is done after it. -/
def Enough (timeline : Timeline) (num : Int) (attempts : Nat) : Prop :=
  attempts ≠ 1 ∨ (timeline.open num 0).isSome = true ∨ timeline.coldBootDone (attemptEnd 0) = true

/-- When the attempts are used up, cold boot is done. -/
theorem Polling.done_of_last (polling : Polling timeline num attempts state)
    (positive : 1 ≤ attempts) (enough : Enough timeline num attempts)
    (last : state.i = attempts) : timeline.coldBootDone (4 * state.made) = true := by
  have counted := polling.counted
  cases cold : state.coldBootDone with
  | true => exact polling.seen cold
  | false =>
    have few := polling.pending cold
    rcases enough with many | opened | done
    · omega
    · rw [polling.notOpened 0 (by omega)] at opened
      cases opened
    · exact timeline.stays (by unfold attemptEnd; omega) done

end Waiting

open Waiting

/-- `WaitForDevice` does not give up before cold boot is done. -/
structure WaitsForColdBoot (timeline : Timeline) (num : Int) (attempts : Nat) : Prop where
  notEarly : ∀ e made, WaitForDevice timeline num attempts (.error e, made) →
    ∃ last, made = last + 1 ∧ timeline.coldBootDone (attemptEnd last) = true
  /-- an attempt before cold boot is done that can open the node is not missed -/
  found : ∀ attempt, timeline.coldBootDone (attemptStart attempt) = false →
    (timeline.open num attempt).isSome = true →
    ∃ device last, WaitForDevice timeline num attempts (.ok device, last + 1) ∧
      last ≤ attempt ∧ timeline.open num last = some device
  /-- from an attempt on that begins after cold boot, there are at most `attempts` -/
  bounded : ∀ attempt, timeline.coldBootDone (attemptStart attempt) = true →
    ∃ result made, WaitForDevice timeline num attempts (result, made) ∧ made ≤ attempt + attempts

section

variable {timeline : Timeline} {num : Int} {attempts : Nat}

theorem waitForDevice_notEarly (positive : 1 ≤ attempts)
    (enough : Enough timeline num attempts) {e : String} {made : Nat}
    (returns : WaitForDevice timeline num attempts (.error e, made)) :
    ∃ last, made = last + 1 ∧ timeline.coldBootDone (attemptEnd last) = true := by
  have keeps : ∀ state, Polling timeline num attempts state →
      Loop.PassKeeps (Polling timeline num attempts) (fun result => ∀ e, result.1 = .error e →
        ∃ last, result.2 = last + 1 ∧ timeline.coldBootDone (attemptEnd last) = true)
        (pass timeline num attempts state) := by
    intro state polling
    by_cases last : state.i = attempts
    · rw [pass_of_last last]
      intro _ _
      have counted := polling.counted
      refine ⟨state.made - 1, ?_, ?_⟩
      · show state.made = state.made - 1 + 1
        omega
      · exact timeline.stays (by unfold attemptEnd; omega)
          (polling.done_of_last positive enough last)
    · cases opened : timeline.open num state.made with
      | none =>
        rw [pass_of_none last opened]
        exact polling.next last opened
      | some device =>
        rw [pass_of_some last opened]
        exact nofun
  exact Loop.Returns.post keeps returns (polling_start timeline num attempts) e rfl

theorem waitForDevice_found (positive : 1 ≤ attempts) (enough : Enough timeline num attempts)
    {attempt : Nat} (pending : timeline.coldBootDone (attemptStart attempt) = false)
    (openable : (timeline.open num attempt).isSome = true) :
    ∃ device last, WaitForDevice timeline num attempts (.ok device, last + 1) ∧
      last ≤ attempt ∧ timeline.open num last = some device := by
  have keeps : ∀ state, Polling timeline num attempts state ∧ state.made ≤ attempt →
      Loop.PassKeeps
        (fun next => (Polling timeline num attempts next ∧ next.made ≤ attempt) ∧
          attempt - next.made < attempt - state.made)
        (fun result => ∃ device last, result = (.ok device, last + 1) ∧ last ≤ attempt ∧
          timeline.open num last = some device)
        (pass timeline num attempts state) := by
    rintro state ⟨polling, early⟩
    have more : state.i ≠ attempts := by
      intro last
      have done := polling.done_of_last positive enough last
      rw [timeline.stays (by unfold attemptStart; omega) done] at pending
      cases pending
    cases opened : timeline.open num state.made with
    | some device =>
      rw [pass_of_some more opened]
      exact ⟨device, state.made, rfl, early, opened⟩
    | none =>
      rw [pass_of_none more opened]
      have later : state.made ≠ attempt := by
        intro same
        rw [same] at opened
        rw [opened] at openable
        cases openable
      refine ⟨⟨polling.next more opened, ?_⟩, ?_⟩
      · show state.made + 1 ≤ attempt
        omega
      · show attempt - (state.made + 1) < attempt - state.made
        omega
  obtain ⟨_, returns, device, last, rfl, early, opened⟩ := Loop.exists_returns
    (fun state : Waiting => attempt - state.made) keeps
    ⟨polling_start timeline num attempts, Nat.zero_le attempt⟩
  exact ⟨device, last, returns, early, opened⟩

theorem waitForDevice_bounded {attempt : Nat}
    (after : timeline.coldBootDone (attemptStart attempt) = true) :
    ∃ result made, WaitForDevice timeline num attempts (result, made) ∧
      made ≤ attempt + attempts := by
  have keeps : ∀ state, Polling timeline num attempts state →
      Loop.PassKeeps
        (fun next => Polling timeline num attempts next ∧
          attempt + attempts - next.made < attempt + attempts - state.made)
        (fun result => result.2 ≤ attempt + attempts) (pass timeline num attempts state) := by
    intro state polling
    have follow := (polling.follow attempt after).1
    have bounded := polling.bounded
    by_cases last : state.i = attempts
    · rw [pass_of_last last]
      show state.made ≤ attempt + attempts
      omega
    · cases opened : timeline.open num state.made with
      | some device =>
        rw [pass_of_some last opened]
        show state.made + 1 ≤ attempt + attempts
        omega
      | none =>
        rw [pass_of_none last opened]
        refine ⟨polling.next last opened, ?_⟩
        show attempt + attempts - (state.made + 1) < attempt + attempts - state.made
        omega
  obtain ⟨⟨result, made⟩, returns, bound⟩ := Loop.exists_returns
    (fun state : Waiting => attempt + attempts - state.made) keeps (polling_start timeline num attempts)
  exact ⟨result, made, returns, bound⟩

end

theorem waitsForColdBoot_iff {timeline : Timeline} {num : Int} {attempts : Nat}
    (positive : 1 ≤ attempts) :
    WaitsForColdBoot timeline num attempts ↔
      attempts ≠ 1 ∨ (timeline.open num 0).isSome = true ∨
        timeline.coldBootDone (attemptEnd 0) = true := by
  constructor
  · intro waits
    by_contra broken
    obtain ⟨one, closed, pending⟩ : attempts = 1 ∧ timeline.open num 0 = none ∧
        timeline.coldBootDone (attemptEnd 0) = false := by simpa using broken
    subst one
    -- the counter is reset and incremented again, which ends the loop
    have first : pass timeline num 1 { i := 0, coldBootDone := timeline.coldBootDone 0, made := 0 } =
        .again (next timeline { i := 0, coldBootDone := timeline.coldBootDone 0, made := 0 }) :=
      pass_of_none Nat.zero_ne_one closed
    have returns : WaitForDevice timeline num 1
        (.error ("Failed to open loopback device " ++ toString num), 1) :=
      .again first (.leave (pass_of_last (by simp [next])))
    obtain ⟨last, same, done⟩ := waits.notEarly _ _ returns
    obtain rfl : last = 0 := by omega
    rw [pending] at done
    cases done
  · intro enough
    exact {
      notEarly := fun _ _ => waitForDevice_notEarly positive enough
      found := fun _ => waitForDevice_found positive enough
      bounded := fun _ => waitForDevice_bounded }

/-- Cold boot takes until the tenth moment, and the node is there at the eleventh. -/
def slowColdBoot : Timeline where
  coldBootDone moment := 10 ≤ moment
  stays := by
    intro moment later le done
    simp only [decide_eq_true_eq] at done ⊢
    omega
  canOpen _ moment := 11 ≤ moment

theorem waitsForColdBoot_slowColdBoot : WaitsForColdBoot slowColdBoot 0 2 :=
  (waitsForColdBoot_iff (by decide)).mpr (.inl (by decide))

theorem not_waitsForColdBoot_slowColdBoot : ¬ WaitsForColdBoot slowColdBoot 0 1 := by
  intro waits
  have ran : Loop.run (pass slowColdBoot 0 1) 2 { i := 0, coldBootDone := false, made := 0 } =
      some (.error ("Failed to open loopback device " ++ toString (0 : Int)), 1) := rfl
  obtain ⟨last, same, done⟩ := waits.notEarly _ _ (Loop.returns_of_run ran)
  obtain rfl : last = 0 := by omega
  exact absurd done (by decide)

end Apexd
