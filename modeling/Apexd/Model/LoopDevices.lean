import Apexd.Process.Loop
import Mathlib.Data.Finset.Basic

/-! # Loop devices

`PreAllocateLoopDevices` and `WaitForDevice` of `apexd_loop.cpp`.  Both are loops whose end is not
evident, since neither counts its passes.
-/

namespace Apexd

open Process

/-! ## Allocation -/

inductive Errno where
  | EEXIST
  | ENOENT
  /-- any other error with its text, or no error so far, which reads "Success" -/
  | other (text : String)
  deriving DecidableEq

/-- `strerror` -/
def Errno.text : Errno → String
  | .EEXIST => "File exists"
  | .ENOENT => "No such file or directory"
  | .other text => text

/-- The devices of the kernel, and the `errno` of the thread that asks for more of them. -/
structure LoopDriver where
  /-- what `WaitForFile` and `open` give of `/dev/loop-control` -/
  control : Except String Unit
  existing : Nat → Bool
  busy : Finset Nat
  inUse : ∀ id ∈ busy, existing id = true
  errno : Errno

namespace LoopDriver

/-- The device is there and nothing uses it. -/
def Idle (driver : LoopDriver) (id : Nat) : Prop :=
  driver.existing id = true ∧ id ∉ driver.busy

/-- `LOOP_CTL_ADD`: what `ioctl` returns, which leaves `errno` alone unless it fails. -/
def ctlAdd (driver : LoopDriver) (id : Nat) : Int × LoopDriver :=
  if driver.existing id then (-1, { driver with errno := .EEXIST })
  else
    (id, { driver with
      existing := fun other => other = id || driver.existing other
      inUse := fun other member => by simp [driver.inUse other member] })

/-- `access` of the file that the kernel has for a device in use. -/
def accessBackingFile (driver : LoopDriver) (id : Nat) : Int × LoopDriver :=
  if id ∈ driver.busy then (0, driver) else (-1, { driver with errno := .ENOENT })

end LoopDriver

/-- The variables of the loop of `PreAllocateLoopDevices`. -/
structure PreAllocation where
  id : Nat
  cnt : Nat
  driver : LoopDriver

/-- One test and pass of the loop; a fresh device counts, and one that is not in use. -/
def PreAllocation.pass (num : Nat) (state : PreAllocation) :
    Pass PreAllocation (Except String Unit × LoopDriver) :=
  if state.cnt < num then
    let (ret, driver) := state.driver.ctlAdd state.id
    if ret > 0 then
      .again { id := state.id + 1, cnt := state.cnt + 1, driver := driver }
    else if driver.errno = .EEXIST then
      let (ret, driver) := driver.accessBackingFile state.id
      if ret = 0 then
        .again { id := state.id + 1, cnt := state.cnt, driver := driver }
      else
        .again { id := state.id + 1, cnt := state.cnt + 1, driver := driver }
    else
      .leave (.error ("Failed LOOP_CTL_ADD id = " ++ toString state.id ++ ": " ++ driver.errno.text),
        driver)
  else .leave (.ok (), state.driver)

/-- `PreAllocateLoopDevices` comes to an end with this result; `errno` is that left by the calls
before the loop. -/
def PreAllocateLoopDevices (num : Nat) (driver : LoopDriver)
    (result : Except String Unit × LoopDriver) : Prop :=
  match driver.control with
  | .error e => result = (.error e, driver)
  | .ok () => Loop.Returns (PreAllocation.pass num) { id := 0, cnt := 0, driver := driver } result

/-! ## Waiting -/

/-- What `WaitForDevice` sees when.  Moment 0 is that of the property read before the loop; the
passes follow it, of four moments each. -/
structure Timeline where
  coldBootDone : Nat → Bool
  /-- the property is set once -/
  stays : ∀ {moment later}, moment ≤ later → coldBootDone moment = true → coldBootDone later = true
  canOpen : String → Nat → Bool

/-- The moment of the property read of an attempt; the opens of the two candidates follow. -/
def attemptStart (attempt : Nat) : Nat :=
  4 * attempt + 1

/-- The moment after the sleep of an attempt. -/
def attemptEnd (attempt : Nat) : Nat :=
  4 * attempt + 4

def candidateDevices (num : Int) : List String :=
  ["/dev/block/loop" ++ toString num, "/dev/loop" ++ toString num]

/-- The candidate that an attempt can open, tried in their order. -/
def Timeline.open (timeline : Timeline) (num : Int) (attempt : Nat) : Option String :=
  ((candidateDevices num).zipIdx.find? fun (device, i) =>
    timeline.canOpen device (attemptStart attempt + 1 + i)).map Prod.fst

/-- The variables of the loop of `WaitForDevice`; `made` is how many attempts were made. -/
structure Waiting where
  i : Nat
  coldBootDone : Bool
  made : Nat

/-- One test and pass of the loop.  The header increments `i` after the body reset it. -/
def Waiting.pass (timeline : Timeline) (num : Int) (attempts : Nat) (state : Waiting) :
    Pass Waiting (Except String String × Nat) :=
  if state.i ≠ attempts then
    let coldBootDone :=
      if !state.coldBootDone then timeline.coldBootDone (attemptStart state.made)
      else state.coldBootDone
    match timeline.open num state.made with
    | some device => .leave (.ok device, state.made + 1)
    | none =>
      let i := if !coldBootDone then 0 else state.i
      .again { i := i + 1, coldBootDone := coldBootDone, made := state.made + 1 }
  else .leave (.error ("Failed to open loopback device " ++ toString num), state.made)

/-- `WaitForDevice` returns this after so many attempts. -/
def WaitForDevice (timeline : Timeline) (num : Int) (attempts : Nat) :
    Except String String × Nat → Prop :=
  Loop.Returns (Waiting.pass timeline num attempts)
    { i := 0, coldBootDone := timeline.coldBootDone 0, made := 0 }

end Apexd
