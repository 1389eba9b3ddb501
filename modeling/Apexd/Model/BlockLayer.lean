import Apexd.Model.LoopDevices
import Apexd.Model.Mounting
import Apexd.Model.Verity
import Apexd.Process.Faults

/-! # Loop devices, device-mapper devices and mounts

The calls that put an image on block devices and mount it, and what the kernel does at each of
them.  A loop device stays attached as long as somebody uses it: an open descriptor, a
device-mapper table, a mount.
-/

namespace Apexd

open Process Storage

/-! ## Devices -/

/-- Who uses an attached loop device. -/
inductive LoopUser where
  /-- apexd, by the descriptor it attached the device with -/
  | descriptor
  | table (deviceName : String)
  | mounted (target : String)
  | otherProcess (pid : Nat)
  deriving DecidableEq

/-- What apexd sets of a `struct loop_info64`. -/
structure LoopInfo64 where
  cryptName : String
  offset : Nat
  sizeLimit : Nat
  autoclear : Bool
  directIo : Bool
  deriving DecidableEq

/-- An attached loop device. -/
structure LoopDevice where
  target : FilePath
  info : LoopInfo64
  users : Finset LoopUser
  deriving DecidableEq

/-- The device after a user has left it: the last one detaches it if it is to be cleared. -/
def LoopDevice.drop (loop : LoopDevice) (user : LoopUser) : Option LoopDevice :=
  if user ∈ loop.users then
    let users := loop.users.erase user
    if users = ∅ ∧ loop.info.autoclear then none else some { loop with users := users }
  else some loop

/-- `LoopbackDeviceUniqueFd`: a descriptor of the loop device with this number. -/
structure LoopbackDevice where
  number : Nat
  name : String
  deriving DecidableEq

/-- What a `DmTable` with one `DmTargetVerity` says. -/
structure VerityTable where
  length : Nat
  version : Nat
  blockDevice : LoopbackDevice
  hashDevice : LoopbackDevice
  dataBlockSize : Nat
  hashBlockSize : Nat
  numDataBlocks : Nat
  hashStartBlock : Nat
  hashAlgorithm : String
  rootDigest : String
  salt : String
  ignoreZeroBlocks : Bool
  restartOnCorruption : Bool
  readonly : Bool
  deriving DecidableEq

/-- A device-mapper device; it is suspended as long as it has no table. -/
structure DmDevice where
  table : Option VerityTable
  deriving DecidableEq

inductive DmDeviceState where
  | INVALID
  | SUSPENDED
  | ACTIVE
  deriving DecidableEq

/-- What is mounted: a loop device, or the device-mapper device of a name. -/
inductive ImageDevice where
  | loop (device : LoopbackDevice)
  | dm (name : String)
  deriving DecidableEq

structure BlockMount where
  target : String
  source : ImageDevice
  deriving DecidableEq

/-- The block devices, the mount table with the mount made last first, and the directories that
are mounted on. -/
structure BlockLayer where
  loops : Nat → Option LoopDevice
  devices : String → Option DmDevice
  mounts : List BlockMount
  /-- the names in a directory, where nothing is mounted on it -/
  directories : String → Option (List String)

namespace BlockLayer

def create : BlockLayer where
  loops _ := none
  devices _ := none
  mounts := []
  directories _ := none

def setLoop (s : BlockLayer) (number : Nat) (loop : Option LoopDevice) : BlockLayer :=
  { s with loops := Function.update s.loops number loop }

def addUser (s : BlockLayer) (number : Nat) (user : LoopUser) : BlockLayer :=
  s.setLoop number ((s.loops number).map fun loop => { loop with users := insert user loop.users })

def dropUser (s : BlockLayer) (number : Nat) (user : LoopUser) : BlockLayer :=
  s.setLoop number ((s.loops number).bind (·.drop user))

def setDevice (s : BlockLayer) (name : String) (device : Option DmDevice) : BlockLayer :=
  { s with devices := Function.update s.devices name device }

def setDirectory (s : BlockLayer) (target : String) (names : Option (List String)) : BlockLayer :=
  { s with directories := Function.update s.directories target names }

def mounted (s : BlockLayer) (target : String) : Bool :=
  s.mounts.any fun mount => mount.target = target

/-- Whether a device-mapper device is mounted, which keeps it from being removed. -/
def deviceInUse (s : BlockLayer) (name : String) : Bool :=
  s.mounts.any fun mount => mount.source = .dm name

def getState (s : BlockLayer) (name : String) : DmDeviceState :=
  match s.devices name with
  | none => .INVALID
  | some ⟨none⟩ => .SUSPENDED
  | some ⟨some _⟩ => .ACTIVE

/-- The device with a table, which uses its loop devices from then on. -/
def activate (s : BlockLayer) (name : String) (table : VerityTable) : BlockLayer :=
  ((s.addUser table.blockDevice.number (.table name)).addUser table.hashDevice.number
    (.table name)).setDevice name (some ⟨some table⟩)

/-- Without the device, whose table uses its loop devices no more. -/
def discard (s : BlockLayer) (name : String) : BlockLayer :=
  let released := match s.devices name with
    | some ⟨some table⟩ => (s.dropUser table.blockDevice.number (.table name)).dropUser
        table.hashDevice.number (.table name)
    | _ => s
  released.setDevice name none

/-- Both loop devices of a table are attached. -/
def backs (s : BlockLayer) (table : VerityTable) : Bool :=
  (s.loops table.blockDevice.number).isSome && (s.loops table.hashDevice.number).isSome

/-- Whether there is something on a device that can be mounted. -/
def readable (s : BlockLayer) : ImageDevice → Bool
  | .loop device => (s.loops device.number).isSome
  | .dm name => s.getState name = .ACTIVE

def mount (s : BlockLayer) (source : ImageDevice) (target : String) : BlockLayer :=
  let used := match source with
    | .loop device => s.addUser device.number (.mounted target)
    | .dm _ => s
  { used with mounts := ⟨target, source⟩ :: s.mounts }

def umount (s : BlockLayer) (target : String) : BlockLayer :=
  let unused := match s.mounts.find? fun mount => mount.target = target with
    | some ⟨_, .loop device⟩ => s.dropUser device.number (.mounted target)
    | _ => s
  { unused with mounts := s.mounts.eraseP fun mount => mount.target = target }

end BlockLayer

/-! ## Calls -/

/-- The calls on loop devices. -/
inductive LoopCall where
  /-- open /dev/loop-control -/
  | openControl
  | ctlGetFree
  /-- `WaitForDevice` -/
  | waitForDevice (num : Nat)
  /-- open the file to be attached, with O_DIRECT or without -/
  | openTarget (target : FilePath) (direct : Bool)
  /-- the magic number of the file system that a file is on -/
  | statfs (target : FilePath)
  | loopConfigure (device : LoopbackDevice) (target : FilePath) (info : LoopInfo64)
  | loopSetFd (device : LoopbackDevice) (target : FilePath)
  | loopSetStatus64 (device : LoopbackDevice) (info : LoopInfo64)
  | blkFlsBuf (device : LoopbackDevice)
  | loopSetBlockSize (device : LoopbackDevice) (blockSize : Nat)
  | loopClrFd (device : LoopbackDevice)
  /-- close the descriptor -/
  | close (device : LoopbackDevice)
  deriving DecidableEq

@[reducible] def LoopCall.Reply : LoopCall → Type
  | .ctlGetFree | .statfs _ => Nat
  | .waitForDevice _ => LoopbackDevice
  | _ => Unit

/-- The descriptor of the verity data that tells how the image is verified. -/
structure HashtreeDescriptor extends ApexVerityData where
  dmVerityVersion : Nat
  dataBlockSize : Nat
  treeOffset : Nat
  /-- 0 if the image has no hash tree of its own -/
  treeSize : Nat

inductive ImageCall where
  | stat (dir : String)
  | mkdir (dir : String)
  | rmdir (dir : String)
  | readDir (dir : String)
  | loop (request : LoopCall)
  /-- `CreateLoopDevice`, which holds a mutex -/
  | createLoopDevice (target : FilePath) (imageOffset imageSize : Nat)
  | configureScheduler (name : String)
  | configureQueueDepth (name : String) (target : FilePath)
  | configureReadAhead (device : ImageDevice)
  /-- `PrepareHashTree` -/
  | prepareHashTree (apex : ApexFile) (hashtreeFile : FilePath)
  | getState (name : String)
  | createDevice (name : String) (table : VerityTable)
  | loadTableAndActivate (name : String) (table : VerityTable)
  | waitForDmDevice (name : String)
  | deleteDevice (name : String) (deferred : Bool)
  | openDevice (device : ImageDevice)
  /-- `ReadFully` -/
  | readDevice (device : ImageDevice) (size : Nat)
  | mount (source : ImageDevice) (target fsType : String) (noexec : Bool)
  | umount (target : String)
  /-- `ReadManifest` of a manifest in a mounted image -/
  | readManifest (path : String)
  /-- `shim::ValidateShimApex` -/
  | validateShimApex (target : String) (apex : ApexFile)
  deriving DecidableEq

@[reducible] def ImageCall.Reply : ImageCall → Type
  | .stat _ => Bool
  | .readDir _ => List String
  | .loop request => request.Reply
  | .createLoopDevice _ _ _ => LoopbackDevice
  | .getState _ => DmDeviceState
  | .readManifest _ => ApexManifest
  | _ => Unit

@[reducible] def loopCalls : Interface where
  Call := LoopCall
  Reply := LoopCall.Reply

@[reducible] def imageCalls : Interface where
  Call := ImageCall
  Reply := ImageCall.Reply

abbrev LoopProgram := Program loopCalls String
abbrev ImageProgram := Program imageCalls String

end Apexd
