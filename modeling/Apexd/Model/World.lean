import Apexd.Model.MountDatabase
import Apexd.Model.Repository
import Apexd.Model.Session
import Apexd.Process.Execution

/-! # The device as apexd sees it

The calls apexd makes, on the file system, the session store, the database of mounts and the
kernel, and what each of them may do to the device.
-/

namespace Apexd

open Process Storage

/-- The calls on the database of mounts, each under its mutex. -/
inductive DatabaseCall where
  | forallMountedApexesOf (package : String) (matchTempMounts : Bool)
  | forallMountedApexes (matchTempMounts : Bool)
  | addMountedApex (package : String) (data : MountedApexData)
  | removeMountedApex (package : String) (fullPath : FilePath) (matchTempMounts : Bool)
  /-- `DoIfLatest` with the handler it is used with, a bind mount -/
  | bindMountIfLatest (package : String) (fullPath : FilePath) (target source : String)
  deriving DecidableEq

@[reducible] def DatabaseCall.Reply : DatabaseCall → Type
  | .forallMountedApexesOf _ _ => List (MountedApexData × Bool)
  | .forallMountedApexes _ => List (String × MountedApexData × Bool)
  | _ => Unit

/-- The calls on mounts and device-mapper devices. -/
inductive KernelCall where
  | mountImage (request : MountRequest)
  | umount (target : String) (detach : Bool)
  | listDevices
  /-- whether the state of a device is SUSPENDED -/
  | isSuspended (name : String)
  | deleteVerityDevice (name : String) (deferred : Bool)
  deriving DecidableEq

@[reducible] def KernelCall.Reply : KernelCall → Type
  | .mountImage _ => MountedApexData
  | .listDevices => List String
  | .isSuspended _ => Bool
  | _ => Unit

/-- Calls that touch nothing that is modelled. -/
inductive OutsideCall where
  /-- the SELinux context of a file -/
  | getfileconPath (path : FilePath)
  /-- link the libraries of a mounted APEX into the directories of shared libraries -/
  | contributeToSharedLibs (mountPoint : String)
  | setProperty (key value : String)
  /-- write the list of active and inactive packages to a file -/
  | writeApexInfoList (fileName : String) (active inactive : List ApexFile)
  deriving DecidableEq

@[reducible] def OutsideCall.Reply : OutsideCall → Type
  | .getfileconPath _ => String
  | _ => Unit

/-- What labels are restored of: a directory with all that is in it, or a file. -/
inductive LabelledPath where
  | dir (d : DirId)
  | file (path : FilePath)

def LabelledPath.text : LabelledPath → String
  | .dir d => d.text
  | .file path => pathText path

inductive Call where
  | fs (request : FsCall DirId)
  /-- open a file with O_CREAT and O_EXCL and write it -/
  | createFile (path : FilePath) (content : Content)
  /-- the directories of the users' device-encrypted data -/
  | getDeUserDirs
  /-- `selinux_android_restorecon` -/
  | restorecon (path : LabelledPath)
  | session (request : SessionCall)
  | database (request : DatabaseCall)
  | kernel (request : KernelCall)
  | outside (request : OutsideCall)
  /-- `gChangedActiveApexes.insert` -/
  | markChanged (package : String)
  /-- a CHECK or LOG(FATAL) that ends the process -/
  | fatal

@[reducible] def apexd : Interface where
  Call := Call
  Reply
    | .fs request => request.Reply Content
    | .createFile _ _ => Unit
    | .getDeUserDirs => List String
    | .restorecon _ => Unit
    | .session request => request.Reply
    | .database request => request.Reply
    | .kernel request => request.Reply
    | .outside request => request.Reply
    | .markChanged _ => Unit
    | .fatal => Empty

/-- The programs of apexd; an error is its message. -/
abbrev Procedure := Program apexd String

/-- The state of the device. -/
structure World where
  fs : FileSystem DirId Content
  deUserDirs : List String
  sessions : SessionStore
  database : MountedApexDatabase
  /-- the mount table, the mount made last first -/
  mounts : List Mount
  /-- the names of the device-mapper devices -/
  devices : List String
  changedActiveApexes : List String

namespace World

def files (w : World) (d : DirId) : Directory Content :=
  w.fs.files d

/-- The loop devices that back mounted images. -/
def loopDevices (w : World) : List String :=
  w.mounts.flatMap fun mount => [mount.image.loopName, mount.image.hashtreeLoopName]

/-- Whether a device-mapper device backs a mounted image. -/
def deviceInUse (w : World) (name : String) : Bool :=
  w.mounts.any fun mount => mount.image.deviceName = name

end World

/-- A device with the given directories and no session or mount. -/
def World.ofDirectories (directories : List (DirId × List (String × Content))) : World where
  fs := ⟨fun d => (directories.find? fun entry => entry.1 = d).map fun entry =>
    { mode := 0o755, files := (entry.2.map fun (name, content) => ⟨name, content⟩).toFinmap }⟩
  deUserDirs := []
  sessions := ∅
  database := ∅
  mounts := []
  devices := []
  changedActiveApexes := []

/-! ## What the calls do -/

/-- `BindMount`: what was bound at the target is replaced by what is visible at the source. -/
def bindMount (mounts : List Mount) (target source : String) :
    Except String Unit × List Mount :=
  match visibleAt mounts source with
  | none => (.error FsCall.noSuchFile, mounts)
  | some image => (.ok (), ⟨target, image⟩ :: unmountTop mounts target)

/-- The world after a mount that used the given loop devices. -/
def World.withImage (w : World) (request : MountRequest) (loopName hashtreeLoopName : String) :
    World :=
  { w with
    mounts := ⟨request.mountPoint, request.data loopName hashtreeLoopName⟩ :: w.mounts
    devices := if request.onVerity && !(request.deviceName ∈ w.devices)
      then w.devices ++ [request.deviceName] else w.devices }

/-- Why an image cannot be mounted, if so. -/
def World.mountError (w : World) (request : MountRequest) : Option String :=
  if (visibleAt w.mounts request.mountPoint).isSome then
    some (request.mountPoint ++ " is not empty")
  else if request.onVerity && w.deviceInUse request.deviceName then
    some ("Failed to create Apex Verity device " ++ pathText request.apex.path)
  else none

/-- Loop devices the kernel may choose. -/
def World.FreshLoops (w : World) (loopName hashtreeLoopName : String) : Prop :=
  loopName ≠ "" ∧ hashtreeLoopName ≠ "" ∧ loopName ≠ hashtreeLoopName ∧
    loopName ∉ w.loopDevices ∧ hashtreeLoopName ∉ w.loopDevices

instance (w : World) (loopName hashtreeLoopName : String) :
    Decidable (w.FreshLoops loopName hashtreeLoopName) :=
  inferInstanceAs (Decidable (_ ∧ _))

/-- The text of EINVAL. -/
def World.notMounted : String := "Invalid argument"

/-- `umount2`; it fails with EINVAL where nothing is mounted. -/
def World.umount (w : World) (target : String) : Except String Unit × World :=
  if (visibleAt w.mounts target).isSome then
    (.ok (), { w with mounts := unmountTop w.mounts target })
  else (.error World.notMounted, w)

namespace DatabaseCall

def effect : (request : DatabaseCall) → World → Option (Except String request.Reply × World)
  | .forallMountedApexesOf package matchTempMounts, w =>
    some (.ok (w.database.forallMountedApexesOf package matchTempMounts), w)
  | .forallMountedApexes matchTempMounts, w =>
    some (.ok (w.database.forallMountedApexes matchTempMounts), w)
  | .addMountedApex package data, w =>
    (w.database.addMountedApex package data).map fun database =>
      (.ok (), { w with database := database })
  | .removeMountedApex package fullPath matchTempMounts, w =>
    some (.ok (), { w with
      database := w.database.removeMountedApex package fullPath matchTempMounts })
  | .bindMountIfLatest package fullPath target source, w =>
    match w.database.doIfLatest package fullPath with
    | none => none
    | some true => some ((bindMount w.mounts target source).1,
        { w with mounts := (bindMount w.mounts target source).2 })
    | some false => some (.ok (), w)

end DatabaseCall

namespace KernelCall

/-- The answers of the kernel, which chooses loop devices and when a deferred deletion of a
device takes place. -/
def Answers : (request : KernelCall) → World → Except String request.Reply → World → Prop
  | .mountImage request, w, reply, w' => match w.mountError request with
    | some e => reply = .error e ∧ w' = w
    | none => ∃ loopName hashtreeLoopName, w.FreshLoops loopName hashtreeLoopName ∧
        reply = .ok (request.data loopName hashtreeLoopName) ∧
        w' = w.withImage request loopName hashtreeLoopName
  | .umount target _, w, reply, w' => (reply, w') = w.umount target
  | .listDevices, w, reply, w' => w' = w ∧
    ∃ listing : List String, listing.Perm w.devices ∧ reply = .ok listing
  | .isSuspended _, w, reply, w' => w' = w ∧ ∃ suspended : Bool, reply = .ok suspended
  | .deleteVerityDevice name deferred, w, reply, w' => reply = .ok () ∧
    (w' = { w with devices := w.devices.filter (· ≠ name) } ∨ (deferred = true ∧ w' = w))

/-- Loop devices to evaluate programs with. -/
def nextLoop (w : World) : String × String :=
  let next := w.mounts.length
  ("/dev/block/loop" ++ toString (2 * next), "/dev/block/loop" ++ toString (2 * next + 1))

def effect : (request : KernelCall) → World → Option (Except String request.Reply × World)
  | .mountImage request, w => match w.mountError request with
    | some e => some (.error e, w)
    | none =>
      let (loopName, hashtreeLoopName) := nextLoop w
      if w.FreshLoops loopName hashtreeLoopName then
        some (.ok (request.data loopName hashtreeLoopName),
          w.withImage request loopName hashtreeLoopName)
      else none
  | .umount target _, w => some (w.umount target)
  | .listDevices, w => some (.ok w.devices, w)
  | .isSuspended _, w => some (.ok false, w)
  | .deleteVerityDevice name _, w =>
    some (.ok (), { w with devices := w.devices.filter (· ≠ name) })

end KernelCall

/-- An answer to evaluate programs with: every file has the context of an active APEX. -/
def OutsideCall.effect : (request : OutsideCall) → Except String request.Reply
  | .getfileconPath _ => .ok "u:object_r:staging_data_file"
  | .contributeToSharedLibs _ | .setProperty _ _ | .writeApexInfoList _ _ _ => .ok ()

def World.hasPath (w : World) : LabelledPath → Bool
  | .dir d => w.fs.has d
  | .file path => (w.fs.file path).isSome

/-- `selinux_android_restorecon`; labels are not part of the state. -/
def World.restorecon (w : World) (path : LabelledPath) : Except String Unit :=
  if w.hasPath path then .ok () else .error FsCall.noSuchFile

def World.createFile (w : World) (path : FilePath) (content : Content) :
    Except String Unit × World :=
  if (w.fs.file path).isSome then (.error FsCall.fileExists, w)
  else if w.fs.has path.dir then (.ok (), { w with fs := w.fs.write path content })
  else (.error FsCall.noSuchFile, w)

/-- The semantics of apexd's calls. -/
def device : Semantics apexd String World
  | .fs request, w, reply, w' =>
    ∃ fs', request.Answers w.fs reply fs' ∧ w' = { w with fs := fs' }
  | .createFile path content, w, reply, w' => (reply, w') = w.createFile path content
  | .getDeUserDirs, w, reply, w' => w' = w ∧
    ∃ listing : List String, listing.Perm w.deUserDirs ∧ reply = .ok listing
  | .restorecon path, w, reply, w' => reply = w.restorecon path ∧ w' = w
  | .session request, w, reply, w' =>
    ∃ sessions', request.Answers w.sessions reply sessions' ∧ w' = { w with sessions := sessions' }
  | .database request, w, reply, w' => request.effect w = some (reply, w')
  | .kernel request, w, reply, w' => request.Answers w reply w'
  | .outside _, w, reply, w' => (∃ value, reply = .ok value) ∧ w' = w
  | .markChanged package, w, reply, w' => reply = .ok () ∧
    w' = { w with changedActiveApexes := w.changedActiveApexes.insert package }
  | .fatal, _, _, _ => False

/-- One answer for every call, to evaluate programs with. -/
def deviceHandler : Handler apexd String World
  | .fs request, w =>
    some ((request.effect w.fs).1, { w with fs := (request.effect w.fs).2 })
  | .createFile path content, w => some (w.createFile path content)
  | .getDeUserDirs, w => some (.ok w.deUserDirs, w)
  | .restorecon path, w => some (w.restorecon path, w)
  | .session request, w =>
    some ((request.effect w.sessions).1, { w with sessions := (request.effect w.sessions).2 })
  | .database request, w => request.effect w
  | .kernel request, w => request.effect w
  | .outside request, w => some (request.effect, w)
  | .markChanged package, w =>
    some (.ok (), { w with changedActiveApexes := w.changedActiveApexes.insert package })
  | .fatal, _ => none

theorem kernel_effect_sound {request : KernelCall} {w w' : World}
    {reply : Except String request.Reply} (computed : request.effect w = some (reply, w')) :
    request.Answers w reply w' := by
  cases request with
  | mountImage request =>
    simp only [KernelCall.effect, KernelCall.Answers] at computed ⊢
    split at computed
    · simp_all
    · split at computed
      · rename_i fresh
        cases computed
        exact ⟨_, _, fresh, rfl, rfl⟩
      · cases computed
  | umount target detach => exact (Option.some.inj computed).symm
  | listDevices =>
    cases computed
    exact ⟨rfl, _, .refl _, rfl⟩
  | isSuspended name =>
    cases computed
    exact ⟨rfl, false, rfl⟩
  | deleteVerityDevice name deferred =>
    cases computed
    exact ⟨rfl, .inl rfl⟩

theorem deviceHandler_sound : deviceHandler.Sound device := by
  intro request w reply w' computed
  cases request with
  | fs request =>
    cases computed
    exact ⟨_, request.answers_effect w.fs, rfl⟩
  | createFile path content => exact (Option.some.inj computed).symm
  | getDeUserDirs =>
    cases computed
    exact ⟨rfl, _, .refl _, rfl⟩
  | restorecon path =>
    cases computed
    exact ⟨rfl, rfl⟩
  | session request =>
    cases computed
    exact ⟨_, request.answers_effect w.sessions, rfl⟩
  | database request => exact computed
  | kernel request => exact kernel_effect_sound computed
  | outside request =>
    cases computed
    cases request <;> exact ⟨⟨_, rfl⟩, rfl⟩
  | markChanged package =>
    cases computed
    exact ⟨rfl, rfl⟩
  | fatal => cases computed

end Apexd
