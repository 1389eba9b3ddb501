import Apexd.Model.BlockLayer
import Apexd.Model.Verification

/-! # Mounting an image

`MountPackageImpl` call by call: `CreateLoopDevice`, which a mutex guards, `CreateVerityDevice`, and
the destructors that undo what was set up when a later call fails.
-/

namespace Apexd

open Process Storage

/-- What mounting an image depends on besides the repository: what `libziparchive` and `libavb` say
of an archive. -/
structure ImageEnvironment extends Environment where
  imageOffset : Archive → Option Nat
  imageSize : Archive → Option Nat
  fsType : Archive → Option String
  nocode : Archive → Bool
  /-- `ApexFile::VerifyApexVerity` -/
  verityData : Archive → String → Except String HashtreeDescriptor
  treeSize : ∀ archive publicKey, verifyApexVerity archive publicKey =
    (verityData archive publicKey).map HashtreeDescriptor.treeSize
  /-- `ApexFileRepository::GetBlockApexRootDigest` -/
  getBlockApexRootDigest : String → Option String
  /-- the path that the device-mapper device of a name gets -/
  devPath : String → String

def loopCall (request : LoopCall) : LoopProgram request.Reply :=
  .call request .done

def imageCall (request : ImageCall) : ImageProgram request.Reply :=
  .call request .done

/-- A program of calls on loop devices as one of calls on images. -/
def liftLoop {α : Type} : LoopProgram α → ImageProgram α
  | .done result => .done result
  | .call request next => .call (.loop request) fun reply => liftLoop (next reply)

/-- The error of a call, after the text that `ErrnoError` puts before it. -/
def afterText {I : Interface} {α : Type} (text : String) (p : Program I String α) :
    Program I String α :=
  p.mapError fun e => text ++ ": " ++ e

/-! ## Loop devices -/

def kApexLoopIdPrefix : String := "apex:"

def EROFS_SUPER_MAGIC_V1 : Nat := 0xe0f5e1e2
def SQUASHFS_MAGIC : Nat := 0x73717368
def OVERLAYFS_SUPER_MAGIC : Nat := 0x794c7630

/-- The destructor of `LoopbackDeviceUniqueFd`: `MaybeCloseBad`, then the descriptor is closed. -/
def maybeCloseBad (device : LoopbackDevice) : LoopProgram Unit := do
  (loopCall (.loopClrFd device)).ignore
  loopCall (.close device)

def imageInfo (imageOffset imageSize : Nat) : LoopInfo64 where
  cryptName := kApexLoopIdPrefix
  offset := imageOffset
  sizeLimit := imageSize
  autoclear := true
  -- LO_FLAGS_DIRECT_IO is added after the configuration has been copied
  directIo := false

/-- Open the file with direct I/O, or without where the file system does not support it. -/
def openLoopTarget (target : FilePath) : LoopProgram Unit := do
  match ← (loopCall (.openTarget target true)).attempt with
  | .ok () => pure ()
  | .error savedErrno =>
    match ← (loopCall (.statfs target)).attempt with
    | .ok magic =>
      if magic ≠ EROFS_SUPER_MAGIC_V1 ∧ magic ≠ SQUASHFS_MAGIC ∧
          magic ≠ OVERLAYFS_SUPER_MAGIC then
        .throw ("Failed to open " ++ pathText target ++ ": " ++ savedErrno)
      else afterText ("Failed to open " ++ pathText target) (loopCall (.openTarget target false))
    | .error _ => .throw ("Failed to open " ++ pathText target ++ ": " ++ savedErrno)

def configureLoopDevice (useLoopConfigure : Bool) (device : LoopbackDevice) (target : FilePath)
    (imageOffset imageSize : Nat) : LoopProgram Unit := do
  openLoopTarget target
  let li := imageInfo imageOffset imageSize
  if useLoopConfigure then
    afterText "Failed to LOOP_CONFIGURE" (loopCall (.loopConfigure device target li))
  else
    afterText "Failed to LOOP_SET_FD" (loopCall (.loopSetFd device target))
    afterText "Failed to LOOP_SET_STATUS64" (loopCall (.loopSetStatus64 device li))
    afterText "Failed to flush buffers on the loop device" (loopCall (.blkFlsBuf device))
    (loopCall (.loopSetBlockSize device 4096)).ignore

/-- `CreateLoopDevice` from where it holds the mutex. -/
def createLoopDevice (useLoopConfigure : Bool) (target : FilePath) (imageOffset imageSize : Nat) :
    LoopProgram LoopbackDevice := do
  afterText "Failed to open loop-control" (loopCall .openControl)
  let num ← afterText "Failed LOOP_CTL_GET_FREE" (loopCall .ctlGetFree)
  let loopDevice ← loopCall (.waitForDevice num)
  (configureLoopDevice useLoopConfigure loopDevice target imageOffset imageSize).onError
    (maybeCloseBad loopDevice)
  pure loopDevice

def createAndConfigureLoopDevice (target : FilePath) (imageOffset imageSize : Nat) :
    ImageProgram LoopbackDevice := do
  let loopDevice ← imageCall (.createLoopDevice target imageOffset imageSize)
  (imageCall (.configureScheduler loopDevice.name)).ignore
  (imageCall (.configureQueueDepth loopDevice.name target)).ignore
  (imageCall (.configureReadAhead (.loop loopDevice))).onError (liftLoop (maybeCloseBad loopDevice))
  pure loopDevice

def kLoopDeviceSetupAttempts : Nat := 3

/-- The loop that sets up the loop device, with so many attempts left after this one. -/
def setUpLoopDevice (target : FilePath) (imageOffset imageSize : Nat) :
    Nat → ImageProgram LoopbackDevice
  | 0 => (createAndConfigureLoopDevice target imageOffset imageSize).mapError fun e =>
    "Could not create loop device for " ++ pathText target ++ ": " ++ e
  | attempts + 1 => do
    match ← (createAndConfigureLoopDevice target imageOffset imageSize).attempt with
    | .ok device => pure device
    | .error _ => setUpLoopDevice target imageOffset imageSize attempts

/-! ## Verity devices -/

/-- The class `DmTargetVerity` as `CreateVerityTable` fills it. -/
def createVerityTable (verityData : HashtreeDescriptor) (blockDevice hashDevice : LoopbackDevice)
    (restartOnCorruption : Bool) : VerityTable where
  length := verityData.imageSize / 512
  version := verityData.dmVerityVersion
  blockDevice := blockDevice
  hashDevice := hashDevice
  dataBlockSize := verityData.dataBlockSize
  hashBlockSize := verityData.hashBlockSize
  numDataBlocks := verityData.imageSize / verityData.dataBlockSize
  hashStartBlock :=
    if hashDevice.name = blockDevice.name then
      verityData.treeOffset / verityData.hashBlockSize % 2 ^ 32
    else 0
  hashAlgorithm := verityData.hashAlgorithm
  rootDigest := verityData.rootDigest
  salt := verityData.salt
  ignoreZeroBlocks := true
  restartOnCorruption := restartOnCorruption
  readonly := true

def deleteVerityDevice (name : String) (deferred : Bool) : ImageProgram Unit :=
  if deferred then
    afterText ("Failed to issue deferred delete of verity device " ++ name)
      (imageCall (.deleteDevice name true))
  else
    (imageCall (.deleteDevice name false)).mapError fun _ => "Failed to delete dm-device " ++ name

/-- The first `CreateVerityDevice`, which makes a device. -/
def createNewVerityDevice (name : String) (table : VerityTable) : ImageProgram Unit :=
  (imageCall (.createDevice name table)).mapError fun _ => "Couldn't create verity device."

def createVerityDevice (name : String) (table : VerityTable) (reuseDevice : Bool) :
    ImageProgram Unit := do
  let state ← imageCall (.getState name)
  if state = .INVALID then createNewVerityDevice name table
  else if reuseDevice then
    if state = .ACTIVE then
      deleteVerityDevice name false
      createNewVerityDevice name table
    else
      ((imageCall (.loadTableAndActivate name table)).mapError fun _ =>
        "Failed to activate dm device " ++ name).onError (imageCall (.deleteDevice name false))
      ((imageCall (.waitForDmDevice name)).mapError fun _ =>
        "Failed waiting for dm device " ++ name).onError (imageCall (.deleteDevice name false))
  else
    -- a dangling device, which was not deleted when an APEX was unmounted
    deleteVerityDevice name false
    createNewVerityDevice name table

def kBufSize : Nat := 1024 * 4096

/-- The loop of `ReadVerityDevice`. -/
def readBlocks (verityDevice : String) (device : ImageDevice) (bytesLeft : Nat) :
    ImageProgram Unit :=
  if 0 < bytesLeft then do
    let toRead := min bytesLeft kBufSize
    afterText ("Can't verify " ++ verityDevice ++ "; corrupted?")
      (imageCall (.readDevice device toRead))
    readBlocks verityDevice device (bytesLeft - toRead)
  else pure ()
termination_by bytesLeft
decreasing_by
  have positive : 0 < kBufSize := by decide
  omega

/-- `ReadVerityDevice`: all of the device, so that a block that is not authentic is found. -/
def readVerityDevice (verityDevice : String) (device : ImageDevice) (deviceSize : Nat) :
    ImageProgram Unit := do
  afterText ("Can't open " ++ verityDevice) (imageCall (.openDevice device))
  readBlocks verityDevice device deviceSize

/-! ## The image -/

def isEmptyDirectory (dir : String) : ImageProgram Bool := do
  match ← (imageCall (.readDir dir)).attempt with
  | .ok names => pure names.isEmpty
  | .error _ => pure false

def kManifestFilenamePb : String := "apex_manifest.pb"

def verifyMountedImage (apex : ApexFile) (mountPoint : String) : ImageProgram Unit := do
  let verifiedManifest ← imageCall (.readManifest (mountPoint ++ "/" ++ kManifestFilenamePb))
  if verifiedManifest ≠ apex.manifest then
    .throw "Manifest inside filesystem does not match manifest outside it"
  else if isShimApex apex then imageCall (.validateShimApex mountPoint apex)
  else pure ()

/-- The check of the root digest of an APEX from the host. -/
def checkBlockApexRootDigest (env : ImageEnvironment) (apex : ApexFile) (rootDigest : String) :
    Except String Unit :=
  if env.repository.isBlockApex apex then
    match env.getBlockApexRootDigest (pathText apex.path) with
    | none => .ok ()
    | some specified =>
      if specified ≠ rootDigest then
        .error ("Failed to verify Apex Verity data for " ++ pathText apex.path ++
          ": root digest (" ++ rootDigest ++ ") mismatches with the one (" ++ specified ++
          ") specified in config")
      else .ok ()
  else .ok ()

namespace ImageMount

/-- The mount itself and the check of what is mounted. -/
def mountBlockDevice (env : ImageEnvironment) (apex : ApexFile) (blockDevice : ImageDevice)
    (mountPoint : String) : ImageProgram Unit := do
  match env.fsType apex.archive with
  | none => .throw "Cannot mount package without FsType"
  | some fsType =>
    afterText ("Mounting failed for package " ++ pathText apex.path)
      (imageCall (.mount blockDevice mountPoint fsType (env.nocode apex.archive)))
    ((verifyMountedImage apex mountPoint).mapError fun e =>
      "Failed to verify " ++ pathText apex.path ++ ": " ++ e).onError (imageCall (.umount mountPoint))

/-- The loop device of the hash tree, where the image has none of its own. -/
def hashDevice (apex : ApexFile) (verityData : HashtreeDescriptor) (hashtreeFile : FilePath) :
    ImageProgram (Option LoopbackDevice) := do
  if verityData.treeSize = 0 then
    imageCall (.prepareHashTree apex hashtreeFile)
    let loopForHash ← createAndConfigureLoopDevice hashtreeFile 0 0
    pure (some loopForHash)
  else pure none

/-- The destructor of a loop device that may not have been created. -/
def closeBad (device : Option LoopbackDevice) : ImageProgram Unit :=
  match device with
  | none => pure ()
  | some device => liftLoop (maybeCloseBad device)

/-- `CloseGood` -/
def closeGood (device : Option LoopbackDevice) : ImageProgram Unit :=
  match device with
  | none => pure ()
  | some device => liftLoop (loopCall (.close device))

/-- From the dm-verity device on.  The destructors run in the order of `loop_for_hash`,
`verity_dev`. -/
def mountOnVerity (env : ImageEnvironment) (apex : ApexFile) (verityData : HashtreeDescriptor)
    (loopbackDevice : LoopbackDevice) (loopForHash : Option LoopbackDevice)
    (mountPoint deviceName : String) (verifyImage reuseDevice : Bool) : ImageProgram Unit := do
  let table := createVerityTable verityData loopbackDevice (loopForHash.getD loopbackDevice)
    (!verifyImage)
  ((createVerityDevice deviceName table reuseDevice).mapError fun e =>
    "Failed to create Apex Verity device " ++ pathText apex.path ++ ": " ++ e).onError
    (closeBad loopForHash)
  Program.onError (do
    imageCall (.configureReadAhead (.dm deviceName))
    if verifyImage then
      readVerityDevice (env.devPath deviceName) (.dm deviceName) verityData.imageSize
    mountBlockDevice env apex (.dm deviceName) mountPoint) (do
    closeBad loopForHash
    (deleteVerityDevice deviceName false).ignore)

/-- From the loop device of the image on. -/
def mountLoopDevice (env : ImageEnvironment) (apex : ApexFile) (loopbackDevice : LoopbackDevice)
    (mountPoint deviceName : String) (hashtreeFile : FilePath)
    (verifyImage reuseDevice tempMount : Bool) : ImageProgram MountedApexData := do
  let publicKey ← .ofExcept (env.repository.getPublicKey apex.manifest.name)
  let verityData ← (Program.ofExcept (env.verityData apex.archive publicKey)).mapError fun e =>
    "Failed to verify Apex Verity data for " ++ pathText apex.path ++ ": " ++ e
  Program.ofExcept (checkBlockApexRootDigest env apex verityData.rootDigest)
  let data : MountedApexData := {
    version := apex.manifest.version.toInt32
    loopName := loopbackDevice.name
    fullPath := apex.path
    mountPoint := mountPoint
    deviceName := ""
    hashtreeLoopName := ""
    deleted := false
    isTempMount := tempMount }
  -- pre-installed APEXes are on partitions that dm-verity protects already
  if !env.repository.isPreInstalledApex apex || env.repository.isDecompressedApex apex ||
      env.repository.isBlockApex apex then
    let loopForHash ← hashDevice apex verityData hashtreeFile
    mountOnVerity env apex verityData loopbackDevice loopForHash mountPoint deviceName
      verifyImage reuseDevice
    liftLoop (loopCall (.close loopbackDevice))
    closeGood loopForHash
    pure { data with
      deviceName := deviceName
      hashtreeLoopName := (loopForHash.map LoopbackDevice.name).getD "" }
  else
    mountBlockDevice env apex (.loop loopbackDevice) mountPoint
    liftLoop (loopCall (.close loopbackDevice))
    pure data

/-- From the check of the mount point on, which a scope guard removes on an error. -/
def mountImage (env : ImageEnvironment) (apex : ApexFile) (mountPoint deviceName : String)
    (hashtreeFile : FilePath) (verifyImage reuseDevice tempMount : Bool) :
    ImageProgram MountedApexData := do
  if ← isEmptyDirectory mountPoint then
    match env.imageOffset apex.archive, env.imageSize apex.archive with
    | some imageOffset, some imageSize =>
      let loopbackDevice ← setUpLoopDevice apex.path imageOffset imageSize
        (kLoopDeviceSetupAttempts - 1)
      (mountLoopDevice env apex loopbackDevice mountPoint deviceName hashtreeFile verifyImage
        reuseDevice tempMount).onError (liftLoop (maybeCloseBad loopbackDevice))
    | _, _ => .throw "Cannot create mount point without image offset and size"
  else
    -- the text of errno follows, which is whatever an earlier call left there
    .throw (mountPoint ++ " is not empty")

/-- `MountPackageImpl` -/
def mountPackageImpl (env : ImageEnvironment) (apex : ApexFile) (mountPoint deviceName : String)
    (hashtreeFile : FilePath) (verifyImage reuseDevice tempMount : Bool) :
    ImageProgram MountedApexData := do
  if apex.isCompressed then
    .throw ("Cannot directly mount compressed APEX " ++ pathText apex.path)
  else
    -- the mount point exists where the APEX was activated during the bootstrap phase
    let exists' ← (imageCall (.stat mountPoint)).mapError fun e =>
      "Failed to access " ++ mountPoint ++ " : " ++ e
    if !exists' then
      afterText ("Could not create mount point " ++ mountPoint) (imageCall (.mkdir mountPoint))
    (mountImage env apex mountPoint deviceName hashtreeFile verifyImage reuseDevice tempMount).onError
      (imageCall (.rmdir mountPoint))

end ImageMount

/-! ## What the calls do -/

namespace LoopCall

/-- The text of EBUSY. -/
def busy : String := "Device or resource busy"

/-- The text of ENXIO. -/
def noDevice : String := "No such device or address"

/-- Attach a file to a device that none is attached to. -/
def attach (s : BlockLayer) (device : LoopbackDevice) (target : FilePath) (info : LoopInfo64) :
    Except String Unit × BlockLayer :=
  match s.loops device.number with
  | some _ => (.error busy, s)
  | none => (.ok (), s.setLoop device.number (some ⟨target, info, {.descriptor}⟩))

/-- `LOOP_CLR_FD`: a device that others use is detached by the last of them. -/
def clearFd (s : BlockLayer) (device : LoopbackDevice) : Except String Unit × BlockLayer :=
  match s.loops device.number with
  | none => (.error noDevice, s)
  | some loop =>
    if loop.users.erase .descriptor = ∅ then (.ok (), s.setLoop device.number none)
    else (.ok (), s.setLoop device.number
      (some { loop with info := { loop.info with autoclear := true } }))

def Answers : (request : LoopCall) → BlockLayer → Except String request.Reply → BlockLayer → Prop
  | .ctlGetFree, s, reply, s' => s' = s ∧ ∃ num, s.loops num = none ∧ reply = .ok num
  | .waitForDevice num, s, reply, s' => s' = s ∧
    ∃ name ∈ candidateDevices num, reply = .ok ⟨num, name⟩
  | .statfs _, s, reply, s' => s' = s ∧ ∃ magic, reply = .ok magic
  | .loopConfigure device target info, s, reply, s' => (reply, s') = attach s device target info
  | .loopSetFd device target, s, reply, s' =>
    (reply, s') = attach s device target ⟨"", 0, 0, false, false⟩
  | .loopSetStatus64 device info, s, reply, s' => match s.loops device.number with
    | none => reply = .error noDevice ∧ s' = s
    | some loop => reply = .ok () ∧ s' = s.setLoop device.number (some { loop with info := info })
  | .loopClrFd device, s, reply, s' => (reply, s') = clearFd s device
  | .close device, s, reply, s' => reply = .ok () ∧ s' = s.dropUser device.number .descriptor
  | .openControl, s, reply, s' | .openTarget _ _, s, reply, s' | .blkFlsBuf _, s, reply, s'
  | .loopSetBlockSize _ _, s, reply, s' => reply = .ok () ∧ s' = s

/-- The calls of destructors, which are taken to work, do not fail by themselves. -/
def Fallible : LoopCall → Prop
  | .loopClrFd _ | .close _ => False
  | _ => True

end LoopCall

/-- The semantics of the calls on loop devices, all but those of destructors failing at any time. -/
def loopDriver : Semantics loopCalls String BlockLayer :=
  Semantics.withFaults LoopCall.Answers LoopCall.Fallible

namespace ImageCall

-- whether the ioctl LOOP_CONFIGURE exists, which is tried once
variable (useLoopConfigure : Bool)

def Answers : (request : ImageCall) → BlockLayer → Except String request.Reply → BlockLayer → Prop
  | .stat dir, s, reply, s' => reply = .ok (s.directories dir).isSome ∧ s' = s
  | .mkdir dir, s, reply, s' =>
    if (s.directories dir).isSome then reply = .error FsCall.fileExists ∧ s' = s
    else reply = .ok () ∧ s' = s.setDirectory dir (some [])
  | .rmdir dir, s, reply, s' =>
    if s.directories dir = some [] ∧ s.mounted dir = false then
      reply = .ok () ∧ s' = s.setDirectory dir none
    else (∃ e, reply = .error e) ∧ s' = s
  | .readDir dir, s, reply, s' => s' = s ∧
    -- the manifest is in every image
    if s.mounted dir then ∃ names, names ≠ [] ∧ reply = .ok names
    else match s.directories dir with
      | none => reply = .error FsCall.noSuchFile
      | some names => reply = .ok names
  | .loop request, s, reply, s' => loopDriver request s reply s'
  | .createLoopDevice target imageOffset imageSize, s, reply, s' =>
    Runs loopDriver (Apexd.createLoopDevice useLoopConfigure target imageOffset imageSize) s reply s'
  | .getState name, s, reply, s' => reply = .ok (s.getState name) ∧ s' = s
  | .createDevice name table, s, reply, s' =>
    if s.devices name = none ∧ s.backs table then reply = .ok () ∧ s' = s.activate name table
    else (∃ e, reply = .error e) ∧ s' = s
  | .loadTableAndActivate name table, s, reply, s' =>
    if s.getState name = .SUSPENDED ∧ s.backs table then reply = .ok () ∧ s' = s.activate name table
    else (∃ e, reply = .error e) ∧ s' = s
  | .deleteDevice name _, s, reply, s' =>
    if s.devices name = none ∨ s.deviceInUse name then (∃ e, reply = .error e) ∧ s' = s
    else reply = .ok () ∧ s' = s.discard name
  | .mount source target _ _, s, reply, s' =>
    if s.readable source ∧ (s.directories target).isSome then
      reply = .ok () ∧ s' = s.mount source target
    else (∃ e, reply = .error e) ∧ s' = s
  | .umount target, s, reply, s' =>
    if s.mounted target then reply = .ok () ∧ s' = s.umount target
    else reply = .error World.notMounted ∧ s' = s
  | .readManifest _, s, reply, s' => s' = s ∧ ∃ manifest, reply = .ok manifest
  | .configureScheduler _, s, reply, s' | .configureQueueDepth _ _, s, reply, s'
  | .configureReadAhead _, s, reply, s' | .prepareHashTree _ _, s, reply, s'
  | .waitForDmDevice _, s, reply, s' | .openDevice _, s, reply, s' | .readDevice _ _, s, reply, s'
  | .validateShimApex _ _, s, reply, s' => reply = .ok () ∧ s' = s

/-- `GetState` has no error, and the calls that undo others are taken to work. -/
def Fallible : ImageCall → Prop
  | .getState _ | .rmdir _ | .deleteDevice _ _ | .umount _ => False
  | .loop request => request.Fallible
  | _ => True

end ImageCall

/-- The semantics of the calls that set up an image, all but those that undo others failing at any
time. -/
def imageKernel (useLoopConfigure : Bool) : Semantics imageCalls String BlockLayer :=
  Semantics.withFaults (ImageCall.Answers useLoopConfigure) ImageCall.Fallible

end Apexd
