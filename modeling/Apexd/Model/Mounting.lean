import Apexd.Model.Environment
import Apexd.Model.Primitives

/-! # Mounting APEX files

`MountPackage` and its temporary variant, and the ways an APEX is unmounted again.  Setting up
the loop and device-mapper devices and mounting the image is one call of the kernel.
-/

namespace Apexd

open Process Storage

def databaseCall (request : DatabaseCall) : Procedure request.Reply :=
  .call (.database request) .done

def kernelCall (request : KernelCall) : Procedure request.Reply :=
  .call (.kernel request) .done

def forallMountedApexesOf (package : String) (matchTempMounts : Bool) :
    Procedure (List (MountedApexData × Bool)) :=
  databaseCall (.forallMountedApexesOf package matchTempMounts)

def addMountedApex (package : String) (data : MountedApexData) : Procedure Unit :=
  databaseCall (.addMountedApex package data)

def removeMountedApex (package : String) (fullPath : FilePath) (matchTempMounts : Bool) :
    Procedure Unit :=
  databaseCall (.removeMountedApex package fullPath matchTempMounts)

def kApexRoot : String := "/apex"

def getPackageMountPoint (manifest : ApexManifest) : String :=
  kApexRoot ++ "/" ++ getPackageId manifest

def getPackageTempMountPoint (manifest : ApexManifest) : String :=
  getPackageMountPoint manifest ++ ".tmp"

def getActiveMountPoint (manifest : ApexManifest) : String :=
  kApexRoot ++ "/" ++ manifest.name

def getHashTreeFileName (apex : ApexFile) (isNew : Bool) : FilePath where
  dir := .hashTree
  name := getPackageId apex.manifest ++ if isNew then ".new" else ""

/-- `MountPackageImpl` -/
def mountPackageImpl (env : Environment) (apex : ApexFile) (mountPoint deviceName : String)
    (hashtreeFile : FilePath) (verifyImage reuseDevice tempMount : Bool) :
    Procedure MountedApexData := do
  if apex.isCompressed then
    .throw ("Cannot directly mount compressed APEX " ++ pathText apex.path)
  else
    let publicKey ← .ofExcept (env.repository.getPublicKey apex.manifest.name)
    let treeSize ← (Program.ofExcept (env.verifyApexVerity apex.archive publicKey)).mapError
      fun e => "Failed to verify Apex Verity data for " ++ pathText apex.path ++ ": " ++ e
    kernelCall (.mountImage {
      apex := apex
      mountPoint := mountPoint
      deviceName := deviceName
      hashtreeFile := hashtreeFile
      separateHashtree := treeSize = 0
      -- decompressed APEXes are on /data and block APEXes come from the host
      onVerity := !env.repository.isPreInstalledApex apex ||
        env.repository.isDecompressedApex apex || env.repository.isBlockApex apex
      verifyImage := verifyImage
      reuseDevice := reuseDevice
      tempMount := tempMount })

def mountPackage (env : Environment) (apex : ApexFile) (mountPoint deviceName : String)
    (reuseDevice tempMount : Bool) : Procedure Unit := do
  let data ← mountPackageImpl env apex mountPoint deviceName (getHashTreeFileName apex false)
    false reuseDevice tempMount
  addMountedApex apex.manifest.name data

/-- `VerifyAndTempMountPackage` -/
def verifyAndTempMountPackage (env : Environment) (apex : ApexFile) (mountPoint : String) :
    Procedure MountedApexData := do
  let tempDeviceName := getPackageId apex.manifest ++ ".tmp"
  let hashtreeFile := getHashTreeFileName apex true
  if ← accessible hashtreeFile then
    orErrno (unlink hashtreeFile) ("Failed to unlink " ++ pathText hashtreeFile)
  let ret ← (mountPackageImpl env apex mountPoint tempDeviceName hashtreeFile
    true false true).onError (unlink hashtreeFile)
  addMountedApex apex.manifest.name ret
  pure ret

/-- `umount2` where EINVAL and ENOENT, that nothing is mounted there, are no error. -/
def umountIfMounted (mountPoint : String) : Procedure Unit := do
  match ← (kernelCall (.umount mountPoint false)).attempt with
  | .ok () => pure ()
  | .error e =>
    if e = World.notMounted ∨ e = FsCall.noSuchFile then pure ()
    else .throw ("Failed to unmount directory " ++ mountPoint ++ ": " ++ e)

/-- `Unmount`: what is mounted, then the device-mapper device. -/
def unmount (data : MountedApexData) (deferred : Bool) : Procedure Unit := do
  umountIfMounted data.mountPoint
  if data.deviceName ≠ "" then
    kernelCall (.deleteVerityDevice data.deviceName deferred)

/-- `RunVerifyFnInsideTempMount` -/
def runVerifyFnInsideTempMount (env : Environment) (apex : ApexFile)
    (verifyFn : Except String Unit) (unmountDuringCleanup : Bool) : Procedure Unit := do
  let data ← verifyAndTempMountPackage env apex (getPackageTempMountPoint apex.manifest)
  let cleaner : Procedure Unit := do
    (unmount data false).ignore
    removeMountedApex apex.manifest.name apex.path true
  (Program.ofExcept verifyFn).onError cleaner
  if unmountDuringCleanup then cleaner.ignore

/-- The first temporary mount of a package. -/
def getTempMountedApexData (package : String) : Procedure (Option MountedApexData) := do
  let mounts ← forallMountedApexesOf package true
  pure (mounts.head?.map Prod.fst)

/-- Unmount temporary mounts until none is found, at most as many as there were. -/
def unmountTempMounts (apex : ApexFile) : Nat → Procedure Unit
  | 0 => pure ()
  | count + 1 => do
    match ← getTempMountedApexData apex.manifest.name with
    | none => pure ()
    | some data =>
      removeMountedApex apex.manifest.name data.fullPath true
      (unmount data false).ignore
      unmountTempMounts apex count

def unmountTempMount (apex : ApexFile) : Procedure Unit := do
  let mounts ← forallMountedApexesOf apex.manifest.name true
  unmountTempMounts apex mounts.length

end Apexd
