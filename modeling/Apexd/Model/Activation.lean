import Apexd.Model.Verification
import Apexd.Process.Workers

/-! # Activating an APEX

`ActivatePackageImpl` mounts an APEX unless its version is mounted already, and binds the mount
point of the package to the latest version.  `UnmountPackage` undoes both.
-/

namespace Apexd

open Process Storage

def kApexSharedLibsSubDir : String := "sharedlibs"

def kBannedApexName : List String := [kApexSharedLibsSubDir]

def isValidPackageName (packageName : String) : Bool :=
  packageName ∉ kBannedApexName

/-- Whether the version of an APEX was found among the mounts of its package, and whether that
mount is the latest. -/
structure VersionFound where
  mounted : Bool
  active : Bool
  deriving DecidableEq

def VersionFound.none : VersionFound where
  mounted := false
  active := false

/-- One mount of the package; the version is that of the file the mount was made from. -/
def findVersion (manifest : ApexManifest) (found : VersionFound)
    (mount : MountedApexData × Bool) : Procedure VersionFound := do
  match ← (ApexFile.open mount.1.fullPath).attempt with
  | .error _ => pure found
  | .ok otherApex =>
    if otherApex.manifest.version = manifest.version then
      pure { mounted := true, active := mount.2 }
    else pure found

/-- Mount an APEX at the mount point of its version. -/
def mountAtItsPlace (env : Environment) (apexFile : ApexFile) (deviceName : String)
    (reuseDevice : Bool) : Procedure Unit :=
  mountPackage env apexFile (getPackageMountPoint apexFile.manifest) deviceName reuseDevice false

/-- Bind mount the latest version to the mount point of the package. -/
def bindLatest (apexFile : ApexFile) : Procedure Unit :=
  let manifest := apexFile.manifest
  (databaseCall (.bindMountIfLatest manifest.name apexFile.path (getActiveMountPoint manifest)
    (getPackageMountPoint manifest))).mapError fun e =>
      "Failed to update package " ++ manifest.name ++ " to version " ++
        toString manifest.version ++ " : " ++ e

def activatePackageImpl (env : Environment) (apexFile : ApexFile) (deviceName : String)
    (reuseDevice : Bool) : Procedure Unit := do
  let manifest := apexFile.manifest
  if !isValidPackageName manifest.name then
    .throw ("Package name " ++ manifest.name ++ " is not allowed.")
  else
    -- validate an upgraded shim
    if isShimApex apexFile && !env.repository.isPreInstalledApex apexFile then
      verifyPackageBoot env apexFile
    let mounts ← forallMountedApexesOf manifest.name false
    let found ← Program.fold (findVersion manifest) .none mounts
    if found.active && !manifest.provideSharedApexLibs then pure ()
    else
      if !found.mounted then
        mountAtItsPlace env apexFile deviceName reuseDevice
      if !manifest.provideSharedApexLibs then
        bindLatest apexFile

def activatePackage (env : Environment) (fullPath : FilePath) : Procedure Unit := do
  let apexFile ← ApexFile.open fullPath
  activatePackageImpl env apexFile (getPackageId apexFile.manifest) false

/-- The mount of a file among those of its package, and whether it is the latest. -/
def mountOfFile (apex : ApexFile) (mounts : List (MountedApexData × Bool)) :
    Option (MountedApexData × Bool) :=
  (mounts.filter fun mount => pathText mount.1.fullPath = pathText apex.path).getLast?

def unmountPackage (apex : ApexFile) (allowLatest deferred detachMountPoint : Bool) :
    Procedure Unit := do
  let manifest := apex.manifest
  let mounts ← forallMountedApexesOf manifest.name false
  match mountOfFile apex mounts with
  | none => .throw ("Did not find " ++ pathText apex.path)
  | some (data, latest) =>
    if latest && !manifest.provideSharedApexLibs then
      if !allowLatest then
        .throw ("Package " ++ pathText apex.path ++ " is active")
      else
        let mountPoint := getActiveMountPoint manifest
        orErrno (kernelCall (.umount mountPoint detachMountPoint)) ("Failed to unmount " ++ mountPoint)
    removeMountedApex manifest.name apex.path false
    unmount data deferred

def deactivatePackage (fullPath : FilePath) : Procedure Unit := do
  let apexFile ← ApexFile.open fullPath
  unmountPackage apexFile true false false

def remountApexFile (env : Environment) (path : FilePath) : Procedure Unit := do
  deactivatePackage path
  activatePackage env path

/-- `RemountApexFile` for every path; the paths for which it failed. -/
def remountAll (env : Environment) : List FilePath → Procedure (List FilePath)
  | [] => pure []
  | apex :: rest => do
    let ret ← (remountApexFile env apex).attempt
    let failed ← remountAll env rest
    match ret with
    | .ok () => pure failed
    | .error _ => pure (apex :: failed)

def kErrorMessage : String :=
  "Failed to remount following APEX packages, hence previous versions of them are still active. " ++
    "If APEX you are developing is in this list, it means that there still are alive processes " ++
    "holding a reference to the previous version of your APEX.\n"

def remountPackages (env : Environment) : Procedure Unit := do
  let mounts ← databaseCall (.forallMountedApexes false)
  let failed ← remountAll env
    ((mounts.filter fun (_, _, latest) => latest).map fun (_, data, _) => data.fullPath)
  if failed = [] then pure ()
  else .throw (kErrorMessage ++ "Failed (" ++ toString failed.length ++ ") APEX packages: [" ++
    ",".intercalate (failed.map pathText) ++ "]")

/-! ## Many at once -/

inductive ActivationMode where
  | bootstrap
  | boot
  | otaChroot
  | vm
  deriving DecidableEq

/-- The device-mapper device of an APEX. -/
def activationDeviceName (mode : ActivationMode) (apex : ApexFile) : String :=
  (if mode = .boot then apex.manifest.name else getPackageId apex.manifest) ++
    if mode = .otaChroot then ".chroot" else ""

/-- What a worker does with an APEX from the queue. -/
def activateFromQueue (env : Environment) (mode : ActivationMode) (apex : ApexFile) :
    Procedure Unit :=
  let deviceName := activationDeviceName mode apex
  (activatePackageImpl env apex deviceName (mode = .boot)).mapError fun e =>
    "Failed to activate " ++ pathText apex.path ++ "(" ++ deviceName ++ "): " ++ e

/-- An APEX with a higher version contributes first; of the same version, the updated one. -/
def contributesBefore (repository : ApexFileRepository) (a b : ApexFile) : Bool :=
  if a.manifest.version ≠ b.manifest.version then a.manifest.version > b.manifest.version
  else !repository.isPreInstalledApex a

/-- The errors among the results. -/
def errorsOf {α : Type} (results : List (α × Except String Unit)) : List String :=
  results.filterMap fun (_, result) => match result with
    | .ok () => none
    | .error e => some e

end Apexd
