import Apexd.Model.Activation
import Apexd.Model.Queries

/-! # Installation without a reboot

`InstallPackage` replaces the active version of a package: it unmounts it, links the new one into
the active directory and activates it, and has scope guards that go back where a step fails.
-/

namespace Apexd

open Process Storage

/-- The surroundings of an installation. -/
structure InstallEnvironment extends Environment where
  /-- `ParseUint` of a `size_t` -/
  parseUint : String → Option UInt64
  /-- the names of the subdirectories in the image of an APEX -/
  subdirs : Archive → Except String (List String)

/-! ## Checks -/

/-- What is verified inside the temporary mount, or none where `GetPreInstalledApex` ends the
process. -/
def nonStagedCheck (env : InstallEnvironment) (apexFile : ApexFile) (force : Bool) :
    Option (Except String Unit) :=
  if force then some (.ok ())
  else match env.subdirs apexFile.archive with
    | .error e => some (.error e)
    | .ok dirs =>
      if "app" ∈ dirs then some (.error (pathText apexFile.path ++ " contains app inside"))
      else if "priv-app" ∈ dirs then
        some (.error (pathText apexFile.path ++ " contains priv-app inside"))
      else (env.repository.getPreInstalledApex apexFile.manifest.name).map fun preInstalled =>
        if isVendorApex preInstalled then env.checkVendorApexUpdate apexFile.archive else .ok ()

def verifyPackageNonStagedInstall (env : InstallEnvironment) (apexFile : ApexFile)
    (force : Bool) : Procedure Unit := do
  verifyPackageBoot env.toEnvironment apexFile
  match nonStagedCheck env apexFile force with
  | some checked => runVerifyFnInsideTempMount env.toEnvironment apexFile checked true
  | none =>
    let _ ← verifyAndTempMountPackage env.toEnvironment apexFile
      (getPackageTempMountPoint apexFile.manifest)
    fatal

/-- The properties of an APEX that rule an installation without a reboot out. -/
def nonStagedObstacle (newApex : ApexFile) : Option String :=
  let newManifest := newApex.manifest
  if !newManifest.supportsRebootlessUpdate then some " does not support non-staged update"
  else if newManifest.provideSharedApexLibs then some " is a shared libs APEX"
  else if newManifest.provideNativeLibs ≠ [] then some " provides native libs"
  else if newManifest.requireSharedApexLibs ≠ [] then some " requires shared apex libs"
  else if newManifest.jniLibs ≠ [] then some " requires JNI libs"
  else none

def checkSupportsNonStagedInstall (env : InstallEnvironment) (newApex : ApexFile)
    (force : Bool) : Except String Unit := do
  if !force then
    match nonStagedObstacle newApex with
    | some obstacle => .error (pathText newApex.path ++ obstacle)
    | none => pure ()
  let expectedPublicKey ← env.repository.getPublicKey newApex.manifest.name
  let treeSize ← env.verifyApexVerity newApex.archive expectedPublicKey
  if treeSize = 0 then .error (pathText newApex.path ++ " does not have an embedded hash tree")
  else pure ()

/-! ## The name of the new file -/

def kMaxVerityDevicesPerApexName : Nat := 3

/-- The devices of a package so far, and the least minor above those that are in use. -/
structure MinorScan where
  devices : Nat
  nextMinor : UInt64

/-- One device-mapper device; the format is `name`@`version`_`minor`, the last part optional. -/
def scanDmDevice (env : InstallEnvironment) (name : String) (scan : MinorScan)
    (dmName : String) : Except String MinorScan :=
  match Text.consumePrefix dmName name with
  | none => .ok scan
  | some rest =>
    let counted := { scan with devices := scan.devices + 1 }
    match Text.afterLast '_' rest with
    | none => .ok counted
    | some text => match env.parseUint text with
      | none => .error ("Unexpected dm device name " ++ dmName)
      | some minor => .ok (if counted.nextMinor < minor + 1 then
          { counted with nextMinor := minor + 1 } else counted)

def packageIdWithMinor (apex : ApexFile) (minor : UInt64) : String :=
  getPackageId apex.manifest ++ "_" ++ toString minor

def installTarget (apex : ApexFile) (minor : UInt64) : FilePath where
  dir := .active
  name := packageIdWithMinor apex minor ++ kApexPackageSuffix

/-- The first minor from `nextMinor` on for which there is no file. -/
def freeMinor (apex : ApexFile) : Nat → UInt64 → Procedure UInt64
  -- there is a file for every value of a `size_t`: the loop does not end
  | 0, _ => fatal
  | left + 1, nextMinor => do
    if ← accessible (installTarget apex nextMinor) then freeMinor apex left (nextMinor + 1)
    else pure nextMinor

def computePackageIdMinor (env : InstallEnvironment) (apex : ApexFile) : Procedure UInt64 := do
  let dmDevices ← (kernelCall .listDevices).mapError fun _ => "Failed to list dm devices"
  let scan ← .ofExcept
    (dmDevices.foldlM (scanDmDevice env apex.manifest.name) { devices := 0, nextMinor := 1 })
  if scan.devices > kMaxVerityDevicesPerApexName then
    .throw ("There are too many (" ++ toString scan.devices ++
      ") dm block devices associated with package " ++ apex.manifest.name)
  else freeMinor apex UInt64.size scan.nextMinor

/-! ## The installation -/

def kCtlApexUnloadSysprop : String := "ctl.apex_unload"
def kCtlApexLoadSysprop : String := "ctl.apex_load"

/-- Tell init through a property, and note whether the package is ready. -/
def tellInit (sysprop apexName ready : String) : Procedure Unit := do
  (outsideCall (.setProperty sysprop apexName)).mapError fun _ =>
    "Failed to set " ++ sysprop ++ " to " ++ apexName
  (outsideCall (.setProperty ("apex." ++ apexName ++ ".ready") ready)).ignore

def unloadApexFromInit (apexName : String) : Procedure Unit :=
  tellInit kCtlApexUnloadSysprop apexName "false"

def loadApexFromInit (apexName : String) : Procedure Unit :=
  tellInit kCtlApexLoadSysprop apexName "true"

def kApexInfoListDefault : String := kApexRoot ++ "/.default-apex-info-list.xml"

def updateApexInfoList (env : Environment) : Procedure Unit := do
  let active ← getActivePackages
  let inactive ← calculateInactivePackages env active
  outsideCall (.writeApexInfoList kApexInfoListDefault active inactive)

/-- `GetLatestMountedApex` -/
def getLatestMountedApex (package : String) : Procedure (Option MountedApexData) := do
  let mounts ← forallMountedApexesOf package false
  pure (mounts.foldl (fun ret (data, latest) => if latest then some data else ret) none)

/-- What an installation works with once its checks have passed. -/
structure InstallPlan where
  tempApex : ApexFile
  curMountedData : MountedApexData
  curApex : ApexFile
  newIdMinor : UInt64

namespace InstallPlan

def moduleName (plan : InstallPlan) : String :=
  plan.tempApex.manifest.name

def newId (plan : InstallPlan) : String :=
  packageIdWithMinor plan.tempApex plan.newIdMinor

def targetFile (plan : InstallPlan) : FilePath :=
  installTarget plan.tempApex plan.newIdMinor

/-- The device for the previous APEX, should it have to be activated again. -/
def oldNewId (plan : InstallPlan) : String :=
  packageIdWithMinor plan.tempApex (plan.newIdMinor + 1)

end InstallPlan

/-- The checks of `InstallPackage` and the parameters for mounting the new APEX. -/
def prepareInstall (env : InstallEnvironment) (packagePath : FilePath) (force : Bool) :
    Procedure InstallPlan := do
  let tempApex ← ApexFile.open packagePath
  let moduleName := tempApex.manifest.name
  match ← getLatestMountedApex moduleName with
  | none => .throw ("No active version found for package " ++ moduleName)
  | some curMountedData =>
    let curApex ← ApexFile.open curMountedData.fullPath
    .ofExcept (checkSupportsNonStagedInstall env tempApex force)
    verifyPackageNonStagedInstall env tempApex force
    let newIdMinor ← computePackageIdMinor env tempApex
    pure { tempApex, curMountedData, curApex, newIdMinor }

/-- Hard link the new APEX to its final destination and activate it. -/
def linkAndActivate (env : Environment) (packagePath : FilePath) (plan : InstallPlan) :
    Procedure ApexFile := do
  orErrno (link packagePath plan.targetFile)
    ("Failed to link " ++ pathText packagePath ++ " to " ++ pathText plan.targetFile)
  let newApex ← ApexFile.open plan.targetFile
  activatePackageImpl env newApex plan.newId false
  pure newApex

/-- The scope guard of an installation: the new file goes, the previous APEX is activated. -/
def installGuard (env : Environment) (plan : InstallPlan) : Procedure Unit := do
  (unlink plan.targetFile).ignore
  -- the device of the previous APEX may not be around any more: a new one is created
  activatePackageImpl env plan.curApex plan.oldNewId false

/-- Unmount the active APEX and put the new one in its place. -/
def replaceActive (env : Environment) (packagePath : FilePath) (force : Bool)
    (plan : InstallPlan) : Procedure ApexFile := do
  unmountPackage plan.curApex true true force
  let newApex ← (linkAndActivate env packagePath plan).onError (installGuard env plan)
  -- the old APEX is unlinked if it is not pre-installed
  if !env.repository.isPreInstalledApex plan.curApex then
    (unlink plan.curMountedData.fullPath).ignore
  (updateApexInfoList env).ignore
  pure newApex

def installPackage (env : InstallEnvironment) (packagePath : FilePath) (force : Bool) :
    Procedure ApexFile := do
  let plan ← prepareInstall env packagePath force
  unloadApexFromInit plan.moduleName
  let result ← (replaceActive env.toEnvironment packagePath force plan).attempt
  -- init loads the APEX again whether the installation succeeded or not
  (loadApexFromInit plan.moduleName).ignore
  .ofExcept result

end Apexd
