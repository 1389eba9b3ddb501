import Apexd.Model.Mounting

/-! # Verification of packages

The checks made on every boot, those made once when a session is submitted, and the scan of a
session's staging directory.
-/

namespace Apexd

open Process Storage

def kApexCtsShimPackage : String := "com.android.apex.cts.shim"
def kSystemShimApexName : String := "com.android.apex.cts.shim.apex"
def kApexPackageSystemDir : DirId := .other "/system/apex"

def isShimApex (apex : ApexFile) : Bool :=
  apex.manifest.name = kApexCtsShimPackage

def validateStagingShimApex (env : Environment) (apex : ApexFile) : Procedure Unit := do
  let systemShim ← ApexFile.open ⟨kApexPackageSystemDir, kSystemShimApexName⟩
  runVerifyFnInsideTempMount env systemShim
    (env.validateShimUpdate systemShim.archive apex.archive) true

/-- Whether the pre-installed version of the package is on one of two partitions. -/
def preInstalledOn (preInstalled : ApexFile) (first second : String) : Bool :=
  Text.startsWith (pathText preInstalled.path) first ||
    Text.startsWith (pathText preInstalled.path) second

def isVendorApex (preInstalled : ApexFile) : Bool :=
  preInstalledOn preInstalled "/vendor/apex/" "/system/vendor/apex/"

/-- The VNDK version of an APEX against that of the partition its package is pre-installed on. -/
def checkVndkVersion (env : Environment) (vndkVersion : String) (preInstalled : ApexFile) :
    Except String Unit :=
  let mustBe (deviceVersion : String) : Except String Unit :=
    if vndkVersion ≠ deviceVersion then
      .error ("vndkVersion(" ++ vndkVersion ++ ") doesn't match with device VNDK version(" ++
        deviceVersion ++ ")")
    else .ok ()
  if isVendorApex preInstalled then mustBe (env.getProperty "ro.vndk.version" "")
  else if preInstalledOn preInstalled "/product/apex/" "/system/product/apex/" then
    mustBe (env.getProperty "ro.product.vndk.version" "")
  else .error ("vndkVersion(" ++ vndkVersion ++ ") is set")

def verifyVndkVersion (env : Environment) (apex : ApexFile) : Procedure Unit :=
  if apex.manifest.vndkVersion = "" then pure ()
  else match env.repository.getPreInstalledApex apex.manifest.name with
    | none => fatal
    | some preInstalled => .ofExcept (checkVndkVersion env apex.manifest.vndkVersion preInstalled)

/-- The verification that happens during boot. -/
def verifyPackageBoot (env : Environment) (apex : ApexFile) : Procedure Unit := do
  let publicKey ← .ofExcept (env.repository.getPublicKey apex.manifest.name)
  let _ ← Program.ofExcept (env.verifyApexVerity apex.archive publicKey)
  if isShimApex apex then
    validateStagingShimApex env apex
  verifyVndkVersion env apex

/-- The verification that happens on `SubmitStagedSession`, inside a temporary mount that is
left mounted when it succeeds. -/
def verifyPackageStagedInstall (env : Environment) (apex : ApexFile) : Procedure Unit := do
  verifyPackageBoot env apex
  match env.repository.getPreInstalledApex apex.manifest.name with
  | none => fatal
  | some preInstalled =>
    runVerifyFnInsideTempMount env apex
      (if isVendorApex preInstalled then env.checkVendorApexUpdate apex.archive else .ok ()) false

def verifyPackages (verifyApexFn : ApexFile → Procedure Unit) (paths : List FilePath) :
    Procedure (List ApexFile) := do
  let apexFiles ← openApexFiles paths
  apexFiles.forM verifyApexFn
  pure apexFiles

/-- The APEX of a session directory, verified. -/
def verifySessionDir (env : Environment) (sessionId : Int) : Procedure ApexFile := do
  let scan ← findFilesBySuffix (.staged sessionId) [kApexPackageSuffix]
  if scan.length > 1 then
    .throw "More than one APEX package found in the same session directory."
  else
    let verified ← verifyPackages (verifyPackageStagedInstall env) scan
    match verified with
    | [] => .throw "Empty set of inputs"
    | apex :: _ => pure apex

end Apexd
