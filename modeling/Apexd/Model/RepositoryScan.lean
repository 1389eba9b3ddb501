import Apexd.Model.Environment
import Apexd.Model.Primitives

/-! # Filling the repository

`AddPreInstalledApex` collects the APEX files of the built-in directories and `AddDataApex`
those of a data directory that may replace them.
-/

namespace Apexd

open Process Storage

def kCompressedApexPackageSuffix : String := ".capex"
def kDecompressedApexPackageSuffix : String := ".decompressed.apex"
def kVndkApexModuleNamePrefix : String := "com.android.vndk."
def kPlatformVersionCodenameProperty : String := "ro.build.version.codename"

def consumeApexPackageSuffix (path : String) : String :=
  Text.consumeSuffix (Text.consumeSuffix path kApexPackageSuffix) kCompressedApexPackageSuffix

def getApexSelectFilenameFromProp (env : Environment) (prefixes : List String)
    (apexName : String) : String :=
  match prefixes.find? fun propPrefix => env.getProperty (propPrefix ++ apexName) "" ≠ "" with
  | some propPrefix => consumeApexPackageSuffix (env.getProperty (propPrefix ++ apexName) "")
  | none => ""

namespace ApexFileRepository

/-- A file of a multi-install APEX. -/
def addMultiInstall (repository : ApexFileRepository) (selectFilename : String)
    (apex : ApexFile) : ApexFileRepository :=
  let name := apex.manifest.name
  if repository.enforceMultiInstallPartition &&
      !Text.startsWith (pathText apex.path) "/vendor/apex/" then
    repository
  else
    let keys := ((repository.multiInstallPublicKeys.lookup name).getD []).insert
      apex.archive.bundledPublicKey
    let repository := { repository with
      multiInstallPublicKeys := repository.multiInstallPublicKeys.insert name keys }
    if keys.length > 1 then
      -- versions that differ in public key: no version should be installed
      { repository with preInstalledStore := repository.preInstalledStore.erase name }
    else if consumeApexPackageSuffix apex.path.name = selectFilename then
      { repository with preInstalledStore := repository.preInstalledStore.emplace apex }
    else repository

/-- Whether finding a second APEX of the package is an error that ends the process. -/
def duplicateIsFatal (env : Environment) (repository : ApexFileRepository) (name : String) :
    Bool :=
  !repository.ignoreDuplicateApexDefinitions &&
    !(Text.startsWith name kVndkApexModuleNamePrefix &&
      env.getProperty kPlatformVersionCodenameProperty "REL" ≠ "REL")

/-- One file of `ScanBuiltInDir`. -/
def scanBuiltInFile (env : Environment) (repository : ApexFileRepository) (file : FilePath) :
    Procedure ApexFileRepository := do
  let apex ← (ApexFile.open file).mapError fun e =>
    "Failed to open " ++ pathText file ++ " : " ++ e
  let name := apex.manifest.name
  let selectFilename :=
    getApexSelectFilenameFromProp env repository.multiInstallSelectPropPrefixes name
  if selectFilename ≠ "" then
    pure (repository.addMultiInstall selectFilename apex)
  else
    match repository.preInstalledStore.find name with
    | none =>
      pure { repository with preInstalledStore := repository.preInstalledStore.emplace apex }
    | some existing =>
      if pathText existing.path ≠ pathText apex.path then
        if duplicateIsFatal env repository name then fatal else pure repository
      else if existing.archive.bundledPublicKey ≠ apex.archive.bundledPublicKey then
        fatal
      else pure repository

def scanBuiltInDir (env : Environment) (repository : ApexFileRepository) (dir : DirId) :
    Procedure ApexFileRepository := do
  match ← (stat dir).attempt with
  | .ok none => pure repository
  | _ =>
    let files ← findFilesBySuffix dir [kApexPackageSuffix, kCompressedApexPackageSuffix]
    let scanned ← Program.fold (scanBuiltInFile env) repository files
    pure { scanned with multiInstallPublicKeys := ∅ }

def addPreInstalledApex (env : Environment) (repository : ApexFileRepository)
    (prebuiltDirs : List DirId) : Procedure ApexFileRepository :=
  Program.fold (scanBuiltInDir env) repository prebuiltDirs

/-- Whether a data APEX may be used at all: its package is pre-installed with the same key, and
it is no decompressed APEX. -/
def acceptsDataApex (repository : ApexFileRepository) (apex : ApexFile) : Bool :=
  repository.hasPreInstalledVersion apex.manifest.name &&
    (match repository.getPublicKey apex.manifest.name with
      | .ok publicKey => apex.archive.bundledPublicKey = publicKey
      | .error _ => false) &&
    !Text.endsWith (pathText apex.path) kDecompressedApexPackageSuffix

theorem acceptsDataApex_iff {repository : ApexFileRepository} {apex : ApexFile} :
    repository.acceptsDataApex apex = true ↔
      (∃ preInstalled, repository.getPreInstalledApex apex.manifest.name = some preInstalled ∧
        apex.archive.bundledPublicKey = preInstalled.archive.bundledPublicKey) ∧
      Text.endsWith (pathText apex.path) kDecompressedApexPackageSuffix = false := by
  unfold acceptsDataApex hasPreInstalledVersion getPublicKey getPreInstalledApex
  cases repository.preInstalledStore.find apex.manifest.name <;> simp

/-- Whether a data APEX may be used does not depend on the other data APEXes. -/
theorem acceptsDataApex_congr {repository other : ApexFileRepository}
    (same : other.preInstalledStore = repository.preInstalledStore) (apex : ApexFile) :
    other.acceptsDataApex apex = repository.acceptsDataApex apex := by
  rw [Bool.eq_iff_iff, acceptsDataApex_iff, acceptsDataApex_iff, getPreInstalledApex,
    getPreInstalledApex, same]

/-- One file of `AddDataApex`. -/
def addDataFile (repository : ApexFileRepository) (file : FilePath) :
    Procedure ApexFileRepository := do
  match ← (ApexFile.open file).attempt with
  | .error _ => pure repository
  | .ok apex =>
    if repository.acceptsDataApex apex then
      match repository.dataStore.find apex.manifest.name with
      | none => pure { repository with dataStore := repository.dataStore.emplace apex }
      | some existing =>
        -- if multiple data APEXes are present, select the one with the highest version
        if apex.manifest.version > existing.manifest.version then
          pure { repository with dataStore := repository.dataStore.insert apex }
        else pure repository
    else pure repository

def addDataApex (repository : ApexFileRepository) (dataDir : DirId) :
    Procedure ApexFileRepository := do
  match ← (stat dataDir).attempt with
  | .ok none => pure repository
  | _ =>
    let files ← findFilesBySuffix dataDir [kApexPackageSuffix]
    Program.fold addDataFile repository files

/-- The repositories that `AddPreInstalledApex` and `AddDataApex` produce. -/
inductive Reachable (env : Environment) : ApexFileRepository → Prop
  | create : Reachable env create
  | addPreInstalledApex {repository repository' : ApexFileRepository} {prebuiltDirs : List DirId}
      {w w' : World} (before : Reachable env repository)
      (run : Runs device (repository.addPreInstalledApex env prebuiltDirs) w (.ok repository') w') :
      Reachable env repository'
  | addDataApex {repository repository' : ApexFileRepository} {dataDir : DirId} {w w' : World}
      (before : Reachable env repository)
      (run : Runs device (repository.addDataApex dataDir) w (.ok repository') w') :
      Reachable env repository'

end ApexFileRepository

end Apexd
