import Apexd.Model.Activation
import Apexd.Model.Lifecycle
import Apexd.Model.RepositoryScan
import Apexd.Model.Selection

/-! # Compressed APEXes

`ProcessCompressedApex` finds or makes the decompressed copy of a compressed APEX: one from an
earlier boot, one an OTA left, or a new one.
-/

namespace Apexd

open Process Storage

/-- The surroundings of a boot. -/
structure BootEnvironment extends Environment where
  /-- the answer of vold, whether the sessions have to be rolled back -/
  needsRollback : Except String Bool
  /-- the order in which the map of all files is iterated -/
  iteration : ApexFileRepository → List (String × List ApexFileRef)
  isIteration : ∀ repository, IsIteration (iteration repository) repository.allApexFilesByName
  /-- the system property boot_activation_threads, or 0 where it is not set -/
  bootActivationThreads : Nat
  /-- the root digest in the verity data of an APEX -/
  rootDigest : Archive → String
  /-- the root digest that the manifest of a compressed APEX has for the original one -/
  originalApexDigest : Archive → String
  /-- the entry `original_apex` of a file -/
  originalApex : Content → Except String Content

def kOtaApexPackageSuffix : String := ".ota.apex"
def kOtaReservedDir : DirId := .other "/data/apex/ota_reserved"
def kActiveApexSelinuxCtx : String := "u:object_r:staging_data_file"

def decompressedApexPath (capex : ApexFile) : FilePath where
  dir := .decompression
  name := getPackageId capex.manifest ++ kDecompressedApexPackageSuffix

def otaApexPath (capex : ApexFile) : FilePath where
  dir := .decompression
  name := getPackageId capex.manifest ++ kOtaApexPackageSuffix

/-- The decompressed APEX has the public key, the version and the root digest that the compressed
one says. -/
def validateDecompressedApex (env : BootEnvironment) (capex apex : ApexFile) :
    Except String Unit :=
  if capex.archive.bundledPublicKey ≠ apex.archive.bundledPublicKey then
    .error ("Public key of compressed APEX is different than original APEX for " ++
      pathText apex.path)
  else if capex.manifest.version ≠ apex.manifest.version then
    .error ("Compressed APEX has different version than decompressed APEX " ++ pathText apex.path)
  else match env.verifyApexVerity apex.archive apex.archive.bundledPublicKey with
    | .ok _ =>
      if env.originalApexDigest capex.archive ≠ env.rootDigest apex.archive then
        .error ("Root digest of " ++ pathText apex.path ++
          " does not match with expected root digest in " ++ pathText capex.path)
      else .ok ()
    | .error _ => .error ("Root digest of " ++ pathText apex.path ++
        " does not match with expected root digest in " ++ pathText capex.path)

def openAndValidateDecompressedApex (env : BootEnvironment) (capex : ApexFile)
    (apexPath : FilePath) : Procedure ApexFile := do
  let apex ← (ApexFile.open apexPath).mapError fun e => "Failed to open decompressed APEX: " ++ e
  .ofExcept (validateDecompressedApex env capex apex)
  let ctx ← outsideCall (.getfileconPath apexPath)
  if Text.startsWith ctx kActiveApexSelinuxCtx then pure apex
  else .throw (pathText apexPath ++ " has wrong SELinux context " ++ ctx)

/-- `ApexFile::Decompress` -/
def ApexFile.decompress (env : BootEnvironment) (capex : ApexFile) (destPath : FilePath) :
    Procedure Unit :=
  if !capex.isCompressed then .throw "Cannot decompress an uncompressed APEX"
  else do
    let content ← orErrno (readFile capex.path)
      ("Failed to open compressed APEX " ++ pathText capex.path)
    let original ← .ofExcept (env.originalApex content)
    orErrno (.call (.createFile destPath original) .done)
      ("Failed to open decompression destination " ++ pathText destPath)

def removeFileIfExists (path : FilePath) : Procedure Unit :=
  (fsCall (.removeFile path)).ignore

/-- The decompressed APEX of an earlier boot, if there is one and it is valid. -/
def reuseDecompressedApex (env : BootEnvironment) (capex : ApexFile) (isOtaChroot : Bool) :
    Procedure (Option ApexFile) := do
  if ← accessible (decompressedApexPath capex) then
    match ← (openAndValidateDecompressedApex env capex (decompressedApexPath capex)).attempt with
    | .ok apex => pure (some apex)
    | .error _ =>
      if !isOtaChroot then
        removeFileIfExists (decompressedApexPath capex)
      pure none
  else pure none

/-- The APEX that an OTA left, as it is or under its final name, if it is valid. -/
def reuseOtaApex (env : BootEnvironment) (capex : ApexFile) (isOtaChroot : Bool) :
    Procedure (Option ApexFile) := do
  if ← accessible (otaApexPath capex) then
    match ← (openAndValidateDecompressedApex env capex (otaApexPath capex)).attempt with
    | .error _ =>
      if isOtaChroot then
        removeFileIfExists (otaApexPath capex)
      pure none
    | .ok apex =>
      if isOtaChroot then pure (some apex)
      else match ← (rename (otaApexPath capex) (decompressedApexPath capex)).attempt with
        | .error _ => pure none
        | .ok () =>
          match ← (openAndValidateDecompressedApex env capex
            (decompressedApexPath capex)).attempt with
          | .ok renamed => pure (some renamed)
          | .error _ =>
            removeFileIfExists (decompressedApexPath capex)
            pure none
  else pure none

def decompressAnew (env : BootEnvironment) (capex : ApexFile) (decompressionDest : FilePath) :
    Procedure ApexFile := do
  (capex.decompress env decompressionDest).mapError fun e =>
    "Failed to decompress : " ++ pathText capex.path ++ " " ++ e
  -- fix the label of the decompressed file
  restoreconPath (.file decompressionDest)
  let returnApex ← (openAndValidateDecompressedApex env capex decompressionDest).mapError fun e =>
    "Failed to decompress CAPEX: " ++ e
  markChanged returnApex.manifest.name
  pure returnApex

/-- `ProcessCompressedApex` for one APEX. -/
def processCompressedApex (env : BootEnvironment) (isOtaChroot : Bool) (capex : ApexFile) :
    Procedure ApexFile := do
  match ← reuseDecompressedApex env capex isOtaChroot with
  | some apex => pure apex
  | none =>
    match ← reuseOtaApex env capex isOtaChroot with
    | some apex => pure apex
    | none =>
      -- clean up reserved space before decompressing
      (deleteDirContent kOtaReservedDir).ignore
      let decompressionDest := if isOtaChroot then otaApexPath capex else decompressedApexPath capex
      (decompressAnew env capex decompressionDest).onError (removeFileIfExists decompressionDest)

/-- `ProcessCompressedApex` for a list; what cannot be processed is logged and left out. -/
def processCompressedApexes (env : BootEnvironment) (isOtaChroot : Bool) :
    List ApexFile → Procedure (List ApexFile)
  | [] => pure []
  | capex :: rest => do
    let decompressed ← (processCompressedApex env isOtaChroot capex).attempt
    let others ← processCompressedApexes env isOtaChroot rest
    match decompressed with
    | .ok apex => pure (apex :: others)
    | .error _ => pure others

end Apexd
