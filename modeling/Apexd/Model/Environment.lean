import Apexd.Model.Repository

/-! # What apexd reads from its surroundings

System properties, the answers of vold, the repository of APEX files, and the checks that
`libavb`, the shim validation and `libvintf` make on an archive.
-/

namespace Apexd

structure Environment where
  /-- the system properties, an unset one being empty -/
  properties : String → String
  /-- `gSupportsFsCheckpoints` -/
  supportsFsCheckpoints : Bool
  /-- `gInFsCheckpointMode` -/
  inFsCheckpointMode : Bool
  repository : ApexFileRepository
  /-- `ApexFile::VerifyApexVerity` with the given key; the size of the hash tree in the image -/
  verifyApexVerity : Archive → String → Except String Nat
  /-- `shim::ValidateUpdate` of the archive over the pre-installed one -/
  validateShimUpdate : Archive → Archive → Except String Unit
  /-- `CheckVendorApexUpdate` -/
  checkVendorApexUpdate : Archive → Except String Unit

/-- An environment without properties or checkpoints in which every archive verifies. -/
def Environment.plain (repository : ApexFileRepository) : Environment where
  properties _ := ""
  supportsFsCheckpoints := false
  inFsCheckpointMode := false
  repository := repository
  verifyApexVerity _ _ := .ok 0
  validateShimUpdate _ _ := .ok ()
  checkVendorApexUpdate _ := .ok ()

/-- A repository with version 1 of the given packages pre-installed. -/
def ApexFileRepository.ofPackages (names : List String) : ApexFileRepository :=
  { ApexFileRepository.create with
    preInstalledStore := names.foldl (fun store name =>
      store.insert ⟨⟨.other "/system/apex", name ++ ".apex"⟩, .plain name 1 0⟩) .empty }

/-- `GetProperty` -/
def Environment.getProperty (env : Environment) (key defaultValue : String) : String :=
  if env.properties key = "" then defaultValue else env.properties key

def kBuildFingerprintSysprop : String := "ro.build.fingerprint"

def Environment.buildFingerprint (env : Environment) : String :=
  env.getProperty kBuildFingerprintSysprop ""

end Apexd
