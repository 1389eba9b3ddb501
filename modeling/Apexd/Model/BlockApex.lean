import Apexd.Model.ApexFile
import Apexd.Model.Verity
import Mathlib.Data.Finmap

/-! # APEXes on block devices

Inside a virtual machine the APEX files come from the host as partitions of a disk.  The first
partition holds metadata; what it says about an APEX overrides the file, and a root digest in it
is compared with that of the image when the APEX is mounted.
-/

namespace Apexd

/-- The `ApexPayload` message of the metadata. -/
structure ApexConfig where
  publicKey : String
  manifestName : String
  manifestVersion : Int64
  lastUpdateSeconds : Int64
  rootDigest : List UInt8
  isFactory : Bool
  deriving DecidableEq

/-- The struct `BlockApexOverride`. -/
structure BlockApexOverride where
  blockApexRootDigest : Option String
  lastUpdateSeconds : Option Int64
  deriving DecidableEq

/-- What `AddBlockApex` changes of the repository; the stores hold the paths of the APEXes. -/
structure BlockApexes where
  blockDiskPath : Option String
  blockApexOverrides : Finmap fun _ : String => BlockApexOverride
  preInstalledStore : Finmap fun _ : String => String
  dataStore : Finmap fun _ : String => String

/-- The devices, as `AddBlockApex` finds them. -/
structure BlockDevices where
  waitForFile : String → Except String Unit
  /-- the real path of a file that exists -/
  realpath : String → Option String
  payloadMetadataExists : Bool
  readMetadata : String → Except String (List ApexConfig)
  openApex : String → Except String Archive

def kVmPayloadMetadata : String := "/apex/vm-payload-metadata"

def kFirstApexPartition : Nat := 2

/-- The device of the APEX with index `i` in the metadata. -/
def blockApexPath (diskPath : String) (i : Nat) : String :=
  diskPath ++ (i + kFirstApexPartition).repr

/-- The checks of an APEX against its entry in the metadata; an empty field is not checked. -/
def checkApexConfig (config : ApexConfig) (apexPath : String) (apex : Archive) :
    Except String Unit :=
  if config.publicKey ≠ "" ∧ config.publicKey ≠ apex.bundledPublicKey then
    .error ("public key doesn't match: " ++ apexPath)
  else if config.manifestName ≠ "" ∧ config.manifestName ≠ apex.manifest.name then
    .error ("manifest name doesn't match: " ++ apexPath)
  else if config.manifestVersion ≠ 0 ∧ config.manifestVersion ≠ apex.manifest.version then
    .error ("manifest version doesn't match: " ++ apexPath)
  else .ok ()

def ApexConfig.override (config : ApexConfig) : BlockApexOverride where
  blockApexRootDigest :=
    if config.rootDigest ≠ [] then some (bytesToHex config.rootDigest) else none
  lastUpdateSeconds :=
    if config.lastUpdateSeconds ≠ 0 then some config.lastUpdateSeconds else none

namespace BlockApexes

def create : BlockApexes where
  blockDiskPath := none
  blockApexOverrides := ∅
  preInstalledStore := ∅
  dataStore := ∅

/-- `block_apex_overrides_.emplace`: what is there is kept, and no empty entry is made. -/
def emplaceOverride (repository : BlockApexes) (apexPath : String)
    (overrides : BlockApexOverride) : BlockApexes :=
  if overrides.lastUpdateSeconds.isSome ∨ overrides.blockApexRootDigest.isSome then
    if apexPath ∈ repository.blockApexOverrides then repository
    else { repository with
      blockApexOverrides := repository.blockApexOverrides.insert apexPath overrides }
  else repository

def store (repository : BlockApexes) (isFactory : Bool) : Finmap fun _ : String => String :=
  if isFactory then repository.preInstalledStore else repository.dataStore

def emplaceApex (repository : BlockApexes) (isFactory : Bool) (name apexPath : String) :
    BlockApexes :=
  if isFactory then
    { repository with preInstalledStore := repository.preInstalledStore.insert name apexPath }
  else { repository with dataStore := repository.dataStore.insert name apexPath }

/-- The body of the loop of `AddBlockApex`.  The override stays when the APEX is a duplicate. -/
def addConfig (devices : BlockDevices) (apexPath : String) (config : ApexConfig)
    (repository : BlockApexes) : Except String Unit × BlockApexes :=
  match devices.waitForFile apexPath with
  | .error e => (.error ("Error waiting for apex file : " ++ e), repository)
  | .ok () =>
    match devices.openApex apexPath with
    | .error e => (.error ("Failed to open " ++ apexPath ++ " : " ++ e), repository)
    | .ok apex =>
      match checkApexConfig config apexPath apex with
      | .error e => (.error e, repository)
      | .ok () =>
        let name := apex.manifest.name
        let repository := repository.emplaceOverride apexPath config.override
        match (repository.store config.isFactory).lookup name with
        | some path => (.error ("duplicate of " ++ name ++ " found in " ++ path), repository)
        | none => (.ok (), repository.emplaceApex config.isFactory name apexPath)

/-- The loop of `AddBlockApex` from index `i` on. -/
def addConfigs (devices : BlockDevices) (diskPath : String) :
    (i ret : Nat) → List ApexConfig → BlockApexes → Except String Nat × BlockApexes
  | _, ret, [], repository => (.ok ret, repository)
  | i, ret, config :: rest, repository =>
    match addConfig devices (blockApexPath diskPath i) config repository with
    | (.error e, repository') => (.error e, repository')
    | (.ok (), repository') => addConfigs devices diskPath (i + 1) (ret + 1) rest repository'

/-- `AddBlockApex`; a metadata partition that is not usable is skipped. -/
def addBlockApex (devices : BlockDevices) (metadataPartition : String)
    (repository : BlockApexes) : Except String Nat × BlockApexes :=
  match devices.waitForFile metadataPartition, devices.realpath metadataPartition with
  | .ok (), some metadataRealpath =>
    if Text.endsWith metadataRealpath "1" then
      let diskPath := Text.consumeSuffix metadataRealpath "1"
      let repository := { repository with blockDiskPath := some diskPath }
      match devices.readMetadata
          (if devices.payloadMetadataExists then kVmPayloadMetadata else metadataRealpath) with
      | .error _ => (.ok 0, repository)
      | .ok apexes => addConfigs devices diskPath 0 0 apexes repository
    else (.ok 0, repository)
  | _, _ => (.ok 0, repository)

def isBlockApex (repository : BlockApexes) (apexPath : String) : Bool :=
  match repository.blockDiskPath with
  | none => false
  | some diskPath => Text.startsWith apexPath diskPath

def getBlockApexRootDigest (repository : BlockApexes) (path : String) : Option String :=
  match repository.blockApexOverrides.lookup path with
  | none => none
  | some overrides => overrides.blockApexRootDigest

/-- The check that `MountPackageImpl` makes of the root digest in the verity data. -/
def checkRootDigest (repository : BlockApexes) (fullPath rootDigest : String) :
    Except String Unit :=
  if repository.isBlockApex fullPath then
    match repository.getBlockApexRootDigest fullPath with
    | some specified =>
      if specified ≠ rootDigest then
        .error ("Failed to verify Apex Verity data for " ++ fullPath ++ ": root digest (" ++
          rootDigest ++ ") mismatches with the one (" ++ specified ++ ") specified in config")
      else .ok ()
    | none => .ok ()
  else .ok ()

end BlockApexes

end Apexd
