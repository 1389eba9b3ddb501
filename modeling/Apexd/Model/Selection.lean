import Apexd.Model.Repository

/-! # Selection of the APEX files to activate

`SelectApexForActivation` decides for every package which of its files is activated, and
`ShouldAllocateSpaceForDecompression` predicts that decision for a package of an OTA.
-/

namespace Apexd

open Storage

/-- Which store of the repository a reference points into. -/
inductive StoreTag where
  | preInstalled
  | data
  deriving DecidableEq

/-- A reference to the entry of a store; two entries are never the same reference, even when
they describe the same file. -/
structure ApexFileRef where
  store : StoreTag
  file : ApexFile
  deriving DecidableEq

namespace ApexFileRepository

def getPreInstalledApexFiles (repository : ApexFileRepository) : List ApexFileRef :=
  repository.preInstalledStore.toList.map (⟨.preInstalled, ·⟩)

def getDataApexFiles (repository : ApexFileRepository) : List ApexFileRef :=
  repository.dataStore.toList.map (⟨.data, ·⟩)

/-- Append a reference to the list of its package. -/
def addToGroup (result : Finmap fun _ : String => List ApexFileRef) (ref : ApexFileRef) :
    Finmap fun _ : String => List ApexFileRef :=
  let packageName := ref.file.manifest.name
  result.insert packageName ((result.lookup packageName).getD [] ++ [ref])

/-- Group pre-installed APEX and data APEX by name. -/
def allApexFilesByName (repository : ApexFileRepository) :
    Finmap fun _ : String => List ApexFileRef :=
  (repository.getPreInstalledApexFiles ++ repository.getDataApexFiles).foldl addToGroup ∅

end ApexFileRepository

/-- Given an APEX `a` and the version of the other APEX, should `a` be activated? -/
def selectApex (instance' : ApexFileRepository) (a : ApexFile) (versionB : Int32) : Bool :=
  let higherVersion := a.manifest.version > versionB.toInt64
  let sameVersionPriorityToData :=
    a.manifest.version = versionB.toInt64 ∧ ¬ instance'.isPreInstalledApex a
  if a.manifest.provideSharedApexLibs then
    -- the pre-installed version gets activated except when it has the version of data
    (instance'.isPreInstalledApex a && decide (a.manifest.version ≠ versionB.toInt64)) ||
    -- the data version gets activated except when it is lower than pre-installed
    (!instance'.isPreInstalledApex a && decide (a.manifest.version ≥ versionB.toInt64))
  else
    decide (higherVersion ∨ sameVersionPriorityToData)

/-- The files of one package that are activated. -/
def selectFromPackage (instance' : ApexFileRepository) (packageName : String)
    (apexFiles : List ApexFileRef) : List ApexFileRef :=
  match apexFiles with
  | [only] => if instance'.hasPreInstalledVersion packageName then [only] else []
  | [first, second] =>
    if instance'.hasPreInstalledVersion packageName then
      -- `const int version_0`, `const int version_1`
      let version0 := first.file.manifest.version.toInt32
      let version1 := second.file.manifest.version.toInt32
      (if selectApex instance' first.file version1 then [first] else []) ++
        (if selectApex instance' second.file version0 then [second] else [])
    else []
  -- no file or more than two: LOG(FATAL)
  | _ => []

/-- `SelectApexForActivation`, for the order in which the map of all files is iterated. -/
def selectApexForActivation (allApex : List (String × List ApexFileRef))
    (instance' : ApexFileRepository) : List ApexFileRef :=
  allApex.flatMap fun (packageName, apexFiles) =>
    selectFromPackage instance' packageName apexFiles

/-- The entries of a map in some order of iteration. -/
def IsIteration {α : Type} (entries : List (String × α)) (map : Finmap fun _ : String => α) :
    Prop :=
  entries.Nodup ∧ ∀ key value, (key, value) ∈ entries ↔ map.lookup key = some value

/-- Given a single new APEX incoming via OTA, should we allocate space for it? -/
def shouldAllocateSpaceForDecompression (newApexName : String) (newApexVersion : Int64)
    (instance' : ApexFileRepository) : Bool :=
  match instance'.getPreInstalledApex newApexName with
  | none => true
  | some preInstalledApex =>
    match instance'.getDataApex newApexName with
    | none =>
      if preInstalledApex.isCompressed then
        -- the device uses the decompressed pre-installed version: replaced unless the same
        newApexVersion ≠ preInstalledApex.manifest.version
      else true
    | some dataApex => newApexVersion > dataApex.manifest.version

/-- `CalculateSizeForCompressedApex` -/
def calculateSizeForCompressedApex (compressedApexes : List (String × Int64 × Int64))
    (instance' : ApexFileRepository) : Int64 :=
  compressedApexes.foldl (fun result (moduleName, versionCode, decompressedSize) =>
    if shouldAllocateSpaceForDecompression moduleName versionCode instance' then
      result + decompressedSize
    else result) 0

end Apexd
