import Apexd.Model.ApexFile

/-! # The repository of APEX files

`ApexFileRepository` holds at most one pre-installed and at most one data APEX of each package.
A store can only be built by inserting an APEX under the name in its own manifest, so that the
key of an entry never has to be compared with its manifest again.
-/

namespace Apexd

open Storage

/-- One store of the repository: APEX files by the name in their manifest. -/
structure ApexStore where
  files : Finmap fun _ : String => ApexFile
  keyed : ∀ {name apex}, files.lookup name = some apex → apex.manifest.name = name

namespace ApexStore

def empty : ApexStore where
  files := ∅
  keyed := by simp

def find (store : ApexStore) (name : String) : Option ApexFile :=
  store.files.lookup name

theorem name_of_find {store : ApexStore} {name : String} {apex : ApexFile}
    (found : store.find name = some apex) : apex.manifest.name = name :=
  store.keyed found

/-- Assign the entry of the package, whether there is one or not. -/
def insert (store : ApexStore) (apex : ApexFile) : ApexStore where
  files := store.files.insert apex.manifest.name apex
  keyed := by
    intro name found lookup
    by_cases same : name = apex.manifest.name
    · subst same
      rw [Finmap.lookup_insert] at lookup
      cases lookup
      rfl
    · rw [Finmap.lookup_insert_of_ne _ same] at lookup
      exact store.keyed lookup

/-- `emplace`: an entry that exists is kept. -/
def emplace (store : ApexStore) (apex : ApexFile) : ApexStore :=
  if (store.find apex.manifest.name).isSome then store else store.insert apex

def erase (store : ApexStore) (name : String) : ApexStore where
  files := store.files.erase name
  keyed := by
    intro other found lookup
    by_cases same : other = name
    · subst same
      simp at lookup
    · rw [Finmap.lookup_erase_ne same] at lookup
      exact store.keyed lookup

/-- The entries in the order of their names. -/
def toList (store : ApexStore) : List ApexFile :=
  (Directory.names store.files).filterMap store.find

@[simp] theorem find_insert_self (store : ApexStore) (apex : ApexFile) :
    (store.insert apex).find apex.manifest.name = some apex := by
  simp [find, insert]

theorem find_insert_ne (store : ApexStore) (apex : ApexFile) {name : String}
    (ne : name ≠ apex.manifest.name) : (store.insert apex).find name = store.find name := by
  simp [find, insert, Finmap.lookup_insert_of_ne, ne]

theorem mem_toList {store : ApexStore} {apex : ApexFile} :
    apex ∈ store.toList ↔ store.find apex.manifest.name = some apex := by
  rw [toList, List.mem_filterMap]
  constructor
  · rintro ⟨name, _, found⟩
    rw [name_of_find found]
    exact found
  · intro found
    refine ⟨apex.manifest.name, ?_, found⟩
    exact Directory.mem_names.mpr (Finmap.lookup_isSome.mp (Option.isSome_iff_exists.mpr ⟨_, found⟩))

end ApexStore

def kMultiApexSelectPrefix : List String :=
  -- persist props first, to allow users to override bootconfig
  ["persist.vendor.apex.", "ro.boot.vendor.apex."]

/-- The class `ApexFileRepository`. -/
structure ApexFileRepository where
  preInstalledStore : ApexStore
  dataStore : ApexStore
  multiInstallPublicKeys : Finmap fun _ : String => List String
  multiInstallSelectPropPrefixes : List String
  enforceMultiInstallPartition : Bool
  ignoreDuplicateApexDefinitions : Bool
  decompressionDir : String
  blockDiskPath : Option String

namespace ApexFileRepository

/-- A repository as its constructor leaves it. -/
def create : ApexFileRepository where
  preInstalledStore := .empty
  dataStore := .empty
  multiInstallPublicKeys := ∅
  multiInstallSelectPropPrefixes := kMultiApexSelectPrefix
  enforceMultiInstallPartition := true
  ignoreDuplicateApexDefinitions := false
  decompressionDir := DirId.kApexDecompressedDir
  blockDiskPath := none

def hasPreInstalledVersion (repository : ApexFileRepository) (name : String) : Bool :=
  (repository.preInstalledStore.find name).isSome

def hasDataVersion (repository : ApexFileRepository) (name : String) : Bool :=
  (repository.dataStore.find name).isSome

/-- An APEX is considered decompressed if it is located in the decompression directory. -/
def isDecompressedApex (repository : ApexFileRepository) (apex : ApexFile) : Bool :=
  Text.startsWith (pathText apex.path) repository.decompressionDir

def isPreInstalledApex (repository : ApexFileRepository) (apex : ApexFile) : Bool :=
  match repository.preInstalledStore.find apex.manifest.name with
  | none => false
  | some preInstalled =>
    pathText preInstalled.path = pathText apex.path || repository.isDecompressedApex apex

def isBlockApex (repository : ApexFileRepository) (apex : ApexFile) : Bool :=
  match repository.blockDiskPath with
  | none => false
  | some diskPath => Text.startsWith (pathText apex.path) diskPath

def getPublicKey (repository : ApexFileRepository) (name : String) : Except String String :=
  match repository.preInstalledStore.find name with
  | some apex => .ok apex.archive.bundledPublicKey
  | none =>
    -- inside a VM the key of an APEX on a block device comes from the data store
    match repository.dataStore.find name with
    | some apex =>
      if repository.isBlockApex apex then .ok apex.archive.bundledPublicKey
      else .error ("No preinstalled apex found for package " ++ name)
    | none => .error ("No preinstalled apex found for package " ++ name)

def getPreInstalledApex (repository : ApexFileRepository) (name : String) : Option ApexFile :=
  repository.preInstalledStore.find name

def getDataApex (repository : ApexFileRepository) (name : String) : Option ApexFile :=
  repository.dataStore.find name

end ApexFileRepository

end Apexd
