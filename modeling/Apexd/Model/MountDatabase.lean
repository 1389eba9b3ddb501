import Mathlib.Data.Prod.Lex
import Apexd.Model.ApexFile

/-! # The database of mounted APEXes

`MountedApexDatabase` maps a package to the set of its mounts.  The set is ordered by
`MountedApexData::operator<`, and its last element counts as the latest mount of the package.
-/

namespace Apexd

open Storage

/-- Low-level data of a mounted APEX. -/
structure MountedApexData where
  version : Int32
  loopName : String
  fullPath : FilePath
  mountPoint : String
  deviceName : String
  hashtreeLoopName : String
  /-- whether the file at `fullPath` was deleted -/
  deleted : Bool
  isTempMount : Bool
  deriving DecidableEq

namespace MountedApexData

/-- What `operator<` compares, most significant first. -/
def key (data : MountedApexData) : Int ×ₗ String ×ₗ String ×ₗ String ×ₗ String ×ₗ String :=
  toLex (data.version.toInt, toLex (data.loopName, toLex (pathText data.fullPath,
    toLex (data.mountPoint, toLex (data.deviceName, data.hashtreeLoopName)))))

/-- `MountedApexData::operator<`; the flags are not compared. -/
def lt (a b : MountedApexData) : Bool :=
  a.key < b.key

end MountedApexData

/-- A `std::set<MountedApexData>`: its elements in increasing order. -/
structure MountedSet where
  entries : List MountedApexData
  sorted : entries.Pairwise fun a b => a.key < b.key

namespace MountedSet

def empty : MountedSet where
  entries := []
  sorted := .nil

def insertSorted (data : MountedApexData) : List MountedApexData → List MountedApexData
  | [] => [data]
  | head :: rest => if data.key < head.key then data :: head :: rest
    else head :: insertSorted data rest

theorem mem_insertSorted {data other : MountedApexData} {entries : List MountedApexData} :
    other ∈ insertSorted data entries ↔ other = data ∨ other ∈ entries := by
  induction entries with
  | nil => simp [insertSorted]
  | cons head rest ih =>
    rw [insertSorted]
    split
    · simp
    · simp only [List.mem_cons, ih]
      grind

theorem pairwise_insertSorted {data : MountedApexData} {entries : List MountedApexData}
    (sorted : entries.Pairwise fun a b => a.key < b.key)
    (fresh : ∀ other ∈ entries, other.key ≠ data.key) :
    (insertSorted data entries).Pairwise fun a b => a.key < b.key := by
  induction entries with
  | nil => simp [insertSorted]
  | cons head rest ih =>
    obtain ⟨least, restSorted⟩ := List.pairwise_cons.mp sorted
    rw [insertSorted]
    split
    · rename_i below
      refine List.pairwise_cons.mpr ⟨?_, sorted⟩
      intro other member
      rcases List.mem_cons.mp member with rfl | later
      · exact below
      · exact below.trans (least other later)
    · rename_i notBelow
      have above : head.key < data.key :=
        lt_of_le_of_ne (not_lt.mp notBelow) (fresh head (by simp))
      refine List.pairwise_cons.mpr ⟨?_, ih restSorted fun other member => fresh other (by simp [member])⟩
      intro other member
      rcases mem_insertSorted.mp member with rfl | later
      · exact above
      · exact least other later

/-- Insert a mount unless the set has an equivalent one. -/
def emplace (set : MountedSet) (data : MountedApexData) : Option MountedSet :=
  if fresh : ∀ other ∈ set.entries, other.key ≠ data.key then
    some ⟨insertSorted data set.entries, pairwise_insertSorted set.sorted fresh⟩
  else none

theorem nodup_entries (set : MountedSet) : set.entries.Nodup := by
  refine set.sorted.imp ?_
  rintro data _ below rfl
  exact lt_irrefl _ below

/-- Remove the first mount of the given file. -/
def remove (set : MountedSet) (fullPath : FilePath) (matchTempMounts : Bool) : MountedSet where
  entries := set.entries.eraseP fun data =>
    pathText data.fullPath = pathText fullPath && data.isTempMount = matchTempMounts
  sorted := set.sorted.sublist List.eraseP_sublist

/-- The last element, which `rbegin` points to. -/
def latest (set : MountedSet) : Option MountedApexData :=
  set.entries.getLast?

/-- The elements in the order of `rbegin`, each with whether it is the latest. -/
def reversed (set : MountedSet) : List (MountedApexData × Bool) :=
  match set.entries.reverse with
  | [] => []
  | top :: rest => (top, true) :: rest.map (·, false)

end MountedSet

/-- The class `MountedApexDatabase`. -/
abbrev MountedApexDatabase := Directory MountedSet

namespace MountedApexDatabase

/-- The mounts of a package; none when the package has no set. -/
def mountsOf (database : MountedApexDatabase) (package : String) : MountedSet :=
  match database.lookup package with
  | some set => set
  | none => .empty

@[simp] theorem mountsOf_empty (package : String) : mountsOf ∅ package = .empty := rfl

theorem mountsOf_insert (database : MountedApexDatabase) (added package : String)
    (set : MountedSet) : mountsOf (database.insert added set) package =
      if package = added then set else database.mountsOf package := by
  unfold mountsOf
  split_ifs with same
  · subst same
    rw [Finmap.lookup_insert]
  · rw [Finmap.lookup_insert_of_ne database same]

/-- All mounts with their packages, in the order of the packages. -/
def allMounts (database : MountedApexDatabase) : List (String × MountedApexData) :=
  (Directory.names database).flatMap fun package =>
    (database.mountsOf package).entries.map (package, ·)

/-- `CheckUniqueLoopDm` -/
def hasUniqueLoopDm (database : MountedApexDatabase) : Bool :=
  let mounts := database.allMounts.map Prod.snd
  let loopDevices := mounts.flatMap fun mount =>
    [mount.loopName, mount.hashtreeLoopName].filter (· ≠ "")
  let dmDevices := (mounts.map MountedApexData.deviceName).filter (· ≠ "")
  loopDevices.Nodup && dmDevices.Nodup

/-- `AddMountedApexLocked`, or none where a CHECK fails. -/
def addMountedApex (database : MountedApexDatabase) (package : String) (data : MountedApexData) :
    Option MountedApexDatabase := do
  let set ← (database.mountsOf package).emplace data
  let added : MountedApexDatabase := database.insert package set
  if added.hasUniqueLoopDm then some added else none

def removeMountedApex (database : MountedApexDatabase) (package : String) (fullPath : FilePath)
    (matchTempMounts : Bool) : MountedApexDatabase :=
  match database.lookup package with
  | none => database
  | some set => database.insert package (set.remove fullPath matchTempMounts)

/-- What `ForallMountedApexes` hands to its handler for one package. -/
def forallMountedApexesOf (database : MountedApexDatabase) (package : String)
    (matchTempMounts : Bool) : List (MountedApexData × Bool) :=
  (database.mountsOf package).reversed.filter fun (data, _) => data.isTempMount = matchTempMounts

/-- What `ForallMountedApexes` hands to its handler for all packages. -/
def forallMountedApexes (database : MountedApexDatabase) (matchTempMounts : Bool) :
    List (String × MountedApexData × Bool) :=
  (Directory.names database).flatMap fun package =>
    (database.forallMountedApexesOf package matchTempMounts).map fun (data, latest) =>
      (package, data, latest)

/-- `DoIfLatest`: whether it runs its handler, or none where a CHECK fails. -/
def doIfLatest (database : MountedApexDatabase) (package : String) (fullPath : FilePath) :
    Option Bool :=
  (database.mountsOf package).latest.map fun latest => pathText latest.fullPath = pathText fullPath

def getLatestMountedApex (database : MountedApexDatabase) (package : String) :
    Option MountedApexData :=
  (database.forallMountedApexesOf package false).foldl
    (fun ret (data, latest) => if latest then some data else ret) none

end MountedApexDatabase

/-! ## Mounts -/

/-- An entry of the mount table: which image is visible at `target`. -/
structure Mount where
  target : String
  image : MountedApexData
  deriving DecidableEq

/-- The image visible at a mount point: of several mounts on it, the one made last. -/
def visibleAt (mounts : List Mount) (target : String) : Option MountedApexData :=
  (mounts.find? fun mount => mount.target = target).map Mount.image

/-- Remove the mount made last on a mount point. -/
def unmountTop (mounts : List Mount) (target : String) : List Mount :=
  mounts.eraseP fun mount => mount.target = target

/-- What `MountPackageImpl` asks the kernel for: an image on a loop device, on dm-verity if
`onVerity`, mounted at a mount point. -/
structure MountRequest where
  apex : ApexFile
  mountPoint : String
  deviceName : String
  hashtreeFile : FilePath
  /-- the image has no hash tree of its own, so that the hash tree file needs a loop device -/
  separateHashtree : Bool
  onVerity : Bool
  verifyImage : Bool
  reuseDevice : Bool
  tempMount : Bool
  deriving DecidableEq

/-- The data of a mount for the loop devices the kernel chose. -/
def MountRequest.data (request : MountRequest) (loopName hashtreeLoopName : String) :
    MountedApexData where
  version := request.apex.manifest.version.toInt32
  loopName := loopName
  fullPath := request.apex.path
  mountPoint := request.mountPoint
  deviceName := if request.onVerity then request.deviceName else ""
  hashtreeLoopName := if request.onVerity && request.separateHashtree then hashtreeLoopName else ""
  deleted := false
  isTempMount := request.tempMount

end Apexd
