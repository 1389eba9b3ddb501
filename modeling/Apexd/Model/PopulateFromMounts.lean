import Apexd.Model.Mounting
import Apexd.Text.Tokens

/-! # The database after a restart

`PopulateFromMounts` finds out from /proc/mounts and /sys/block what `AddMountedApex` recorded when
the APEXes were mounted: the device that is mounted, the loop devices below it and the files that
back them.
-/

namespace Apexd

open Process Storage

inductive BlockDeviceType where
  | unknownDevice
  | loopDevice
  | deviceMapperDevice
  deriving DecidableEq

def kDevBlock : String := "/dev/block"

/-- What the kernel shows of block devices, by their names. -/
structure SysBlock where
  /-- the content of a file in the directory of the device under /sys/block, if it can be read -/
  readFile (name property : String) : Option String
  /-- the entries of the directory of slaves, in the order in which they are listed -/
  listSlaves (name : String) : List String
  /-- whether there is a block device of the name in /dev/block -/
  isBlockFile (name : String) : Bool

/-- The class `BlockDevice`: a name such as loop7 or dm-3. -/
structure BlockDevice where
  name : String
  deriving DecidableEq

namespace BlockDevice

def ofPath (path : String) : BlockDevice where
  name := Text.filename path

def getType (device : BlockDevice) : BlockDeviceType :=
  if Text.startsWith device.name "loop" then .loopDevice
  else if Text.startsWith device.name "dm-" then .deviceMapperDevice
  else .unknownDevice

def devPath (device : BlockDevice) : String :=
  kDevBlock ++ "/" ++ device.name

def getProperty (sys : SysBlock) (device : BlockDevice) (property : String) : Except String String :=
  match sys.readFile device.name property with
  | none => .error "Fail to read"
  | some value => .ok (Text.trim value)

def getSlaves (sys : SysBlock) (device : BlockDevice) : List BlockDevice :=
  ((sys.listSlaves device.name).filter sys.isBlockFile).map .mk

end BlockDevice

def parseMountInfo (mountInfo : String) : String × String :=
  match Text.split ' ' mountInfo with
  | block :: mountPoint :: _ => (block, mountPoint)
  | _ => ("", "")

def parseMountPoint (mountPoint : String) : String × Int32 :=
  let packageId := Text.filename mountPoint
  match Text.split '@' packageId with
  | [package, version] =>
    (package, match Text.parseInt (-2147483648) 2147483647 version with
      | some version => .ofInt version
      | none => -1)
  | _ => (packageId, -1)

def isActiveMountPoint (mountPoint : String) : Bool :=
  '@' ∉ mountPoint.toList

/-- The directories that tell the loop devices below a dm-verity device apart. -/
structure ApexDirs where
  activeApexDir : String
  decompressionDir : String
  apexHashTreeDir : String

/-- The directories of `gConfig`. -/
def ApexDirs.config : ApexDirs where
  activeApexDir := DirId.active.text
  decompressionDir := DirId.decompression.text
  apexHashTreeDir := DirId.hashTree.text

def ApexDirs.isDataLoopDevice (dirs : ApexDirs) (backingFile : String) : Bool :=
  Text.startsWith backingFile dirs.activeApexDir || Text.startsWith backingFile dirs.decompressionDir

/-- What is found out about the loop devices below a mount. -/
structure LoopInfo where
  loopName : String
  fullPath : String
  hashtreeLoopName : String
  deriving DecidableEq

/-- The slaves of a dm-verity device with the files that back them. -/
def backingFiles (sys : SysBlock) (slaves : List BlockDevice) :
    Except String (List (BlockDevice × String)) :=
  slaves.mapM fun dev =>
    if dev.getType ≠ .loopDevice then .error (dev.devPath ++ " is not a loop device")
    else (dev.getProperty sys "loop/backing_file").map (dev, ·)

def unexpectedNumber (topDevice : BlockDevice) (slaves : Nat) : Except String LoopInfo :=
  .error ("dm device " ++ topDevice.devPath ++ " has unexpected number of slaves : " ++ toString slaves)

def unexpectedBackingFile (kind : String) (slave : BlockDevice × String) : Except String LoopInfo :=
  .error (kind ++ " loop device " ++ slave.1.devPath ++ " has unexpected backing file " ++ slave.2)

/-- The data loop device comes first, that of an external hash tree second. -/
def classifySlaves (dirs : ApexDirs) (topDevice : BlockDevice) :
    List (BlockDevice × String) → Except String LoopInfo
  | [data] =>
    if !dirs.isDataLoopDevice data.2 then unexpectedBackingFile "Data" data
    else .ok ⟨data.1.devPath, data.2, ""⟩
  | [first, second] =>
    let (data, hashtree) := if dirs.isDataLoopDevice first.2 then (first, second) else (second, first)
    if !dirs.isDataLoopDevice data.2 then unexpectedBackingFile "Data" data
    else if !Text.startsWith hashtree.2 dirs.apexHashTreeDir then
      unexpectedBackingFile "Hashtree" hashtree
    else .ok ⟨data.1.devPath, data.2, hashtree.1.devPath⟩
  | slaves => unexpectedNumber topDevice slaves.length

def populateLoopInfo (sys : SysBlock) (dirs : ApexDirs) (topDevice : BlockDevice) :
    Except String LoopInfo :=
  let slaves := topDevice.getSlaves sys
  if slaves.length ≠ 1 ∧ slaves.length ≠ 2 then unexpectedNumber topDevice slaves.length
  else backingFiles sys slaves >>= classifySlaves dirs topDevice

/-- `NormalizeIfDeleted`: the path of a backing file, and whether the kernel says that the file was
deleted. -/
def normalizeIfDeleted (fullPath : String) : String × Bool :=
  if Text.endsWith fullPath "(deleted)" then
    (Text.trimRight (Text.consumeSuffix fullPath "(deleted)"), true)
  else (fullPath, false)

/-- The directory that is spelled so, among those that are not below one another. -/
def DirId.ofText (text : String) : DirId :=
  if text = DirId.active.text then .active
  else if text = DirId.backup.text then .backup
  else if text = DirId.hashTree.text then .hashTree
  else if text = DirId.decompression.text then .decompression
  else .other text

/-- The path that is spelled so. -/
def pathOfText (text : String) : FilePath where
  dir := .ofText (Text.parentPath text)
  name := Text.filename text

/-- `ResolveMountInfo`, without the version. -/
def resolveMountInfo (sys : SysBlock) (dirs : ApexDirs) (block : BlockDevice) (mountPoint : String) :
    Except String MountedApexData :=
  let tempMount := Text.endsWith mountPoint ".tmp"
  match block.getType with
  | .loopDevice => do
    let backingFile ← block.getProperty sys "loop/backing_file"
    let (fullPath, deleted) := normalizeIfDeleted backingFile
    pure {
      version := 0
      loopName := block.devPath
      fullPath := pathOfText fullPath
      mountPoint := mountPoint
      deviceName := ""
      hashtreeLoopName := ""
      deleted := deleted
      isTempMount := tempMount }
  | .deviceMapperDevice => do
    let name ← block.getProperty sys "dm/name"
    let info ← populateLoopInfo sys dirs block
    let (fullPath, deleted) := normalizeIfDeleted info.fullPath
    pure {
      version := 0
      loopName := info.loopName
      fullPath := pathOfText fullPath
      mountPoint := mountPoint
      deviceName := name
      hashtreeLoopName := info.hashtreeLoopName
      deleted := deleted
      isTempMount := tempMount }
  | .unknownDevice => .error ("Can't resolve " ++ block.devPath)

/-- What a line of /proc/mounts adds to the database, if it is the mount of an APEX. -/
def resolveLine (sys : SysBlock) (dirs : ApexDirs) (line : String) :
    Option (String × MountedApexData) :=
  let (block, mountPoint) := parseMountInfo line
  if Text.parentPath mountPoint ≠ kApexRoot then none
  else if isActiveMountPoint mountPoint then none
  else match resolveMountInfo sys dirs (.ofPath block) mountPoint with
    | .error _ => none
    | .ok mountData =>
      let (package, version) := parseMountPoint mountPoint
      some (package, { mountData with version := version })

/-- `PopulateFromMounts` with the lines of /proc/mounts, or none where a CHECK fails. -/
def MountedApexDatabase.populateFromMounts (database : MountedApexDatabase) (sys : SysBlock)
    (dirs : ApexDirs) (mounts : List String) : Option MountedApexDatabase :=
  mounts.foldlM (fun database line => match resolveLine sys dirs line with
    | none => some database
    | some (package, data) => database.addMountedApex package data) database

/-! ## Unmounting everything -/

/-- What comes before the first `@`, or none if there is no `@`. -/
def beforeAt (mountPoint : String) : Option String :=
  if '@' ∈ mountPoint.toList then some (.ofList (mountPoint.toList.takeWhile (· ≠ '@'))) else none

/-- Unmount what is bound at the mount point of the package. -/
def unmountBindMount (data : MountedApexData) (ret : Nat) : Procedure Nat :=
  match beforeAt data.mountPoint with
  | none => fatal
  | some bindMount => do
    match ← (kernelCall (.umount bindMount false)).attempt with
    | .ok () => pure ret
    | .error _ => pure 1

/-- What `UnmountAll` does with a mount, and what it would return after that. -/
def unmountVisited (ret : Nat) (visit : String × MountedApexData × Bool) : Procedure Nat := do
  let (_, data, latest) := visit
  match ← (ApexFile.open data.fullPath).attempt with
  | .error _ => pure 1
  | .ok apex => do
    let ret ← (if latest && !apex.manifest.provideSharedApexLibs then unmountBindMount data ret
      else pure ret)
    match ← (unmount data false).attempt with
    | .ok () => pure ret
    | .error _ => pure 1

/-- `UnmountAll`, once the database is populated. -/
def unmountAll : Procedure Nat := do
  let mounts ← databaseCall (.forallMountedApexes false)
  Program.fold unmountVisited 0 mounts

end Apexd
