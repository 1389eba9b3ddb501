import Apexd.Storage.FileTree
import Apexd.Text.Split

/-! # Contents of the shim

`ValidateShimApex` of `apex_shim.cpp` walks through the mounted CTS shim and checks what it finds,
by the status of each entry.
-/

namespace Apexd

open Storage

namespace Shim

/-- The execute permissions of the owner, the group and others. -/
def kForbiddenFilePermissions : UInt16 := 0x49

def kExpectedCtsShimFiles : List String := [
  "apex_manifest.json",
  "apex_manifest.pb",
  "etc/hash.txt",
  "app/CtsShim/CtsShim.apk",
  "app/CtsShim@1/CtsShim.apk",
  "app/CtsShim@2/CtsShim.apk",
  "app/CtsShim@3/CtsShim.apk",
  "app/CtsShim@AOSP.MASTER/CtsShim.apk",
  "app/CtsShim@MASTER/CtsShim.apk",
  "app/CtsShimAddApkToApex/CtsShimAddApkToApex.apk",
  "app/CtsShimAddApkToApex@1/CtsShimAddApkToApex.apk",
  "app/CtsShimAddApkToApex@2/CtsShimAddApkToApex.apk",
  "app/CtsShimAddApkToApex@3/CtsShimAddApkToApex.apk",
  "app/CtsShimAddApkToApex@AOSP.MASTER/CtsShimAddApkToApex.apk",
  "app/CtsShimAddApkToApex@MASTER/CtsShimAddApkToApex.apk",
  "app/CtsShimTargetPSdk/CtsShimTargetPSdk.apk",
  "app/CtsShimTargetPSdk@1/CtsShimTargetPSdk.apk",
  "app/CtsShimTargetPSdk@2/CtsShimTargetPSdk.apk",
  "app/CtsShimTargetPSdk@3/CtsShimTargetPSdk.apk",
  "app/CtsShimTargetPSdk@AOSP.MASTER/CtsShimTargetPSdk.apk",
  "app/CtsShimTargetPSdk@MASTER/CtsShimTargetPSdk.apk",
  "priv-app/CtsShimPriv/CtsShimPriv.apk",
  "priv-app/CtsShimPriv@1/CtsShimPriv.apk",
  "priv-app/CtsShimPriv@2/CtsShimPriv.apk",
  "priv-app/CtsShimPriv@3/CtsShimPriv.apk",
  "priv-app/CtsShimPriv@AOSP.MASTER/CtsShimPriv.apk",
  "priv-app/CtsShimPriv@MASTER/CtsShimPriv.apk"]

/-- What a symbolic link leads to in the end, inside the tree or out of it. -/
inductive Target where
  | regular (permissions : UInt16)
  | directory
  /-- a device, a pipe or a socket, or nothing at all -/
  | other
  deriving DecidableEq

/-- What is no directory itself. -/
inductive Leaf where
  | regular (permissions : UInt16)
  /-- a device, a pipe or a socket -/
  | special
  | symlink (target : Target)
  deriving DecidableEq

/-- `fs::file_status` -/
inductive FileStatus where
  | symlink
  | regular (permissions : UInt16)
  | directory
  | other
  deriving DecidableEq

/-- `directory_entry::status`, which follows symbolic links. -/
def status : Node Leaf → FileStatus
  | .dir => .directory
  | .file (.regular permissions) => .regular permissions
  | .file .special => .other
  | .file (.symlink (.regular permissions)) => .regular permissions
  | .file (.symlink .directory) => .directory
  | .file (.symlink .other) => .other

/-- A mounted shim with the parts of its manifest that are checked. -/
structure ShimMount where
  mountPoint : String
  preinstallhook : String
  postinstallhook : String
  entries : FileTree Leaf
  closed : entries.Closed
  names : ∀ path ∈ entries, ∀ name ∈ path, '/' ∉ name.toList
  /-- why a directory cannot be opened, if so; the empty path is the mount point -/
  openError : List String → Option String

def localPath (path : List String) : String :=
  Text.join '/' path

/-- A path as a stream prints it: in quotation marks, with a backslash before those inside. -/
def quoted (path : String) : String :=
  let mark := Char.ofNat 34
  let backslash := Char.ofNat 92
  .ofList ([mark] ++ path.toList.flatMap (fun c =>
    if c = mark ∨ c = backslash then [backslash, c] else [c]) ++ [mark])

namespace ShimMount

def fullPath (mount : ShimMount) (path : List String) : String :=
  quoted (mount.mountPoint ++ "/" ++ localPath path)

/-- The checks of one entry, which leave the files that are expected still. -/
def checkEntry (mount : ShimMount) (path : List String) (node : Node Leaf)
    (expectedFiles : Finset String) : Except String (Finset String) :=
  match status node with
  | .symlink => .error ("Shim apex is not allowed to contain symbolic links, found " ++
      mount.fullPath path)
  | .regular permissions =>
    if permissions &&& kForbiddenFilePermissions ≠ 0 then
      .error (mount.fullPath path ++ " has illegal permissions")
    else if localPath path ∈ expectedFiles then .ok (expectedFiles.erase (localPath path))
    else .error (mount.fullPath path ++ " is an unexpected file inside the shim apex")
  | .directory => .ok expectedFiles
  | .other => .error ("Unexpected file entry in shim apex: " ++ mount.fullPath path)

/-- `increment` opens a directory before it goes on. -/
def increment (mount : ShimMount) (path : List String) (node : Node Leaf) : Except String Unit :=
  match node, mount.openError path with
  | .dir, some message => .error ("Failed to scan " ++ mount.mountPoint ++ " : " ++ message)
  | _, _ => .ok ()

/-- The loop over the entries that the iterator still comes to. -/
def scan (mount : ShimMount) : List (List String × Node Leaf) → Finset String → Except String Unit
  | [], _ => .ok ()
  | (path, node) :: rest, expectedFiles =>
    match mount.checkEntry path node expectedFiles with
    | .error e => .error e
    | .ok expectedFiles' =>
      match mount.increment path node with
      | .error e => .error e
      | .ok () => mount.scan rest expectedFiles'

/-- The entries of the tree in the order of the walk. -/
def walked (mount : ShimMount) (order : List (List String)) : List (List String × Node Leaf) :=
  order.filterMap fun path => (mount.entries.lookup path).map fun node => (path, node)

/-- `ValidateShimApex`, which finds the entries in some order.  The error of an iterator that could
not be made is not looked at. -/
def validateShimApex (mount : ShimMount) (order : List (List String)) : Except String Unit :=
  if mount.preinstallhook ≠ "" ∨ mount.postinstallhook ≠ "" then
    .error "Shim apex is not allowed to have pre or post install hooks"
  else
    match mount.openError [] with
    | some _ => .ok ()
    | none => mount.scan (mount.walked order) kExpectedCtsShimFiles.toFinset

end ShimMount

end Shim

end Apexd
