import Apexd.Model.Activation
import Apexd.Process.Execution
import Mathlib.Data.Finset.Insert

/-! # The farm of shared libraries

`ContributeToSharedLibs` links the libraries of a mounted APEX into `/apex/sharedlibs`.  Each
library is in a directory of its hash, in a directory of its name.
-/

namespace Apexd

open Process Storage

inductive LibPath where
  | lib | lib64
  deriving DecidableEq

def LibPath.text : LibPath → String
  | .lib => "lib"
  | .lib64 => "lib64"

/-- The name of a library in the farm. -/
structure SharedLib where
  libPath : LibPath
  library : String
  hash : String
  deriving DecidableEq

/-- The directory of a hash in a mounted APEX. -/
structure HashDir where
  mountPoint : String
  lib : SharedLib
  deriving DecidableEq

/-- An entry of a lib directory. -/
inductive LibEntry where
  /-- the hashes, with the size of the library file in each if it is there -/
  | directory (hashes : Directory (Option Nat))
  | other

/-- The lib directories of what is mounted at each mount point. -/
abbrev SharedLibsMounts := String → LibPath → Option (Directory LibEntry)

/-- The directories and the symbolic links below `/apex/sharedlibs`. -/
structure Farm where
  dirs : Finset (LibPath × String)
  links : Finmap fun _ : SharedLib => HashDir
  deriving DecidableEq

def Farm.empty : Farm where
  dirs := ∅
  links := ∅

/-! ## Paths -/

inductive LibsPath where
  | apexLib (mountPoint : String) (libPath : LibPath)
  | item (dir : HashDir)
  | symlinkDir (libPath : LibPath) (library : String)
  | symlinkHash (lib : SharedLib)

namespace LibsPath

def text : LibsPath → String
  | .apexLib mountPoint libPath => mountPoint ++ "/" ++ libPath.text
  | .item dir => dir.mountPoint ++ "/" ++ dir.lib.libPath.text ++ "/" ++ dir.lib.library ++ "/" ++
      dir.lib.hash
  | .symlinkDir libPath library => kApexRoot ++ "/" ++ kApexSharedLibsSubDir ++ "/" ++
      libPath.text ++ "/" ++ library
  | .symlinkHash lib => kApexRoot ++ "/" ++ kApexSharedLibsSubDir ++ "/" ++ lib.libPath.text ++
      "/" ++ lib.library ++ "/" ++ lib.hash

end LibsPath

/-- The hash directory, if it is there, with the size of its library file. -/
def SharedLibsMounts.item (mounts : SharedLibsMounts) (dir : HashDir) : Option (Option Nat) :=
  match mounts dir.mountPoint dir.lib.libPath with
  | none => none
  | some entries => match entries.lookup dir.lib.library with
    | some (.directory hashes) => hashes.lookup dir.lib.hash
    | _ => none

/-- Whether a path leads to something; a symbolic link is followed. -/
def LibsPath.isThere (mounts : SharedLibsMounts) (farm : Farm) : LibsPath → Bool
  | .apexLib mountPoint libPath => (mounts mountPoint libPath).isSome
  | .item dir => (mounts.item dir).isSome
  | .symlinkDir libPath library => decide ((libPath, library) ∈ farm.dirs)
  | .symlinkHash lib => ((farm.links.lookup lib).bind mounts.item).isSome

/-- The size of the library file in a directory of that library, or in one that is linked. -/
def LibsPath.fileSize (mounts : SharedLibsMounts) (farm : Farm) : LibsPath → Option Nat
  | .item dir => (mounts.item dir).join
  | .symlinkHash lib => match farm.links.lookup lib with
    | some dir => if dir.lib.library = lib.library then (mounts.item dir).join else none
    | none => none
  | _ => none

/-! ## Calls -/

inductive LibsCall where
  | pathExists (path : LibsPath)
  /-- the entries of a lib directory, and whether each is a directory -/
  | listLibraries (mountPoint : String) (libPath : LibPath)
  /-- the entries of a directory in a lib directory -/
  | listHashes (mountPoint : String) (libPath : LibPath) (library : String)
  | createDirectory (libPath : LibPath) (library : String)
  | createDirectorySymlink (target : HashDir) (lib : SharedLib)
  | fileSize (path : LibsPath)

namespace LibsCall

@[reducible] def Reply : LibsCall → Type
  | .pathExists _ => Bool
  | .listLibraries _ _ => List (String × Bool)
  | .listHashes _ _ _ => List String
  | .fileSize _ => Nat
  | _ => Unit

end LibsCall

@[reducible] def sharedLibs : Interface where
  Call := LibsCall
  Reply := LibsCall.Reply

def LibEntry.isDirectory : LibEntry → Bool
  | .directory _ => true
  | .other => false

/-- What the file system does, of which no operation fails for a reason of its own. -/
inductive LibsStep (mounts : SharedLibsMounts) : Semantics sharedLibs String Farm
  | pathExists {path : LibsPath} {farm : Farm} :
      LibsStep mounts (.pathExists path) farm (.ok (path.isThere mounts farm)) farm
  | listLibraries {mountPoint : String} {libPath : LibPath} {farm : Farm} {names : List String}
      {entries : Directory LibEntry} (found : mounts mountPoint libPath = some entries)
      (isListing : entries.IsListing names) :
      LibsStep mounts (.listLibraries mountPoint libPath) farm (.ok (names.map fun name =>
        (name, ((entries.lookup name).map LibEntry.isDirectory).getD false))) farm
  | listLibrariesAbsent {mountPoint : String} {libPath : LibPath} {farm : Farm}
      (absent : mounts mountPoint libPath = none) :
      LibsStep mounts (.listLibraries mountPoint libPath) farm
        (.error "No such file or directory") farm
  | listHashes {mountPoint : String} {libPath : LibPath} {library : String} {farm : Farm}
      {names : List String} {entries : Directory LibEntry}
      {hashes : Directory (Option Nat)}
      (found : mounts mountPoint libPath = some entries)
      (directory : entries.lookup library = some (.directory hashes))
      (isListing : hashes.IsListing names) :
      LibsStep mounts (.listHashes mountPoint libPath library) farm (.ok names) farm
  | listHashesAbsent {mountPoint : String} {libPath : LibPath} {library : String} {farm : Farm}
      (absent : ∀ entries hashes, mounts mountPoint libPath = some entries →
        entries.lookup library ≠ some (.directory hashes)) :
      LibsStep mounts (.listHashes mountPoint libPath library) farm
        (.error "No such file or directory") farm
  | createDirectory {libPath : LibPath} {library : String} {farm : Farm} :
      LibsStep mounts (.createDirectory libPath library) farm (.ok ())
        { farm with dirs := insert (libPath, library) farm.dirs }
  | createDirectorySymlink {target : HashDir} {lib : SharedLib} {farm : Farm}
      (parent : (lib.libPath, lib.library) ∈ farm.dirs) (free : lib ∉ farm.links) :
      LibsStep mounts (.createDirectorySymlink target lib) farm (.ok ())
        { farm with links := farm.links.insert lib target }
  | noParent {target : HashDir} {lib : SharedLib} {farm : Farm}
      (noParent : (lib.libPath, lib.library) ∉ farm.dirs) :
      LibsStep mounts (.createDirectorySymlink target lib) farm
        (.error "No such file or directory") farm
  | taken {target : HashDir} {lib : SharedLib} {farm : Farm}
      (parent : (lib.libPath, lib.library) ∈ farm.dirs) (taken : lib ∈ farm.links) :
      LibsStep mounts (.createDirectorySymlink target lib) farm (.error "File exists") farm
  | fileSize {path : LibsPath} {farm : Farm} {size : Nat}
      (found : path.fileSize mounts farm = some size) :
      LibsStep mounts (.fileSize path) farm (.ok size) farm
  | noFile {path : LibsPath} {farm : Farm} (absent : path.fileSize mounts farm = none) :
      LibsStep mounts (.fileSize path) farm (.error "No such file or directory") farm

def libsCall (request : LibsCall) : Program sharedLibs String request.Reply :=
  .call request .done

/-! ## The procedure -/

/-- `PathExists`, an error of which counts as that there is nothing. -/
def pathIsThere (path : LibsPath) : Program sharedLibs String Bool := do
  match ← (libsCall (.pathExists path)).attempt with
  | .ok found => pure found
  | .error _ => pure false

/-- `GetFileSize` of the library file in a directory. -/
def getFileSize (path : LibsPath) (library : String) : Program sharedLibs String Nat :=
  (libsCall (.fileSize path)).mapError fun e =>
    "Failed to get file size of " ++ path.text ++ "/" ++ library ++ " : " ++ e

/-- The body of the inner loop. -/
def contributeHash (dir : HashDir) : Program sharedLibs String Unit := do
  let lib := dir.lib
  if ← pathIsThere (.symlinkHash lib) then
    -- two library files with the same name and hash
    let existingFileSize ← getFileSize (.symlinkHash lib) lib.library
    let newFileSize ← getFileSize (.item dir) lib.library
    if existingFileSize ≠ newFileSize then
      .throw ("There are two libraries with same hash and different file size : " ++
        (LibsPath.symlinkHash lib).text ++ "/" ++ lib.library ++ " and " ++
        (LibsPath.item dir).text ++ "/" ++ lib.library)
    else pure ()
  else
    (libsCall (.createDirectorySymlink dir lib)).mapError fun e =>
      "Failed to create symlink from " ++ (LibsPath.item dir).text ++ " to " ++
        (LibsPath.symlinkHash lib).text ++ e

/-- The body of the outer loop, for an entry that is a directory. -/
def contributeLibrary (mountPoint : String) (libPath : LibPath) (library : String) :
    Program sharedLibs String Unit := do
  if ← pathIsThere (.symlinkDir libPath library) then pure ()
  else
    (libsCall (.createDirectory libPath library)).mapError fun e =>
      "Failed to create directory " ++ (LibsPath.symlinkDir libPath library).text ++ ": " ++ e
  let hashes ← libsCall (.listHashes mountPoint libPath library)
  hashes.forM fun hash => contributeHash ⟨mountPoint, libPath, library, hash⟩

def contributeLibPath (mountPoint : String) (libPath : LibPath) :
    Program sharedLibs String Unit := do
  if ← pathIsThere (.apexLib mountPoint libPath) then
    let entries ← libsCall (.listLibraries mountPoint libPath)
    entries.forM fun (library, isDirectory) =>
      if isDirectory then contributeLibrary mountPoint libPath library else pure ()
  else pure ()

def contributeToSharedLibs (mountPoint : String) : Program sharedLibs String Unit :=
  [LibPath.lib, .lib64].forM (contributeLibPath mountPoint)

end Apexd
