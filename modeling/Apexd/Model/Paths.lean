import Apexd.Storage.FileSystem

/-! # Directories and paths of apexd

Every directory apexd works in has a name of its own, so that two of them are never the same
by accident of spelling; `DirId.text` and `pathText` give the spelling that error messages
and the prefix tests of the repository see.
-/

namespace Apexd

open Storage

inductive DirId where
  /-- `gConfig->active_apex_data_dir` -/
  | active
  /-- `kApexBackupDir` -/
  | backup
  /-- `gConfig->apex_hash_tree_dir` -/
  | hashTree
  /-- `gConfig->decompression_dir` -/
  | decompression
  /-- `gConfig->staged_session_dir`/session_`id` -/
  | staged (sessionId : Int)
  /-- `base`/apexdata/`apex` -/
  | apexData (base apex : String)
  /-- `base`/apexrollback -/
  | snapshots (base : String)
  /-- `base`/apexrollback/`rollbackId`, with the suffix -prerestore if `preRestore` -/
  | rollback (base : String) (rollbackId : Int) (preRestore : Bool)
  /-- the snapshot of one APEX in a rollback directory -/
  | snapshot (base : String) (rollbackId : Int) (preRestore : Bool) (apex : String)
  /-- any other directory, such as a partition of pre-installed APEXes -/
  | other (path : String)
  deriving DecidableEq

/-- The path of a file apexd reads or writes. -/
abbrev FilePath := Path DirId

instance : LawfulBEq FilePath := inferInstance

namespace DirId

def kApexDataDir : String := "/data/apex"
def kActiveApexPackagesDataDir : String := kApexDataDir ++ "/active"
def kApexBackupDir : String := kApexDataDir ++ "/backup"
def kApexHashTreeDir : String := kApexDataDir ++ "/hashtree"
def kApexDecompressedDir : String := kApexDataDir ++ "/decompressed"
def kStagedSessionsDir : String := "/data/app-staging"
def kApexDataSubDir : String := "apexdata"
def kApexSnapshotSubDir : String := "apexrollback"
def kPreRestoreSuffix : String := "-prerestore"

def snapshotsText (base : String) : String :=
  base ++ "/" ++ kApexSnapshotSubDir

def rollbackText (base : String) (rollbackId : Int) (preRestore : Bool) : String :=
  snapshotsText base ++ "/" ++ toString rollbackId ++
    (if preRestore then kPreRestoreSuffix else "")

def text : DirId → String
  | .active => kActiveApexPackagesDataDir
  | .backup => kApexBackupDir
  | .hashTree => kApexHashTreeDir
  | .decompression => kApexDecompressedDir
  | .staged sessionId => kStagedSessionsDir ++ "/session_" ++ toString sessionId
  | .apexData base apex => base ++ "/" ++ kApexDataSubDir ++ "/" ++ apex
  | .snapshots base => snapshotsText base
  | .rollback base rollbackId preRestore => rollbackText base rollbackId preRestore
  | .snapshot base rollbackId preRestore apex =>
    rollbackText base rollbackId preRestore ++ "/" ++ apex
  | .other path => path

/-- `child` is `parent` or a directory under it. -/
def inside (child parent : DirId) : Bool :=
  child = parent || match parent, child with
    | .snapshots base, .rollback base' _ _ => base' = base
    | .snapshots base, .snapshot base' _ _ _ => base' = base
    | .rollback base rollbackId preRestore, .snapshot base' rollbackId' preRestore' _ =>
      base' = base && rollbackId' = rollbackId && preRestore' = preRestore
    | _, _ => false

instance : Nested DirId where
  inside := inside
  inside_self d := by simp [inside]

end DirId

def pathText (path : FilePath) : String :=
  path.dir.text ++ "/" ++ path.name

end Apexd
