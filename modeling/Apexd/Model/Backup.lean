import Apexd.Model.Primitives

/-! # Backup of the active packages

A device without file system checkpoints keeps one backup of the active directory, which is
renamed over it when the active sessions are reverted.
-/

namespace Apexd

open Process Storage

def deleteBackup : Procedure Unit := do
  let exists' ← (pathExists .backup).mapError fun e =>
    "Can't clean " ++ DirId.backup.text ++ " : " ++ e
  if exists' then deleteDirContent .backup

/-- Where the backup keeps a package. -/
def backupPath (apexFile : ApexFile) : FilePath where
  dir := .backup
  name := getPackageId apexFile.manifest ++ kApexPackageSuffix

def backupFailed {α : Type} (p : Procedure α) : Procedure α :=
  p.mapError fun e => "Backup failed : " ++ e

def backupPackage (path : FilePath) : Procedure Unit := do
  let apexFile ← backupFailed (ApexFile.open path)
  orErrno (link apexFile.path (backupPath apexFile))
    ("Failed to backup " ++ pathText apexFile.path)

def backupActivePackages : Procedure Unit := do
  -- a previous restore might have deleted the backup directory
  backupFailed (createDirIfNeeded .backup 0o700)
  let apexActiveExists ← backupFailed (pathExists .active)
  if apexActiveExists then
    let activePackages ← backupFailed (findFilesBySuffix .active [kApexPackageSuffix])
    backupFailed deleteBackup
    (activePackages.forM backupPackage).onError (deleteDirContent .backup)

def restoreActivePackages : Procedure Unit := do
  let backupExists ← pathExists .backup
  if !backupExists then
    .throw (DirId.backup.text ++ " does not exist")
  else
    match ← orErrno (stat .active) ("Failed to access " ++ DirId.active.text) with
    | none => .throw ("Failed to access " ++ DirId.active.text ++ ": " ++ FsCall.noSuchFile)
    | some mode =>
      deleteDirContent .active
      orErrno (renameDir .backup .active)
        ("Failed to rename " ++ DirId.backup.text ++ " to " ++ DirId.active.text)
      orErrno (chmod .active mode)
        ("Failed to restore original permissions for " ++ DirId.active.text)

end Apexd
