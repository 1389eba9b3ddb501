import Apexd.Model.Environment
import Apexd.Model.Primitives
import Apexd.Text.Tokens

/-! # Snapshots of APEX data

Device-encrypted data of the APEXes of a session is snapshot before an update and restored by
its rollback; a rollback takes a pre-restore snapshot so that it can be reverted itself.
-/

namespace Apexd

open Process Storage

def kDeSysDataDir : String := "/data/misc"

def restoreconPath (path : LabelledPath) : Procedure Unit :=
  orErrno (.call (.restorecon path) .done) ("Failed to restorecon " ++ path.text)

/-- Deletes any files at `toPath`, and then copies all files from `fromPath` into it. -/
def replaceFiles (fromPath toPath : DirId) : Procedure Unit := do
  (fsCall (.removeDir toPath)).mapError fun e =>
    "Failed to delete existing files at " ++ toPath.text ++ " : " ++ e
  let copy := (fsCall (.copyDir fromPath toPath)).mapError fun _ =>
    "Failed to copy from [" ++ fromPath.text ++ "] to [" ++ toPath.text ++ "]"
  copy.onError (fsCall (.removeDir toPath))

def snapshotDataDirectory (baseDir : String) (rollbackId : Int) (apexName : String)
    (preRestore : Bool) : Procedure Unit := do
  (createDirIfNeeded (.rollback baseDir rollbackId preRestore) 0o700).mapError fun e =>
    "Failed to create snapshot directory for rollback " ++ toString rollbackId ++ " : " ++ e
  replaceFiles (.apexData baseDir apexName) (.snapshot baseDir rollbackId preRestore apexName)

/-- The snapshot is deleted after the restoration succeeded. -/
def restoreDataDirectory (baseDir : String) (rollbackId : Int) (apexName : String)
    (preRestore : Bool) : Procedure Unit := do
  let fromPath := DirId.snapshot baseDir rollbackId preRestore apexName
  let toPath := DirId.apexData baseDir apexName
  replaceFiles fromPath toPath
  restoreconPath (.dir toPath)
  (deleteDir fromPath).ignore

def snapshotOrRestoreDeIfNeeded (env : Environment) (baseDir : String) (session : ApexSession) :
    Procedure Unit :=
  let rollbackId := session.state.rollbackId
  if session.state.rollbackEnabled then
    session.state.apexNames.forM fun apexName =>
      (snapshotDataDirectory baseDir rollbackId apexName false).ignore
  else if session.state.isRollback then
    session.state.apexNames.forM fun apexName => do
      if !env.supportsFsCheckpoints then
        -- snapshot before restore so this rollback can be reverted
        (snapshotDataDirectory baseDir rollbackId apexName true).ignore
      (restoreDataDirectory baseDir rollbackId apexName false).ignore
  else pure ()

def snapshotOrRestoreDeSysData (env : Environment) : Procedure Unit := do
  let sessions ← getSessionsInState .ACTIVATED
  sessions.forM (snapshotOrRestoreDeIfNeeded env kDeSysDataDir)

def snapshotOrRestoreDeUserData (env : Environment) : Procedure Unit := do
  let userDirs ← getDeUserDirs
  let sessions ← getSessionsInState .ACTIVATED
  sessions.forM fun session =>
    userDirs.forM fun userDir => snapshotOrRestoreDeIfNeeded env userDir session

/-- `PathExists(path).ok()`: whether the path could be looked up, not whether it exists. -/
def pathExistsOk (d : DirId) : Procedure Bool := do
  match ← (pathExists d).attempt with
  | .ok _ => pure true
  | .error _ => pure false

def restorePreRestoreSnapshotsIfPresent (baseDir : String) (session : ApexSession) :
    Procedure Unit := do
  if ← pathExistsOk (.rollback baseDir session.state.rollbackId true) then
    session.state.apexNames.forM fun apexName =>
      (restoreDataDirectory baseDir session.state.rollbackId apexName true).ignore

/-- The user directories; the list is used even when it could not be read, which ends the
process. -/
def getDeUserDirsOrDie : Procedure (List String) := do
  match ← getDeUserDirs.attempt with
  | .ok userDirs => pure userDirs
  | .error _ => fatal

def restoreDePreRestoreSnapshotsIfPresent (session : ApexSession) : Procedure Unit := do
  restorePreRestoreSnapshotsIfPresent kDeSysDataDir session
  let userDirs ← getDeUserDirsOrDie
  userDirs.forM fun userDir => restorePreRestoreSnapshotsIfPresent userDir session

def deleteDePreRestoreSnapshotsIn (baseDir : String) (session : ApexSession) : Procedure Unit :=
  (deleteDir (.rollback baseDir session.state.rollbackId true)).ignore

def deleteDePreRestoreSnapshots (session : ApexSession) : Procedure Unit := do
  deleteDePreRestoreSnapshotsIn kDeSysDataDir session
  let userDirs ← getDeUserDirsOrDie
  userDirs.forM fun userDir => deleteDePreRestoreSnapshotsIn userDir session

/-! ## Credential-encrypted data -/

def kCeDataDir : String := "/data/misc_ce"

/-- The directory of the credential-encrypted data of a user. -/
def ceDataDir (userId : Int) : String := kCeDataDir ++ "/" ++ toString userId

def snapshotCeData (userId rollbackId : Int) (apexName : String) : Procedure Unit :=
  snapshotDataDirectory (ceDataDir userId) rollbackId apexName false

def restoreCeData (userId rollbackId : Int) (apexName : String) : Procedure Unit :=
  restoreDataDirectory (ceDataDir userId) rollbackId apexName false

def destroySnapshots (baseDir : String) (rollbackId : Int) : Procedure Unit :=
  deleteDir (.rollback baseDir rollbackId false)

def destroyDeSnapshots (rollbackId : Int) : Procedure Unit := do
  (destroySnapshots kDeSysDataDir rollbackId).ignore
  let userDirs ← getDeUserDirs.mapError fun e => "Error reading user dirs " ++ e
  userDirs.forM fun userDir => (destroySnapshots userDir rollbackId).ignore

def destroyCeSnapshots (userId rollbackId : Int) : Procedure Unit :=
  deleteDir (.rollback (ceDataDir userId) rollbackId false)

/-- A rollback id as the unsigned number it is compared as. -/
def asUint (rollbackId : Int) : Int :=
  rollbackId % 4294967296

/-- Whether `DestroyCeSnapshotsNotSpecified` deletes a directory of snapshots. -/
@[irreducible] def isNotSpecified (retainRollbackIds : List Int) (snapshotDir : DirId) : Bool :=
  match Text.parseUint 4294967295 (Text.filename snapshotDir.text) with
  | none => false
  | some snapshotId => !retainRollbackIds.any fun rollbackId => asUint rollbackId = snapshotId

/-- Deletes all snapshots of a user but those of the given rollbacks; `getSubdirs` lists the
directories in a directory. -/
def destroyCeSnapshotsNotSpecified (getSubdirs : DirId → Except String (List DirId)) (userId : Int)
    (retainRollbackIds : List Int) : Procedure Unit := do
  let snapshotDirs ← (Program.ofExcept (getSubdirs (.snapshots (ceDataDir userId)))).mapError
    fun e => "Error reading snapshot dirs " ++ e
  snapshotDirs.forM fun snapshotDir =>
    if isNotSpecified retainRollbackIds snapshotDir then
      (deleteDir snapshotDir).mapError fun e =>
        "Destroy CE snapshot failed for " ++ snapshotDir.text ++ " : " ++ e
    else pure ()

end Apexd
