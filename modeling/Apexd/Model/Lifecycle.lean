import Apexd.Model.Backup
import Apexd.Model.Snapshots
import Apexd.Model.Staging

/-! # The life of a staged session

The entry points that PackageInstaller, the boot sequence and the rollback machinery call:
submit, mark ready, activate at boot, mark successful, abort, revert and clean up.
-/

namespace Apexd

open Process Storage

/-- The directories that `SubmitStagedSession` scans. -/
def idsToScan (sessionId : Int) (childSessionIds : List Int) : List Int :=
  if childSessionIds = [] then [sessionId] else childSessionIds

/-- The state of a submitted session before its first commit. -/
def submittedSession (env : Environment) (session : ApexSession) (childSessionIds : List Int)
    (hasRollbackEnabled isRollback : Bool) (rollbackId : Int) (apexFiles : List ApexFile) :
    ApexSession :=
  { session with state := { session.state with
    childSessionIds := childSessionIds
    expectedBuildFingerprint := env.buildFingerprint
    rollbackEnabled := hasRollbackEnabled
    isRollback := isRollback
    rollbackId := rollbackId
    apexNames := session.state.apexNames ++ apexFiles.map fun apex => apex.manifest.name } }

/-- Verify the packages of the directories one after another; wherever it fails, those verified
before are unmounted. -/
def verifySessionDirs (env : Environment) : List Int → List ApexFile → Procedure (List ApexFile)
  | [], verified => pure verified
  | idToScan :: rest, verified => do
    let apex ← (verifySessionDir env idToScan).onError (verified.forM unmountTempMount)
    verifySessionDirs env rest (verified ++ [apex])

/-- Create the session of verified packages and commit it for the first time. -/
def createVerifiedSession (env : Environment) (sessionId : Int) (childSessionIds : List Int)
    (hasRollbackEnabled isRollback : Bool) (rollbackId : Int) (ret : List ApexFile) :
    Procedure Unit :=
  if hasRollbackEnabled && isRollback then
    .throw ("Cannot set session " ++ toString sessionId ++
      " as both a rollback and enabled for rollback.")
  else do
    let session ← createSession sessionId
    (submittedSession env session childSessionIds hasRollbackEnabled isRollback rollbackId
      ret).updateStateAndCommit .VERIFIED

def submitStagedSession (env : Environment) (sessionId : Int) (childSessionIds : List Int)
    (hasRollbackEnabled isRollback : Bool) (rollbackId : Int) : Procedure (List ApexFile) := do
  if sessionId = 0 then
    .throw "Session id was not provided."
  else
    if !env.supportsFsCheckpoints then
      backupActivePackages
    let ret ← verifySessionDirs env (idsToScan sessionId childSessionIds) []
    (createVerifiedSession env sessionId childSessionIds hasRollbackEnabled isRollback rollbackId
      ret).onError (ret.forM unmountTempMount)
    ret.forM unmountTempMount
    pure ret

def markStagedSessionReady (sessionId : Int) : Procedure Unit := do
  let session ← getSession sessionId
  match session.state.state with
  | .STAGED => pure ()
  | .VERIFIED => session.updateStateAndCommit .STAGED
  | _ => .throw ("Invalid state for session " ++ toString sessionId ++
      ". Cannot mark it as ready.")

def markStagedSessionSuccessful (env : Environment) (sessionId : Int) : Procedure Unit := do
  let session ← getSession sessionId
  match session.state.state with
  | .SUCCESS => pure ()
  | .ACTIVATED =>
    deleteBackup.mapError fun e =>
      "Failed to mark session " ++ session.text ++ " as successful : " ++ e
    if session.state.isRollback && !env.supportsFsCheckpoints then
      deleteDePreRestoreSnapshots session
    session.updateStateAndCommit .SUCCESS
  | _ => .throw ("Session " ++ session.text ++ " can not be marked successful")

def abortStagedSession (sessionId : Int) : Procedure Unit := do
  let session ← (getSession sessionId).mapError fun _ =>
    "No session found with id " ++ toString sessionId
  match session.state.state with
  | .VERIFIED | .STAGED => session.deleteSession
  | _ => .throw ("Session " ++ session.text ++ " can't be aborted")

/-! ## Revert -/

/-- Whether a revert takes up the session. -/
def isActive (session : ApexSession) : Bool :=
  !(session.isFinalized || session.state.state = .UNKNOWN)

/-- The session with what is known about the failure. -/
def withFailure (crashingNativeProcess errorMessage : String) (session : ApexSession) :
    ApexSession :=
  let session := if crashingNativeProcess ≠ "" then
    { session with state := { session.state with crashingNativeProcess := crashingNativeProcess } }
    else session
  if errorMessage ≠ "" then session.setErrorMessage errorMessage else session

def markRevertInProgress (session : ApexSession) : Procedure Unit :=
  (session.updateStateAndCommit .REVERT_IN_PROGRESS).mapError fun e =>
    "Revert of session " ++ (session.withState .REVERT_IN_PROGRESS).text ++ " failed : " ++ e

def markReverted (env : Environment) (session : ApexSession) : Procedure Unit := do
  if !env.supportsFsCheckpoints && session.state.isRollback then
    -- if snapshots have already been restored, undo that
    restoreDePreRestoreSnapshotsIfPresent session
  (session.updateStateAndCommit .REVERTED).ignore

def revertActiveSessions (env : Environment) (crashingNativeProcess errorMessage : String) :
    Procedure Unit := do
  let sessions ← getSessions
  let activeSessions := (sessions.filter isActive).map
    (withFailure crashingNativeProcess errorMessage)
  if activeSessions = [] then
    .throw "Revert requested, when there are no active sessions."
  else
    activeSessions.forM markRevertInProgress
    if !env.supportsFsCheckpoints then
      match ← restoreActivePackages.attempt with
      | .ok () => pure ()
      | .error e =>
        activeSessions.forM fun session => (session.updateStateAndCommit .REVERT_FAILED).ignore
        .throw e
    activeSessions.forM (markReverted env)

def resumeRevertIfNeeded (env : Environment) : Procedure Unit := do
  let sessions ← getSessionsInState .REVERT_IN_PROGRESS
  if sessions = [] then pure () else revertActiveSessions env "" ""

/-! ## After boot -/

/-- `IsMounted` -/
def isMounted (fullPath : FilePath) : Procedure Bool := do
  let mounts ← databaseCall (.forallMountedApexes false)
  pure (mounts.any fun (_, data, _) => pathText fullPath = pathText data.fullPath)

def filesOrNone (files : Procedure (List FilePath)) : Procedure (List FilePath) := do
  match ← files.attempt with
  | .ok found => pure found
  | .error _ => pure []

/-- Removes APEXes on /data that have not been activated. -/
def removeInactiveDataApex : Procedure Unit := do
  let activeApex ← filesOrNone (findFilesBySuffix .active [kApexPackageSuffix])
  let decompressedApex ← filesOrNone (findFilesBySuffix .decompression [".decompressed.apex"])
  (activeApex ++ decompressedApex).forM fun path => do
    if !(← isMounted path) then
      (unlink path).ignore

def isApexDevice (env : Environment) (devName : String) : Bool :=
  env.repository.preInstalledStore.toList.any fun apex =>
    Text.startsWith devName apex.manifest.name

def deleteUnusedVerityDevices (env : Environment) : Procedure Unit := do
  match ← (kernelCall .listDevices).attempt with
  | .error _ => pure ()
  | .ok allDevices =>
    allDevices.forM fun dev => do
      if (← kernelCall (.isSuspended dev)) && isApexDevice env dev then
        (kernelCall (.deleteVerityDevice dev false)).ignore

def deleteFinalizedSessions : Procedure Unit := do
  let sessions ← getSessions
  sessions.forM fun session =>
    if session.isFinalized then session.deleteSession.ignore else pure ()

def bootCompletedCleanup (env : Environment) : Procedure Unit := do
  removeInactiveDataApex
  deleteFinalizedSessions
  deleteUnusedVerityDevices env

/-! ## Entry points -/

inductive EntryPoint where
  | submitStagedSession (env : Environment) (sessionId : Int) (childSessionIds : List Int)
      (hasRollbackEnabled isRollback : Bool) (rollbackId : Int)
  | markStagedSessionReady (sessionId : Int)
  | abortStagedSession (sessionId : Int)
  | scanStagedSessionsDirAndStage (env : Environment)
  | markStagedSessionSuccessful (env : Environment) (sessionId : Int)
  | revertActiveSessions (env : Environment) (crashingNativeProcess errorMessage : String)
  | resumeRevertIfNeeded (env : Environment)
  | bootCompletedCleanup (env : Environment)

def EntryPoint.program : EntryPoint → Procedure Unit
  | submitStagedSession env sessionId childSessionIds hasRollbackEnabled isRollback rollbackId => do
    let _ ← Apexd.submitStagedSession env sessionId childSessionIds hasRollbackEnabled isRollback
      rollbackId
  | markStagedSessionReady sessionId => Apexd.markStagedSessionReady sessionId
  | abortStagedSession sessionId => Apexd.abortStagedSession sessionId
  | scanStagedSessionsDirAndStage env => Apexd.scanStagedSessionsDirAndStage env
  | markStagedSessionSuccessful env sessionId => Apexd.markStagedSessionSuccessful env sessionId
  | revertActiveSessions env crashingNativeProcess errorMessage =>
    Apexd.revertActiveSessions env crashingNativeProcess errorMessage
  | resumeRevertIfNeeded env => Apexd.resumeRevertIfNeeded env
  | bootCompletedCleanup env => Apexd.bootCompletedCleanup env

end Apexd
