import Apexd.Model.Verification

/-! # Staging at boot

`StagePackages` links the packages of a session into the active directory and removes the files
they replace; `ScanStagedSessionsDirAndStage` does so for every session that waits for it and
records in the session what became of it.
-/

namespace Apexd

open Process Storage

/-- Delete the files of affected packages from the active directory, except those to keep. -/
def removePreviouslyActiveApexFiles (affectedPackages : List String)
    (filesToKeep : List FilePath) : Procedure Unit := do
  let allActiveApexFiles ← findFilesBySuffix .active [kApexPackageSuffix]
  allActiveApexFiles.forM fun path => do
    let apexFile ← ApexFile.open path
    if apexFile.manifest.name ∈ affectedPackages && !(apexFile.path ∈ filesToKeep) then
      orErrno (unlink apexFile.path) ("Failed to unlink " ++ pathText apexFile.path)

/-- Where `StagePackages` links a package. -/
def stageDestPath (apexFile : ApexFile) : FilePath where
  dir := .active
  name := getPackageId apexFile.manifest ++ kApexPackageSuffix

/-- What the loop of `StagePackages` has done so far. -/
structure Staged where
  stagedFiles : List FilePath
  changedHashtreeFiles : List FilePath
  stagedPackages : List String

def Staged.none : Staged where
  stagedFiles := []
  changedHashtreeFiles := []
  stagedPackages := []

/-- After the hash tree file of a package was promoted, if it had a new one. -/
def Staged.promoted (staged : Staged) (changed : Option FilePath) : Staged :=
  { staged with changedHashtreeFiles := staged.changedHashtreeFiles ++ changed.toList }

/-- After a package was linked. -/
def Staged.linked (staged : Staged) (apexFile : ApexFile) : Staged :=
  { staged with
    stagedFiles := staged.stagedFiles.insert (stageDestPath apexFile)
    stagedPackages := staged.stagedPackages.insert apexFile.manifest.name }

/-- The scope guard of `StagePackages`. -/
def Staged.deleter (staged : Staged) : Procedure Unit := do
  staged.stagedFiles.forM fun path => (unlink path).ignore
  staged.changedHashtreeFiles.forM fun path => (unlink path).ignore

/-- Promote a new hash tree file to the one that will be used when mounting the APEX. -/
def promoteHashtree (apexFile : ApexFile) : Procedure (Option FilePath) := do
  let newHashtreeFile := getHashTreeFileName apexFile true
  let oldHashtreeFile := getHashTreeFileName apexFile false
  if ← accessible newHashtreeFile then
    orErrno (rename newHashtreeFile oldHashtreeFile)
      ("Failed to move " ++ pathText newHashtreeFile ++ " to " ++ pathText oldHashtreeFile)
    pure (some oldHashtreeFile)
  else pure Option.none

/-- Link a package into the active directory, over what is there. -/
def linkPackage (apexFile : ApexFile) : Procedure Unit := do
  let destPath := stageDestPath apexFile
  if ← accessible destPath then
    orErrno (unlink destPath) ("Failed to unlink " ++ pathText destPath)
  orErrno (link apexFile.path destPath)
    ("Unable to link " ++ pathText apexFile.path ++ " to " ++ pathText destPath)

/-- The loop of `StagePackages`; wherever it fails, the scope guard runs on what was staged. -/
def stageLoop : List ApexFile → Staged → Procedure Staged
  | [], staged => pure staged
  | apexFile :: rest, staged => do
    let changed ← (promoteHashtree apexFile).onError staged.deleter
    (linkPackage apexFile).onError (staged.promoted changed).deleter
    stageLoop rest ((staged.promoted changed).linked apexFile)

/-- The shim is validated on every boot, every other package before it is staged. -/
def verifyBeforeStaging (env : Environment) (apexFile : ApexFile) : Procedure Unit :=
  if isShimApex apexFile then pure () else verifyPackageBoot env apexFile

def stagePackages (env : Environment) (tmpPaths : List FilePath) : Procedure Unit := do
  -- 1) verify all packages
  let apexFiles ← openApexFiles tmpPaths
  apexFiles.forM (verifyBeforeStaging env)
  createDirIfNeeded .active 0o755
  -- 2) now stage all of them
  let staged ← stageLoop apexFiles .none
  removePreviouslyActiveApexFiles staged.stagedPackages staged.stagedFiles

/-! ## Sessions at boot -/

/-- The directories with the packages of a session. -/
def stagingDirs (session : ApexSession) : List Int :=
  if session.state.childSessionIds = [] then [session.state.id]
  else session.state.childSessionIds

/-- The one package in a staging directory. -/
def scanStagingDir (session : ApexSession) (stagingId : Int) : Procedure FilePath := do
  let dirToScan := DirId.staged stagingId
  match ← findFilesBySuffix dirToScan [kApexPackageSuffix] with
  | [] => .throw ("No APEX packages found while scanning " ++ dirToScan.text ++
      " session id: " ++ toString session.state.id ++ ".")
  | [apex] => pure apex
  | _ => .throw ("More than one APEX package found in the same session directory " ++
      dirToScan.text ++ " , skipping activation")

/-- The names of the packages that can be opened. -/
def openedNames : List FilePath → Procedure (List String)
  | [] => pure []
  | path :: rest => do
    let opened ← (ApexFile.open path).attempt
    let names ← openedNames rest
    match opened with
    | .ok apexFile => pure (apexFile.manifest.name :: names)
    | .error _ => pure names

def joinPaths (paths : List FilePath) : String :=
  ",".intercalate (paths.map pathText)

/-- Stage the packages of a session; an error is the message that the session keeps. -/
def stageSession (env : Environment) (session : ApexSession) : Procedure (List String) := do
  if session.state.expectedBuildFingerprint ≠ env.buildFingerprint then
    .throw "APEX build fingerprint has changed"
  else if env.supportsFsCheckpoints && !env.inFsCheckpointMode then
    -- otherwise /data could not be reverted on error
    .throw "Cannot install apex session if not in fs-checkpoint mode"
  else
    let apexes ← .collect (scanStagingDir session) (stagingDirs session)
    let stagedApexNames ← openedNames apexes
    (stagePackages env apexes).mapError fun e =>
      "Activation failed for packages " ++ joinPaths apexes ++ " : " ++ e
    pure stagedApexNames

/-- One round of the loop of `ScanStagedSessionsDirAndStage`. -/
def activateSession (env : Environment) (session : ApexSession) : Procedure Unit := do
  match ← (stageSession env session).attempt with
  | .error errorMessage =>
    ((session.setErrorMessage errorMessage).updateStateAndCommit .ACTIVATION_FAILED).ignore
  | .ok stagedApexNames =>
    stagedApexNames.forM markChanged
    (session.updateStateAndCommit .ACTIVATED).ignore

/-- The sessions to activate: with checkpoints also those activated before, whose packages may
have been rolled back with the active directory. -/
def sessionsToActivate (env : Environment) : Procedure (List ApexSession) := do
  let staged ← getSessionsInState .STAGED
  if env.supportsFsCheckpoints then
    let activated ← getSessionsInState .ACTIVATED
    pure (staged ++ activated)
  else pure staged

def scanStagedSessionsDirAndStage (env : Environment) : Procedure Unit := do
  let sessions ← sessionsToActivate env
  sessions.forM (activateSession env)

end Apexd
