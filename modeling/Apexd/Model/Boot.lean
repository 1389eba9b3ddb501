import Apexd.Model.Decompression
import Apexd.Model.Queries

/-! # The start of apexd

`OnStart`: the sessions are staged, the data APEXes are collected, an interrupted revert is
resumed, and what is selected from the collected files is activated.  When that fails for some,
the sessions are reverted or the pre-installed versions take their place.
-/

namespace Apexd

open Process Storage

/-- A directory of `CreateSharedLibsApexDir`. -/
def createSharedLibsDir (path : String) : Procedure Unit := do
  let dirExists ← (pathExists (.other path)).attempt
  match dirExists with
  | .ok true => pure ()
  | _ => (mkdir (.other path) 0o777).mapError fun e =>
    "Failed to create directory " ++ path ++ ": " ++ e

def createSharedLibsApexDir : Procedure Unit := do
  let sharedLibsSubDir := kApexRoot ++ "/" ++ kApexSharedLibsSubDir
  createSharedLibsDir sharedLibsSubDir
  ["lib", "lib64"].forM fun libPath => createSharedLibsDir (sharedLibsSubDir ++ "/" ++ libPath)

/-- A revert that vold asks for, the directories of shared libraries and the staged sessions. -/
def onStartStaging (env : BootEnvironment) : Procedure Unit := do
  if env.supportsFsCheckpoints then
    match env.needsRollback with
    | .ok true => (revertActiveSessions env.toEnvironment "" "").ignore
    | _ => pure ()
  createSharedLibsApexDir.ignore
  (scanStagedSessionsDirAndStage env.toEnvironment).ignore

/-- The repository with the data APEXes, as far as they could be collected. -/
def collectDataApex (env : BootEnvironment) : Procedure ApexFileRepository := do
  match ← (env.repository.addDataApex .active).attempt with
  | .ok repository => pure repository
  | .error _ => pure env.repository

def onStartSelection (env : BootEnvironment) : Procedure (List ApexFileRef) := do
  let repository ← collectDataApex env
  (resumeRevertIfNeeded env.toEnvironment).ignore
  pure (selectApexForActivation (env.iteration repository) repository)

/-- `OnStart` up to the selection. -/
def onStartUntilSelection (env : BootEnvironment) : Procedure (List ApexFileRef) := do
  onStartStaging env
  onStartSelection env

end Apexd
