import Apexd.Model.World

/-! # Calls as procedures

The helpers of `apexd_utils.h` and `ApexSession` on top of the calls of the device, with the
texts of their errors.
-/

namespace Apexd

open Process Storage

/-! ## The file system -/

def fsCall (request : FsCall DirId) : Procedure (request.Reply Content) :=
  .call (.fs request) .done

/-- `ErrnoError() << text`: the text followed by that of the error. -/
def orErrno {α : Type} (p : Procedure α) (text : String) : Procedure α :=
  p.mapError fun e => text ++ ": " ++ e

def stat (d : DirId) : Procedure (Option Nat) := fsCall (.stat d)
def mkdir (d : DirId) (mode : Nat) : Procedure Unit := fsCall (.mkdir d mode)
def chmod (d : DirId) (mode : Nat) : Procedure Unit := fsCall (.chmod d mode)
def readDir (d : DirId) : Procedure (List String) := fsCall (.readDir d)
def readFile (path : FilePath) : Procedure Content := fsCall (.read path)
def unlink (path : FilePath) : Procedure Unit := fsCall (.unlink path)
def link (source target : FilePath) : Procedure Unit := fsCall (.link source target)
def rename (source target : FilePath) : Procedure Unit := fsCall (.rename source target)
def renameDir (source target : DirId) : Procedure Unit := fsCall (.renameDir source target)

/-- `access(path, F_OK) == 0` -/
def accessible (path : FilePath) : Procedure Bool := do
  match ← (fsCall (.access path)).attempt with
  | .ok found => pure found
  | .error _ => pure false

/-- `PathExists` on a directory -/
def pathExists (d : DirId) : Procedure Bool := do
  let found ← (stat d).mapError fun e => "Failed to access " ++ d.text ++ " : " ++ e
  pure found.isSome

def createDirIfNeeded (d : DirId) (mode : Nat) : Procedure Unit := do
  match ← orErrno (stat d) ("Could not stat " ++ d.text) with
  | none => orErrno (mkdir d mode) ("Could not mkdir " ++ d.text)
  | some _ => pure ()
  orErrno (chmod d mode) ("Could not chmod " ++ d.text)

def deleteDirContent (d : DirId) : Procedure Unit := do
  let files ← (readDir d).mapError fun e =>
    "Failed to delete " ++ d.text ++ " : Can't open " ++ d.text ++ " for reading : " ++ e
  files.forM fun name =>
    (fsCall (.removeFile ⟨d, name⟩)).mapError fun e =>
      "Failed to delete path " ++ pathText ⟨d, name⟩ ++ " : " ++ e

def deleteDir (d : DirId) : Procedure Unit :=
  (fsCall (.removeDir d)).mapError fun e => "Failed to delete path " ++ d.text ++ " : " ++ e

def findFilesBySuffix (d : DirId) (suffixList : List String) : Procedure (List FilePath) := do
  let names ← (readDir d).mapError fun e => "Can't open " ++ d.text ++ " for reading : " ++ e
  pure ((names.filter fun name => suffixList.any (Text.endsWith name)).map (⟨d, ·⟩))

/-- `ApexFile::Open` -/
def ApexFile.open (path : FilePath) : Procedure ApexFile := do
  let content ← orErrno (readFile path) ("Failed to open package " ++ pathText path ++ ": I/O error")
  .ofExcept (ApexFile.openContent path content)

/-- Converts a list of paths into a list of `ApexFile` objects. -/
def openApexFiles (paths : List FilePath) : Procedure (List ApexFile) :=
  if paths = [] then .throw "Empty set of inputs" else .collect ApexFile.open paths

/-! ## Sessions -/

def sessionCall (request : SessionCall) : Procedure request.Reply :=
  .call (.session request) .done

/-- `ApexSessionManager::CreateSession` -/
def createSession (sessionId : Int) : Procedure ApexSession := do
  let sessionDir := toString sessionId
  orErrno (sessionCall (.createDir sessionDir)) ("Could not mkdir " ++ sessionDirText sessionDir)
  pure ⟨.initial sessionId, sessionDir⟩

/-- `ApexSessionManager::GetSession` -/
def getSession (sessionId : Int) : Procedure ApexSession := do
  let sessionDir := toString sessionId
  let state ← (sessionCall (.read sessionDir)).mapError fun e =>
    e ++ sessionDirText sessionDir ++ "/state"
  pure ⟨state, sessionDir⟩

/-- `ApexSessionManager::GetSessions`; a failure is logged and leaves no session. -/
def getSessions : Procedure (List ApexSession) := do
  match ← (sessionCall .list).attempt with
  | .ok sessions => pure sessions
  | .error _ => pure []

def getSessionsInState (state : SessionState.State) : Procedure (List ApexSession) := do
  let sessions ← getSessions
  pure (sessions.filter fun session => session.state.state = state)

/-- `ApexSession::UpdateStateAndCommit`: the session as it is in memory, with the new state. -/
def ApexSession.updateStateAndCommit (session : ApexSession) (sessionState : SessionState.State) :
    Procedure Unit :=
  (sessionCall (.commit session.sessionDir (session.withState sessionState).state)).mapError
    fun _ => "Failed to write state file " ++ sessionDirText session.sessionDir ++ "/state"

def ApexSession.deleteSession (session : ApexSession) : Procedure Unit :=
  (sessionCall (.delete session.sessionDir)).mapError fun e =>
    "Failed to delete " ++ sessionDirText session.sessionDir ++ " : " ++ e

def ApexSession.setErrorMessage (session : ApexSession) (errorMessage : String) : ApexSession :=
  { session with state := { session.state with errorMessage := errorMessage } }

def outsideCall (request : OutsideCall) : Procedure request.Reply :=
  .call (.outside request) .done

def getDeUserDirs : Procedure (List String) :=
  .call .getDeUserDirs .done

/-- `gChangedActiveApexes.insert` -/
def markChanged (package : String) : Procedure Unit :=
  .call (.markChanged package) .done

/-- A CHECK that fails or LOG(FATAL). -/
def fatal {α : Type} : Procedure α :=
  .call .fatal fun
    | .ok impossible => Empty.elim impossible
    | .error e => .throw e

end Apexd
