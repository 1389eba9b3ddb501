import Apexd.Storage.FileSystem

/-! # Staged sessions

Every session has a directory named after its id, and in it a file with its state.  The store
maps the names of these directories to what the state file holds.
-/

namespace Apexd

open Storage

/-- The enumeration `SessionState.State` of `session_state.proto`. -/
inductive SessionState.State where
  | UNKNOWN
  | VERIFIED
  | STAGED
  | ACTIVATED
  | ACTIVATION_FAILED
  | SUCCESS
  | REVERT_IN_PROGRESS
  | REVERTED
  | REVERT_FAILED
  deriving DecidableEq

/-- The message `SessionState` of `session_state.proto`. -/
structure SessionState where
  id : Int
  state : SessionState.State
  childSessionIds : List Int
  expectedBuildFingerprint : String
  rollbackEnabled : Bool
  isRollback : Bool
  rollbackId : Int
  crashingNativeProcess : String
  apexNames : List String
  errorMessage : String
  deriving DecidableEq

/-- `SessionState::State_Name` -/
def SessionState.State.name : SessionState.State → String
  | .UNKNOWN => "UNKNOWN"
  | .VERIFIED => "VERIFIED"
  | .STAGED => "STAGED"
  | .ACTIVATED => "ACTIVATED"
  | .ACTIVATION_FAILED => "ACTIVATION_FAILED"
  | .SUCCESS => "SUCCESS"
  | .REVERT_IN_PROGRESS => "REVERT_IN_PROGRESS"
  | .REVERTED => "REVERTED"
  | .REVERT_FAILED => "REVERT_FAILED"

/-- `ApexSession::IsFinalized`, which depends on the state only. -/
def SessionState.State.isFinalized : SessionState.State → Bool
  | .SUCCESS | .ACTIVATION_FAILED | .REVERTED | .REVERT_FAILED => true
  | _ => false

/-- A message with default values, as `CreateSession` starts from. -/
def SessionState.initial (id : Int) : SessionState where
  id := id
  state := .UNKNOWN
  childSessionIds := []
  expectedBuildFingerprint := ""
  rollbackEnabled := false
  isRollback := false
  rollbackId := 0
  crashingNativeProcess := ""
  apexNames := []
  errorMessage := ""

/-- The class `ApexSession`: a state in memory and the session's directory. -/
structure ApexSession where
  state : SessionState
  sessionDir : String
  deriving DecidableEq

def ApexSession.isFinalized (session : ApexSession) : Bool :=
  session.state.state.isFinalized

def ApexSession.withState (session : ApexSession) (state : SessionState.State) : ApexSession :=
  { session with state := { session.state with state := state } }

/-- `/metadata/apex/sessions`, where apexd keeps its sessions. -/
def kNewApexSessionsDir : String := "/metadata/apex/sessions"

def sessionDirText (sessionDir : String) : String :=
  kNewApexSessionsDir ++ "/" ++ sessionDir

/-- How a session is printed in messages. -/
def ApexSession.text (session : ApexSession) : String :=
  "[id = " ++ toString session.state.id ++ "; state = " ++ session.state.state.name ++
    "; session_dir = " ++ sessionDirText session.sessionDir ++ "]"

/-! ## The store -/

/-- What a session directory holds: no state file, one that does not parse, or a state. -/
inductive StateFile where
  | missing
  | corrupt
  | state (state : SessionState)
  deriving DecidableEq

/-- The session directories by name. -/
abbrev SessionStore := Directory StateFile

/-- The store that holds the given sessions. -/
def storeOf (sessions : List SessionState) : SessionStore :=
  (sessions.map fun state => ⟨toString state.id, .state state⟩).toFinmap

namespace SessionStore

/-- The persisted state of the session in a directory. -/
def stateOf (store : SessionStore) (sessionDir : String) : Option SessionState :=
  match store.lookup sessionDir with
  | some (.state state) => some state
  | _ => none

/-- The sessions that can be read, in some order of the directories. -/
def sessionsIn (store : SessionStore) (listing : List String) : List ApexSession :=
  listing.filterMap fun sessionDir =>
    (store.stateOf sessionDir).map fun state => ⟨state, sessionDir⟩

theorem mem_sessionsIn {store : SessionStore} {listing : List String} {session : ApexSession} :
    session ∈ store.sessionsIn listing ↔
      session.sessionDir ∈ listing ∧ store.stateOf session.sessionDir = some session.state := by
  obtain ⟨state, sessionDir⟩ := session
  simp only [sessionsIn, List.mem_filterMap, Option.map_eq_some_iff, ApexSession.mk.injEq]
  constructor
  · rintro ⟨name, member, found, holds, rfl, rfl⟩
    exact ⟨member, holds⟩
  · rintro ⟨member, holds⟩
    exact ⟨sessionDir, member, state, holds, rfl, rfl⟩

end SessionStore

/-- The calls on the session store. -/
inductive SessionCall where
  /-- walk the base directory and parse every state file -/
  | list
  | read (sessionDir : String)
  | createDir (sessionDir : String)
  /-- write the state file; taken as atomic -/
  | commit (sessionDir : String) (state : SessionState)
  | delete (sessionDir : String)
  deriving DecidableEq

namespace SessionCall

@[reducible] def Reply : SessionCall → Type
  | .list => List ApexSession
  | .read _ => SessionState
  | _ => Unit

/-- What a call does; the sessions are listed in the order of their directories. -/
def effect : (request : SessionCall) → SessionStore →
    Except String request.Reply × SessionStore
  | .list, store => (.ok (store.sessionsIn (Directory.names store)), store)
  | .read sessionDir, store => match store.lookup sessionDir with
    | some (.state state) => (.ok state, store)
    | some .corrupt => (.error "Failed to parse ", store)
    | _ => (.error "Failed to open ", store)
  | .createDir sessionDir, store =>
    if (store.lookup sessionDir).isSome then (.ok (), store)
    else (.ok (), store.insert sessionDir .missing)
  | .commit sessionDir state, store =>
    if (store.lookup sessionDir).isSome then (.ok (), store.insert sessionDir (.state state))
    else (.error FsCall.noSuchFile, store)
  | .delete sessionDir, store => (.ok (), store.erase sessionDir)

/-- The answers that may be given: those of `effect`, in any order of the listing. -/
def Answers : (request : SessionCall) → SessionStore → Except String request.Reply →
    SessionStore → Prop
  | .list, store, reply, store' => store' = store ∧
    ∃ listing, Directory.IsListing store listing ∧ reply = .ok (store.sessionsIn listing)
  | request, store, reply, store' => (reply, store') = effect request store

theorem answers_effect (request : SessionCall) (store : SessionStore) :
    request.Answers store (request.effect store).1 (request.effect store).2 := by
  cases request with
  | list => exact ⟨rfl, _, List.Perm.refl _, rfl⟩
  | _ => rfl

end SessionCall

end Apexd
