import Apexd.Model.Primitives

/-! # The bytes of the state files

`SessionCall.commit` writes a state file in one step.  Here is what `UpdateStateAndCommit` does to
the bytes of the file: it is truncated when it is opened, and the serialized message is written to
it from its first byte to its last.
-/

namespace Apexd

open Process Storage

/-- The message library: `SerializeToOstream` and `ParseFromIstream`. -/
structure MessageFormat where
  serialize : SessionState → List UInt8
  parse : List UInt8 → Option SessionState

/-- The session directories by name, each with the bytes of its state file if there is one. -/
abbrev SessionFiles := Directory (Option (List UInt8))

/-- `ParseSessionState` -/
def parseSessionState (format : MessageFormat) : Option (List UInt8) → StateFile
  | none => .missing
  | some bytes => match format.parse bytes with
    | none => .corrupt
    | some state => .state state

/-- What the readers of the store make of the bytes. -/
def SessionFiles.decode (files : SessionFiles) (format : MessageFormat) : SessionStore :=
  ((Directory.names files).map fun sessionDir =>
    ⟨sessionDir, parseSessionState format (files.lookup sessionDir).join⟩).toFinmap

/-- The calls on a state file that is written. -/
inductive StateFileCall where
  /-- open with `std::ios::trunc` -/
  | openTruncated (sessionDir : String)
  | writeByte (sessionDir : String) (byte : UInt8)

@[reducible] def stateFiles : Interface where
  Call := StateFileCall
  Reply _ := Unit

namespace StateFileCall

def effect : StateFileCall → SessionFiles → Except String Unit × SessionFiles
  | .openTruncated sessionDir, files =>
    if (files.lookup sessionDir).isSome then (.ok (), files.insert sessionDir (some []))
    else (.error FsCall.noSuchFile, files)
  | .writeByte sessionDir byte, files => match files.lookup sessionDir with
    | some (some bytes) => (.ok (), files.insert sessionDir (some (bytes ++ [byte])))
    | _ => (.error FsCall.noSuchFile, files)

/-- The calls as a disk performs them. -/
def disk : Semantics stateFiles String SessionFiles :=
  fun request files reply files' => (reply, files') = effect request files

end StateFileCall

def stateFileCall (request : StateFileCall) : Program stateFiles String Unit :=
  .perform request

def writeBytes (sessionDir : String) : List UInt8 → Program stateFiles String Unit
  | [] => pure ()
  | byte :: rest => do
    stateFileCall (.writeByte sessionDir byte)
    writeBytes sessionDir rest

/-- `ApexSession::UpdateStateAndCommit`, byte by byte. -/
def ApexSession.updateStateFile (session : ApexSession) (format : MessageFormat)
    (sessionState : SessionState.State) : Program stateFiles String Unit :=
  Program.mapError (fun _ =>
      "Failed to write state file " ++ sessionDirText session.sessionDir ++ "/state") do
    stateFileCall (.openTruncated session.sessionDir)
    writeBytes session.sessionDir (format.serialize (session.withState sessionState).state)

end Apexd
