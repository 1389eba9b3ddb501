import Apexd.Model.SessionFiles
import Apexd.Process.Execution
import Apexd.Process.Termination
import Apexd.Storage.FileTree
import Apexd.Verified.Sessions

/-! # Crashes while a state is committed

The state file is written in place: between the moment it is truncated and the moment its last
byte is written, the readers of the store see what the bytes so far parse to.
-/

namespace Apexd

open Process Storage

variable {format : MessageFormat} {files files' : SessionFiles} {sessionDir : String}

/-! ## Decoding -/

theorem SessionFiles.lookup_decode (files : SessionFiles) (format : MessageFormat)
    (sessionDir : String) : (files.decode format).lookup sessionDir =
      (files.lookup sessionDir).map (parseSessionState format) := by
  let entry (name : String) : Sigma fun _ : String => StateFile :=
    ⟨name, parseSessionState format (files.lookup name).join⟩
  have distinct : ((Directory.names files).map entry).NodupKeys := by
    rw [List.NodupKeys, List.keys, List.map_map]
    exact (List.map_id (Directory.names files)).symm ▸ Directory.nodup_names files
  rw [SessionFiles.decode, Finmap.dlookup_list_toFinmap]
  cases found : files.lookup sessionDir with
  | none =>
    refine List.dlookup_eq_none.mpr ?_
    rw [List.keys, List.map_map]
    intro member
    obtain ⟨name, inside, rfl⟩ := List.mem_map.mp member
    rw [Directory.mem_names, ← Finmap.lookup_isSome] at inside
    rw [show files.lookup name = none from found] at inside
    cases inside
  | some file =>
    refine (List.mem_dlookup_iff distinct).mpr (List.mem_map.mpr ⟨sessionDir, ?_, ?_⟩)
    · rw [Directory.mem_names, ← Finmap.lookup_isSome, found]
      rfl
    · simp [entry, found]

theorem SessionFiles.decode_insert (file : Option (List UInt8)) :
    SessionFiles.decode (files.insert sessionDir file) format =
      (files.decode format).insert sessionDir (parseSessionState format file) := by
  refine Finmap.ext_lookup fun name => ?_
  rw [SessionFiles.lookup_decode]
  by_cases here : name = sessionDir
  · rw [here, Finmap.lookup_insert, Finmap.lookup_insert]
    rfl
  · rw [Finmap.lookup_insert_of_ne _ here, Finmap.lookup_insert_of_ne _ here,
      SessionFiles.lookup_decode]

/-! ## The states of the file -/

theorem reaches_writeBytes {bytes before : List UInt8}
    (found : files.lookup sessionDir = some (some before)) :
    Reaches StateFileCall.disk (writeBytes sessionDir bytes) files files' ↔
      ∃ written, written <+: bytes ∧
        files' = files.insert sessionDir (some (before ++ written)) := by
  induction bytes generalizing files before with
  | nil =>
    simp only [writeBytes, Program.pure_eq, reaches_done, List.prefix_nil, exists_eq_left,
      List.append_nil, insert_same found]
  | cons byte rest ih =>
    have next := ih (Finmap.lookup_insert files (a := sessionDir) (b := some (before ++ [byte])))
    simp only [Finmap.insert_insert, List.append_assoc, List.singleton_append] at next
    have effect : StateFileCall.effect (.writeByte sessionDir byte) files =
        (.ok (), files.insert sessionDir (some (before ++ [byte]))) := by
      simp only [StateFileCall.effect, found]
    rw [writeBytes, stateFileCall, Program.perform, Program.call_bind, reaches_call]
    constructor
    · rintro (rfl | ⟨reply, middle, answer, later⟩)
      · exact ⟨[], List.nil_prefix, by rw [List.append_nil, insert_same found]⟩
      · cases answer.trans effect
        obtain ⟨written, isPrefix, rfl⟩ := next.mp later
        exact ⟨byte :: written, List.cons_prefix_cons.mpr ⟨rfl, isPrefix⟩, rfl⟩
    · rintro ⟨written, isPrefix, rfl⟩
      cases written with
      | nil => exact .inl (by rw [List.append_nil, insert_same found])
      | cons first written =>
        obtain ⟨rfl, shorter⟩ := List.cons_prefix_cons.mp isPrefix
        exact .inr ⟨.ok (), _, effect.symm, next.mpr ⟨written, shorter, rfl⟩⟩

/-- A crash leaves the file as it was, or truncated and with some of the first bytes. -/
theorem reaches_updateStateFile {session : ApexSession} {sessionState : SessionState.State}
    {file : Option (List UInt8)} (found : files.lookup session.sessionDir = some file) :
    Reaches StateFileCall.disk (session.updateStateFile format sessionState) files files' ↔
      files' = files ∨
      ∃ written, written <+: format.serialize (session.withState sessionState).state ∧
        files' = files.insert session.sessionDir (some written) := by
  have effect : StateFileCall.effect (.openTruncated session.sessionDir) files =
      (.ok (), files.insert session.sessionDir (some [])) := by
    simp only [StateFileCall.effect, found, Option.isSome_some, if_true]
  have rest : Reaches StateFileCall.disk
      (writeBytes session.sessionDir (format.serialize (session.withState sessionState).state))
      (files.insert session.sessionDir (some [])) files' ↔ _ :=
    reaches_writeBytes (Finmap.lookup_insert files)
  simp only [Finmap.insert_insert, List.nil_append] at rest
  rw [ApexSession.updateStateFile, reaches_mapError, stateFileCall, Program.perform,
    Program.call_bind, reaches_call]
  constructor
  · rintro (rfl | ⟨reply, middle, answer, later⟩)
    · exact .inl rfl
    · cases answer.trans effect
      exact .inr (rest.mp later)
  · rintro (rfl | written)
    · exact .inl rfl
    · exact .inr ⟨.ok (), _, effect.symm, rest.mpr written⟩

/-! ## The readers -/

/-- The session that the readers return for a state file. -/
def StateFile.session (sessionDir : String) : StateFile → Option ApexSession
  | .state message => some ⟨message, sessionDir⟩
  | _ => none

/-- A list of sessions that has no session of a directory but these. -/
def Lists (sessionDir : String) (read : Option ApexSession) (result : Except String (List ApexSession)) :
    Prop :=
  ∃ sessions, result = .ok sessions ∧
    (sessions.filter fun session => session.sessionDir = sessionDir) = read.toList

/-- All readers of the store come to an end and return the same for a session: the session or
nothing. -/
structure ReadsAs (files : SessionFiles) (format : MessageFormat) (sessionId : Int)
    (read : Option ApexSession) : Prop where
  getSession : ∀ w, w.sessions = files.decode format →
    Gives device (getSession sessionId) (fun result => result.toOption = read) w
  getSessions : ∀ w, w.sessions = files.decode format →
    Gives device getSessions (Lists (toString sessionId) read) w
  getSessionsInState : ∀ w state, w.sessions = files.decode format →
    Gives device (getSessionsInState state) (Lists (toString sessionId)
      (read.filter fun session => session.state.state = state)) w

theorem filter_sessionsIn {store : SessionStore} {listing : List String}
    (isListing : Directory.IsListing store listing) {file : StateFile}
    (found : store.lookup sessionDir = some file) :
    ((store.sessionsIn listing).filter fun session => session.sessionDir = sessionDir) =
      (file.session sessionDir).toList := by
  have once : listing.filter (· = sessionDir) = [sessionDir] := by
    have member : sessionDir ∈ listing := isListing.mem_iff.mpr ⟨file, found⟩
    rw [show (fun name => decide (name = sessionDir)) = (· == sessionDir) from rfl,
      List.filter_beq, List.count_eq_one_of_mem isListing.nodup member]
    rfl
  have kept : ((store.sessionsIn listing).filter fun session => session.sessionDir = sessionDir) =
      store.sessionsIn (listing.filter (· = sessionDir)) := by
    rw [SessionStore.sessionsIn, SessionStore.sessionsIn, List.filter_filterMap,
      List.filterMap_filter]
    refine congrArg (fun f => listing.filterMap f) (funext fun name => ?_)
    by_cases here : name = sessionDir <;> cases store.stateOf name <;> simp [here]
  rw [kept, once]
  cases file <;> simp [SessionStore.sessionsIn, SessionStore.stateOf, StateFile.session, found]

theorem readsAs {sessionId : Int} {file : Option (List UInt8)}
    (found : files.lookup (toString sessionId) = some file) :
    ReadsAs files format sessionId
      ((parseSessionState format file).session (toString sessionId)) := by
  have decoded : (files.decode format).lookup (toString sessionId) =
      some (parseSessionState format file) := by
    rw [SessionFiles.lookup_decode, found]
    rfl
  have ends {α : Type} {p : Procedure α} (within : p.Within AlwaysAnswered) (w : World) :
      Ends device p w := .of_within within answered_of_always w
  have listing : getSessions.Within AlwaysAnswered := by
    refine (always_sessionCall .list).attempt.bind fun found => ?_
    cases found <;> trivial
  constructor
  · intro w sessions
    refine (ends (always_getSession sessionId) w).gives (wp_getSession quiet_anything ?_ ?_)
    · intro state stored
      rw [sessions, decoded, Option.some.injEq] at stored
      rw [stored]
      rfl
    · intro unreadable e
      rw [sessions, decoded] at unreadable
      cases read : parseSessionState format file with
      | state state => exact absurd (congrArg some read) (unreadable state)
      | _ => rfl
  · intro w same
    refine (ends listing w).gives (wp_getSessions quiet_anything fun names isListing => ⟨_, rfl, ?_⟩)
    rw [same] at isListing ⊢
    exact filter_sessionsIn isListing decoded
  · intro w state same
    have inState : (getSessionsInState state).Within AlwaysAnswered := listing.bind fun _ => trivial
    refine (ends inState w).gives (wp_getSessionsInState quiet_anything fun names isListing => ⟨_, rfl, ?_⟩)
    rw [same] at isListing ⊢
    rw [sessionsInState, List.filter_comm, filter_sessionsIn isListing decoded]
    cases (parseSessionState format file).session (toString sessionId) with
    | none => rfl
    | some session => by_cases inState : session.state.state = state <;> simp [Option.filter, inState]

/-! ## A commit -/

theorem wp_writeBytes {bytes before : List UInt8}
    (found : files.lookup sessionDir = some (some before))
    {Q : Except String Unit → SessionFiles → Prop}
    (post : Q (.ok ()) (files.insert sessionDir (some (before ++ bytes)))) :
    wp StateFileCall.disk Anything (writeBytes sessionDir bytes) Q files := by
  induction bytes generalizing files before with
  | nil =>
    rw [List.append_nil, insert_same found] at post
    exact post
  | cons byte rest ih =>
    have effect : StateFileCall.effect (.writeByte sessionDir byte) files =
        (.ok (), files.insert sessionDir (some (before ++ [byte]))) := by
      simp only [StateFileCall.effect, found]
    rw [writeBytes, wp_bind]
    intro reply middle answer
    cases answer.trans effect
    refine ⟨trivial, ih (Finmap.lookup_insert files) ?_⟩
    rw [Finmap.insert_insert, List.append_assoc]
    exact post

/-- Without a crash the bytes are written as `SessionCall.commit` writes the state. -/
theorem updateStateFile_commits {session : ApexSession} {sessionState : SessionState.State}
    {file : Option (List UInt8)} (found : files.lookup session.sessionDir = some file)
    (parses : format.parse (format.serialize (session.withState sessionState).state) =
      some (session.withState sessionState).state) {result : Except String Unit}
    (run : Runs StateFileCall.disk (session.updateStateFile format sessionState) files result
      files') :
    (result, files'.decode format) =
      (SessionCall.commit session.sessionDir (session.withState sessionState).state).effect
        (files.decode format) := by
  suffices commits : wp StateFileCall.disk Anything (session.updateStateFile format sessionState)
      (fun result files' => (result, files'.decode format) =
        (SessionCall.commit session.sessionDir (session.withState sessionState).state).effect
          (files.decode format)) files from wp_runs commits run
  rw [ApexSession.updateStateFile, wp_mapError, wp_bind]
  intro reply middle answer
  have effect : StateFileCall.effect (.openTruncated session.sessionDir) files =
      (.ok (), files.insert session.sessionDir (some [])) := by
    simp only [StateFileCall.effect, found, Option.isSome_some, if_true]
  cases answer.trans effect
  refine ⟨trivial, wp_writeBytes (Finmap.lookup_insert files) ?_⟩
  rw [Finmap.insert_insert, List.nil_append, SessionFiles.decode_insert]
  simp only [SessionCall.effect, SessionFiles.lookup_decode, found, Option.map_some,
    Option.isSome_some, if_true, parseSessionState, parses]
  rfl

/-- Before the file is truncated all readers return the old state, after the last byte the new
one, and in between what the bytes so far parse to: at first the default message. -/
theorem commit_crash_reads {session : ApexSession} {sessionState : SessionState.State}
    {old : SessionState} (named : session.sessionDir = toString session.state.id)
    (stored : files.lookup session.sessionDir = some (some (format.serialize old)))
    (parsesOld : format.parse (format.serialize old) = some old)
    (parsesNew : format.parse (format.serialize (session.withState sessionState).state) =
      some (session.withState sessionState).state)
    (parsesEmpty : format.parse [] = some (.initial 0))
    (crash : Reaches StateFileCall.disk (session.updateStateFile format sessionState) files
      files') :
    (∀ other ≠ session.sessionDir, files'.lookup other = files.lookup other) ∧
    (files' = files ∧ ReadsAs files' format session.state.id (some ⟨old, session.sessionDir⟩) ∨
      ∃ written, written <+: format.serialize (session.withState sessionState).state ∧
        files'.lookup session.sessionDir = some (some written) ∧
        ReadsAs files' format session.state.id
          ((format.parse written).map fun state => ⟨state, session.sessionDir⟩) ∧
        (written = [] →
          ReadsAs files' format session.state.id (some ⟨.initial 0, session.sessionDir⟩)) ∧
        (written = format.serialize (session.withState sessionState).state →
          ReadsAs files' format session.state.id (some (session.withState sessionState)))) := by
  have reads {files : SessionFiles} {bytes : List UInt8}
      (found : files.lookup session.sessionDir = some (some bytes)) :
      ReadsAs files format session.state.id
        ((format.parse bytes).map fun state => ⟨state, session.sessionDir⟩) := by
    have read := @readsAs format _ _ _ (named ▸ found)
    rw [← named] at read
    simp only [parseSessionState] at read
    cases parsed : format.parse bytes with
    | none =>
      rw [parsed] at read
      exact read
    | some state =>
      rw [parsed] at read
      exact read
  rcases (reaches_updateStateFile stored).mp crash with rfl | ⟨written, isPrefix, rfl⟩
  · refine ⟨fun _ _ => rfl, .inl ⟨rfl, ?_⟩⟩
    have read := reads stored
    rwa [parsesOld] at read
  · have found := Finmap.lookup_insert files (a := session.sessionDir) (b := some written)
    refine ⟨fun other elsewhere => Finmap.lookup_insert_of_ne _ elsewhere,
      .inr ⟨written, isPrefix, found, reads found, ?_, ?_⟩⟩
    · rintro rfl
      have read := reads found
      rwa [parsesEmpty] at read
    · rintro rfl
      have read := reads found
      rwa [parsesNew] at read

/-! ## Small messages -/

/-- The number of a state in `session_state.proto`. -/
def SessionState.State.number : SessionState.State → UInt8
  | .UNKNOWN => 0
  | .VERIFIED => 1
  | .STAGED => 2
  | .ACTIVATED => 3
  | .ACTIVATION_FAILED => 4
  | .SUCCESS => 5
  | .REVERT_IN_PROGRESS => 6
  | .REVERTED => 7
  | .REVERT_FAILED => 8

def SessionState.State.ofNumber (number : UInt8) : Option SessionState.State :=
  [.UNKNOWN, .VERIFIED, .STAGED, .ACTIVATED, .ACTIVATION_FAILED, .SUCCESS, .REVERT_IN_PROGRESS,
    .REVERTED, .REVERT_FAILED][number.toNat]?

namespace MessageFormat

/-- Each field is its tag and its value; a field with the default value is left out. -/
def serializeSmall (message : SessionState) : List UInt8 :=
  (if message.id = 0 then [] else [0x08, .ofNat message.id.toNat]) ++
    (if message.state = .UNKNOWN then [] else [0x10, message.state.number])

def parseSmall (message : SessionState) : List UInt8 → Option SessionState
  | [] => some message
  | [_] => none
  | tag :: value :: rest =>
    if tag = 0x08 ∧ value < 0x80 then parseSmall { message with id := value.toNat } rest
    else if tag = 0x10 then
      match SessionState.State.ofNumber value with
      | none => none
      | some state => parseSmall { message with state := state } rest
    else none

/-- The wire format, for messages with no more than an id below 128 and a state. -/
def small : MessageFormat where
  serialize := serializeSmall
  parse := parseSmall (.initial 0)

end MessageFormat

def verifiedSession : SessionState :=
  { SessionState.initial 1 with state := .VERIFIED }

def verifiedFiles : SessionFiles :=
  [⟨"1", some [0x08, 1, 0x10, 1]⟩].toFinmap

/-- A crash right after the file was truncated. -/
theorem reaches_truncated :
    Reaches StateFileCall.disk
      (ApexSession.updateStateFile ⟨verifiedSession, "1"⟩ .small .STAGED) verifiedFiles
      (verifiedFiles.insert "1" (some [])) := by
  have stored : verifiedFiles.lookup "1" = some (some [0x08, 1, 0x10, 1]) := by decide +kernel
  exact (reaches_updateStateFile stored).mpr (.inr ⟨[], List.nil_prefix, rfl⟩)

theorem commit_crash_reads_truncated :
    ReadsAs (verifiedFiles.insert "1" (some [])) .small 1 (some ⟨.initial 0, "1"⟩) := by
  have stored : verifiedFiles.lookup "1" =
      some (some (MessageFormat.small.serialize verifiedSession)) := by decide +kernel
  obtain ⟨-, ⟨same, -⟩ | ⟨written, -, found, -, truncated, -⟩⟩ :=
    commit_crash_reads (by decide +kernel) stored (by decide +kernel) (by decide +kernel)
      (by decide +kernel) reaches_truncated
  · have differs : verifiedFiles.insert "1" (some []) ≠ verifiedFiles := by decide +kernel
    exact absurd same differs
  · rw [Finmap.lookup_insert] at found
    exact truncated (by simpa using found.symm)

/-- The truncated file is read as a session without id and state. -/
theorem truncated_state_lost : ¬ ∀ files',
    Reaches StateFileCall.disk
      (ApexSession.updateStateFile ⟨verifiedSession, "1"⟩ .small .STAGED) verifiedFiles files' →
    ReadsAs files' .small 1 (some ⟨verifiedSession, "1"⟩) ∨
      ReadsAs files' .small 1 (some ⟨{ verifiedSession with state := .STAGED }, "1"⟩) := by
  intro atomic
  let w : World := { World.ofDirectories [] with
    sessions := SessionFiles.decode (verifiedFiles.insert "1" (some [])) .small }
  obtain ⟨result, w', run, read⟩ := exists_runs deviceHandler_sound (getSession 1) w
    (fun result _ => result.toOption = some ⟨.initial 0, "1"⟩) (by decide +kernel)
  rw [decide_eq_true_eq] at read
  rcases atomic _ reaches_truncated with old | new
  · have differs := ((old.getSession w rfl).only run).symm.trans read
    exact absurd differs (by decide +kernel)
  · have differs := ((new.getSession w rfl).only run).symm.trans read
    exact absurd differs (by decide +kernel)

end Apexd
