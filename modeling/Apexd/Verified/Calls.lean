import Apexd.Model.Primitives

/-! # What the calls promise

One rule for every call and helper of the device, for runs in which no operation fails by
itself.  Calls that only read are covered by a guarantee that allows a call without effect.
-/

namespace Apexd

open Process Storage

/-- A guarantee that allows calls that change nothing. -/
def Quiet (G : Guarantee apexd World) : Prop :=
  ∀ request w, G request w w

theorem quiet_anything : Quiet Anything := fun _ _ => trivial

/-- Calls that mount nothing. -/
def MountsNothing : Call → Prop
  | .database (.addMountedApex _ _) | .database (.bindMountIfLatest _ _ _ _)
  | .kernel (.mountImage _) | .fatal => False
  | _ => True

/-- Calls that are answered in every state. -/
theorem answered_of_mountsNothing (request : Call) (mountsNothing : MountsNothing request)
    (w : World) : ∃ reply w', device request w reply w' := by
  have answered : ∃ answer, deviceHandler request w = some answer := by
    cases request with
    | database call =>
      cases call with
      | addMountedApex | bindMountIfLatest => exact mountsNothing.elim
      | forallMountedApexesOf | forallMountedApexes | removeMountedApex => exact ⟨_, rfl⟩
    | kernel call =>
      cases call with
      | mountImage => exact mountsNothing.elim
      | umount | listDevices | isSuspended | deleteVerityDevice => exact ⟨_, rfl⟩
    | fatal => exact mountsNothing.elim
    | fs | createFile | getDeUserDirs | restorecon | session | outside | markChanged =>
      exact ⟨_, rfl⟩
  obtain ⟨⟨reply, w'⟩, answer⟩ := answered
  exact ⟨reply, w', deviceHandler_sound answer⟩

/-- Calls that are answered in every state and have nothing to do with mounts. -/
def AlwaysAnswered : Call → Prop
  | .fs _ | .createFile _ _ | .getDeUserDirs | .restorecon _ | .session _ | .outside _
  | .markChanged _ => True
  | .database _ | .kernel _ | .fatal => False

theorem AlwaysAnswered.mountsNothing {request : Call} (always : AlwaysAnswered request) :
    MountsNothing request := by
  cases request with
  | database | kernel | fatal => exact always.elim
  | fs | createFile | getDeUserDirs | restorecon | session | outside | markChanged => trivial

theorem answered_of_always (request : Call) (always : AlwaysAnswered request) (w : World) :
    ∃ reply w', device request w reply w' :=
  answered_of_mountsNothing request always.mountsNothing w

theorem always_fsCall (request : FsCall DirId) :
    (fsCall request).Within AlwaysAnswered :=
  ⟨trivial, fun _ => trivial⟩

theorem always_sessionCall (request : SessionCall) :
    (sessionCall request).Within AlwaysAnswered :=
  ⟨trivial, fun _ => trivial⟩

theorem always_accessible (path : FilePath) : (accessible path).Within AlwaysAnswered := by
  refine (always_fsCall _).attempt.bind fun found => ?_
  cases found <;> trivial

theorem always_createDirIfNeeded (d : DirId) (mode : Nat) :
    (createDirIfNeeded d mode).Within AlwaysAnswered := by
  have chmodded : (orErrno (chmod d mode) ("Could not chmod " ++ d.text)).Within AlwaysAnswered :=
    (always_fsCall _).mapError _
  refine ((always_fsCall _).mapError _).bind fun found => ?_
  cases found with
  | none => exact ((always_fsCall _).mapError _).bind fun _ => chmodded
  | some _ => exact chmodded

theorem always_findFilesBySuffix (d : DirId) (suffixList : List String) :
    (findFilesBySuffix d suffixList).Within AlwaysAnswered :=
  ((always_fsCall _).mapError _).bind fun _ => trivial

theorem always_apexFile_open (path : FilePath) : (ApexFile.open path).Within AlwaysAnswered :=
  ((always_fsCall _).mapError _).bind fun _ => Program.within_ofExcept _

theorem always_getSession (sessionId : Int) : (getSession sessionId).Within AlwaysAnswered :=
  ((always_sessionCall _).mapError _).bind fun _ => trivial

def World.withFs (w : World) (fs : FileSystem DirId Content) : World :=
  { w with fs := fs }

def World.withSessions (w : World) (store : SessionStore) : World :=
  { w with sessions := store }

/-- The device after the state of a session was committed. -/
def World.commit (w : World) (session : ApexSession) : World :=
  w.withSessions (w.sessions.insert session.sessionDir (.state session.state))

/-- The contents of a directory by name. -/
def World.view (w : World) (d : DirId) : String → Option Content :=
  w.fs.view d

/-- Nothing but one directory changed. -/
def World.OnlyIn (d : DirId) (w w' : World) : Prop :=
  ∃ fs', w' = w.withFs fs' ∧ ∀ x, x ≠ d → fs'.dir x = w.fs.dir x

namespace World.OnlyIn

variable {d x : DirId} {w w' w'' : World}

theorem refl (d : DirId) (w : World) : w.OnlyIn d w :=
  ⟨w.fs, rfl, fun _ _ => rfl⟩

theorem trans (first : w.OnlyIn d w') (second : w'.OnlyIn d w'') : w.OnlyIn d w'' := by
  obtain ⟨fs', rfl, same⟩ := first
  obtain ⟨fs'', rfl, same'⟩ := second
  exact ⟨fs'', rfl, fun x ne => (same' x ne).trans (same x ne)⟩

theorem dir (only : w.OnlyIn d w') (ne : x ≠ d) : w'.fs.dir x = w.fs.dir x := by
  obtain ⟨fs', rfl, same⟩ := only
  exact same x ne

theorem view (only : w.OnlyIn d w') (ne : x ≠ d) : w'.view x = w.view x :=
  FileSystem.view_of_dir_eq (only.dir ne)

theorem sessions (only : w.OnlyIn d w') : w'.sessions = w.sessions := by
  obtain ⟨fs', rfl, _⟩ := only
  rfl

theorem write (w : World) (path : FilePath) (content : Content) :
    w.OnlyIn path.dir (w.withFs (w.fs.write path content)) :=
  ⟨_, rfl, fun _ ne => w.fs.dir_update_ne ne _⟩

theorem remove (w : World) (path : FilePath) :
    w.OnlyIn path.dir (w.withFs (w.fs.remove path)) :=
  ⟨_, rfl, fun _ ne => w.fs.dir_update_ne ne _⟩

end World.OnlyIn

variable {G : Guarantee apexd World} {w : World}

theorem wp_fsCall {request : FsCall DirId} (notListing : ∀ d, request ≠ .readDir d)
    {reply : Except String (request.Reply Content)} {fs' : FileSystem DirId Content}
    (effect : request.effect w.fs = (reply, fs'))
    {Q : Except String (request.Reply Content) → World → Prop}
    (guarantee : G (.fs request) w (w.withFs fs')) (post : Q reply (w.withFs fs')) :
    wp device G (fsCall request) Q w := by
  rintro reply' w' ⟨fs'', answer, rfl⟩
  have outcome : (reply', fs'') = request.effect w.fs := by
    cases request with
    | readDir d => exact absurd rfl (notListing d)
    | _ => exact answer
  cases outcome.trans effect
  exact ⟨guarantee, post⟩

theorem wp_unlink {path : FilePath} {content : Content} (found : w.fs.file path = some content)
    {Q : Except String Unit → World → Prop}
    (guarantee : G (.fs (.unlink path)) w (w.withFs (w.fs.remove path)))
    (post : Q (.ok ()) (w.withFs (w.fs.remove path))) : wp device G (unlink path) Q w :=
  wp_fsCall (by simp) (by simp only [FsCall.effect, found]) guarantee post

theorem wp_link {source target : FilePath} {content : Content}
    (found : w.fs.file source = some content) (free : w.fs.file target = none)
    (exists' : w.fs.has target.dir = true) {Q : Except String Unit → World → Prop}
    (guarantee : G (.fs (.link source target)) w (w.withFs (w.fs.write target content)))
    (post : Q (.ok ()) (w.withFs (w.fs.write target content))) :
    wp device G (link source target) Q w :=
  wp_fsCall (by simp) (by simp [FsCall.effect, found, free, exists']) guarantee post

theorem wp_rename {source target : FilePath} {content : Content}
    (found : w.fs.file source = some content) (exists' : w.fs.has target.dir = true)
    {Q : Except String Unit → World → Prop}
    (guarantee : G (.fs (.rename source target)) w
      (w.withFs ((w.fs.remove source).write target content)))
    (post : Q (.ok ()) (w.withFs ((w.fs.remove source).write target content))) :
    wp device G (rename source target) Q w :=
  wp_fsCall (by simp) (by simp [FsCall.effect, found, exists']) guarantee post

theorem wp_accessible (quiet : Quiet G) {path : FilePath} {Q : Except String Bool → World → Prop}
    (post : Q (.ok (w.fs.file path).isSome) w) : wp device G (accessible path) Q w := by
  rw [accessible, wp_bind, wp_attempt]
  exact wp_fsCall (by simp) rfl (quiet _ w) post

theorem wp_stat (quiet : Quiet G) {d : DirId} {Q : Except String (Option Nat) → World → Prop}
    (post : Q (.ok ((w.fs.dir d).map Dir.mode)) w) : wp device G (stat d) Q w :=
  wp_fsCall (by simp) rfl (quiet _ w) post

theorem wp_pathExists (quiet : Quiet G) {d : DirId} {Q : Except String Bool → World → Prop}
    (post : Q (.ok (w.fs.has d)) w) : wp device G (pathExists d) Q w := by
  rw [pathExists, wp_bind, wp_mapError]
  apply wp_stat quiet
  change Q (.ok ((w.fs.dir d).map Dir.mode).isSome) w
  rwa [Option.isSome_map]

theorem wp_readDir (quiet : Quiet G) {d : DirId} (exists' : w.fs.has d = true)
    {Q : Except String (List String) → World → Prop}
    (post : ∀ listing, (w.files d).IsListing listing → Q (.ok listing) w) :
    wp device G (readDir d) Q w := by
  rintro reply w' ⟨fs', ⟨rfl, answer⟩, rfl⟩
  obtain ⟨dir, found⟩ := Option.isSome_iff_exists.mp exists'
  rw [found] at answer
  obtain ⟨listing, isListing, rfl⟩ := answer
  refine ⟨quiet _ w, post listing ?_⟩
  simpa [World.files, FileSystem.files, found] using isListing

theorem wp_readDir_absent (quiet : Quiet G) {d : DirId} (absent : w.fs.has d = false)
    {Q : Except String (List String) → World → Prop} (post : Q (.error FsCall.noSuchFile) w) :
    wp device G (readDir d) Q w := by
  rintro reply w' ⟨fs', ⟨rfl, answer⟩, rfl⟩
  rw [Option.isSome_eq_false_iff.mp absent |> Option.isNone_iff_eq_none.mp] at answer
  subst answer
  exact ⟨quiet _ w, post⟩

/-! ## Helpers -/

theorem wp_orErrno {α : Type} {p : Procedure α} {text : String}
    {Q : Except String α → World → Prop}
    (holds : wp device G p (fun result => Q (result.mapError fun e => text ++ ": " ++ e)) w) :
    wp device G (orErrno p text) Q w := by
  rw [orErrno, wp_mapError]
  exact holds

/-- What opening a file gives. -/
def openAt (fs : FileSystem DirId Content) (path : FilePath) : Except String ApexFile :=
  match fs.file path with
  | none => .error ("Failed to open package " ++ pathText path ++ ": I/O error" ++ ": " ++
      FsCall.noSuchFile)
  | some content => ApexFile.openContent path content

theorem openAt_eq_ok_iff {fs : FileSystem DirId Content} {path : FilePath} {apex : ApexFile} :
    openAt fs path = .ok apex ↔
      fs.file path = some (.apex apex.archive) ∧ apex.path = path ∧ apex.archive.IsValid := by
  unfold openAt
  cases fs.file path with
  | none => simp
  | some content => simp [openContent_eq_ok_iff]

theorem wp_apexFile_open (quiet : Quiet G) {path : FilePath}
    {Q : Except String ApexFile → World → Prop} (post : Q (openAt w.fs path) w) :
    wp device G (ApexFile.open path) Q w := by
  rw [ApexFile.open, wp_bind]
  apply wp_orErrno
  rw [openAt] at post
  cases found : w.fs.file path with
  | none =>
    have effect : (FsCall.read path).effect w.fs = (.error FsCall.noSuchFile, w.fs) := by
      simp only [FsCall.effect, found]
    rw [found] at post
    exact wp_fsCall (by simp) effect (quiet _ w) post
  | some content =>
    have effect : (FsCall.read path).effect w.fs = (.ok content, w.fs) := by
      simp only [FsCall.effect, found]
    rw [found] at post
    exact wp_fsCall (by simp) effect (quiet _ w) post

/-- The files of a listing with one of the suffixes. -/
def withSuffix (d : DirId) (suffixList listing : List String) : List FilePath :=
  (listing.filter fun name => suffixList.any (Text.endsWith name)).map (⟨d, ·⟩)

theorem mem_withSuffix_iff {d : DirId} {suffixList listing : List String} {path : FilePath} :
    path ∈ withSuffix d suffixList listing ↔
      path.dir = d ∧ path.name ∈ listing ∧ suffixList.any (Text.endsWith path.name) = true := by
  obtain ⟨dir, name⟩ := path
  simp only [withSuffix, List.mem_map, List.mem_filter, Storage.Path.mk.injEq]
  constructor
  · rintro ⟨_, ⟨member, suffix⟩, rfl, rfl⟩
    exact ⟨rfl, member, suffix⟩
  · rintro ⟨rfl, member, suffix⟩
    exact ⟨name, ⟨member, suffix⟩, rfl, rfl⟩

theorem mem_withSuffix {d : DirId} {suffix : String} {listing : List String} {path : FilePath} :
    path ∈ withSuffix d [suffix] listing ↔
      path.dir = d ∧ path.name ∈ listing ∧ Text.endsWith path.name suffix = true := by
  rw [mem_withSuffix_iff, List.any_cons, List.any_nil, Bool.or_false]

theorem nodup_withSuffix {d : DirId} {suffixes listing : List String} (nodup : listing.Nodup) :
    (withSuffix d suffixes listing).Nodup :=
  (nodup.filter _).map fun _ _ same => (Storage.Path.mk.injEq _ _ _ _ ▸ same).2

theorem wp_findFilesBySuffix (quiet : Quiet G) {d : DirId} (exists' : w.fs.has d = true)
    {suffixList : List String} {Q : Except String (List FilePath) → World → Prop}
    (post : ∀ listing, (w.files d).IsListing listing → Q (.ok (withSuffix d suffixList listing)) w) :
    wp device G (findFilesBySuffix d suffixList) Q w := by
  rw [findFilesBySuffix, wp_bind, wp_mapError]
  exact wp_readDir quiet exists' post

theorem wp_findFilesBySuffix_absent (quiet : Quiet G) {d : DirId} (absent : w.fs.has d = false)
    {suffixList : List String} {Q : Except String (List FilePath) → World → Prop}
    (post : Q (.error ("Can't open " ++ d.text ++ " for reading : " ++ FsCall.noSuchFile)) w) :
    wp device G (findFilesBySuffix d suffixList) Q w := by
  rw [findFilesBySuffix, wp_bind, wp_mapError]
  exact wp_readDir_absent quiet absent post

/-- Creating a directory where there is none, and setting its mode, touches no file. -/
theorem wp_createDirIfNeeded {d : DirId} {mode : Nat} (quiet : Quiet G)
    {Q : Except String Unit → World → Prop}
    (guarantee : ∀ request w₁ w₂, w.OnlyIn d w₁ → w₁.view d = w.view d → w₁.OnlyIn d w₂ →
      w₂.view d = w.view d → G request w₁ w₂)
    (post : ∀ w', w.OnlyIn d w' → w'.fs.has d = true → w'.view d = w.view d → Q (.ok ()) w') :
    wp device G (createDirIfNeeded d mode) Q w := by
  have chmodded (w₁ : World) (only : w.OnlyIn d w₁) (exists' : w₁.fs.has d = true)
      (same : w₁.view d = w.view d) :
      wp device G (orErrno (chmod d mode) ("Could not chmod " ++ d.text)) Q w₁ := by
    obtain ⟨dir, found⟩ := Option.isSome_iff_exists.mp exists'
    have effect : (FsCall.chmod d mode).effect w₁.fs =
        (.ok (), w₁.fs.set d (some { dir with mode := mode })) := by
      simp only [FsCall.effect, found]
    have onlyIn : w₁.OnlyIn d (w₁.withFs (w₁.fs.set d (some { dir with mode := mode }))) :=
      ⟨_, rfl, fun _ ne => w₁.fs.dir_set_ne ne _⟩
    have view : (w₁.withFs (w₁.fs.set d (some { dir with mode := mode }))).view d = w.view d := by
      rw [← same]
      funext name
      simp [World.view, World.withFs, FileSystem.view, FileSystem.file, FileSystem.files, found]
    apply wp_orErrno
    refine wp_fsCall (by simp) effect (guarantee _ _ _ only same onlyIn view) ?_
    exact post _ (only.trans onlyIn) (by simp [World.withFs, FileSystem.has]) view
  rw [createDirIfNeeded, wp_bind]
  apply wp_orErrno
  apply wp_stat quiet
  cases found : w.fs.dir d with
  | some dir => exact chmodded w (.refl d w) (by rw [FileSystem.has, found]; rfl) rfl
  | none =>
    have effect : (FsCall.mkdir d mode).effect w.fs = (.ok (), w.fs.set d (some ⟨mode, ∅⟩)) := by
      simp [FsCall.effect, FileSystem.has, found]
    have only : w.OnlyIn d (w.withFs (w.fs.set d (some ⟨mode, ∅⟩))) :=
      ⟨_, rfl, fun _ ne => w.fs.dir_set_ne ne _⟩
    have view : (w.withFs (w.fs.set d (some ⟨mode, ∅⟩))).view d = w.view d := by
      funext name
      simp [World.view, World.withFs, FileSystem.view, FileSystem.file, FileSystem.files, found]
    change wp device G (orErrno (mkdir d mode) _ >>= fun _ => _) Q w
    rw [wp_bind]
    apply wp_orErrno
    refine wp_fsCall (by simp) effect (guarantee _ _ _ (.refl d w) rfl only view) ?_
    exact chmodded _ only (by simp [World.withFs, FileSystem.has]) view

/-- Marking packages changes neither a file nor a session. -/
theorem wp_markChanged (names : List String)
    (guarantee : ∀ request (w₁ w₂ : World), w₂.fs = w₁.fs → w₂.sessions = w₁.sessions →
      G request w₁ w₂) {Q : Except String Unit → World → Prop}
    (post : ∀ w', w'.fs = w.fs → w'.sessions = w.sessions → Q (.ok ()) w') :
    wp device G (names.forM markChanged) Q w := by
  refine wp_forM (fun _ w' => w'.fs = w.fs ∧ w'.sessions = w.sessions) ⟨rfl, rfl⟩ ?_ ?_
  · rintro before name after w₁ - ⟨fs, sessions⟩ reply w₂ ⟨rfl, rfl⟩
    exact ⟨guarantee _ _ _ rfl rfl, fs, sessions⟩
  · rintro w' ⟨fs, sessions⟩
    exact post w' fs sessions

/-- A procedure that ends the process has nothing to fulfil. -/
theorem wp_fatal {α : Type} {Q : Except String α → World → Prop} : wp device G fatal Q w := by
  intro reply w' answer
  exact answer.elim

theorem wp_sessionCall {request : SessionCall} (notList : request ≠ .list)
    {reply : Except String request.Reply} {store : SessionStore}
    (effect : request.effect w.sessions = (reply, store))
    {Q : Except String request.Reply → World → Prop}
    (guarantee : G (.session request) w (w.withSessions store))
    (post : Q reply (w.withSessions store)) : wp device G (sessionCall request) Q w := by
  rintro reply' w' ⟨store', answer, rfl⟩
  have outcome : (reply', store') = request.effect w.sessions := by
    cases request with
    | list => exact absurd rfl notList
    | _ => exact answer
  cases outcome.trans effect
  exact ⟨guarantee, post⟩

theorem wp_getSessions (quiet : Quiet G) {Q : Except String (List ApexSession) → World → Prop}
    (post : ∀ listing, Directory.IsListing w.sessions listing →
      Q (.ok (w.sessions.sessionsIn listing)) w) : wp device G getSessions Q w := by
  rw [getSessions, wp_bind, wp_attempt]
  rintro reply w' ⟨sessions', ⟨rfl, listing, isListing, rfl⟩, rfl⟩
  exact ⟨quiet _ w, post listing isListing⟩

/-- The sessions of a listing that are in a state. -/
def sessionsInState (store : SessionStore) (listing : List String) (state : SessionState.State) :
    List ApexSession :=
  (store.sessionsIn listing).filter fun session => session.state.state = state

theorem wp_getSessionsInState (quiet : Quiet G) {state : SessionState.State}
    {Q : Except String (List ApexSession) → World → Prop}
    (post : ∀ listing, Directory.IsListing w.sessions listing →
      Q (.ok (sessionsInState w.sessions listing state)) w) :
    wp device G (getSessionsInState state) Q w := by
  rw [getSessionsInState, wp_bind]
  exact wp_getSessions quiet post

/-- A commit of a session whose directory exists. -/
theorem wp_updateStateAndCommit {session : ApexSession} {state : SessionState.State}
    {file : StateFile} (found : w.sessions.lookup session.sessionDir = some file)
    {Q : Except String Unit → World → Prop}
    (guarantee : G (.session (.commit session.sessionDir (session.withState state).state)) w
      (w.commit (session.withState state)))
    (post : Q (.ok ()) (w.commit (session.withState state))) :
    wp device G (session.updateStateAndCommit state) Q w := by
  rw [ApexSession.updateStateAndCommit, wp_mapError]
  have effect : (SessionCall.commit session.sessionDir (session.withState state).state).effect
      w.sessions = (.ok (), w.sessions.insert session.sessionDir
        (.state (session.withState state).state)) := by
    simp only [SessionCall.effect, found, Option.isSome_some, if_true]
  exact wp_sessionCall (by simp) effect guarantee post

end Apexd
