import Apexd.Model.Staging
import Apexd.Verified.Calls

/-! # What a boot will do with a session

Whether the packages of a session are staged, and which they are, depends on the session, the
staging directories and the environment alone; `stagingPlan` computes it without a run.
-/

namespace Apexd

open Process Storage

/-! ## Verification -/

/-- The outcome of the check of the VNDK version. -/
def vndkOutcome (env : Environment) (apex : ApexFile) : Except String Unit :=
  if apex.manifest.vndkVersion = "" then .ok ()
  else match env.repository.getPreInstalledApex apex.manifest.name with
    -- the process ends here
    | none => .ok ()
    | some preInstalled => checkVndkVersion env apex.manifest.vndkVersion preInstalled

/-- The outcome of the verification before staging. -/
def verifyOutcome (env : Environment) (apex : ApexFile) : Except String Unit :=
  if isShimApex apex then .ok ()
  else do
    let publicKey ← env.repository.getPublicKey apex.manifest.name
    let _ ← env.verifyApexVerity apex.archive publicKey
    vndkOutcome env apex

/-- A call that ends the process never returns. -/
def NoReturn {σ : Type} (M : Semantics apexd String σ) : Prop :=
  ∀ state reply state', ¬ M .fatal state reply state'

theorem noReturn_device : NoReturn device :=
  fun _ _ _ answer => answer

section Verification

variable {σ : Type} {M : Semantics apexd String σ} {G : Guarantee apexd σ} {state : σ}
  {env : Environment}

theorem computes_verifyVndkVersion (noReturn : NoReturn M) (apex : ApexFile) :
    Computes M G (verifyVndkVersion env apex) (vndkOutcome env apex) state := by
  unfold verifyVndkVersion vndkOutcome
  split
  · exact computes_ofExcept (.ok ()) state
  · cases env.repository.getPreInstalledApex apex.manifest.name with
    | none =>
      intro Q _ reply state' answer
      exact (noReturn _ _ _ answer).elim
    | some preInstalled => exact computes_ofExcept _ state

theorem computes_verifyBeforeStaging (noReturn : NoReturn M) (apex : ApexFile) :
    Computes M G (verifyBeforeStaging env apex) (verifyOutcome env apex) state := by
  unfold verifyBeforeStaging verifyOutcome
  split
  · exact computes_ofExcept (.ok ()) state
  · rename_i notShim
    refine (computes_ofExcept _ state).bind fun publicKey _ => ?_
    refine (computes_ofExcept _ state).bind fun _ _ => ?_
    rw [if_neg notShim]
    exact computes_verifyVndkVersion noReturn apex

end Verification

variable {G : Guarantee apexd World} {w : World} {env : Environment}

/-! ## Scanning and opening -/

theorem computes_apexFile_open (quiet : Quiet G) (path : FilePath) :
    Computes device G (ApexFile.open path) (openAt w.fs path) w :=
  fun _ post => wp_apexFile_open quiet post

/-- The one package of a listing of a staging directory. -/
def onePackage (state : SessionState) (stagingId : Int) : List FilePath → Except String FilePath
  | [] => .error ("No APEX packages found while scanning " ++ (DirId.staged stagingId).text ++
      " session id: " ++ toString state.id ++ ".")
  | [apex] => .ok apex
  | _ => .error ("More than one APEX package found in the same session directory " ++
      (DirId.staged stagingId).text ++ " , skipping activation")

/-- The outcome of the scan of a staging directory. -/
def scanOutcome (fs : FileSystem DirId Content) (state : SessionState) (stagingId : Int) :
    Except String FilePath :=
  let dir := DirId.staged stagingId
  if fs.has dir then
    onePackage state stagingId (withSuffix dir [kApexPackageSuffix] (fs.files dir).names)
  else .error ("Can't open " ++ dir.text ++ " for reading : " ++ FsCall.noSuchFile)

/-- Of at most one package the order of the listing does not matter. -/
theorem onePackage_perm {state : SessionState} {stagingId : Int} {first second : List FilePath}
    (perm : first.Perm second) : onePackage state stagingId first = onePackage state stagingId second := by
  have length := perm.length_eq
  match first, second with
  | [], [] => rfl
  | [a], [b] =>
    rw [List.perm_singleton.mp perm]
  | _ :: _ :: _, _ :: _ :: _ => rfl
  | [], _ :: _ => simp at length
  | _ :: _, [] => simp at length
  | [_], _ :: _ :: _ => simp at length
  | _ :: _ :: _, [_] => simp at length

theorem computes_scanStagingDir (quiet : Quiet G) (session : ApexSession) (stagingId : Int) :
    Computes device G (scanStagingDir session stagingId)
      (scanOutcome w.fs session.state stagingId) w := by
  intro Q post
  rw [scanOutcome] at post
  rw [scanStagingDir, wp_bind]
  by_cases exists' : w.fs.has (.staged stagingId) = true
  · rw [if_pos exists'] at post
    refine wp_findFilesBySuffix quiet exists' fun listing isListing => ?_
    have perm : (withSuffix (.staged stagingId) [kApexPackageSuffix] listing).Perm
        (withSuffix (.staged stagingId) [kApexPackageSuffix]
          (w.fs.files (.staged stagingId)).names) :=
      (List.Perm.filter _ isListing).map _
    rw [← onePackage_perm perm] at post
    dsimp only
    generalize withSuffix (.staged stagingId) [kApexPackageSuffix] listing = found at post
    match found with
    | [] => exact post
    | [_] => exact post
    | _ :: _ :: _ => exact post
  · rw [if_neg exists'] at post
    exact wp_findFilesBySuffix_absent quiet (Bool.not_eq_true _ ▸ exists') post

/-! ## The plan -/

/-- The outcome of the first part of `StagePackages`. -/
def verifiedPackages (env : Environment) (fs : FileSystem DirId Content) (paths : List FilePath) :
    Except String (List ApexFile) := do
  let apexFiles ← collectResults (openAt fs) paths
  checkAll (verifyOutcome env) apexFiles
  .ok apexFiles

def activationFailed (apexes : List FilePath) (e : String) : String :=
  "Activation failed for packages " ++ joinPaths apexes ++ " : " ++ e

/-- The packages that a boot stages for a session, or the message the session will keep. -/
def stagingPlan (env : Environment) (fs : FileSystem DirId Content) (state : SessionState) :
    Except String (List ApexFile) :=
  if state.expectedBuildFingerprint ≠ env.buildFingerprint then
    .error "APEX build fingerprint has changed"
  else if env.supportsFsCheckpoints && !env.inFsCheckpointMode then
    .error "Cannot install apex session if not in fs-checkpoint mode"
  else do
    let apexes ← collectResults (scanOutcome fs state) (stagingDirs ⟨state, ""⟩)
    (verifiedPackages env fs apexes).mapError (activationFailed apexes)

/-- What `StagePackages` does with packages that were verified. -/
def stageFiles (apexFiles : List ApexFile) : Procedure Unit := do
  createDirIfNeeded .active 0o755
  let staged ← stageLoop apexFiles .none
  removePreviouslyActiveApexFiles staged.stagedPackages staged.stagedFiles

/-- The names of the packages that can be opened. -/
def namesOf (fs : FileSystem DirId Content) : List FilePath → List String
  | [] => []
  | path :: rest => match openAt fs path with
    | .ok apexFile => apexFile.manifest.name :: namesOf fs rest
    | .error _ => namesOf fs rest

theorem computes_openedNames (quiet : Quiet G) (paths : List FilePath) :
    Computes device G (openedNames paths) (.ok (namesOf w.fs paths)) w := by
  induction paths with
  | nil => exact computes_ofExcept (.ok []) w
  | cons path rest ih =>
    intro Q post
    rw [openedNames, wp_bind, wp_attempt]
    apply wp_apexFile_open quiet
    dsimp only
    rw [wp_bind]
    apply ih
    rw [namesOf] at post
    cases opened : openAt w.fs path with
    | ok apexFile =>
      rw [opened] at post
      exact post
    | error e =>
      rw [opened] at post
      exact post

theorem computes_openApexFiles (quiet : Quiet G) {paths : List FilePath} (nonempty : paths ≠ []) :
    Computes device G (openApexFiles paths) (collectResults (openAt w.fs) paths) w := by
  rw [openApexFiles, if_neg nonempty]
  exact Computes.collect fun path _ => computes_apexFile_open quiet path

theorem stagingDirs_ne_nil (session : ApexSession) : stagingDirs session ≠ [] := by
  unfold stagingDirs
  split
  · simp
  · assumption

/-- Before it touches the active directory, `StagePackages` computes what it will stage. -/
theorem wp_stagePackages (quiet : Quiet G) {paths : List FilePath} (nonempty : paths ≠ [])
    {Q : Except String Unit → World → Prop}
    (failed : ∀ e, verifiedPackages env w.fs paths = .error e → Q (.error e) w)
    (verified : ∀ apexFiles, verifiedPackages env w.fs paths = .ok apexFiles →
      wp device G (stageFiles apexFiles) Q w) :
    wp device G (stagePackages env paths) Q w := by
  rw [stagePackages, wp_bind]
  apply computes_openApexFiles quiet nonempty
  unfold verifiedPackages at failed verified
  cases opened : collectResults (openAt w.fs) paths with
  | error e => exact failed e (by rw [opened]; rfl)
  | ok apexFiles =>
    dsimp only
    rw [wp_bind]
    apply Computes.forM fun apexFile _ => computes_verifyBeforeStaging noReturn_device apexFile
    cases checked : checkAll (verifyOutcome env) apexFiles with
    | error e =>
      refine failed e ?_
      simp only [opened, bind, Except.bind, checked]
    | ok _ =>
      refine verified apexFiles ?_
      simp only [opened, bind, Except.bind, checked]

/-- A session fails with the message of its plan, or its packages are staged. -/
theorem wp_stageSession (quiet : Quiet G) {session : ApexSession}
    {Q : Except String (List String) → World → Prop}
    (failed : ∀ e, stagingPlan env w.fs session.state = .error e → Q (.error e) w)
    (planned : ∀ apexFiles names (context : String → String), stagingPlan env w.fs session.state = .ok apexFiles →
      wp device G (stageFiles apexFiles) (fun result w' => match result with
        | .ok _ => Q (.ok names) w'
        | .error e => Q (.error (context e)) w') w) :
    wp device G (stageSession env session) Q w := by
  rw [stageSession]
  unfold stagingPlan at failed planned
  by_cases changed : session.state.expectedBuildFingerprint ≠ env.buildFingerprint
  · rw [if_pos changed] at failed ⊢
    exact failed _ rfl
  · rw [if_neg changed] at failed planned ⊢
    by_cases unsafe' : (env.supportsFsCheckpoints && !env.inFsCheckpointMode) = true
    · rw [if_pos unsafe'] at failed ⊢
      exact failed _ rfl
    · rw [if_neg unsafe'] at failed planned ⊢
      rw [wp_bind]
      apply Computes.collect fun stagingId _ => computes_scanStagingDir quiet session stagingId
      change ∀ e, (collectResults (scanOutcome w.fs session.state) (stagingDirs session) >>= _) =
        .error e → _ at failed
      change ∀ apexFiles names (context : String → String),
        (collectResults (scanOutcome w.fs session.state) (stagingDirs session) >>= _) =
          .ok apexFiles → _ at planned
      cases scanned : collectResults (scanOutcome w.fs session.state) (stagingDirs session) with
      | error e =>
        rw [scanned] at failed
        exact failed e rfl
      | ok apexes =>
        rw [scanned] at failed planned
        change ∀ e, (verifiedPackages env w.fs apexes).mapError (activationFailed apexes) =
          .error e → _ at failed
        change ∀ apexFiles names (context : String → String),
          (verifiedPackages env w.fs apexes).mapError (activationFailed apexes) =
            .ok apexFiles → _ at planned
        dsimp only
        rw [wp_bind]
        apply computes_openedNames quiet
        dsimp only
        rw [wp_bind, wp_mapError]
        have nonempty : apexes ≠ [] := by
          obtain ⟨stagingId, member⟩ := List.exists_mem_of_ne_nil _ (stagingDirs_ne_nil session)
          obtain ⟨path, found, _⟩ := exists_of_mem_of_collectResults scanned member
          exact List.ne_nil_of_mem found
        refine wp_stagePackages quiet nonempty (fun e outcome => ?_) fun apexFiles outcome => ?_
        · exact failed (activationFailed apexes e) (by rw [outcome]; rfl)
        · refine wp_mono (planned apexFiles (namesOf w.fs apexes) (activationFailed apexes) ?_) ?_
          · rw [outcome]
            rfl
          · intro result w' post
            cases result <;> exact post

/-! ## What a plan depends on -/

/-- The same packages wait in the staging directories. -/
def SameStaged (fs fs' : FileSystem DirId Content) : Prop :=
  ∀ stagingId, fs'.dir (.staged stagingId) = fs.dir (.staged stagingId)

variable {fs fs' fs'' : FileSystem DirId Content}

theorem SameStaged.refl (fs : FileSystem DirId Content) : SameStaged fs fs :=
  fun _ => rfl

theorem SameStaged.trans (first : SameStaged fs fs') (second : SameStaged fs' fs'') :
    SameStaged fs fs'' :=
  fun stagingId => (second stagingId).trans (first stagingId)

theorem SameStaged.file (same : SameStaged fs fs') {path : FilePath} {stagingId : Int}
    (staged : path.dir = .staged stagingId) : fs'.file path = fs.file path := by
  rw [FileSystem.file, FileSystem.file, staged, FileSystem.files_of_dir_eq (same stagingId)]

theorem SameStaged.scanOutcome (same : SameStaged fs fs') (state : SessionState) (stagingId : Int) :
    scanOutcome fs' state stagingId = Apexd.scanOutcome fs state stagingId := by
  rw [Apexd.scanOutcome, Apexd.scanOutcome, FileSystem.has, FileSystem.has,
    FileSystem.files_of_dir_eq (same stagingId), same stagingId]

theorem dir_of_onePackage {state : SessionState} {stagingId : Int} {names : List String}
    {path : FilePath}
    (one : onePackage state stagingId (withSuffix (.staged stagingId) [kApexPackageSuffix] names) =
      .ok path) : path.dir = .staged stagingId := by
  have member : path ∈ withSuffix (.staged stagingId) [kApexPackageSuffix] names := by
    generalize withSuffix (.staged stagingId) [kApexPackageSuffix] names = found at one
    match found with
    | [] => cases one
    | [apex] =>
      cases one
      exact List.mem_singleton_self _
    | _ :: _ :: _ => cases one
  obtain ⟨name, _, rfl⟩ := List.mem_map.mp member
  rfl

theorem dir_of_scanOutcome {state : SessionState} {stagingId : Int} {path : FilePath}
    (scanned : scanOutcome fs state stagingId = .ok path) : path.dir = .staged stagingId := by
  rw [scanOutcome] at scanned
  split at scanned
  · exact dir_of_onePackage scanned
  · cases scanned

/-- A file that waits to be staged: where it is, and that it is an APEX. -/
structure Waits (fs : FileSystem DirId Content) (apexFile : ApexFile) : Prop where
  staged : ∃ stagingId, apexFile.path.dir = .staged stagingId
  present : fs.file apexFile.path = some (.apex apexFile.archive)
  valid : apexFile.archive.IsValid

theorem verifiedPackages_eq_ok {paths : List FilePath} {apexFiles : List ApexFile}
    (verified : verifiedPackages env fs paths = .ok apexFiles) :
    collectResults (openAt fs) paths = .ok apexFiles := by
  rw [verifiedPackages] at verified
  cases opened : collectResults (openAt fs) paths with
  | error e =>
    rw [opened] at verified
    cases verified
  | ok found =>
    cases checked : checkAll (verifyOutcome env) found with
    | error e => simp [opened, bind, Except.bind, checked] at verified
    | ok _ => simpa [opened, bind, Except.bind, checked] using verified

/-- The steps by which a plan comes about. -/
theorem stagingPlan_eq_ok {state : SessionState} {apexFiles : List ApexFile}
    (planned : stagingPlan env fs state = .ok apexFiles) :
    ∃ apexes, collectResults (scanOutcome fs state) (stagingDirs ⟨state, ""⟩) = .ok apexes ∧
      collectResults (openAt fs) apexes = .ok apexFiles := by
  rw [stagingPlan] at planned
  split at planned
  · cases planned
  · split at planned
    · cases planned
    · cases scanned : collectResults (scanOutcome fs state) (stagingDirs ⟨state, ""⟩) with
      | error e =>
        rw [scanned] at planned
        cases planned
      | ok apexes =>
        rw [scanned] at planned
        cases verified : verifiedPackages env fs apexes with
        | error e => simp [bind, Except.bind, verified, Except.mapError] at planned
        | ok found =>
          refine ⟨apexes, rfl, ?_⟩
          simp only [bind, Except.bind, verified, Except.mapError, Except.ok.injEq] at planned
          rw [← planned]
          exact verifiedPackages_eq_ok verified

theorem waits_of_plan {state : SessionState} {apexFiles : List ApexFile}
    (planned : stagingPlan env fs state = .ok apexFiles) :
    ∀ apexFile ∈ apexFiles, Waits fs apexFile := by
  obtain ⟨apexes, scanned, opened⟩ := stagingPlan_eq_ok planned
  intro apexFile member
  obtain ⟨path, pathMember, openedPath⟩ :=
    exists_of_mem_collectResults opened member
  obtain ⟨stagingId, _, scannedPath⟩ :=
    exists_of_mem_collectResults scanned pathMember
  obtain ⟨present, rfl, valid⟩ := openAt_eq_ok_iff.mp openedPath
  exact ⟨⟨stagingId, dir_of_scanOutcome scannedPath⟩, present, valid⟩

/-- A plan depends on the staging directories only. -/
theorem SameStaged.stagingPlan (same : SameStaged fs fs') (state : SessionState) :
    stagingPlan env fs' state = Apexd.stagingPlan env fs state := by
  have scans : collectResults (Apexd.scanOutcome fs' state) (stagingDirs ⟨state, ""⟩) =
      collectResults (Apexd.scanOutcome fs state) (stagingDirs ⟨state, ""⟩) :=
    collectResults_congr fun stagingId _ => same.scanOutcome state stagingId
  rw [Apexd.stagingPlan, Apexd.stagingPlan, scans]
  cases scanned : collectResults (Apexd.scanOutcome fs state) (stagingDirs ⟨state, ""⟩) with
  | error e => rfl
  | ok apexes =>
    have opens : collectResults (openAt fs') apexes = collectResults (openAt fs) apexes := by
      refine collectResults_congr fun path member => ?_
      obtain ⟨stagingId, _, scannedPath⟩ :=
        exists_of_mem_collectResults scanned member
      rw [openAt, openAt, same.file (dir_of_scanOutcome scannedPath)]
    simp only [bind, Except.bind, verifiedPackages, opens]

end Apexd
