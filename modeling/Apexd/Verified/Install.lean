import Apexd.Verified.Settled

/-! # What a failed installation leaves

`InstallPackage` goes back to the previous version where a step fails, unless what fails is the
unmount of the previous version itself, after its entry was removed, or the bind mount of the new
one.
-/

namespace Apexd

open Process Storage

variable {env : InstallEnvironment} {packagePath : FilePath} {force : Bool} {w w' : World}
  {package : String} {data : MountedApexData} {log log' : List Call} {plan : InstallPlan}

/-! ## Preparation -/

theorem peripheral_freeMinor {P : String → Prop} (apex : ApexFile) (left : Nat) (nextMinor : UInt64) :
    (freeMinor apex left nextMinor).Within (Peripheral P) := by
  induction left generalizing nextMinor with
  | zero => exact peripheral_fatal
  | succ left ih =>
    refine (peripheral_accessible _).bind fun found => ?_
    split
    · exact ih _
    · trivial

theorem peripheral_computePackageIdMinor {P : String → Prop} (apex : ApexFile) :
    (computePackageIdMinor env apex).Within (Peripheral P) := by
  have listing : (kernelCall .listDevices).Within (Peripheral P) := ⟨⟨trivial, trivial⟩, fun _ => trivial⟩
  refine (listing.mapError _).bind fun devices => (Program.within_ofExcept _).bind fun scan => ?_
  split
  · trivial
  · exact peripheral_freeMinor _ _ _

theorem frames_computePackageIdMinor {P : DirId → Prop} (apex : ApexFile) :
    Frames P (computePackageIdMinor env apex) := by
  have free (left : Nat) (nextMinor : UInt64) : Frames P (freeMinor apex left nextMinor) := by
    induction left generalizing nextMinor with
    | zero => exact frames_fatal
    | succ left ih =>
      refine (frames_accessible _).bind fun found => ?_
      split
      · exact ih _
      · trivial
  refine ((frames_kernelCall _).mapError _).bind fun devices => (Program.within_ofExcept _).bind fun scan => ?_
  split
  · trivial
  · exact free _ _

theorem keeping_computePackageIdMinor (apex : ApexFile) :
    Keeping (computePackageIdMinor env apex) := by
  have free (left : Nat) (nextMinor : UInt64) : Keeping (freeMinor apex left nextMinor) := by
    induction left generalizing nextMinor with
    | zero => exact keeping_fatal
    | succ left ih =>
      refine (keeping_accessible _).bind fun found => ?_
      split
      · exact ih _
      · trivial
  refine ((keeping_kernelCall _).mapError _).bind fun devices => (Program.within_ofExcept _).bind fun scan => ?_
  split
  · trivial
  · exact free _ _

/-- The second half of the preparation, which mounts the new APEX temporarily. -/
def verifyAndName (env : InstallEnvironment) (tempApex : ApexFile) (force : Bool) :
    Procedure UInt64 := do
  verifyPackageNonStagedInstall env tempApex force
  computePackageIdMinor env tempApex

theorem wp_logged_verifyAndName {tempApex : ApexFile} :
    wp logged Anything (verifyAndName env tempApex force) (fun _ st =>
      Undisturbed tempApex.manifest.name w st.1 ∧
        Logged (Peripheral (VerifiedAt tempApex.manifest.name)) log st.2) (w, log) := by
  have inside : VerifiedAt tempApex.manifest.name (getPackageTempMountPoint tempApex.manifest) :=
    ⟨_, rfl, .inl rfl⟩
  refine wp_undisturbed ?_ (fun S before only => ?_) ?_
  · have verified : Frames (· = .hashTree) (verifyPackageNonStagedInstall env tempApex force) := by
      refine (frames_verifyPackageBoot (P := (· = .hashTree)) rfl).bind fun _ => ?_
      split
      · exact frames_runVerifyFnInsideTempMount (P := (· = .hashTree)) rfl _ _
      · exact (frames_verifyAndTempMountPackage (P := (· = .hashTree)) rfl _).bind fun _ => frames_fatal
    exact verified.bind fun _ => frames_computePackageIdMinor _
  · have named (w₁ : World) (only₁ : OnlyTempsOf S before w₁.database) :
        wp failing Anything (computePackageIdMinor env tempApex)
          (fun _ w' => OnlyTempsOf S before w'.database) w₁ := by
      refine wp_mono (wp_keeping (keeping_computePackageIdMinor _)) fun _ w₂ same => ?_
      rw [same]
      exact only₁
    rw [verifyAndName, wp_bind, verifyPackageNonStagedInstall, wp_bind]
    refine wp_mono (wp_verifyPackageBoot only) fun result w₁ only₁ => ?_
    cases result with
    | error e => exact only₁
    | ok _ =>
      dsimp only
      split
      · refine wp_mono (wp_runVerifyFnInsideTempMount only₁) fun result w₂ only₂ => ?_
        rw [if_pos rfl] at only₂
        cases result with
        | error e => exact only₂
        | ok _ => exact named w₂ only₂
      · rw [wp_bind]
        refine wp_mono (wp_verifyAndTempMountPackage only₁) fun result w₂ after => ?_
        cases result with
        | error e => exact after.1
        | ok _ =>
          -- the process ends before the temporary mount is taken back
          refine wp_withFaults (fun reply w₃ answer => answer.elim) fun mayFail => mayFail.elim
  · rw [verifyAndName, wp_bind, verifyPackageNonStagedInstall, wp_bind]
    have named (w₁ : World) : wp failing (Peripherally (VerifiedAt tempApex.manifest.name))
        (computePackageIdMinor env tempApex) (fun _ _ => True) w₁ :=
      wp_peripheral (peripheral_computePackageIdMinor _)
    refine wp_mono (wp_peripheral_verifyPackageBoot fun _ => id) fun result w₁ _ => ?_
    cases result with
    | error e => trivial
    | ok _ =>
      dsimp only
      split
      · refine wp_mono (wp_peripheral_runVerifyFnInsideTempMount inside) fun result w₂ _ => ?_
        cases result with
        | error e => trivial
        | ok _ => exact named w₂
      · rw [wp_bind]
        refine wp_mono (wp_peripheral_verifyAndTempMountPackage inside) fun result w₂ _ => ?_
        cases result with
        | error e => trivial
        | ok _ =>
          refine wp_mono (wp_peripheral peripheral_fatal) fun result w₃ _ => ?_
          cases result with
          | error e => trivial
          | ok _ => exact named w₃

/-- What is known once the checks have passed. -/
structure Prepared (w : World) (packagePath : FilePath) (package : String) (plan : InstallPlan) :
    Prop where
  opened : openAt w.fs packagePath = .ok plan.tempApex
  named : plan.tempApex.manifest.name = package
  latest : (w.database.mountsOf package).latest = some plan.curMountedData
  notTemp : plan.curMountedData.isTempMount = false
  current : openAt w.fs plan.curMountedData.fullPath = .ok plan.curApex

theorem getLatestMountedApex_eq_some {database : MountedApexDatabase}
    (found : database.getLatestMountedApex package = some data) :
    (database.mountsOf package).latest = some data ∧ data.isTempMount = false := by
  cases last : (database.mountsOf package).latest with
  | none =>
    have empty : (database.mountsOf package).entries = [] := List.getLast?_eq_none_iff.mp last
    simp [MountedApexDatabase.getLatestMountedApex, MountedApexDatabase.forallMountedApexesOf,
      MountedSet.reversed, empty] at found
  | some top =>
    rw [MountedApexDatabase.getLatestMountedApex_eq last] at found
    split at found
    · cases found
    · rename_i notTemp
      cases found
      exact ⟨rfl, by simpa using notTemp⟩

theorem wp_logged_getLatestMountedApex
    {Q : Except String (Option MountedApexData) → World × List Call → Prop}
    (post : Q (.ok (w.database.getLatestMountedApex package)) (w, log)) :
    wp logged Anything (getLatestMountedApex package) Q (w, log) := by
  rw [getLatestMountedApex, wp_bind]
  exact wp_logged_forallMountedApexesOf post

theorem wp_logged_prepareInstall
    (named : ∀ apex, openAt w.fs packagePath = .ok apex → apex.manifest.name = package)
    {Q : Except String InstallPlan → World × List Call → Prop}
    (failed : ∀ e w₁ log₁, Undisturbed package w w₁ →
      Logged (Peripheral (VerifiedAt package)) log log₁ → Q (.error e) (w₁, log₁))
    (prepared : ∀ plan w₁ log₁, Prepared w packagePath package plan → Undisturbed package w w₁ →
      Logged (Peripheral (VerifiedAt package)) log log₁ → Q (.ok plan) (w₁, log₁)) :
    wp logged Anything (prepareInstall env packagePath force) Q (w, log) := by
  have read {path : FilePath} {log₁ log₂ : List Call} (reads : Logged (· = .fs (.read path)) log₁ log₂) :
      Logged (Peripheral (VerifiedAt package)) log₁ log₂ :=
    reads.mono fun _ same => same ▸ ⟨trivial, trivial⟩
  rw [prepareInstall, wp_bind]
  refine wp_logged_open (fun tempApex opened => ?_) fun e log₁ reads => failed _ _ _ (.refl _ _) (read reads)
  have isNamed := named tempApex opened
  dsimp only
  rw [wp_bind]
  refine wp_logged_getLatestMountedApex ?_
  dsimp only
  cases found : w.database.getLatestMountedApex tempApex.manifest.name with
  | none => exact failed _ _ _ (.refl _ _) (.refl _ _)
  | some curMountedData =>
    obtain ⟨latest, notTemp⟩ := getLatestMountedApex_eq_some found
    dsimp only
    rw [wp_bind]
    refine wp_logged_open (fun curApex current => ?_) fun e log₁ reads => failed _ _ _ (.refl _ _) (read reads)
    dsimp only
    rw [wp_bind, wp_ofExcept]
    cases checkSupportsNonStagedInstall env tempApex force with
    | error e => exact failed _ _ _ (.refl _ _) (.refl _ _)
    | ok _ =>
      change wp logged Anything (do
        verifyPackageNonStagedInstall env tempApex force
        let newIdMinor ← computePackageIdMinor env tempApex
        pure (⟨tempApex, curMountedData, curApex, newIdMinor⟩ : InstallPlan)) Q (w, log)
      have grouped : (do
          verifyPackageNonStagedInstall env tempApex force
          let newIdMinor ← computePackageIdMinor env tempApex
          pure (⟨tempApex, curMountedData, curApex, newIdMinor⟩ : InstallPlan)) =
          verifyAndName env tempApex force >>= fun newIdMinor =>
            pure ⟨tempApex, curMountedData, curApex, newIdMinor⟩ := by
        rw [verifyAndName, Program.bind_assoc]
      rw [grouped, wp_bind]
      refine wp_mono wp_logged_verifyAndName ?_
      rintro result ⟨w₁, log₁⟩ ⟨undisturbed, isLogged⟩
      rw [isNamed] at undisturbed isLogged latest
      cases result with
      | error e => exact failed e w₁ log₁ undisturbed isLogged
      | ok newIdMinor =>
        exact prepared _ w₁ log₁ ⟨opened, isNamed, latest, notTemp, current⟩ undisturbed isLogged

/-! ## Runs that fail -/

/-- How an installation fails: while it is prepared, while the previous version is unloaded or
unmounted, or later, where `remounted` holds of the activation of the previous APEX by the scope
guard. -/
inductive FailedInstall (env : InstallEnvironment) (packagePath : FilePath) (force : Bool)
    (remounted : ApexFile → World → Except String Unit → Prop) (w : World) :
    String → World × List Call → Prop
  | prepare {e : String} {st : World × List Call}
      (run : Runs logged (prepareInstall env packagePath force) (w, []) (.error e) st) :
      FailedInstall env packagePath force remounted w e st
  | unload {plan : InstallPlan} {e : String} {st₁ st : World × List Call}
      (prepared : Runs logged (prepareInstall env packagePath force) (w, []) (.ok plan) st₁)
      (run : Runs logged (unloadApexFromInit plan.moduleName) st₁ (.error e) st) :
      FailedInstall env packagePath force remounted w e st
  | unmount {plan : InstallPlan} {e : String} {st₁ st₂ st₃ st : World × List Call}
      (prepared : Runs logged (prepareInstall env packagePath force) (w, []) (.ok plan) st₁)
      (unloaded : Runs logged (unloadApexFromInit plan.moduleName) st₁ (.ok ()) st₂)
      (run : Runs logged (unmountPackage plan.curApex true true force) st₂ (.error e) st₃)
      (loaded : Runs logged (loadApexFromInit plan.moduleName).ignore st₃ (.ok ()) st) :
      FailedInstall env packagePath force remounted w e st
  | install {plan : InstallPlan} {e : String} {st₁ st₂ st₃ st₄ st₅ st₆ st : World × List Call}
      {result : Except String Unit}
      (prepared : Runs logged (prepareInstall env packagePath force) (w, []) (.ok plan) st₁)
      (unloaded : Runs logged (unloadApexFromInit plan.moduleName) st₁ (.ok ()) st₂)
      (unmounted : Runs logged (unmountPackage plan.curApex true true force) st₂ (.ok ()) st₃)
      (run : Runs logged (linkAndActivate env.toEnvironment packagePath plan) st₃ (.error e) st₄)
      (unlinked : Runs logged (unlink plan.targetFile).ignore st₄ (.ok ()) st₅)
      (guard : Runs logged
        (activatePackageImpl env.toEnvironment plan.curApex plan.oldNewId false) st₅ result st₆)
      (isRemounted : remounted plan.curApex st₅.1 result)
      (loaded : Runs logged (loadApexFromInit plan.moduleName).ignore st₆ (.ok ()) st) :
      FailedInstall env packagePath force remounted w e st

/-- The cases are those of a run of `InstallPackage` that returns an error. -/
theorem runs_installPackage_error_iff {e : String} {st : World × List Call} :
    Runs logged (installPackage env packagePath force) (w, []) (.error e) st ↔
      FailedInstall env packagePath force (fun _ _ _ => True) w e st := by
  constructor
  · intro run
    obtain ⟨first, st₁, prepared, rest⟩ := runs_bind.mp run
    cases first with
    | error e' =>
      obtain ⟨same, rfl⟩ := rest
      cases same
      exact .prepare prepared
    | ok plan =>
      obtain ⟨unloading, st₂, unloaded, rest⟩ := runs_bind.mp rest
      cases unloading with
      | error e' =>
        obtain ⟨same, rfl⟩ := rest
        cases same
        exact .unload prepared unloaded
      | ok _ =>
        obtain ⟨_, st₃, attempted, rest⟩ := runs_bind.mp rest
        obtain ⟨replaced, replacing, rfl⟩ := runs_attempt.mp attempted
        obtain ⟨_, st₄, loaded, rest⟩ := runs_bind.mp rest
        obtain ⟨rfl, _⟩ := runs_ignore.mp loaded
        obtain ⟨same, rfl⟩ := runs_done.mp rest
        rw [← same] at replacing
        obtain ⟨unmounting, st₅, unmounted, rest⟩ := runs_bind.mp replacing
        cases unmounting with
        | error e' =>
          obtain ⟨same, rfl⟩ := rest
          cases same
          exact .unmount prepared unloaded unmounted loaded
        | ok _ =>
          obtain ⟨installing, st₆, installed, rest⟩ := runs_bind.mp rest
          cases installing with
          | error e' =>
            obtain ⟨same, rfl⟩ := rest
            cases same
            obtain ⟨st₇, failed, _, guarded⟩ := runs_onError_error.mp installed
            obtain ⟨_, st₈, unlinked, guard⟩ := runs_bind.mp guarded
            obtain ⟨rfl, _⟩ := runs_ignore.mp unlinked
            exact .install prepared unloaded unmounted failed unlinked guard trivial loaded
          | ok newApex =>
            -- what follows the activation does not fail
            have never : ((do
                if !env.repository.isPreInstalledApex plan.curApex then
                  (unlink plan.curMountedData.fullPath).ignore
                (updateApexInfoList env.toEnvironment).ignore
                pure newApex) : Procedure ApexFile).Succeeds fun _ => False := by
              split
              · exact (Program.succeeds_ignore _).bind fun _ => (Program.succeeds_ignore _).bind fun _ => trivial
              · exact (Program.succeeds_ignore _).bind fun _ => trivial
            have isOk := wp_runs (wp_succeeds (fun _ impossible => impossible.elim) never
              (wp_anything _ _)) rest
            obtain ⟨_, _, impossible⟩ := isOk
            cases impossible
  · intro failed
    cases failed with
    | prepare run => exact runs_bind.mpr ⟨_, _, run, rfl, rfl⟩
    | unload prepared run => exact runs_bind.mpr ⟨_, _, prepared, runs_bind.mpr ⟨_, _, run, rfl, rfl⟩⟩
    | unmount prepared unloaded run loaded =>
      have replacing : Runs logged (replaceActive env.toEnvironment packagePath force _) _ (.error e) _ :=
        runs_bind.mpr ⟨_, _, run, rfl, rfl⟩
      refine runs_bind.mpr ⟨_, _, prepared, runs_bind.mpr ⟨_, _, unloaded, ?_⟩⟩
      refine runs_bind.mpr ⟨_, _, runs_attempt.mpr ⟨_, replacing, rfl⟩, ?_⟩
      exact runs_bind.mpr ⟨_, _, loaded, runs_done.mpr ⟨rfl, rfl⟩⟩
    | install prepared unloaded unmounted run unlinked guard _ loaded =>
      have guarded : Runs logged (installGuard env.toEnvironment _) _ _ _ :=
        runs_bind.mpr ⟨_, _, unlinked, guard⟩
      have replacing : Runs logged (replaceActive env.toEnvironment packagePath force _) _ (.error e) _ :=
        runs_bind.mpr ⟨_, _, unmounted, runs_bind.mpr ⟨_, _,
          runs_onError_error.mpr ⟨_, run, _, guarded⟩, rfl, rfl⟩⟩
      refine runs_bind.mpr ⟨_, _, prepared, runs_bind.mpr ⟨_, _, unloaded, ?_⟩⟩
      refine runs_bind.mpr ⟨_, _, runs_attempt.mpr ⟨_, replacing, rfl⟩, ?_⟩
      exact runs_bind.mpr ⟨_, _, loaded, runs_done.mpr ⟨rfl, rfl⟩⟩

end Apexd
