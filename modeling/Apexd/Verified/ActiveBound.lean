import Apexd.Process.System
import Apexd.Verified.InfoList
import Apexd.Verified.WellMounted

/-! # Active means bound

After any sequence of calls whose mount operations succeed, the latest version of every package is
bound at `/apex/name`, as long as no call takes the latest version away while an older one that
needs a bind mount stays mounted.
-/

namespace Apexd

open Process Storage

variable {env : Environment} {w w₁ w₂ w' : World} {package other : String} {data : MountedApexData}
  {apex : ApexFile} {path : FilePath}

/-- The calls that may fail while mount operations succeed; `access` answers as it is. -/
def MayFailBeside : Call → Prop
  | .fs (.access _) | .fs (.unlink _) => False
  | .kernel (.mountImage _) | .kernel (.umount _ _) => False
  | .database _ | .fatal => False
  | _ => True

/-- The device on which mount operations succeed and other calls may fail. -/
def steady : Semantics apexd String World := fun request w reply w' =>
  device.withFaults MayFailBeside request w reply w' ∧
    (MountOperation request → ∃ value, reply = .ok value)

/-- Its runs are logged runs in which no mount operation failed. -/
theorem exists_runs_logged {α : Type} {p : Procedure α} {w w' : World} {result : Except String α}
    (run : Runs steady p w result w') : ∃ log, Runs logged p (w, []) result (w', log) ∧
      ∀ request ∈ log, ¬ MountOperation request := by
  have logging : ∃ log, Runs logged p (w, []) result (w', log) ∧
      Logged (fun request => ¬ MountOperation request) [] log := by
    refine exists_runs_withLog ?_ ?_ run
    · rintro request state value state' ⟨answer | ⟨-, ⟨e, failed⟩, -⟩, -⟩
      · exact answer
      · cases failed
    · rintro request state e state' ⟨answer, succeeds⟩
      have notMount : ¬ MountOperation request := fun isMount => by
        obtain ⟨value, isOk⟩ := succeeds isMount
        cases isOk
      refine ⟨notMount, answer.imp_right ?_⟩
      rintro ⟨mayFail, -, same⟩
      refine ⟨?_, same⟩
      cases request with
      | fs request => cases request <;> trivial
      | database request => exact mayFail.elim
      | fatal => exact mayFail.elim
      | _ => trivial
  obtain ⟨log, run', isLogged⟩ := logging
  exact ⟨log, run', isLogged.forall_mem (List.forall_mem_nil _)⟩

/-- What holds of logged runs without a failed mount operation holds on that device. -/
theorem wp_steady {α : Type} {p : Procedure α} {Q : Except String α → World → Prop}
    (holds : wp logged Anything p (fun result st =>
      (∀ request ∈ st.2, ¬ MountOperation request) → Q result st.1) (w, [])) :
    wp steady Anything p Q w := by
  refine wp_of_runs fun result w' run => ?_
  obtain ⟨log, run', notMounts⟩ := exists_runs_logged run
  exact wp_runs holds run' notMounts

theorem wp_steady_open {Q : Except String ApexFile → World → Prop}
    (opened : ∀ apex, openAt w.fs path = .ok apex → Q (.ok apex) w)
    (failed : ∀ e, Q (.error e) w) : wp steady Anything (ApexFile.open path) Q w := by
  refine wp_steady (wp_logged_open (fun apex isOpened _ => ?_) fun e log' _ _ => ?_)
  · exact opened apex isOpened
  · exact failed e

/-! ## Activation and unmount -/

/-- An APEX that can be told apart from the mounts there are. -/
structure World.Activatable (w : World) (apex : ApexFile) : Prop where
  outside : apex.path.dir ≠ .hashTree
  noAt : '@' ∉ apex.manifest.name.toList
  spelled : w.Spelled apex.manifest.name apex.path

theorem wp_steady_activatePackageImpl {deviceName : String} {reuseDevice : Bool}
    (wellMounted : w.WellMounted) (opened : openAt w.fs apex.path = .ok apex)
    (activatable : w.Activatable apex) :
    wp steady Anything (activatePackageImpl env apex deviceName reuseDevice) (AfterActivation w apex) w :=
  wp_steady (wp_logged_activates wellMounted opened activatable.outside activatable.noAt
    activatable.spelled)

theorem wp_steady_activatePackage (wellMounted : w.WellMounted)
    (activatable : ∀ apex, openAt w.fs path = .ok apex → w.Activatable apex)
    {Q : Except String Unit → World → Prop} (unopened : ∀ e, Q (.error e) w)
    (activates : ∀ apex result w', openAt w.fs path = .ok apex → AfterActivation w apex result w' →
      Q result w') : wp steady Anything (activatePackage env path) Q w := by
  rw [activatePackage, wp_bind]
  refine wp_steady_open (fun apex opened => ?_) unopened
  have isApex : openAt w.fs apex.path = .ok apex := by
    rw [(openAt_eq_ok_iff.mp opened).2.1, opened]
  refine wp_mono (wp_steady_activatePackageImpl wellMounted isApex (activatable apex opened)) ?_
  exact fun result w' activated => activates apex result w' opened activated

theorem wp_steady_unmountPackage {deferred detach : Bool} (wellMounted : w.WellMounted)
    (releasable : w.Releasable apex) :
    wp steady Anything (unmountPackage apex true deferred detach) (AfterUnmount w apex) w :=
  wp_steady (wp_logged_unmounts wellMounted releasable)

theorem wp_steady_deactivatePackage (wellMounted : w.WellMounted)
    (releasable : ∀ apex, openAt w.fs path = .ok apex → w.Releasable apex)
    {Q : Except String Unit → World → Prop} (unopened : ∀ e, Q (.error e) w)
    (unmounts : ∀ apex result w', openAt w.fs path = .ok apex → AfterUnmount w apex result w' →
      Q result w') : wp steady Anything (deactivatePackage path) Q w := by
  rw [deactivatePackage, wp_bind]
  refine wp_steady_open (fun apex opened => ?_) unopened
  refine wp_mono (wp_steady_unmountPackage wellMounted (releasable apex opened)) ?_
  exact fun result w' unmounted => unmounts apex result w' opened unmounted

/-! ## Remounting -/

section Releasable

variable (releasable : w.Releasable apex) (wellMounted : w.WellMounted)

include releasable wellMounted

/-- An APEX stays releasable if the mounts of its package and their files stay as they are. -/
theorem World.Releasable.congr
    (files : ∀ path : FilePath, path.dir ≠ .hashTree → w'.fs.file path = w.fs.file path)
    (mountsOf : w'.database.mountsOf apex.manifest.name = w.database.mountsOf apex.manifest.name)
    (images : '@' ∉ apex.manifest.name.toList →
      imagesAt w'.mounts (kApexRoot ++ "/" ++ apex.manifest.name) =
        imagesAt w.mounts (kApexRoot ++ "/" ++ apex.manifest.name)) : w'.Releasable apex := by
  intro data latest path next below apex' opened notShared
  obtain ⟨member, notData, above⟩ := below
  rw [mountsOf] at latest member above
  have recorded := (wellMounted.settled _).recorded next member
  rw [openAt_congr (files _ recorded.outside)] at opened
  rw [visibleAt_eq_head?, images (wellMounted.named _ next member), ← visibleAt_eq_head?]
  exact releasable data latest path next ⟨member, notData, above⟩ apex' opened notShared

theorem World.Releasable.of_changesOnly (changesOnly : ChangesOnly package w w')
    (ne : apex.manifest.name ≠ package) : w'.Releasable apex :=
  releasable.congr wellMounted changesOnly.files (changesOnly.mountsOf _ ne)
    (changesOnly.images _ ne)

theorem World.Releasable.of_undisturbed (undisturbed : Undisturbed package w w') :
    w'.Releasable apex :=
  releasable.congr wellMounted (fun _ outside => undisturbed.file outside)
    ((wellMounted.settled _).mountsOf_eq undisturbed) fun noAt => undisturbed.images _ fun isVerified =>
      at_not_mem_activeMountPoint noAt (at_mem_of_verifiedAt isVerified)

end Releasable

theorem wp_steady_remountApexFile (wellMounted : w.WellMounted)
    (member : data ∈ (w.database.mountsOf package).entries)
    (releasable : ∀ apex, openAt w.fs data.fullPath = .ok apex → w.Releasable apex) :
    wp steady Anything (remountApexFile env data.fullPath) (fun _ w' =>
      w'.WellMounted ∧ ChangesOnly package w w') w := by
  have recorded := (wellMounted.settled package).recorded data member
  have named {apex : ApexFile} (opened : openAt w.fs data.fullPath = .ok apex) :
      apex.manifest.name = package := by
    obtain ⟨apex', opened', isNamed, -⟩ := recorded.file
    cases opened.symm.trans opened'
    exact isNamed
  rw [remountApexFile, wp_bind]
  refine wp_steady_deactivatePackage wellMounted releasable (fun e => ?_)
    fun apex result w₁ opened unmounted => ?_
  · exact ⟨wellMounted, .refl _ _⟩
  · have unmounting : ChangesOnly package w w₁ := named opened ▸ unmounted.changesOnly
    cases result with
    | error e => exact ⟨unmounted.wellMounted, unmounting⟩
    | ok _ =>
      refine wp_steady_activatePackage unmounted.wellMounted (fun apex' opened' => ?_) (fun e => ?_)
        fun apex' result w₂ opened' activated => ?_
      · rw [unmounted.fs] at opened'
        cases opened.symm.trans opened'
        refine ⟨?_, ?_, fun other isOther same => (unmounted.gone rfl other isOther same).elim⟩
        · rw [(openAt_eq_ok_iff.mp opened).2.1]
          exact recorded.outside
        · rw [named opened]
          exact wellMounted.named package data member
      · exact ⟨unmounted.wellMounted, unmounting⟩
      · rw [unmounted.fs] at opened'
        exact ⟨activated.wellMounted, unmounting.trans (named opened' ▸ activated.changesOnly)⟩

/-- Packages whose latest mounts may be taken away for a moment. -/
structure World.Remountable (w : World) (mounts : List (String × MountedApexData)) : Prop where
  distinct : (mounts.map Prod.fst).Nodup
  latest : ∀ mount ∈ mounts, (w.database.mountsOf mount.1).latest = some mount.2
  releasable : ∀ mount ∈ mounts, ∀ apex, openAt w.fs mount.2.fullPath = .ok apex → w.Releasable apex

theorem World.Remountable.tail {mount : String × MountedApexData}
    {rest : List (String × MountedApexData)} (remountable : w.Remountable (mount :: rest))
    (wellMounted : w.WellMounted) (changesOnly : ChangesOnly mount.1 w w') :
    w'.Remountable rest := by
  obtain ⟨fresh, distinct⟩ := List.nodup_cons.mp remountable.distinct
  have ne {other : String × MountedApexData} (member : other ∈ rest) : other.1 ≠ mount.1 := fun same =>
    fresh (same ▸ List.mem_map_of_mem member)
  refine ⟨distinct, fun other member => ?_, fun other member apex opened => ?_⟩
  · rw [changesOnly.mountsOf other.1 (ne member)]
    exact remountable.latest other (List.mem_cons_of_mem _ member)
  · have latest := remountable.latest other (List.mem_cons_of_mem _ member)
    have recorded := (wellMounted.settled other.1).recorded other.2 (latest_mem latest)
    rw [openAt_congr (changesOnly.files _ recorded.outside)] at opened
    obtain ⟨apex', opened', named, -⟩ := recorded.file
    cases opened.symm.trans opened'
    refine (remountable.releasable other (List.mem_cons_of_mem _ member) apex opened).of_changesOnly
      wellMounted changesOnly ?_
    rw [named]
    exact ne member

theorem wp_steady_remountAll {mounts : List (String × MountedApexData)}
    (wellMounted : w.WellMounted) (remountable : w.Remountable mounts) :
    wp steady Anything (remountAll env (mounts.map fun mount => mount.2.fullPath))
      (fun _ w' => w'.WellMounted) w := by
  induction mounts generalizing w with
  | nil => exact wellMounted
  | cons mount rest ih =>
    have latest := remountable.latest mount List.mem_cons_self
    rw [List.map_cons, remountAll, wp_bind, wp_attempt]
    refine wp_mono (wp_steady_remountApexFile wellMounted (latest_mem latest)
      (remountable.releasable mount List.mem_cons_self)) ?_
    rintro ret w₁ ⟨wellMounted₁, changesOnly⟩
    dsimp only
    rw [wp_bind]
    refine wp_mono (ih wellMounted₁ (remountable.tail wellMounted changesOnly)) fun failed w₂ after => ?_
    cases failed with
    | error e => exact after
    | ok failed => cases ret <;> exact after

theorem World.WellMounted.noTempMounts (wellMounted : w.WellMounted) : NoTempMounts w.database :=
  fun package data member => ((wellMounted.settled package).recorded data member).notTemp

theorem wp_steady_remountPackages (wellMounted : w.WellMounted)
    (releasable : ∀ package data, (w.database.mountsOf package).latest = some data →
      ∀ apex, openAt w.fs data.fullPath = .ok apex → w.Releasable apex) :
    wp steady Anything (remountPackages env) (fun _ w' => w'.WellMounted) w := by
  have noTemp := wellMounted.noTempMounts
  have remountable : w.Remountable (latestMounts w.database) :=
    ⟨nodup_latestMounts noTemp, fun mount member => (mem_latestMounts noTemp).mp member,
      fun mount member => releasable mount.1 mount.2 ((mem_latestMounts noTemp).mp member)⟩
  have remounts : wp steady Anything (remountAll env
      ((latestMounts w.database).map fun mount => mount.2.fullPath)) (fun _ w' => w'.WellMounted) w :=
    wp_steady_remountAll wellMounted remountable
  rw [latestMounts, List.map_map] at remounts
  rw [remountPackages, wp_bind]
  refine wp_steady (wp_withLog (fun mounts w₁ answer => ⟨trivial, fun _ => ?_⟩) fun e w₁ answer => ?_)
  · cases answer
    dsimp only
    rw [wp_bind]
    refine wp_mono remounts fun failed w₂ after => ?_
    cases failed with
    | error e => exact after
    | ok failed =>
      dsimp only
      split <;> exact after
  · rcases answer with answer | ⟨impossible, _⟩
    · cases answer
    · exact impossible.elim

/-! ## Installation -/

section Install

variable {ienv : InstallEnvironment} {packagePath : FilePath} {force : Bool} {plan : InstallPlan}

/-- The minor that was found is that of no file. -/
theorem wp_steady_freeMinor (left : Nat) (nextMinor : UInt64) :
    wp steady Anything (freeMinor apex left nextMinor) (fun result w' =>
      ∀ minor, result = .ok minor → w'.fs.file (installTarget apex minor) = none) w := by
  induction left generalizing nextMinor with
  | zero =>
    rintro reply w' ⟨answer | ⟨impossible, -⟩, -⟩
    · exact answer.elim
    · exact impossible.elim
  | succ left ih =>
    rw [freeMinor, wp_bind, accessible, wp_bind, wp_attempt]
    rintro reply w' ⟨⟨fs', answered, rfl⟩ | ⟨impossible, -⟩, -⟩
    · cases answered
      refine ⟨trivial, ?_⟩
      cases found : (w.fs.file (installTarget apex nextMinor)).isSome with
      | true => exact ih (nextMinor + 1)
      | false =>
        intro minor same
        cases same
        exact Option.not_isSome_iff_eq_none.mp (by simp [found])
    · exact impossible.elim

theorem wp_steady_computePackageIdMinor :
    wp steady Anything (computePackageIdMinor ienv apex) (fun result w' =>
      ∀ minor, result = .ok minor → w'.fs.file (installTarget apex minor) = none) w := by
  rw [computePackageIdMinor, wp_bind]
  refine wp_mono (wp_anything _ _) fun listed w₁ _ => ?_
  cases listed with
  | error e => exact fun minor impossible => by cases impossible
  | ok dmDevices =>
    dsimp only
    rw [wp_bind, wp_ofExcept]
    cases dmDevices.foldlM (scanDmDevice ienv apex.manifest.name) ⟨0, 1⟩ with
    | error e => exact fun minor impossible => by cases impossible
    | ok scan =>
      dsimp only
      split
      · exact fun minor impossible => by cases impossible
      · exact wp_steady_freeMinor _ _

/-- No file has the name that the new APEX will have. -/
theorem wp_steady_prepareInstall_fresh :
    wp steady Anything (prepareInstall ienv packagePath force) (fun prepared w' =>
      ∀ plan, prepared = .ok plan → w'.fs.file plan.targetFile = none) w := by
  have failed {e : String} {w' : World} (plan : InstallPlan)
      (impossible : (.error e : Except String InstallPlan) = .ok plan) :
      w'.fs.file plan.targetFile = none := by cases impossible
  rw [prepareInstall, wp_bind]
  refine wp_mono (wp_anything _ _) fun opened w₁ _ => ?_
  cases opened with
  | error e => exact failed
  | ok tempApex =>
    dsimp only
    rw [wp_bind]
    refine wp_mono (wp_anything _ _) fun found w₂ _ => ?_
    rcases found with e | _ | curMountedData
    · exact failed
    · exact failed
    · dsimp only
      rw [wp_bind]
      refine wp_mono (wp_anything _ _) fun current w₃ _ => ?_
      cases current with
      | error e => exact failed
      | ok curApex =>
        dsimp only
        rw [wp_bind]
        refine wp_mono (wp_anything _ _) fun checked w₄ _ => ?_
        cases checked with
        | error e => exact failed
        | ok _ =>
          dsimp only
          rw [wp_bind]
          refine wp_mono (wp_anything _ _) fun verified w₅ _ => ?_
          cases verified with
          | error e => exact failed
          | ok _ =>
            dsimp only
            rw [wp_bind]
            refine wp_mono wp_steady_computePackageIdMinor fun named w₆ fresh => ?_
            cases named with
            | error e => exact failed
            | ok newIdMinor =>
              intro plan same
              cases same
              exact fresh newIdMinor rfl

theorem wp_steady_prepareInstall
    (named : ∀ apex, openAt w.fs packagePath = .ok apex → apex.manifest.name = package)
    {Q : Except String InstallPlan → World → Prop}
    (failed : ∀ e w₁, Undisturbed package w w₁ → Q (.error e) w₁)
    (prepared : ∀ plan w₁, Prepared w packagePath package plan → Undisturbed package w w₁ →
      w₁.fs.file plan.targetFile = none → Q (.ok plan) w₁) :
    wp steady Anything (prepareInstall ienv packagePath force) Q w := by
  have holds : wp steady Anything (prepareInstall ienv packagePath force) (fun result w₁ =>
      Undisturbed package w w₁ ∧ ∀ plan, result = .ok plan → Prepared w packagePath package plan) w := by
    refine wp_steady (wp_logged_prepareInstall named (fun e w₁ log₁ undisturbed _ _ => ?_)
      fun plan w₁ log₁ isPrepared undisturbed _ _ => ?_)
    · exact ⟨undisturbed, fun plan impossible => by cases impossible⟩
    · refine ⟨undisturbed, fun plan' same => ?_⟩
      cases same
      exact isPrepared
  refine wp_mono (wp_and_anything holds wp_steady_prepareInstall_fresh) ?_
  rintro result w₁ ⟨⟨undisturbed, isPrepared⟩, fresh⟩
  cases result with
  | error e => exact failed e w₁ undisturbed
  | ok plan => exact prepared plan w₁ (isPrepared plan rfl) undisturbed (fresh plan rfl)

theorem wp_steady_tellInit {sysprop apexName ready : String} :
    wp steady Anything (tellInit sysprop apexName ready) (fun _ w' => w' = w) w := by
  have tells : wp logged Anything (tellInit sysprop apexName ready) (fun _ st =>
      st.1 = w ∧ Harmless fooOne [] st.2) (w, []) := wp_logged_tellInit
  exact wp_steady (wp_mono tells fun _ _ told _ => told.1)

/-- The guard removes the new file and activates the previous version. -/
theorem wp_steady_installGuard (wellMounted : w.WellMounted)
    (current : openAt w.fs plan.curApex.path = .ok plan.curApex)
    (outside : plan.curApex.path.dir ≠ .hashTree)
    (noAt : '@' ∉ plan.curApex.manifest.name.toList)
    (released : ∀ data ∈ (w.database.mountsOf plan.curApex.manifest.name).entries,
      pathText data.fullPath ≠ pathText plan.curApex.path)
    (unused : ∀ package, ∀ data ∈ (w.database.mountsOf package).entries,
      data.fullPath ≠ plan.targetFile) (ne : plan.curApex.path ≠ plan.targetFile) :
    wp steady Anything (installGuard env plan) (fun _ w' => w'.WellMounted) w := by
  rw [installGuard, wp_bind]
  refine wp_steady (wp_logged_unlink_ignore fun w₁ log₁ files database mounts _ _ => ?_)
  have kept {path : FilePath} (other : path ≠ plan.targetFile) : w₁.fs.file path = w.fs.file path := by
    rw [files, Function.update_of_ne other]
  have wellMounted₁ : w₁.WellMounted :=
    wellMounted.of_files (fun package data member => kept (unused package data member)) database mounts
  have current₁ : openAt w₁.fs plan.curApex.path = .ok plan.curApex := by
    rw [openAt_congr (kept ne), current]
  refine wp_mono (wp_steady_activatePackageImpl wellMounted₁ current₁ ⟨outside, noAt, ?_⟩) ?_
  · intro data member same
    rw [database] at member
    exact (released data member same).elim
  · exact fun result w₂ activates => activates.wellMounted

/-- What linking and activating the new version leaves. -/
structure AfterLink (w : World) (plan : InstallPlan) (result : Except String ApexFile) (w' : World) :
    Prop where
  wellMounted : w'.WellMounted
  files : ∀ path : FilePath, path.dir ≠ .hashTree → path ≠ plan.targetFile →
    w'.fs.file path = w.fs.file path
  mountsOf : ∀ other, other ≠ plan.tempApex.manifest.name →
    w'.database.mountsOf other = w.database.mountsOf other
  entries : ∀ data ∈ (w'.database.mountsOf plan.tempApex.manifest.name).entries,
    data ∈ (w.database.mountsOf plan.tempApex.manifest.name).entries ∨
      ((∃ newApex, result = .ok newApex) ∧ data.fullPath = plan.targetFile)

theorem wp_steady_linkAndActivate (wellMounted : w.WellMounted)
    (opened : openAt w.fs packagePath = .ok plan.tempApex)
    (noAt : '@' ∉ plan.tempApex.manifest.name.toList)
    (spelled : w.Spelled plan.tempApex.manifest.name plan.targetFile)
    (fresh : w.fs.file plan.targetFile = none) :
    wp steady Anything (linkAndActivate env packagePath plan) (AfterLink w plan) w := by
  rw [linkAndActivate, wp_bind, orErrno, wp_mapError]
  refine wp_steady (wp_logged_link (fun content found _ exists' _ => ?_) fun e _ => ?_)
  · have kept {path : FilePath} (ne : path ≠ plan.targetFile) :
        (w.fs.write plan.targetFile content).file path = w.fs.file path := by
      rw [w.fs.file_write plan.targetFile exists' content, Function.update_of_ne ne]
    have unused (package : String) (data : MountedApexData)
        (member : data ∈ (w.database.mountsOf package).entries) : data.fullPath ≠ plan.targetFile := by
      intro same
      obtain ⟨apex, isOpen, -⟩ := ((wellMounted.settled package).recorded data member).file
      rw [same] at isOpen
      rw [(openAt_eq_ok_iff.mp isOpen).1] at fresh
      cases fresh
    have wellMounted₁ : World.WellMounted { w with fs := w.fs.write plan.targetFile content } :=
      wellMounted.of_files (fun package data member => kept (unused package data member)) rfl rfl
    change wp steady Anything (ApexFile.open plan.targetFile >>= fun _ => _) _ _
    rw [wp_bind]
    refine wp_steady_open (fun newApex isNew => ?_) fun e => ?_
    · obtain ⟨path, manifest⟩ := linked_opened opened found exists' isNew
      dsimp only
      rw [wp_bind]
      refine wp_mono (wp_steady_activatePackageImpl wellMounted₁ (path ▸ isNew)
        ⟨?_, manifest ▸ noAt, ?_⟩) fun result w₂ activates => ?_
      · rw [path]
        exact fun same => by cases same
      · rw [path, manifest]
        exact spelled
      · obtain ⟨wellMounted₂, changesOnly, entries⟩ := activates
        rw [manifest] at changesOnly entries
        have files (other : FilePath) (outside : other.dir ≠ .hashTree) (ne : other ≠ plan.targetFile) :
            w₂.fs.file other = w.fs.file other := (changesOnly.files other outside).trans (kept ne)
        cases result with
        | error e =>
          exact ⟨wellMounted₂, files, changesOnly.mountsOf, fun data member =>
            .inl ((entries data member).resolve_right fun added => by cases added.1)⟩
        | ok _ =>
          exact ⟨wellMounted₂, files, changesOnly.mountsOf, fun data member =>
            (entries data member).imp_right fun added => ⟨⟨newApex, rfl⟩, added.2.trans path⟩⟩
    · exact ⟨wellMounted₁, fun _ _ ne => kept ne, fun _ _ => rfl, fun _ member => .inl member⟩
  · exact ⟨wellMounted, fun _ _ _ => rfl, fun _ _ => rfl, fun _ member => .inl member⟩

/-- What is read and written around the list of packages. -/
def Observes : Call → Prop
  | .fs (.read _) | .database (.forallMountedApexes _) | .outside _ => True
  | _ => False

theorem observes_openAll (paths : List FilePath) : (openAll paths).Within Observes := by
  induction paths with
  | nil => trivial
  | cons path rest ih =>
    have opens : (ApexFile.open path).Within Observes :=
      ((Program.Within.perform trivial).mapError _).bind fun _ => Program.within_ofExcept _
    refine opens.attempt.bind fun opened => ih.bind fun apexFiles => ?_
    cases opened <;> trivial

theorem observes_updateApexInfoList : (updateApexInfoList env).Within Observes := by
  have active : getActivePackages.Within Observes :=
    (Program.Within.perform trivial).bind fun _ => observes_openAll _
  have factory : (getFactoryPackages env).Within Observes :=
    active.bind fun _ => (observes_openAll _).bind fun _ => trivial
  have inactive (apexFiles : List ApexFile) : (calculateInactivePackages env apexFiles).Within Observes :=
    factory.bind fun _ => trivial
  exact active.bind fun apexFiles => (inactive apexFiles).bind fun _ => .perform trivial

theorem wp_steady_observing {α : Type} {p : Procedure α} (observes : p.Within Observes) :
    wp steady Anything p (fun _ w' => w' = w) w := by
  refine wp_frame observes (· = w) ?_ rfl
  rintro request isObserving w₁ reply w' rfl ⟨answer | ⟨-, -, same⟩, -⟩
  · refine ⟨trivial, ?_⟩
    cases request with
    | fs request =>
      cases request with
      | read path =>
        obtain ⟨fs', answered, rfl⟩ := answer
        have same : fs' = w₁.fs := by
          simp only [FsCall.Answers, FsCall.effect] at answered
          split at answered <;> exact congrArg Prod.snd answered
        rw [same]
      | _ => exact isObserving.elim
    | database request =>
      cases request with
      | forallMountedApexes matchTempMounts =>
        cases answer
        rfl
      | _ => exact isObserving.elim
    | outside request => exact answer.2
    | _ => exact isObserving.elim
  · exact ⟨trivial, same⟩

/-- An APEX that may replace the latest version of its package. -/
structure World.Installable (w : World) (apex : ApexFile) : Prop where
  noAt : '@' ∉ apex.manifest.name.toList
  spelled : ∀ name, w.Spelled apex.manifest.name ⟨.active, name⟩
  releasable : ∀ data, (w.database.mountsOf apex.manifest.name).latest = some data →
    ∀ cur, openAt w.fs data.fullPath = .ok cur → w.Releasable cur

theorem World.Installable.of_undisturbed (installable : w.Installable apex)
    (wellMounted : w.WellMounted) (undisturbed : Undisturbed package w w') : w'.Installable apex where
  noAt := installable.noAt
  spelled name := (installable.spelled name).of_undisturbed wellMounted undisturbed
  releasable data latest cur opened := by
    rw [(wellMounted.settled _).mountsOf_eq undisturbed] at latest
    rw [undisturbed.openAt_eq ((wellMounted.settled _).recorded data (latest_mem latest)).outside] at opened
    exact (installable.releasable data latest cur opened).of_undisturbed wellMounted undisturbed

theorem wp_steady_replaceActive (wellMounted : w.WellMounted)
    (installable : w.Installable plan.tempApex)
    (prepared : Prepared w packagePath plan.tempApex.manifest.name plan)
    (fresh : w.fs.file plan.targetFile = none) :
    wp steady Anything (replaceActive env packagePath force plan) (fun _ w' => w'.WellMounted) w := by
  have recorded := (wellMounted.settled _).recorded _ (latest_mem prepared.latest)
  have curPath : plan.curApex.path = plan.curMountedData.fullPath :=
    (openAt_eq_ok_iff.mp prepared.current).2.1
  have named : plan.curApex.manifest.name = plan.tempApex.manifest.name := by
    obtain ⟨apex, opened, isNamed, -⟩ := recorded.file
    cases prepared.current.symm.trans opened
    exact isNamed
  have notTarget : plan.curApex.path ≠ plan.targetFile := by
    intro same
    have found := (openAt_eq_ok_iff.mp prepared.current).1
    rw [← curPath, same, fresh] at found
    cases found
  rw [replaceActive, wp_bind]
  refine wp_mono (wp_steady_unmountPackage wellMounted
    (installable.releasable _ prepared.latest _ prepared.current)) fun result w₁ unmounts => ?_
  cases result with
  | error e => exact unmounts.wellMounted
  | ok _ =>
    have released := unmounts.gone rfl
    have entries := unmounts.entries
    have opened₁ : openAt w₁.fs packagePath = .ok plan.tempApex := by rw [unmounts.fs, prepared.opened]
    have fresh₁ : w₁.fs.file plan.targetFile = none := by rw [unmounts.fs, fresh]
    have current₁ : openAt w₁.fs plan.curApex.path = .ok plan.curApex := by
      rw [unmounts.fs, curPath, prepared.current]
    rw [named] at released entries
    have spelled₁ : w₁.Spelled plan.tempApex.manifest.name plan.targetFile := fun data member =>
      installable.spelled _ data (entries data member)
    dsimp only
    rw [wp_bind, wp_onError]
    refine wp_mono (wp_steady_linkAndActivate unmounts.wellMounted opened₁ installable.noAt spelled₁
      fresh₁) fun result w₂ linked => ?_
    -- an entry that was there before the link is of a file that was there
    have old {package : String} {data : MountedApexData}
        (member : data ∈ (w₁.database.mountsOf package).entries) : data.fullPath ≠ plan.targetFile := by
      intro same
      obtain ⟨apex, isOpen, -⟩ := ((unmounts.wellMounted.settled package).recorded data member).file
      rw [same] at isOpen
      rw [(openAt_eq_ok_iff.mp isOpen).1] at fresh₁
      cases fresh₁
    cases result with
    | error e =>
      refine wp_steady_installGuard linked.wellMounted ?_ ?_ ?_ ?_ ?_ notTarget
      · rw [openAt_congr (linked.files _ (curPath ▸ recorded.outside) notTarget), current₁]
      · exact curPath ▸ recorded.outside
      · rw [named]
        exact installable.noAt
      · rw [named]
        intro data member
        rcases linked.entries data member with isOld | ⟨⟨newApex, impossible⟩, -⟩
        · exact released data isOld
        · cases impossible
      · intro package data member
        by_cases same : package = plan.tempApex.manifest.name
        · rw [same] at member
          rcases linked.entries data member with isOld | ⟨⟨newApex, impossible⟩, -⟩
          · exact old isOld
          · cases impossible
        · rw [linked.mountsOf package same] at member
          exact old member
    | ok newApex =>
      have updated {w₃ : World} (wellMounted₃ : w₃.WellMounted) :
          wp steady Anything (do
            (updateApexInfoList env).ignore
            pure newApex) (fun _ w' => w'.WellMounted) w₃ := by
        rw [wp_bind, wp_ignore]
        refine wp_mono (wp_steady_observing observes_updateApexInfoList) fun _ w₄ same => ?_
        rw [same]
        exact wellMounted₃
      -- no entry is of the old file
      have unused (package : String) (data : MountedApexData)
          (member : data ∈ (w₂.database.mountsOf package).entries) :
          data.fullPath ≠ plan.curMountedData.fullPath := by
        rw [← curPath]
        by_cases same : package = plan.tempApex.manifest.name
        · rw [same] at member
          rcases linked.entries data member with isOld | ⟨-, isNew⟩
          · exact fun isCur => released data isOld (by rw [isCur])
          · rw [isNew]
            exact notTarget.symm
        · rw [linked.mountsOf package same] at member
          intro isCur
          obtain ⟨apex, isOpen, isNamed, -⟩ :=
            ((unmounts.wellMounted.settled package).recorded data member).file
          rw [isCur] at isOpen
          cases current₁.symm.trans isOpen
          exact same (isNamed.symm.trans named)
      dsimp only
      split
      · change wp steady Anything ((unlink plan.curMountedData.fullPath).ignore >>= fun _ => _) _ _
        rw [wp_bind]
        refine wp_steady (wp_logged_unlink_ignore fun w₃ log₃ files database mounts _ _ => ?_)
        refine updated (linked.wellMounted.of_files (fun package data member => ?_) database mounts)
        rw [files, Function.update_of_ne (unused package data member)]
      · exact updated linked.wellMounted

theorem wp_steady_installPackage (wellMounted : w.WellMounted) (outside : packagePath.dir ≠ .hashTree)
    (installable : ∀ apex, openAt w.fs packagePath = .ok apex → w.Installable apex) :
    wp steady Anything (installPackage ienv packagePath force) (fun _ w' => w'.WellMounted) w := by
  obtain ⟨package, named⟩ : ∃ package, ∀ apex, openAt w.fs packagePath = .ok apex →
      apex.manifest.name = package := by
    cases opened : openAt w.fs packagePath with
    | error e => exact ⟨"", nofun⟩
    | ok apex => exact ⟨apex.manifest.name, fun apex' same => by cases same; rfl⟩
  rw [installPackage, wp_bind]
  refine wp_steady_prepareInstall named (fun e w₁ undisturbed => ?_)
    fun plan w₁ prepared undisturbed fresh => ?_
  · exact wellMounted.of_undisturbed undisturbed
  · have wellMounted₁ := wellMounted.of_undisturbed undisturbed
    have installable₁ := (installable _ prepared.opened).of_undisturbed wellMounted undisturbed
    have recorded := (wellMounted.settled _).recorded _ (latest_mem prepared.latest)
    have prepared₁ : Prepared w₁ packagePath plan.tempApex.manifest.name plan := by
      rw [prepared.named]
      refine ⟨?_, prepared.named, ?_, prepared.notTemp, ?_⟩
      · rw [undisturbed.openAt_eq outside, prepared.opened]
      · rw [(wellMounted.settled package).mountsOf_eq undisturbed, prepared.latest]
      · rw [undisturbed.openAt_eq recorded.outside, prepared.current]
    dsimp only
    rw [wp_bind, unloadApexFromInit]
    refine wp_mono wp_steady_tellInit fun unloaded w₂ same => ?_
    subst same
    cases unloaded with
    | error e => exact wellMounted₁
    | ok _ =>
      dsimp only
      rw [wp_bind, wp_attempt]
      refine wp_mono (wp_steady_replaceActive wellMounted₁ installable₁ prepared₁ fresh) ?_
      intro result w₃ wellMounted₃
      dsimp only
      rw [wp_bind, wp_ignore, loadApexFromInit]
      refine wp_mono wp_steady_tellInit fun loaded w₄ same => ?_
      subst same
      cases result <;> exact wellMounted₃

end Install

/-! ## Sequences of calls -/

/-- The calls that mount and unmount packages. -/
inductive ServiceCall where
  | activatePackage (env : Environment) (path : FilePath)
  | deactivatePackage (path : FilePath)
  | installPackage (env : InstallEnvironment) (packagePath : FilePath) (force : Bool)
  | remountPackages (env : Environment)

namespace ServiceCall

def procedure : ServiceCall → Procedure Unit
  | activatePackage env path => Apexd.activatePackage env path
  | deactivatePackage path => Apexd.deactivatePackage path
  | installPackage env packagePath force => do
    let _ ← Apexd.installPackage env packagePath force
  | remountPackages env => Apexd.remountPackages env

/-- No version needs a bind mount that the call takes away, and mount points tell packages apart. -/
def KeepsBound : ServiceCall → World → Prop
  | activatePackage _ path, w => ∀ apex, openAt w.fs path = .ok apex → w.Activatable apex
  | deactivatePackage path, w => ∀ apex, openAt w.fs path = .ok apex → w.Releasable apex
  | installPackage _ packagePath _, w => packagePath.dir ≠ .hashTree ∧
    ∀ apex, openAt w.fs packagePath = .ok apex → w.Installable apex
  | remountPackages _, w => ∀ package data, (w.database.mountsOf package).latest = some data →
    ∀ apex, openAt w.fs data.fullPath = .ok apex → w.Releasable apex

end ServiceCall

/-- The service on a device whose mount operations succeed. -/
def apexService (callable : ServiceCall → World → Prop) :
    System apexd String World ServiceCall where
  semantics := steady
  program := ServiceCall.procedure
  callable := callable
  reboot _ _ := False

/-- The states that calls lead to from an empty database. -/
abbrev Serves (callable : ServiceCall → World → Prop) : World → Prop :=
  (apexService callable).Between fun w => w.database = ∅

theorem wp_steady_procedure {call : ServiceCall} (keepsBound : call.KeepsBound w)
    (wellMounted : w.WellMounted) :
    wp steady Anything call.procedure (fun _ w' => w'.WellMounted) w := by
  cases call with
  | activatePackage env path =>
    exact wp_steady_activatePackage wellMounted keepsBound (fun _ => wellMounted)
      fun _ _ _ _ activates => activates.wellMounted
  | deactivatePackage path =>
    exact wp_steady_deactivatePackage wellMounted keepsBound (fun _ => wellMounted)
      fun _ _ _ _ unmounts => unmounts.wellMounted
  | installPackage env packagePath force =>
    obtain ⟨outside, installable⟩ := keepsBound
    rw [ServiceCall.procedure, wp_bind]
    refine wp_mono (wp_steady_installPackage wellMounted outside installable) ?_
    intro result w₁ wellMounted₁
    cases result <;> exact wellMounted₁
  | remountPackages env => exact wp_steady_remountPackages wellMounted keepsBound

theorem World.WellMounted.of_empty (empty : w.database = ∅) : w.WellMounted := by
  have none (package : String) : (w.database.mountsOf package).entries = [] := by
    rw [empty]
    rfl
  refine ⟨fun package => ⟨?_, ?_⟩, fun package => .of_nil (none package), fun package => ?_⟩
  · rw [none]
    exact List.forall_mem_nil _
  · rw [none]
    exact List.forall_mem_nil _
  · rw [none]
    exact List.forall_mem_nil _

theorem wellMounted_of_serves (serves : Serves ServiceCall.KeepsBound w) : w.WellMounted :=
  System.invariant World.WellMounted (fun _ empty => .of_empty empty)
    (fun _ _ keepsBound wellMounted => wp_steady_procedure keepsBound wellMounted) serves

/-! ## What is visible -/

/-- The version of an APEX is the one at the mount point of its package. -/
def World.ShowsVersion (w : World) (apex : ApexFile) : Prop :=
  ∃ image, visibleAt w.mounts (getActiveMountPoint apex.manifest) = some image ∧
    visibleAt w.mounts (getPackageMountPoint apex.manifest) = some image ∧
    image.fullPath = apex.path

/-- Active means bound: the highest version of a package is the one at its mount point, unless it
provides shared libraries, and so is every package that is reported as active. -/
structure World.ActiveMeansBound (w : World) : Prop where
  highest : ∀ package, ∀ entry ∈ (w.database.mountsOf package).entries,
    entry.isTempMount = false → ∃ top ∈ (w.database.mountsOf package).entries,
      top.isTempMount = false ∧
      (∀ data ∈ (w.database.mountsOf package).entries, data.isTempMount = false →
        data.version.toInt ≤ top.version.toInt) ∧
      ∃ apex, openAt w.fs top.fullPath = .ok apex ∧ apex.manifest.name = package ∧
        (apex.manifest.provideSharedApexLibs = false → w.ShowsVersion apex)
  reported : ∀ active w', Runs steady getActivePackages w (.ok active) w' →
    ∀ apex ∈ active, apex.manifest.provideSharedApexLibs = false → w.ShowsVersion apex

/-- The latest mount of a package shows its version. -/
theorem World.WellMounted.showsVersion (wellMounted : w.WellMounted)
    (latest : (w.database.mountsOf package).latest = some data)
    (opened : openAt w.fs data.fullPath = .ok apex)
    (notShared : apex.manifest.provideSharedApexLibs = false) : w.ShowsVersion apex := by
  have recorded := (wellMounted.settled package).recorded data (latest_mem latest)
  obtain ⟨apex', opened', named, -, mountPoint⟩ := recorded.file
  cases opened.symm.trans opened'
  refine ⟨data, ?_, ?_, (openAt_eq_ok_iff.mp opened).2.1.symm⟩
  · rw [activeMountPoint_eq named]
    exact wellMounted.bound package data latest apex opened notShared
  · rw [← mountPoint, visibleAt_eq_head?, recorded.mounted]
    rfl

theorem wp_steady_openAll (paths : List FilePath) :
    wp steady Anything (openAll paths) (fun result _ => ∀ apexFiles, result = .ok apexFiles →
      ∀ apex ∈ apexFiles, ∃ path ∈ paths, openAt w.fs path = .ok apex) w := by
  induction paths with
  | nil =>
    intro apexFiles same apex member
    cases same
    cases member
  | cons path rest ih =>
    rw [openAll, wp_bind, wp_attempt]
    refine wp_steady_open (fun first opened => ?_) fun e => ?_
    · dsimp only
      rw [wp_bind]
      refine wp_mono ih fun result w₁ isOpen => ?_
      cases result with
      | error e => exact fun apexFiles impossible => by cases impossible
      | ok others =>
        intro apexFiles same apex member
        cases same
        rcases List.mem_cons.mp member with rfl | later
        · exact ⟨path, List.mem_cons_self, opened⟩
        · obtain ⟨other, inRest, isOther⟩ := isOpen others rfl apex later
          exact ⟨other, List.mem_cons_of_mem _ inRest, isOther⟩
    · dsimp only
      rw [wp_bind]
      refine wp_mono ih fun result w₁ isOpen => ?_
      cases result with
      | error e => exact fun apexFiles impossible => by cases impossible
      | ok others =>
        intro apexFiles same apex member
        cases same
        obtain ⟨other, inRest, isOther⟩ := isOpen others rfl apex member
        exact ⟨other, List.mem_cons_of_mem _ inRest, isOther⟩

/-- What is reported as active was opened at the latest mount of a package. -/
theorem wp_steady_getActivePackages (noTemp : NoTempMounts w.database) :
    wp steady Anything getActivePackages (fun result _ => ∀ active, result = .ok active →
      ∀ apex ∈ active, ∃ package data, (w.database.mountsOf package).latest = some data ∧
        openAt w.fs data.fullPath = .ok apex) w := by
  have opens := wp_steady_openAll (w := w)
    ((latestMounts w.database).map fun mount => mount.2.fullPath)
  rw [latestMounts, List.map_map] at opens
  rw [getActivePackages, wp_bind]
  refine wp_steady (wp_withLog (fun mounts w₁ answer => ⟨trivial, fun _ => ?_⟩) fun e w₁ answer => ?_)
  · cases answer
    refine wp_mono opens fun result w₁ isOpen active same apex member => ?_
    obtain ⟨path, isPath, opened⟩ := isOpen active same apex member
    obtain ⟨mount, visited, rfl⟩ := List.mem_map.mp isPath
    exact ⟨mount.1, mount.2.1, (mem_latestMounts noTemp).mp (List.mem_map_of_mem visited), opened⟩
  · rcases answer with answer | ⟨impossible, _⟩
    · cases answer
    · exact impossible.elim

theorem World.WellMounted.activeMeansBound (wellMounted : w.WellMounted) : w.ActiveMeansBound where
  highest package entry member _ := by
    obtain ⟨top, latest⟩ : ∃ top, (w.database.mountsOf package).latest = some top :=
      ⟨_, List.getLast?_eq_some_getLast (List.ne_nil_of_mem member)⟩
    have recorded := (wellMounted.settled package).recorded top (latest_mem latest)
    obtain ⟨apex, opened, named, -⟩ := recorded.file
    refine ⟨top, latest_mem latest, recorded.notTemp, fun data isEntry _ => ?_, apex, opened, named,
      wellMounted.showsVersion latest opened⟩
    by_cases same : data = top
    · rw [same]
    · have below := (MountedSet.latest_eq_some_iff.mp latest).2 data isEntry same
      rcases Prod.Lex.lt_iff.mp (of_decide_eq_true below) with versions | ⟨versions, -⟩
      · exact versions.le
      · exact versions.le
  reported active w' run apex member notShared := by
    have holds := wp_runs (wp_steady_getActivePackages wellMounted.noTempMounts) run
    obtain ⟨package, data, latest, opened⟩ := holds active rfl apex member
    exact wellMounted.showsVersion latest opened notShared

/-- In every state that such calls lead to, active means bound. -/
theorem activeMeansBound_of_serves (serves : Serves ServiceCall.KeepsBound w) : w.ActiveMeansBound :=
  (wellMounted_of_serves serves).activeMeansBound

/-! ## An older version that is not bound -/

/-- Two versions of a package, none of them mounted. -/
def twoFoos : World :=
  .ofDirectories [(.active, [("foo@1.apex", .apex (.plain "foo" 1 0)),
    ("foo@2.apex", .apex (.plain "foo" 2 1))])]

def fooFile (version : String) : FilePath := ⟨.active, "foo@" ++ version ++ ".apex"⟩

def fooEnvironment : Environment := .plain (.ofPackages ["foo"])

theorem succeeding_sound : deviceHandler.succeeding.Sound steady :=
  Handler.succeeding_sound deviceHandler_sound fun _ _ value _ answer =>
    ⟨.inl answer, fun _ => ⟨value, rfl⟩⟩

/-- A test for calls that keep a package bound: what is deactivated is not the latest mount. -/
def ServiceCall.notLatest : ServiceCall → World → Bool
  | activatePackage _ path, w => (openAt w.fs path).toOption.all fun apex =>
    apex.path.dir ≠ .hashTree && !apex.manifest.name.toList.contains '@' &&
      (w.database.mountsOf apex.manifest.name).entries.all fun data =>
        pathText data.fullPath ≠ pathText apex.path || data.fullPath = apex.path
  | deactivatePackage path, w => (openAt w.fs path).toOption.all fun apex =>
    (w.database.mountsOf apex.manifest.name).latest.all fun data =>
      pathText data.fullPath ≠ pathText apex.path
  | installPackage _ _ _, _ | remountPackages _, _ => false

theorem ServiceCall.keepsBound_of_notLatest {call : ServiceCall} (passes : call.notLatest w = true) :
    call.KeepsBound w := by
  cases call with
  | activatePackage env path =>
    intro apex opened
    simp only [notLatest, opened, Except.toOption, Option.all_some, Bool.and_eq_true,
      decide_eq_true_eq, List.all_eq_true, Bool.or_eq_true] at passes
    obtain ⟨⟨outside, noAt⟩, spelled⟩ := passes
    refine ⟨outside, by simpa using noAt, fun data member same => ?_⟩
    exact (spelled data member).resolve_left (absurd same)
  | deactivatePackage path =>
    intro apex opened data latest isSame
    simp only [notLatest, opened, Except.toOption, Option.all_some, latest, decide_eq_true_eq] at passes
    exact absurd isSame passes
  | installPackage | remountPackages => cases passes

/-- Both versions are activated and the first one is deactivated: the second one is bound. -/
theorem activeMeansBound_of_serves_foo : ∃ w : World,
    (w.database.mountsOf "foo").entries.map MountedApexData.version = [2] ∧
    Serves ServiceCall.KeepsBound w ∧ w.ActiveMeansBound := by
  let isSecond : World → Bool := fun w =>
    (w.database.mountsOf "foo").entries.map MountedApexData.version = [2]
  obtain ⟨w, computed, second⟩ := (Option.any_eq_true isSecond
    ((apexService ServiceCall.KeepsBound).execAll deviceHandler.succeeding ServiceCall.notLatest
      [.activatePackage fooEnvironment (fooFile "1"), .activatePackage fooEnvironment (fooFile "2"),
        .deactivatePackage (fooFile "1")] twoFoos)).mp (by decide +kernel)
  have serves : Serves ServiceCall.KeepsBound w :=
    System.between_of_execAll succeeding_sound (fun _ _ => ServiceCall.keepsBound_of_notLatest)
      (.start rfl) computed
  exact ⟨w, of_decide_eq_true second, serves, activeMeansBound_of_serves serves⟩

/-- Both versions are activated and the second one is deactivated: nothing binds the first one,
which is still mounted. -/
theorem older_version_not_bound : ∃ w, Serves (fun _ _ => True) w ∧ ¬ w.ActiveMeansBound := by
  let isLost : World → Bool := fun w =>
    ((w.database.mountsOf "foo").entries.any fun data => !data.isTempMount) &&
      (visibleAt w.mounts "/apex/foo").isNone &&
      (w.database.mountsOf "foo").entries.all fun data =>
        (openAt w.fs data.fullPath).toOption.all fun apex => !apex.manifest.provideSharedApexLibs
  obtain ⟨w, computed, lost⟩ := (Option.any_eq_true isLost
    ((apexService fun _ _ => True).execAll deviceHandler.succeeding (fun _ _ => true)
      [.activatePackage fooEnvironment (fooFile "1"), .activatePackage fooEnvironment (fooFile "2"),
        .deactivatePackage (fooFile "2")] twoFoos)).mp (by decide +kernel)
  have serves : Serves (fun _ _ => True) w :=
    System.between_of_execAll succeeding_sound (fun _ _ _ => trivial) (.start rfl) computed
  refine ⟨w, serves, fun bound => ?_⟩
  simp only [isLost, Bool.and_eq_true, List.any_eq_true, List.all_eq_true] at lost
  obtain ⟨⟨⟨entry, member, notTemp⟩, invisible⟩, notShared⟩ := lost
  obtain ⟨top, isTop, -, -, apex, opened, named, shows⟩ :=
    bound.highest "foo" entry member (by simpa using notTemp)
  have isNotShared := notShared top isTop
  rw [opened] at isNotShared
  obtain ⟨image, visible, -⟩ := shows (by simpa [Except.toOption] using isNotShared)
  rw [activeMountPoint_eq named] at visible
  rw [show kApexRoot ++ "/" ++ "foo" = "/apex/foo" from rfl] at visible
  rw [visible] at invisible
  cases invisible

end Apexd
