import Apexd.Verified.ParallelActivation

/-! # What a successful installation leaves

The counterpart of an installation that fails: where `InstallPackage` succeeds, the entry of the
latest version and nothing else is taken away, the new file is the archive that was to be
installed and its entry is added, and no other package or file changes.
-/

namespace Apexd

open Process Storage

variable {env : Environment} {ienv : InstallEnvironment} {w w₁ w₂ w' : World} {packagePath : FilePath}
  {force : Bool} {apex newApex prevApex : ApexFile} {data prev : MountedApexData} {plan : InstallPlan}
  {log : List Call}

/-! ## Unmounting the latest version -/

theorem wp_steady_umount {mountPoint : String} {detach : Bool} {Q : Except String Unit → World → Prop}
    (post : Q (.ok ()) (w.umount mountPoint).2) :
    wp steady Anything (kernelCall (.umount mountPoint detach)) Q w := by
  refine wp_steady (wp_logged_umount (fun _ => post) fun e only => ?_)
  exact absurd trivial (only _ (List.mem_append_right _ List.mem_cons_self))

/-- The mount goes, whatever becomes of its device. -/
theorem wp_steady_unmount {deferred : Bool} :
    wp steady Anything (unmount data deferred) (fun _ w' => w'.fs = w.fs ∧ w'.database = w.database ∧
      LessAt data.mountPoint w w') w := by
  have frame : (w.umount data.mountPoint).2.fs = w.fs ∧
      (w.umount data.mountPoint).2.database = w.database := by
    rw [World.umount]
    split <;> exact ⟨rfl, rfl⟩
  have less : LessAt data.mountPoint w (w.umount data.mountPoint).2 :=
    imagesAt_umount w data.mountPoint
  rw [unmount, wp_bind, umountIfMounted, wp_bind, wp_attempt]
  refine wp_steady_umount ?_
  dsimp only
  rw [wp_pure]
  dsimp only
  split
  · rintro reply w₂ ⟨answer | ⟨-, -, rfl⟩, -⟩
    · have answered : KernelCall.Answers (.deleteVerityDevice _ _) _ reply w₂ := answer
      refine ⟨trivial, ?_⟩
      rcases answered.2 with rfl | ⟨-, rfl⟩ <;> exact ⟨frame.1, frame.2, less⟩
    · exact ⟨trivial, frame.1, frame.2, less⟩
  · exact ⟨frame.1, frame.2, less⟩

/-- The entry of a file that was unmounted, whose mount is gone too. -/
def TakenAway (w : World) (apex : ApexFile) (w' : World) : Prop :=
  ∃ data, Unmounted w apex data w' ∧
    imagesAt w'.mounts data.mountPoint = (imagesAt w.mounts data.mountPoint).tail

theorem wp_steady_takesAway {deferred detach : Bool}
    (apart : ∀ data ∈ (w.database.mountsOf apex.manifest.name).entries,
      data.mountPoint ≠ getActiveMountPoint apex.manifest) :
    wp steady Anything (unmountPackage apex true deferred detach)
      (fun result w' => result = .ok () → TakenAway w apex w') w := by
  rw [unmountPackage, wp_bind]
  refine wp_steady (wp_logged_forallMountedApexesOf fun _ => ?_)
  dsimp only
  cases found : mountOfFile apex (w.database.forallMountedApexesOf apex.manifest.name false) with
  | none => exact fun isOk => by cases isOk
  | some mount =>
    obtain ⟨data, flag⟩ := mount
    obtain ⟨visited, fullPath⟩ := mem_of_mountOfFile found
    obtain ⟨member, notTemp, isFlag⟩ := visited_iff.mp visited
    have ne := apart data member
    -- the entry goes before the mount does
    have finishing (w₁ : World) (fs : w₁.fs = w.fs) (database : w₁.database = w.database)
        (active : imagesAt w₁.mounts (getActiveMountPoint apex.manifest) =
          if (w.database.mountsOf apex.manifest.name).latest = some data ∧
              apex.manifest.provideSharedApexLibs = false then
            (imagesAt w.mounts (getActiveMountPoint apex.manifest)).tail
          else imagesAt w.mounts (getActiveMountPoint apex.manifest))
        (images : ∀ target, target ≠ getActiveMountPoint apex.manifest →
          imagesAt w₁.mounts target = imagesAt w.mounts target) :
        wp steady Anything (do
          removeMountedApex apex.manifest.name apex.path false
          unmount data deferred) (fun result w' => result = .ok () → TakenAway w apex w') w₁ := by
      rw [wp_bind]
      rintro reply w₂ ⟨answer | ⟨impossible, -⟩, -⟩
      · cases answer
        refine ⟨trivial, ?_⟩
        change wp steady Anything (unmount data deferred) _ _
        refine wp_mono wp_steady_unmount ?_
        rintro _ w₃ ⟨fs₃, database₃, lessAt⟩ _
        have less (target : String) (notActive : target ≠ getActiveMountPoint apex.manifest) :
            imagesAt w₃.mounts target = if data.mountPoint = target then
              (imagesAt w.mounts target).tail else imagesAt w.mounts target := by
          rw [← images target notActive]
          exact lessAt target
        refine ⟨data, ⟨member, notTemp, fullPath, fs₃.trans fs, fun other => ?_, ?_, ?_⟩, ?_⟩
        · rw [database₃]
          change (w₁.database.removeMountedApex _ _ _).mountsOf other = _
          rw [database, OnlyTempsOf.mountsOf_removeMountedApex]
          split_ifs with same
          · rw [same]
          · rfl
        · rw [← active]
          exact (lessAt _).trans (if_neg ne)
        · intro target notActive notHere
          rw [less target notActive, if_neg (Ne.symm notHere)]
        · rw [less _ ne, if_pos rfl]
      · exact impossible.elim
    dsimp only
    split
    · rename_i unbinds
      simp only [Bool.and_eq_true, Bool.not_eq_true'] at unbinds
      have latest := of_decide_eq_true (isFlag.symm.trans unbinds.1)
      simp only [Bool.not_true, Bool.false_eq_true, if_false]
      change wp steady Anything (orErrno (kernelCall (.umount _ detach)) _ >>= fun _ => _) _ w
      rw [wp_bind, orErrno, wp_mapError]
      have frame : (w.umount (getActiveMountPoint apex.manifest)).2.fs = w.fs ∧
          (w.umount (getActiveMountPoint apex.manifest)).2.database = w.database := by
        rw [World.umount]
        split <;> exact ⟨rfl, rfl⟩
      refine wp_steady_umount (finishing _ frame.1 frame.2 ?_ fun target notActive => ?_)
      · rw [imagesAt_umount, if_pos rfl, if_pos ⟨latest, unbinds.2⟩]
      · rw [imagesAt_umount, if_neg (Ne.symm notActive)]
    · rename_i notUnbound
      refine finishing w rfl rfl ?_ fun _ _ => rfl
      rw [if_neg]
      rintro ⟨latest, notShared⟩
      refine notUnbound ?_
      rw [isFlag, notShared]
      simp [latest]

/-! ## Activating the new version -/

/-- The version of an APEX is mounted from another file. -/
def World.HasVersion (w : World) (apex : ApexFile) : Prop :=
  ∃ data ∈ (w.database.mountsOf apex.manifest.name).entries, ∃ other,
    openAt w.fs data.fullPath = .ok other ∧ other.manifest.version = apex.manifest.version

/-- What a successful activation adds. -/
structure Adds (w : World) (apex : ApexFile) (w' : World) : Prop where
  images : ∀ target, target ≠ getPackageMountPoint apex.manifest →
    target ≠ getActiveMountPoint apex.manifest → ¬ VerifiedAt apex.manifest.name target →
    imagesAt w'.mounts target = imagesAt w.mounts target
  entries : (∃ data : MountedApexData, data.OfApex apex ∧
      ∀ entry, entry ∈ (w'.database.mountsOf apex.manifest.name).entries ↔
        entry = data ∨ entry ∈ (w.database.mountsOf apex.manifest.name).entries) ∨
    (w.HasVersion apex ∧
      w'.database.mountsOf apex.manifest.name = w.database.mountsOf apex.manifest.name)

theorem wp_logged_bindUnlessShared :
    wp logged Anything (bindUnlessShared apex) (fun _ st => st.1.database = w.database ∧
      ∀ target, target ≠ getActiveMountPoint apex.manifest →
        imagesAt st.1.mounts target = imagesAt w.mounts target) (w, log) := by
  unfold bindUnlessShared
  split
  · refine wp_logged_bindLatest (fun _ => ⟨rfl, fun _ _ => rfl⟩) (fun _ image _ => ⟨rfl, ?_⟩)
      fun _ e => ⟨rfl, fun _ _ => rfl⟩
    intro target ne
    rw [World.bindAt, imagesAt_cons, if_neg (Ne.symm ne), imagesAt_unmountTop, if_neg (Ne.symm ne)]
  · exact ⟨rfl, fun _ _ => rfl⟩

theorem hasVersion_of_foundMounted {found : VersionFound} (foundMounted : FoundMounted w apex found)
    (mounted : found.mounted = true) : w.HasVersion apex := by
  obtain ⟨⟨data, flag⟩, visited, -, other, opened, version⟩ := FoundAmong.mounted foundMounted mounted
  exact ⟨data, (visited_iff.mp visited).1, other, opened, version⟩

theorem World.HasVersion.of_undisturbed {verified : String} (wellMounted : w.WellMounted)
    (undisturbed : Undisturbed verified w w₁) (hasVersion : w₁.HasVersion apex) : w.HasVersion apex := by
  obtain ⟨data, member, other, opened, version⟩ := hasVersion
  have settled := wellMounted.settled apex.manifest.name
  rw [settled.mountsOf_eq undisturbed] at member
  rw [undisturbed.openAt_eq (settled.recorded data member).outside] at opened
  exact ⟨data, member, other, opened, version⟩

theorem wp_steady_adds {deviceName : String} {reuseDevice : Bool} (wellMounted : w.WellMounted) :
    wp steady Anything (activatePackageImpl env apex deviceName reuseDevice)
      (fun result w' => result = .ok () → Adds w apex w') w := by
  -- where the version is mounted already only the bind mount can change
  have keeps {w₁ w₂ : World} {found : VersionFound} (undisturbed : Undisturbed apex.manifest.name w w₁)
      (foundMounted : FoundMounted w₁ apex found) (mounted : found.mounted = true)
      (database : w₂.database = w₁.database) (images : ∀ target,
        target ≠ getActiveMountPoint apex.manifest → imagesAt w₂.mounts target = imagesAt w₁.mounts target) :
      Adds w apex w₂ := by
    refine ⟨fun target _ notActive notVerified => ?_, .inr ⟨?_, ?_⟩⟩
    · rw [images target notActive, undisturbed.images target notVerified]
    · exact (hasVersion_of_foundMounted foundMounted mounted).of_undisturbed wellMounted undisturbed
    · rw [database, (wellMounted.settled _).mountsOf_eq undisturbed]
  refine wp_steady (wp_logged_activatePackageImpl (fun e w₁ log₁ _ _ _ => nofun)
    (fun w₁ log₁ found undisturbed _ isFound isActive _ _ _ => ?_)
    (fun w₁ log₁ found undisturbed _ isFound isMounted => ?_)
    fun w₁ log₁ data w₂ undisturbed _ mounted => ?_)
  · exact keeps undisturbed isFound (FoundAmong.activeMounted isFound isActive) rfl fun _ _ => rfl
  · refine wp_mono wp_logged_bindUnlessShared ?_
    rintro result st ⟨database, images⟩ _ _
    exact keeps undisturbed isFound isMounted database images
  · refine wp_mono wp_logged_bindUnlessShared ?_
    rintro result st ⟨database, images⟩ _ _
    refine ⟨fun target notHere notActive notVerified => ?_, .inl ⟨data, ?_, fun entry => ?_⟩⟩
    · rw [images target notActive, mounted.images, if_neg, undisturbed.images target notVerified]
      rw [mounted.mountPoint]
      exact Ne.symm notHere
    · exact ⟨mounted.fullPath, mounted.version, mounted.mountPoint, mounted.notTemp⟩
    · rw [database, mounted.mem_iff rfl, (wellMounted.settled _).mountsOf_eq undisturbed]

/-- What linking and activating the new version adds. -/
structure LinkAdds (w : World) (plan : InstallPlan) (newApex : ApexFile) (w' : World) : Prop where
  apex : newApex = ⟨plan.targetFile, plan.tempApex.archive⟩
  files : ∀ path : FilePath, path.dir ≠ .hashTree → w'.fs.file path =
    if path = plan.targetFile then some (.apex plan.tempApex.archive) else w.fs.file path
  mountsOf : ∀ other, other ≠ newApex.manifest.name →
    w'.database.mountsOf other = w.database.mountsOf other
  adds : Adds w newApex w'

theorem wp_steady_linkAdds (wellMounted : w.WellMounted)
    (opened : openAt w.fs packagePath = .ok plan.tempApex)
    (noAt : '@' ∉ plan.tempApex.manifest.name.toList)
    (spelled : w.Spelled plan.tempApex.manifest.name plan.targetFile)
    (fresh : w.fs.file plan.targetFile = none) :
    wp steady Anything (linkAndActivate env packagePath plan) (fun result w' =>
      ∀ newApex, result = .ok newApex → LinkAdds w plan newApex w') w := by
  have fails {e : String} {w' : World} (newApex : ApexFile)
      (impossible : (.error e : Except String ApexFile) = .ok newApex) : LinkAdds w plan newApex w' := by
    cases impossible
  rw [linkAndActivate, wp_bind, orErrno, wp_mapError]
  refine wp_steady (wp_logged_link (fun content found _ exists' _ => ?_) fun e _ => fails)
  have isApex : content = .apex plan.tempApex.archive :=
    Option.some.inj (found.symm.trans (openAt_eq_ok_iff.mp opened).1)
  subst isApex
  have written : (w.fs.write plan.targetFile (.apex plan.tempApex.archive)).file =
      Function.update w.fs.file plan.targetFile (some (.apex plan.tempApex.archive)) :=
    w.fs.file_write plan.targetFile exists' _
  have unused (package : String) (data : MountedApexData)
      (member : data ∈ (w.database.mountsOf package).entries) : data.fullPath ≠ plan.targetFile := by
    intro same
    obtain ⟨apex, isOpen, -⟩ := ((wellMounted.settled package).recorded data member).file
    rw [same] at isOpen
    rw [(openAt_eq_ok_iff.mp isOpen).1] at fresh
    cases fresh
  have kept (package : String) (data : MountedApexData)
      (member : data ∈ (w.database.mountsOf package).entries) :
      (w.fs.write plan.targetFile (.apex plan.tempApex.archive)).file data.fullPath =
        w.fs.file data.fullPath := by
    rw [written, Function.update_of_ne (unused package data member)]
  have wellMounted₁ : World.WellMounted
      { w with fs := w.fs.write plan.targetFile (.apex plan.tempApex.archive) } :=
    wellMounted.of_files kept rfl rfl
  change wp steady Anything (ApexFile.open plan.targetFile >>= fun _ => _) _ _
  rw [wp_bind]
  refine wp_steady_open (fun newApex isNew => ?_) fun e => fails
  have isLinked : newApex = ⟨plan.targetFile, plan.tempApex.archive⟩ := by
    obtain ⟨content, path, -⟩ := openAt_eq_ok_iff.mp isNew
    rw [written, Function.update_self, Option.some.injEq, Content.apex.injEq] at content
    cases newApex
    exact ApexFile.mk.injEq _ _ _ _ ▸ ⟨path, content.symm⟩
  subst isLinked
  dsimp only
  rw [wp_bind]
  have outside : plan.targetFile.dir ≠ .hashTree := fun same => by cases same
  refine wp_mono (wp_and (wp_steady_activatePackageImpl wellMounted₁ isNew ⟨outside, noAt, spelled⟩)
    (wp_steady_adds wellMounted₁)) ?_
  rintro result w₂ ⟨activates, adds⟩
  cases result with
  | error e => exact fails
  | ok _ =>
    rintro _ ⟨⟩
    obtain ⟨images, entries⟩ := adds rfl
    refine ⟨rfl, fun path outside => ?_, activates.changesOnly.mountsOf, images,
      entries.imp id fun added => ⟨?_, added.2⟩⟩
    · rw [activates.changesOnly.files path outside, written, Function.update_apply]
    · obtain ⟨data, member, other, isOther, version⟩ := added.1
      rw [openAt_congr (kept _ data member)] at isOther
      exact ⟨data, member, other, isOther, version⟩

/-! ## The installation -/

/-- The new version of a package has taken the place of the latest one. -/
structure Replaced (repository : ApexFileRepository) (packagePath : FilePath)
    (newApex prevApex : ApexFile) (prev : MountedApexData) (w w' : World) : Prop where
  latest : (w.database.mountsOf newApex.manifest.name).latest = some prev
  current : openAt w.fs prev.fullPath = .ok prevApex
  /-- the new file is a new name of the archive that was to be installed -/
  archive : w.fs.file packagePath = some (.apex newApex.archive)
  inActive : newApex.path.dir = .active
  fresh : w.fs.file newApex.path = none
  /-- the old file goes unless it is pre-installed -/
  files : ∀ path : FilePath, path.dir ≠ .hashTree → w'.fs.file path =
    if path = newApex.path then some (.apex newApex.archive)
    else if path = prev.fullPath ∧ repository.isPreInstalledApex prevApex = false then none
    else w.fs.file path
  others : ∀ other, other ≠ newApex.manifest.name →
    w'.database.mountsOf other = w.database.mountsOf other
  /-- the new entry takes the place of the old one, unless the version is mounted already -/
  entries : (∃ data : MountedApexData, data.OfApex newApex ∧
      ∀ entry, entry ∈ (w'.database.mountsOf newApex.manifest.name).entries ↔ entry = data ∨
        (entry ∈ (w.database.mountsOf newApex.manifest.name).entries ∧ entry ≠ prev)) ∨
    ((∃ entry ∈ (w.database.mountsOf newApex.manifest.name).entries, entry ≠ prev ∧
        ∃ other, openAt w.fs entry.fullPath = .ok other ∧
          other.manifest.version = newApex.manifest.version) ∧
      ∀ entry, entry ∈ (w'.database.mountsOf newApex.manifest.name).entries ↔
        entry ∈ (w.database.mountsOf newApex.manifest.name).entries ∧ entry ≠ prev)
  unmounted : prev.mountPoint ≠ getPackageMountPoint newApex.manifest →
    imagesAt w'.mounts prev.mountPoint = []

/-- The entry that an unmount takes away is that of the previous version. -/
theorem TakenAway.unmounted (takenAway : TakenAway w apex w') (wellMounted : w.WellMounted)
    (member : prev ∈ (w.database.mountsOf apex.manifest.name).entries)
    (path : prev.fullPath = apex.path) :
    Unmounted w apex prev w' ∧ imagesAt w'.mounts prev.mountPoint = [] := by
  obtain ⟨data, unmounted, gone⟩ := takenAway
  have same : data = prev := (wellMounted.settled _).distinct data unmounted.member prev member
    (unmounted.fullPath.trans (by rw [path]))
  subst same
  refine ⟨unmounted, gone.trans ?_⟩
  rw [((wellMounted.settled _).recorded data member).mounted]
  rfl

section Prepared

variable (wellMounted : w.WellMounted)
  (prepared : Prepared w packagePath plan.tempApex.manifest.name plan)

include wellMounted prepared

theorem Prepared.curNamed : plan.curApex.manifest.name = plan.tempApex.manifest.name := by
  obtain ⟨apex, opened, isNamed, -⟩ :=
    ((wellMounted.settled _).recorded _ (latest_mem prepared.latest)).file
  cases prepared.current.symm.trans opened
  exact isNamed

omit wellMounted in
theorem Prepared.ne_targetFile (fresh : w.fs.file plan.targetFile = none) :
    plan.curMountedData.fullPath ≠ plan.targetFile := by
  intro same
  have found := (openAt_eq_ok_iff.mp prepared.current).1
  rw [same, fresh] at found
  cases found

/-- What is left of the entries once the latest is unmounted. -/
theorem Unmounted.left_iff (unmounted : Unmounted w plan.curApex plan.curMountedData w₁)
    {entry : MountedApexData} : entry ∈ (w₁.database.mountsOf plan.tempApex.manifest.name).entries ↔
      entry ∈ (w.database.mountsOf plan.tempApex.manifest.name).entries ∧
        entry ≠ plan.curMountedData := by
  rw [← prepared.curNamed wellMounted]
  exact unmounted.mem_iff wellMounted

/-- The steps of a replacement, put together. -/
theorem LinkAdds.replaced {repository : ApexFileRepository} {w₃ : World}
    (fresh : w.fs.file plan.targetFile = none)
    (unmounted : Unmounted w plan.curApex plan.curMountedData w₁)
    (gone : imagesAt w₁.mounts plan.curMountedData.mountPoint = [])
    (linked : LinkAdds w₁ plan newApex w₂)
    (files : ∀ path, w₃.fs.file path =
      if path = plan.curMountedData.fullPath ∧ repository.isPreInstalledApex plan.curApex = false
      then none else w₂.fs.file path)
    (database : w₃.database = w₂.database) (mounts : w₃.mounts = w₂.mounts) :
    Replaced repository packagePath newApex plan.curApex plan.curMountedData w w₃ := by
  obtain ⟨rfl, linkedFiles, others, images, entries⟩ := linked
  have settled := wellMounted.settled plan.tempApex.manifest.name
  have isEntry := latest_mem prepared.latest
  have named := prepared.curNamed wellMounted
  have notTarget := prepared.ne_targetFile fresh
  have left (entry : MountedApexData) :
      entry ∈ (w₁.database.mountsOf plan.tempApex.manifest.name).entries ↔
        entry ∈ (w.database.mountsOf plan.tempApex.manifest.name).entries ∧
          entry ≠ plan.curMountedData :=
    unmounted.left_iff wellMounted prepared
  refine ⟨prepared.latest, prepared.current, (openAt_eq_ok_iff.mp prepared.opened).1, rfl, fresh,
    fun path outside => ?_, fun other ne => ?_, ?_, fun ne => ?_⟩
  · rw [files, linkedFiles path outside, unmounted.fs]
    by_cases isNew : path = plan.targetFile
    · rw [if_neg fun isOld => notTarget (isOld.1.symm.trans isNew)]
      simp [isNew]
    · simp [isNew]
  · rw [database, others other ne, unmounted.mountsOf, if_neg fun same => ne (same.trans named)]
  · rw [database]
    refine entries.imp (fun ⟨data, ofApex, added⟩ => ⟨data, ofApex, fun entry => ?_⟩)
      fun ⟨⟨data, member, other, isOther, version⟩, same⟩ => ⟨?_, fun entry => ?_⟩
    · rw [added]
      exact or_congr_right (left entry)
    · obtain ⟨isOld, ne⟩ := (left data).mp member
      rw [unmounted.fs] at isOther
      exact ⟨data, isOld, ne, other, isOther, version⟩
    · rw [same]
      exact left entry
  · rw [mounts, images _ ne ?_ (settled.not_verifiedAt isEntry), gone]
    exact settled.ne_activeMountPoint isEntry

end Prepared

/-- What was verified before does not count. -/
theorem Replaced.of_undisturbed {repository : ApexFileRepository} {verified : String}
    (replaced : Replaced repository packagePath newApex prevApex prev w₁ w') (wellMounted : w.WellMounted)
    (outside : packagePath.dir ≠ .hashTree) (undisturbed : Undisturbed verified w w₁) :
    Replaced repository packagePath newApex prevApex prev w w' := by
  have mountsOf (package : String) : w₁.database.mountsOf package = w.database.mountsOf package :=
    (wellMounted.settled package).mountsOf_eq undisturbed
  obtain ⟨latest, current, archive, inActive, fresh, files, others, entries, unmounted⟩ := replaced
  simp only [mountsOf] at latest others entries
  have settled := wellMounted.settled newApex.manifest.name
  have isOutside {data : MountedApexData}
      (member : data ∈ (w.database.mountsOf newApex.manifest.name).entries) :
      data.fullPath.dir ≠ .hashTree := (settled.recorded data member).outside
  refine ⟨latest, ?_, ?_, inActive, ?_, fun path isOut => ?_, others, entries.imp_right ?_, unmounted⟩
  · rw [← current, undisturbed.openAt_eq (isOutside (latest_mem latest))]
  · rw [← archive, undisturbed.file outside]
  · rw [← fresh, undisturbed.file (by rw [inActive]; exact nofun)]
  · rw [files path isOut, undisturbed.file isOut]
  · rintro ⟨⟨entry, member, ne, other, isOther, version⟩, same⟩
    rw [undisturbed.openAt_eq (isOutside member)] at isOther
    exact ⟨⟨entry, member, ne, other, isOther, version⟩, same⟩

theorem wp_steady_replaces (wellMounted : w.WellMounted) (installable : w.Installable plan.tempApex)
    (prepared : Prepared w packagePath plan.tempApex.manifest.name plan)
    (fresh : w.fs.file plan.targetFile = none) :
    wp steady Anything (replaceActive env packagePath force plan) (fun result w' =>
      ∀ newApex, result = .ok newApex →
        Replaced env.repository packagePath newApex plan.curApex plan.curMountedData w w') w := by
  have fails {e : String} {w' : World} (newApex : ApexFile)
      (impossible : (.error e : Except String ApexFile) = .ok newApex) :
      Replaced env.repository packagePath newApex plan.curApex plan.curMountedData w w' := by
    cases impossible
  have isEntry := latest_mem prepared.latest
  have named := prepared.curNamed wellMounted
  rw [replaceActive, wp_bind]
  refine wp_mono (wp_and (wp_steady_unmountPackage wellMounted
    (installable.releasable _ prepared.latest _ prepared.current)) (wp_steady_takesAway ?_)) ?_
  · intro data member
    rw [activeMountPoint_eq rfl]
    exact (wellMounted.settled _).ne_activeMountPoint member
  rintro result w₁ ⟨unmounts, takenAway⟩
  cases result with
  | error e => exact fails
  | ok _ =>
    obtain ⟨unmounted, gone⟩ := (takenAway rfl).unmounted wellMounted (named ▸ isEntry)
      (openAt_eq_ok_iff.mp prepared.current).2.1.symm
    have opened₁ : openAt w₁.fs packagePath = .ok plan.tempApex := by rw [unmounts.fs, prepared.opened]
    have fresh₁ : w₁.fs.file plan.targetFile = none := by rw [unmounts.fs, fresh]
    have spelled₁ : w₁.Spelled plan.tempApex.manifest.name plan.targetFile := fun data member =>
      installable.spelled _ data ((unmounted.left_iff wellMounted prepared).mp member).1
    dsimp only
    rw [wp_bind, wp_onError]
    refine wp_mono (wp_steady_linkAdds unmounts.wellMounted opened₁ installable.noAt spelled₁ fresh₁) ?_
    intro result w₂ linked
    cases result with
    | error e => exact wp_mono (wp_anything _ _) fun _ _ _ => fails
    | ok newApex =>
      have updated {w₃ : World} (done : Replaced env.repository packagePath newApex plan.curApex
            plan.curMountedData w w₃) :
          wp steady Anything (do
            (updateApexInfoList env).ignore
            pure newApex) (fun result w' => ∀ newApex, result = .ok newApex →
              Replaced env.repository packagePath newApex plan.curApex plan.curMountedData w w') w₃ := by
        rw [wp_bind, wp_ignore]
        refine wp_mono (wp_steady_observing observes_updateApexInfoList) fun _ w₄ same => ?_
        rw [same]
        rintro _ ⟨⟩
        exact done
      have replaced (w₃ : World) (files : ∀ path, w₃.fs.file path =
            if path = plan.curMountedData.fullPath ∧ env.repository.isPreInstalledApex plan.curApex = false
            then none else w₂.fs.file path)
          (database : w₃.database = w₂.database) (mounts : w₃.mounts = w₂.mounts) :
          Replaced env.repository packagePath newApex plan.curApex plan.curMountedData w w₃ :=
        (linked newApex rfl).replaced wellMounted prepared fresh unmounted gone files database mounts
      dsimp only
      split
      · rename_i notPreInstalled
        change wp steady Anything ((unlink plan.curMountedData.fullPath).ignore >>= fun _ => _) _ _
        rw [wp_bind]
        refine wp_steady (wp_logged_unlink_ignore fun w₃ log₃ files₃ database mounts _ _ => ?_)
        refine updated (replaced w₃ (fun path => ?_) database mounts)
        rw [files₃, Function.update_apply]
        rw [Bool.not_eq_true'] at notPreInstalled
        simp [notPreInstalled]
      · rename_i isPreInstalled
        refine updated (replaced w₂ (fun path => ?_) rfl rfl)
        rw [if_neg fun gone => isPreInstalled (by simp [gone.2])]

theorem wp_steady_installs (wellMounted : w.WellMounted) (outside : packagePath.dir ≠ .hashTree)
    (installable : ∀ apex, openAt w.fs packagePath = .ok apex → w.Installable apex) :
    wp steady Anything (installPackage ienv packagePath force) (fun result w' =>
      ∀ newApex, result = .ok newApex → ∃ prevApex prev,
        Replaced ienv.repository packagePath newApex prevApex prev w w') w := by
  obtain ⟨package, named⟩ : ∃ package, ∀ apex, openAt w.fs packagePath = .ok apex →
      apex.manifest.name = package := by
    cases opened : openAt w.fs packagePath with
    | error e => exact ⟨"", nofun⟩
    | ok apex => exact ⟨apex.manifest.name, fun apex' same => by cases same; rfl⟩
  rw [installPackage, wp_bind]
  refine wp_steady_prepareInstall named (fun e w₁ undisturbed => nofun)
    fun plan w₁ prepared undisturbed fresh => ?_
  have wellMounted₁ := wellMounted.of_undisturbed undisturbed
  have installable₁ := (installable _ prepared.opened).of_undisturbed wellMounted undisturbed
  have recorded := (wellMounted.settled _).recorded _ (latest_mem prepared.latest)
  have prepared₁ : Prepared w₁ packagePath plan.tempApex.manifest.name plan := by
    rw [prepared.named]
    refine ⟨?_, prepared.named, ?_, prepared.notTemp, ?_⟩
    · rw [undisturbed.openAt_eq outside, prepared.opened]
    · rw [(wellMounted.settled package).mountsOf_eq undisturbed, prepared.latest]
    · rw [undisturbed.openAt_eq recorded.outside, prepared.current]
  dsimp only
  rw [wp_bind, unloadApexFromInit]
  refine wp_mono wp_steady_tellInit fun unloaded w₂ same => ?_
  subst same
  cases unloaded with
  | error e => exact nofun
  | ok _ =>
    dsimp only
    rw [wp_bind, wp_attempt]
    refine wp_mono (wp_steady_replaces wellMounted₁ installable₁ prepared₁ fresh) ?_
    intro result w₃ replaced
    dsimp only
    rw [wp_bind, wp_ignore, loadApexFromInit]
    refine wp_mono wp_steady_tellInit fun loaded w₄ same => ?_
    subst same
    rintro newApex rfl
    exact ⟨_, _, (replaced newApex rfl).of_undisturbed wellMounted outside undisturbed⟩

/-- A successful installation replaces the latest version of the package. -/
theorem replaced_of_installPackage (wellMounted : w.WellMounted) (outside : packagePath.dir ≠ .hashTree)
    (installable : ∀ apex, openAt w.fs packagePath = .ok apex → w.Installable apex)
    (run : Runs steady (installPackage ienv packagePath force) w (.ok newApex) w') :
    w'.WellMounted ∧ ∃ prevApex prev, Replaced ienv.repository packagePath newApex prevApex prev w w' :=
  ⟨wp_runs (wp_steady_installPackage wellMounted outside installable) run,
    wp_runs (wp_steady_installs wellMounted outside installable) run newApex rfl⟩

theorem entries_withFooOne_of_ne {package : String} (ne : package ≠ "foo") :
    (withFooOne.database.mountsOf package).entries = [] := by
  rw [withFooOne, MountedApexDatabase.mountsOf_insert, if_neg ne]
  rfl

theorem wellMounted_withFooOne : withFooOne.WellMounted := by
  have installed := installed_withFooOne
  refine ⟨fun package => ?_, fun package => ?_, fun package => ?_⟩
  all_goals
    by_cases same : package = "foo"
    · subst same
      first
      | exact installed.settled
      | exact installed.bound
      | exact fun _ _ => by decide
  · refine ⟨?_, ?_⟩ <;> rw [entries_withFooOne_of_ne same] <;> exact List.forall_mem_nil _
  · exact .of_nil (entries_withFooOne_of_ne same)
  · rw [entries_withFooOne_of_ne same]
    exact List.forall_mem_nil _

theorem openAt_fooTwo : openAt withFooOne.fs fooTwo = .ok ⟨fooTwo, .plain "foo" 2 1⟩ := by
  decide +kernel

theorem installable_fooTwo : withFooOne.Installable ⟨fooTwo, .plain "foo" 2 1⟩ where
  noAt := by decide
  spelled name data member same := installed_withFooOne.spelled data member name same
  releasable data latest cur opened := by
    have only : (withFooOne.database.mountsOf "foo").latest = some fooOne := by
      rw [MountedSet.latest, entries_withFooOne]
      rfl
    cases only.symm.trans latest
    cases openAt_fooOne.symm.trans opened
    intro prev isLatest _ next below
    cases only.symm.trans isLatest
    obtain ⟨member, ne, -⟩ := below
    have isOne : next ∈ (withFooOne.database.mountsOf "foo").entries := member
    rw [entries_withFooOne, List.mem_singleton] at isOne
    exact absurd isOne ne

/-- Answers of the device where every mount operation succeeds. -/
def steadyHandler : Handler apexd String World
  | .kernel (.mountImage request), w => deviceHandler.succeeding (.kernel (.mountImage request)) w
  | .kernel (.umount target detach), w => deviceHandler.succeeding (.kernel (.umount target detach)) w
  | .database (.bindMountIfLatest package fullPath target source), w =>
    deviceHandler.succeeding (.database (.bindMountIfLatest package fullPath target source)) w
  | request, w => deviceHandler request w

theorem steadyHandler_sound : steadyHandler.Sound steady := by
  intro request w reply w' computed
  unfold steadyHandler at computed
  split at computed
  · exact succeeding_sound computed
  · exact succeeding_sound computed
  · exact succeeding_sound computed
  · rename_i notMount notUmount notBind
    refine ⟨.inl (deviceHandler_sound computed), fun isMount => ?_⟩
    cases request with
    | kernel request =>
      cases request with
      | mountImage request => exact absurd rfl (notMount request)
      | umount target detach => exact absurd rfl (notUmount target detach)
      | _ => exact isMount.elim
    | database request =>
      cases request with
      | bindMountIfLatest package fullPath target source =>
        exact absurd rfl (notBind package fullPath target source)
      | _ => exact isMount.elim
    | _ => exact isMount.elim

/-- Version 2 of a package takes the place of version 1. -/
theorem replaced_of_installPackage_foo : ∃ newApex w', newApex.manifest.version = 2 ∧
    w'.WellMounted ∧ ∃ prevApex prev,
      Replaced installsFoo.repository fooTwo newApex prevApex prev withFooOne w' := by
  obtain ⟨result, w', run, installed⟩ := exists_runs steadyHandler_sound
    (installPackage installsFoo fooTwo false) withFooOne
    (fun result _ => result.toOption.any fun newApex => newApex.manifest.version = 2)
    (by decide +kernel)
  cases result with
  | error e => cases installed
  | ok newApex =>
    refine ⟨newApex, w', of_decide_eq_true installed, ?_⟩
    refine replaced_of_installPackage wellMounted_withFooOne (by decide) (fun apex opened => ?_) run
    cases openAt_fooTwo.symm.trans opened
    exact installable_fooTwo

end Apexd
