import Apexd.Verified.ActiveBound
import Apexd.Verified.BootActivation

/-! # APEXes that are activated side by side

`ActivateApexPackages` mounts an APEX, records the mount and binds it in three steps, between which
other workers do the same with other APEXes, also with other versions of the same package.  However
they are interleaved and whatever fails, every entry of the database stays one of a mount that is
there, and the latest version of a package is bound unless its activation failed.
-/

namespace Apexd

open Process Storage

variable {env : Environment} {w₀ w w' : World} {queue : List ApexFile} {apex other : ApexFile}
  {package : String} {data : MountedApexData}

/-! ## One step of a worker -/

/-- What is recorded for an APEX that is mounted at the mount point of its version. -/
structure MountedApexData.OfApex (data : MountedApexData) (apex : ApexFile) : Prop where
  fullPath : data.fullPath = apex.path
  version : data.version = apex.manifest.version.toInt32
  mountPoint : data.mountPoint = getPackageMountPoint apex.manifest
  notTemp : data.isTempMount = false

/-- What a worker does to the device with one call. -/
inductive Advance (apex : ApexFile) : World → World → Prop
  | idle (w : World) : Advance apex w w
  | mount {w w' : World} {data : MountedApexData} (ofApex : data.OfApex apex)
      (free : imagesAt w.mounts data.mountPoint = []) (fs : w'.fs = w.fs)
      (database : w'.database = w.database)
      (images : ∀ target, imagesAt w'.mounts target =
        if data.mountPoint = target then [data] else imagesAt w.mounts target) : Advance apex w w'
  | record {w : World} {data : MountedApexData} {database : MountedApexDatabase}
      (ofApex : data.OfApex apex) (mounted : imagesAt w.mounts data.mountPoint = [data])
      (unrecorded : ∀ other ∈ (w.database.mountsOf apex.manifest.name).entries,
        other.mountPoint ≠ data.mountPoint)
      (added : w.database.addMountedApex apex.manifest.name data = some database) :
      Advance apex w { w with database := database }
  | bind {w : World} {data : MountedApexData}
      (latest : (w.database.mountsOf apex.manifest.name).latest = some data)
      (fullPath : data.fullPath = apex.path) :
      Advance apex w (w.bindAt (kApexRoot ++ "/" ++ apex.manifest.name) data)

theorem imagesAt_bindAt {target place : String} : imagesAt (w.bindAt target data).mounts place =
    if target = place then data :: (imagesAt w.mounts place).tail else imagesAt w.mounts place := by
  rw [World.bindAt, imagesAt_cons, imagesAt_unmountTop]
  split <;> rfl

/-- What is mounted for a version is not mounted at the mount point of a package. -/
theorem packageMountPoint_ne_kApexRoot (manifest : ApexManifest) (noAt : '@' ∉ package.toList) :
    getPackageMountPoint manifest ≠ kApexRoot ++ "/" ++ package := fun same =>
  at_not_mem_activeMountPoint noAt (same ▸ at_mem_packageMountPoint manifest)

theorem getPackageMountPoint_inj {first second : ApexManifest}
    (same : getPackageMountPoint first = getPackageMountPoint second) :
    getPackageId first = getPackageId second :=
  (String.append_right_inj _).mp same

/-- The entries after an entry was added. -/
theorem mem_of_added {database : MountedApexDatabase} {added entry : MountedApexData}
    (isAdded : w.database.addMountedApex package added = some database) {other : String} :
    entry ∈ (database.mountsOf other).entries ↔
      (other = package ∧ entry = added) ∨ entry ∈ (w.database.mountsOf other).entries := by
  obtain ⟨set, emplaced, mounts⟩ := OnlyTempsOf.mountsOf_of_addMountedApex isAdded other
  rw [mounts]
  split_ifs with same
  · subst same
    rw [MountedSet.entries_of_emplace emplaced, MountedSet.mem_insertSorted]
    simp
  · simp [same]

/-- After an entry was added the latest one is that entry, or the one that was the latest. -/
theorem latest_of_added {database : MountedApexDatabase} {added top : MountedApexData}
    (isAdded : w.database.addMountedApex package added = some database) {other : String}
    (latest : (database.mountsOf other).latest = some top) :
    (other = package ∧ top = added) ∨ (w.database.mountsOf other).latest = some top := by
  obtain ⟨member, above⟩ := MountedSet.latest_eq_some_iff.mp latest
  refine ((mem_of_added isAdded).mp member).imp id fun old => ?_
  refine MountedSet.latest_eq_some_iff.mpr ⟨old, fun entry isEntry ne => ?_⟩
  exact above entry ((mem_of_added isAdded).mpr (.inr isEntry)) ne

/-! ## What every step keeps -/

/-- APEXes that may be activated together. -/
structure World.Queued (w : World) (env : Environment) (queue : List ApexFile) : Prop where
  nodup : queue.Nodup
  opened : ∀ apex ∈ queue, openAt w.fs apex.path = .ok apex
  outside : ∀ apex ∈ queue, apex.path.dir ≠ .hashTree
  noAt : ∀ apex ∈ queue, '@' ∉ apex.manifest.name.toList
  spelled : ∀ apex ∈ queue, w.Spelled apex.manifest.name apex.path
  paths : ∀ apex ∈ queue, ∀ other ∈ queue, pathText apex.path = pathText other.path → apex = other
  /-- no version of a package is queued twice -/
  ids : ∀ apex ∈ queue, ∀ other ∈ queue,
    getPackageId apex.manifest = getPackageId other.manifest → apex = other
  /-- no update of the shim, which would be mounted for its verification first -/
  notUpdatedShim : ∀ apex ∈ queue,
    isShimApex apex = false ∨ env.repository.isPreInstalledApex apex = true

theorem World.Queued.of_sublist {fewer : List ApexFile} (queued : w.Queued env queue)
    (sublist : fewer.Sublist queue) : w.Queued env fewer where
  nodup := queued.nodup.sublist sublist
  opened apex member := queued.opened apex (sublist.subset member)
  outside apex member := queued.outside apex (sublist.subset member)
  noAt apex member := queued.noAt apex (sublist.subset member)
  spelled apex member := queued.spelled apex (sublist.subset member)
  paths apex member other member' := queued.paths apex (sublist.subset member) other (sublist.subset member')
  ids apex member other member' := queued.ids apex (sublist.subset member) other (sublist.subset member')
  notUpdatedShim apex member := queued.notUpdatedShim apex (sublist.subset member)

/-- A device on which APEXes of the queue have been activated since `w₀`. -/
structure World.Activated (w₀ : World) (queue : List ApexFile) (w : World) : Prop where
  fs : w.fs = w₀.fs
  kept : ∀ package, ∀ data ∈ (w₀.database.mountsOf package).entries,
    data ∈ (w.database.mountsOf package).entries
  only : ∀ package, ∀ data ∈ (w.database.mountsOf package).entries,
    data ∈ (w₀.database.mountsOf package).entries ∨
      ∃ apex ∈ queue, apex.manifest.name = package ∧ data.OfApex apex
  settled : ∀ package, w.Settled package
  named : ∀ package, ∀ data ∈ (w.database.mountsOf package).entries, '@' ∉ package.toList
  unique : w₀.database.hasUniqueLoopDm = true → w.database.hasUniqueLoopDm = true
  elsewhere : ∀ target, '@' ∈ target.toList →
    (∀ apex ∈ queue, target ≠ getPackageMountPoint apex.manifest) →
      imagesAt w.mounts target = imagesAt w₀.mounts target

/-- The latest version of every package is bound, if it is mounted from a file in `P`. -/
def World.BoundFrom (w : World) (P : FilePath → Prop) : Prop :=
  ∀ package data, (w.database.mountsOf package).latest = some data → P data.fullPath →
    ∀ apex, openAt w.fs data.fullPath = .ok apex → apex.manifest.provideSharedApexLibs = false →
      visibleAt w.mounts (kApexRoot ++ "/" ++ package) = some data

section Step

variable (queued : w₀.Queued env queue) (activated : w₀.Activated queue w) (member : apex ∈ queue)

include queued activated member

theorem World.Activated.opened : openAt w.fs apex.path = .ok apex := by
  rw [activated.fs, queued.opened apex member]

theorem World.Activated.spelled : w.Spelled apex.manifest.name apex.path := by
  intro data isEntry same
  rcases activated.only _ data isEntry with old | ⟨other, inQueue, -, ofApex⟩
  · exact queued.spelled apex member data old same
  · rw [ofApex.fullPath] at same ⊢
    rw [queued.paths other inQueue apex member same]

omit queued member in
/-- A step that leaves the entries and what is mounted for them as they are. -/
theorem World.Activated.of_entries (fs : w'.fs = w.fs) (database : w'.database = w.database)
    (images : ∀ package, ∀ data ∈ (w.database.mountsOf package).entries,
      imagesAt w'.mounts data.mountPoint = imagesAt w.mounts data.mountPoint)
    (elsewhere : ∀ target, '@' ∈ target.toList →
      (∀ apex ∈ queue, target ≠ getPackageMountPoint apex.manifest) →
        imagesAt w'.mounts target = imagesAt w.mounts target) : w₀.Activated queue w' where
  fs := fs.trans activated.fs
  kept := by rw [database]; exact activated.kept
  only := by rw [database]; exact activated.only
  settled package := (activated.settled package).mono fun data isEntry => by
    rw [database] at isEntry
    exact ⟨isEntry, by rw [fs], images package data isEntry⟩
  named := by rw [database]; exact activated.named
  unique := by rw [database]; exact activated.unique
  elsewhere target isAt others := (elsewhere target isAt others).trans
    (activated.elsewhere target isAt others)

/-- The mount of an APEX is recorded. -/
theorem World.Activated.record {database : MountedApexDatabase} (ofApex : data.OfApex apex)
    (mounted : imagesAt w.mounts data.mountPoint = [data])
    (unrecorded : ∀ other ∈ (w.database.mountsOf apex.manifest.name).entries,
      other.mountPoint ≠ data.mountPoint)
    (added : w.database.addMountedApex apex.manifest.name data = some database) :
    w₀.Activated queue { w with database := database } where
  fs := activated.fs
  kept package old isOld := (mem_of_added added).mpr (.inr (activated.kept package old isOld))
  only package entry isEntry := by
    rcases (mem_of_added added).mp isEntry with ⟨rfl, rfl⟩ | old
    · exact .inr ⟨apex, member, rfl, ofApex⟩
    · exact activated.only package entry old
  named package entry isEntry := by
    rcases (mem_of_added added).mp isEntry with ⟨rfl, -⟩ | old
    · exact queued.noAt apex member
    · exact activated.named package entry old
  unique _ := by
    simp only [MountedApexDatabase.addMountedApex, Option.bind_eq_bind, Option.bind_eq_some_iff] at added
    obtain ⟨set, -, added⟩ := added
    split at added
    · rename_i isUnique
      exact Option.some.inj added ▸ isUnique
    · cases added
  elsewhere := activated.elsewhere
  settled package := by
    have opened := activated.opened queued member
    -- no entry of the package is of the same file
    have alone {entry : MountedApexData} (isEntry : entry ∈ (w.database.mountsOf package).entries)
        (named : package = apex.manifest.name)
        (same : pathText entry.fullPath = pathText data.fullPath) : False := by
      subst named
      rw [ofApex.fullPath] at same
      obtain ⟨apex', opened', -, -, mountPoint⟩ :=
        ((activated.settled _).recorded entry isEntry).file
      rw [activated.spelled queued member entry isEntry same] at opened'
      cases opened.symm.trans opened'
      exact unrecorded entry isEntry (mountPoint.trans ofApex.mountPoint.symm)
    constructor
    · intro entry isEntry
      rcases (mem_of_added added).mp isEntry with ⟨rfl, rfl⟩ | old
      · refine ⟨ofApex.notTemp, ofApex.fullPath ▸ queued.outside apex member,
          ⟨apex, ?_, rfl, ofApex.version, ofApex.mountPoint⟩, mounted⟩
        rw [ofApex.fullPath]
        exact opened
      · obtain ⟨notTemp, outside, file, images⟩ := (activated.settled package).recorded entry old
        exact ⟨notTemp, outside, file, images⟩
    · intro first isFirst second isSecond same
      rcases (mem_of_added added).mp isFirst with ⟨isName, rfl⟩ | isFirst
      · rcases (mem_of_added added).mp isSecond with ⟨-, rfl⟩ | isSecond
        · rfl
        · exact (alone isSecond isName same.symm).elim
      · rcases (mem_of_added added).mp isSecond with ⟨isName, rfl⟩ | isSecond
        · exact (alone isFirst isName same).elim
        · exact (activated.settled package).distinct first isFirst second isSecond same

/-- Every step of every worker keeps the database true to what is mounted. -/
theorem World.Activated.advance (step : Advance apex w w') : w₀.Activated queue w' := by
  cases step with
  | idle => exact activated
  | mount ofApex free fs database images =>
    refine activated.of_entries fs database (fun package old isOld => ?_) fun target _ others => ?_
    · rw [images, if_neg]
      intro same
      have mounted := ((activated.settled package).recorded old isOld).mounted
      rw [← same, free] at mounted
      cases mounted
    · rw [images, if_neg]
      exact fun same => others apex member (same.symm.trans ofApex.mountPoint)
  | record ofApex mounted unrecorded added =>
    exact activated.record queued member ofApex mounted unrecorded added
  | bind latest fullPath =>
    have noAt := at_not_mem_activeMountPoint (queued.noAt apex member)
    refine activated.of_entries rfl rfl (fun package old isOld => ?_) fun target isAt _ => ?_
    · obtain ⟨apex', -, -, -, mountPoint⟩ := ((activated.settled package).recorded old isOld).file
      rw [imagesAt_bindAt, if_neg]
      intro same
      refine noAt (same ▸ mountPoint ▸ at_mem_packageMountPoint _)
    · rw [imagesAt_bindAt, if_neg]
      exact fun same => noAt (same ▸ isAt)

omit queued member in
/-- A step does not unbind a version that is mounted from another file. -/
theorem World.BoundFrom.advance {P : FilePath → Prop} (bound : w.BoundFrom P)
    (step : Advance apex w w') (others : ¬ P apex.path) : w'.BoundFrom P := by
  cases step with
  | idle => exact bound
  | mount ofApex free fs database images =>
    intro package top latest inP apex' opened notShared
    rw [database] at latest
    rw [fs] at opened
    have noAt := activated.named package top (latest_mem latest)
    rw [visibleAt_eq_head?, images, if_neg, ← visibleAt_eq_head?]
    · exact bound package top latest inP apex' opened notShared
    · rw [ofApex.mountPoint]
      exact packageMountPoint_ne_kApexRoot _ noAt
  | record ofApex mounted unrecorded added =>
    intro package top latest inP apex' opened notShared
    rcases latest_of_added added latest with ⟨-, rfl⟩ | latest
    · exact (others (ofApex.fullPath ▸ inP)).elim
    · exact bound package top latest inP apex' opened notShared
  | bind latest fullPath =>
    intro package top isTop inP apex' opened notShared
    rw [visibleAt_eq_head?, imagesAt_bindAt, if_neg, ← visibleAt_eq_head?]
    · exact bound package top isTop inP apex' opened notShared
    · intro same
      obtain rfl : apex.manifest.name = package := (String.append_right_inj _).mp same
      cases latest.symm.trans isTop
      exact others (fullPath ▸ inP)

end Step

/-! ## A worker among others -/

/-- The calls that may fail without effect: all but those of the database, of which only the bind
mount made under its mutex may. -/
def MayFailActivating : Call → Prop
  | .database (.bindMountIfLatest _ _ _ _) => True
  | request => MayFail request

/-- The device on which they do. -/
abbrev fallible : Semantics apexd String World :=
  device.withFaults MayFailActivating

/-- What the other workers do. -/
def OtherWorkers (queue : List ApexFile) (apex : ApexFile) (w w' : World) : Prop :=
  ∃ other ∈ queue, other ≠ apex ∧ Advance other w w'

/-- What a worker does with an APEX. -/
abbrev Advances (queue : List ApexFile) (apex : ApexFile) : Guarantee apexd World :=
  fun _ before after => apex ∈ queue ∧ Advance apex before after

/-- `wp` for the worker that activates an APEX of the queue. -/
abbrev wpAmong (queue : List ApexFile) (apex : ApexFile) {α : Type} (p : Procedure α)
    (Q : Except String α → World → Prop) : World → Prop :=
  wpUnder fallible (Advances queue apex) (OtherWorkers queue apex) p Q

/-- The other workers do not invalidate it. -/
def Stable (queue : List ApexFile) (apex : ApexFile) (P : World → Prop) : Prop :=
  ∀ w w', OtherWorkers queue apex w w' → P w → P w'

/-- The version of an APEX is mounted and recorded. -/
def World.Records (w : World) (apex : ApexFile) : Prop :=
  ∃ data ∈ (w.database.mountsOf apex.manifest.name).entries,
    data.mountPoint = getPackageMountPoint apex.manifest

/-- The version of an APEX is mounted only if it is recorded. -/
def World.Clean (w : World) (apex : ApexFile) : Prop :=
  imagesAt w.mounts (getPackageMountPoint apex.manifest) = [] ∨ w.Records apex

/-- Whatever is mounted for a version is recorded. -/
def World.Complete (w : World) : Prop :=
  ∀ target, '@' ∈ target.toList → ∀ image ∈ imagesAt w.mounts target, ∃ package,
    image ∈ (w.database.mountsOf package).entries ∧ image.mountPoint = target

/-- What is known of an APEX before it is mounted. -/
structure World.Awaits (w₀ : World) (queue : List ApexFile) (apex : ApexFile) (w : World) : Prop where
  activated : w₀.Activated queue w
  bound : w.BoundFrom (· = apex.path)
  clean : w₀.Complete → w.Clean apex

/-- A mount that is not recorded yet. -/
structure World.Unrecorded (w : World) (apex : ApexFile) (data : MountedApexData) : Prop where
  mounted : imagesAt w.mounts data.mountPoint = [data]
  unrecorded : ∀ other ∈ (w.database.mountsOf apex.manifest.name).entries,
    other.mountPoint ≠ data.mountPoint

theorem Advance.fs (step : Advance apex w w') : w'.fs = w.fs := by
  cases step with
  | mount _ _ fs _ _ => exact fs
  | idle | record | bind => rfl

/-- Entries only come. -/
theorem Advance.entries (step : Advance apex w w') {entry : MountedApexData}
    (isEntry : entry ∈ (w.database.mountsOf package).entries) :
    entry ∈ (w'.database.mountsOf package).entries := by
  cases step with
  | idle | bind => exact isEntry
  | mount _ _ _ database _ => rwa [database]
  | record _ _ _ added => exact (mem_of_added added).mpr (.inr isEntry)

theorem World.Records.advance (records : w.Records apex) (step : Advance other w w') :
    w'.Records apex := by
  obtain ⟨data, isEntry, mountPoint⟩ := records
  exact ⟨data, step.entries isEntry, mountPoint⟩

theorem World.Records.others (records : w.Records apex) (others : OtherWorkers queue apex w w') :
    w'.Records apex := by
  obtain ⟨other, -, -, step⟩ := others
  exact records.advance step

section Stability

variable (queued : w₀.Queued env queue) (member : apex ∈ queue)

include queued

theorem stable_activated : Stable queue apex (w₀.Activated queue) := by
  rintro w w' ⟨other, inQueue, -, step⟩ activated
  exact activated.advance queued inQueue step

/-- What the other workers keep once the APEX is recorded. -/
theorem stable_records : Stable queue apex fun w => w₀.Activated queue w ∧ w.Records apex := by
  rintro w w' ⟨other, inQueue, -, step⟩ ⟨activated, records⟩
  exact ⟨activated.advance queued inQueue step, records.advance step⟩

include member

theorem stable_bound : Stable queue apex fun w =>
    w₀.Activated queue w ∧ w.BoundFrom (· = apex.path) := by
  rintro w w' ⟨other, inQueue, ne, step⟩ ⟨activated, bound⟩
  refine ⟨activated.advance queued inQueue step, bound.advance activated step fun same => ne ?_⟩
  exact queued.paths other inQueue apex member (congrArg pathText same)

/-- The other workers do not touch what is mounted for the version of an APEX. -/
theorem OtherWorkers.images (others : OtherWorkers queue apex w w') :
    imagesAt w'.mounts (getPackageMountPoint apex.manifest) =
      imagesAt w.mounts (getPackageMountPoint apex.manifest) := by
  obtain ⟨other, inQueue, ne, step⟩ := others
  cases step with
  | idle | record => rfl
  | mount ofOther free fs database images =>
    rw [images, if_neg]
    rw [ofOther.mountPoint]
    exact fun same => ne (queued.ids other inQueue apex member (getPackageMountPoint_inj same))
  | bind latest fullPath =>
    rw [imagesAt_bindAt, if_neg]
    exact (packageMountPoint_ne_kApexRoot _ (queued.noAt other inQueue)).symm

theorem stable_clean : Stable queue apex fun w =>
    w₀.Activated queue w ∧ (w₀.Complete → w.Clean apex) := by
  rintro w w' others ⟨activated, clean⟩
  refine ⟨stable_activated queued w w' others activated, fun complete => ?_⟩
  refine (clean complete).imp (fun unmounted => ?_) fun records => records.others others
  rw [others.images queued member, unmounted]

theorem stable_awaits : Stable queue apex (w₀.Awaits queue apex) := by
  rintro w w' others ⟨activated, bound, clean⟩
  have bound' := stable_bound queued member w w' others ⟨activated, bound⟩
  exact ⟨bound'.1, bound'.2, (stable_clean queued member w w' others ⟨activated, clean⟩).2⟩

theorem stable_unrecorded (ofApex : data.OfApex apex) : Stable queue apex fun w =>
    w₀.Activated queue w ∧ w.Unrecorded apex data := by
  rintro w w' others ⟨activated, mounted, unrecorded⟩
  have images := others.images queued member
  rw [← ofApex.mountPoint, mounted] at images
  refine ⟨stable_activated queued w w' others activated, images, fun entry isEntry => ?_⟩
  obtain ⟨other, inQueue, ne, step⟩ := others
  cases step with
  | idle | bind => exact unrecorded entry isEntry
  | mount ofOther free fs database images =>
    rw [database] at isEntry
    exact unrecorded entry isEntry
  | record ofOther _ _ added =>
    rcases (mem_of_added added).mp isEntry with ⟨-, rfl⟩ | old
    · rw [ofOther.mountPoint, ofApex.mountPoint]
      exact fun same => ne (queued.ids other inQueue apex member (getPackageMountPoint_inj same))
    · exact unrecorded entry old

end Stability

/-! ### Reading -/

section Reading

variable {P : World → Prop} (stable : Stable queue apex P) (member : apex ∈ queue)
  (reads : ∀ w, P w → w.fs = w₀.fs) (holds : P w)

include stable member holds

/-- The rule for a call that leaves the device as it is. -/
theorem wpAmong_call {α : Type} {request : Call}
    {next : Except String (apexd.Reply request) → Procedure α} {Q : Except String α → World → Prop}
    (post : ∀ w₁ reply w₂, P w₁ → fallible request w₁ reply w₂ →
      w₂ = w₁ ∧ wpAmong queue apex (next reply) Q w₁) :
    wpAmong queue apex (.call request next) Q w := by
  refine wpUnder_call_stable stable holds fun w₁ reply w₂ before answer => ?_
  obtain ⟨rfl, later⟩ := post w₁ reply w₂ before answer
  exact ⟨⟨member, .idle _⟩, later⟩

omit member in
theorem wpAmong_done {α : Type} {result : Except String α} {Q : Except String α → World → Prop}
    (post : ∀ w', P w' → Q result w') : wpAmong queue apex (.done result) Q w :=
  wpUnder_done_stable stable holds post

include reads

theorem wpAmong_apexFile_open {path : FilePath} :
    wpAmong queue apex (ApexFile.open path) (fun result w' => P w' ∧
      ∀ other, result = .ok other → openAt w₀.fs path = .ok other) w := by
  refine wpUnder_bind (wpUnder_mapError (wpAmong_call stable member holds
    fun w₁ reply w₂ before answer => ?_))
  have read : w₂ = w₁ ∧ ∀ content, reply = .ok content → w₁.fs.file path = some content := by
    rcases answer with ⟨fs', answered, rfl⟩ | ⟨-, ⟨e, rfl⟩, rfl⟩
    · cases found : w₁.fs.file path with
      | none =>
        simp only [FsCall.Answers, FsCall.effect, found, Prod.mk.injEq] at answered
        rw [answered.1, answered.2]
        exact ⟨rfl, fun _ same => by cases same⟩
      | some content =>
        simp only [FsCall.Answers, FsCall.effect, found, Prod.mk.injEq] at answered
        rw [answered.1, answered.2]
        exact ⟨rfl, fun _ same => congrArg some (Except.ok.inj same)⟩
    · exact ⟨rfl, fun _ same => by cases same⟩
  refine ⟨read.1, ?_⟩
  cases reply with
  | error e => exact wpAmong_done stable before fun _ after => ⟨after, fun _ opened => by cases opened⟩
  | ok content =>
    refine wpAmong_done stable before fun w₃ after => wpAmong_done stable after fun w₄ last =>
      ⟨last, fun other opened => ?_⟩
    rw [← reads w₁ before, openAt, read.2 content rfl]
    exact opened

theorem wpAmong_findVersions {manifest : ApexManifest} {mounts : List (MountedApexData × Bool)} :
    wpAmong queue apex (Program.fold (findVersion manifest) .none mounts) (fun result w' => P w' ∧
      ∀ found, result = .ok found → FoundAmong w₀ manifest mounts found) w := by
  refine wpUnder_fold (fun _ found w' => P w' ∧ FoundAmong w₀ manifest mounts found)
    ⟨holds, nofun, nofun⟩ ?_ ?_
  · rintro before mount after found w₁ split ⟨holds₁, isFound⟩
    have inMounts : mount ∈ mounts := by simp [split]
    refine wpUnder_bind (wpUnder_attempt (wpUnder_mono
      (wpAmong_apexFile_open stable member reads holds₁) ?_))
    rintro result w₂ ⟨holds₂, opened⟩
    cases result with
    | error e => exact wpAmong_done stable holds₂ fun _ last => ⟨last, isFound⟩
    | ok other =>
      dsimp only
      split
      · rename_i sameVersion
        refine wpAmong_done stable holds₂ fun _ last => ⟨last, fun _ => rfl, fun _ => ?_⟩
        exact ⟨mount, inMounts, id, other, opened other rfl, sameVersion⟩
      · exact wpAmong_done stable holds₂ fun _ last => ⟨last, isFound⟩
  · rintro found w₁ ⟨holds₁, isFound⟩
    refine wpAmong_done stable holds₁ fun _ last => ⟨last, ?_⟩
    rintro _ ⟨⟩
    exact isFound

omit reads in
theorem wpAmong_forallMountedApexesOf :
    wpAmong queue apex (forallMountedApexesOf package false) (fun result w' => P w' ∧
      ∀ mounts, result = .ok mounts → ∀ mount ∈ mounts,
        mount.1 ∈ (w'.database.mountsOf package).entries) w := by
  refine wpAmong_call stable member holds fun w₁ reply w₂ before answer => ?_
  rcases answer with answer | ⟨impossible, -⟩
  · cases answer
    refine ⟨rfl, ?_⟩
    have listed : ∀ mount ∈ w₁.database.forallMountedApexesOf package false,
        mount.1 ∈ (w₁.database.mountsOf package).entries := fun mount isListed =>
      (hasMount_of_listed isListed).1
    have stillListed : Stable queue apex fun w => P w ∧
        ∀ mount ∈ w₁.database.forallMountedApexesOf package false,
          mount.1 ∈ (w.database.mountsOf package).entries := by
      rintro w₂ w₃ others ⟨holds₂, listed₂⟩
      refine ⟨stable _ _ others holds₂, fun mount isListed => ?_⟩
      obtain ⟨other, -, -, step⟩ := others
      exact step.entries (listed₂ mount isListed)
    refine wpAmong_done stillListed ⟨before, listed⟩ fun w₂ last => ⟨last.1, ?_⟩
    rintro _ ⟨⟩
    exact last.2
  · exact impossible.elim

end Reading

/-! ### Mounting and binding -/

section Worker

variable (queued : w₀.Queued env queue) (member : apex ∈ queue)

include queued member

/-- A mount at the place of the version succeeds only if it is not recorded for another mount. -/
theorem wpAmong_mountPackageImpl
    (holds : w₀.Activated queue w ∧ (w₀.Complete → w.Clean apex)) {deviceName : String}
    {hashtreeFile : FilePath} {verifyImage reuseDevice : Bool}
    {Q : Except String MountedApexData → World → Prop}
    (failed : ∀ e w', (w₀.Complete → w'.Clean apex) → Q (.error e) w')
    (mounted : ∀ data w', data.OfApex apex → w₀.Activated queue w' → w'.Unrecorded apex data →
      Q (.ok data) w') :
    wpAmong queue apex (mountPackageImpl env apex (getPackageMountPoint apex.manifest) deviceName
      hashtreeFile verifyImage reuseDevice false) Q w := by
  have throws (w₁ : World) (holds₁ : w₀.Activated queue w₁ ∧ (w₀.Complete → w₁.Clean apex))
      (e : String) : wpAmong queue apex (.throw e) Q w₁ :=
    wpAmong_done (stable_clean queued member) holds₁ fun w₂ last => failed e w₂ last.2
  unfold mountPackageImpl
  split
  · exact throws w holds _
  · cases env.repository.getPublicKey apex.manifest.name with
    | error e => exact throws w holds _
    | ok publicKey =>
      simp only [Program.ofExcept, Program.done_ok_bind]
      cases env.verifyApexVerity apex.archive publicKey with
      | error e => exact throws w holds _
      | ok treeSize =>
        refine wpUnder_call_stable (stable_clean queued member) holds
          fun w₁ reply w₂ before answer => ?_
        rcases answer with answer | ⟨-, ⟨e, rfl⟩, rfl⟩
        · change KernelCall.Answers (.mountImage _) _ _ _ at answer
          simp only [KernelCall.Answers] at answer
          split at answer
          · obtain ⟨rfl, rfl⟩ := answer
            exact ⟨⟨member, .idle _⟩, throws _ before _⟩
          · rename_i noError
            obtain ⟨loopName, hashtreeLoopName, -, rfl, rfl⟩ := answer
            have free : imagesAt w₁.mounts (getPackageMountPoint apex.manifest) = [] := by
              simp only [World.mountError] at noError
              split at noError
              · cases noError
              · rename_i empty
                rw [visibleAt_eq_head?, Bool.not_eq_true, Option.isSome_eq_false_iff,
                  Option.isNone_iff_eq_none] at empty
                exact List.head?_eq_none_iff.mp empty
            generalize isRequest : ({ apex, .. } : MountRequest) = request
            have ofApex : (request.data loopName hashtreeLoopName).OfApex apex := by
              rw [← isRequest]
              exact ⟨rfl, rfl, rfl, rfl⟩
            have images (target : String) : imagesAt (w₁.withImage request loopName
                hashtreeLoopName).mounts target = if (request.data loopName
                hashtreeLoopName).mountPoint = target then [request.data loopName hashtreeLoopName]
                else imagesAt w₁.mounts target := by
              rw [World.withImage, imagesAt_cons, ofApex.mountPoint, ← isRequest]
              split
              · rename_i same
                rw [← same, free]
              · rfl
            have step : Advance apex w₁ (w₁.withImage request loopName hashtreeLoopName) :=
              .mount ofApex (ofApex.mountPoint ▸ free) rfl rfl images
            refine ⟨⟨member, step⟩, wpAmong_done (stable_unrecorded queued member ofApex)
              ⟨before.1.advance queued member step, (images _).trans (if_pos rfl), fun old isOld same => ?_⟩
              fun w₃ last => mounted _ w₃ ofApex last.1 last.2⟩
            have isMounted := ((before.1.settled _).recorded old isOld).mounted
            rw [same, ofApex.mountPoint, free] at isMounted
            cases isMounted
        · exact ⟨⟨member, .idle _⟩, throws _ before e⟩

theorem wpAmong_mountAtItsPlace (holds : w₀.Activated queue w ∧ (w₀.Complete → w.Clean apex))
    {deviceName : String} {reuseDevice : Bool} :
    wpAmong queue apex (mountAtItsPlace env apex deviceName reuseDevice) (fun result w' =>
      (w₀.Complete → w'.Clean apex) ∧
        (result = .ok () → w₀.Activated queue w' ∧ w'.Records apex)) w := by
  refine wpUnder_bind (wpAmong_mountPackageImpl queued member holds (fun e w' clean => ⟨clean, nofun⟩)
    fun data w₁ ofApex activated₁ unrecorded => ?_)
  refine wpUnder_call_stable (stable_unrecorded queued member ofApex) ⟨activated₁, unrecorded⟩
    fun w₂ reply w₃ before answer => ?_
  rcases answer with answer | ⟨impossible, -⟩
  · obtain ⟨database, added, same⟩ := Option.map_eq_some_iff.mp answer
    cases same
    have step : Advance apex w₂ { w₂ with database := database } :=
      .record ofApex before.2.mounted before.2.unrecorded added
    have isEntry : data ∈ (database.mountsOf apex.manifest.name).entries :=
      (mem_of_added added).mpr (.inl ⟨rfl, rfl⟩)
    refine ⟨⟨member, step⟩, wpAmong_done (stable_records queued)
      ⟨before.1.advance queued member step, data, isEntry, ofApex.mountPoint⟩ fun _ last => ⟨fun _ => .inr last.2, fun _ => last⟩⟩
  · exact impossible.elim

/-- An APEX that is the latest of its package is what is mounted for its version. -/
theorem World.Activated.latest_file (activated : w₀.Activated queue w)
    (latest : (w.database.mountsOf package).latest = some data) (path : data.fullPath = apex.path) :
    package = apex.manifest.name ∧ data.mountPoint = getPackageMountPoint apex.manifest ∧
      imagesAt w.mounts data.mountPoint = [data] := by
  have recorded := (activated.settled package).recorded data (latest_mem latest)
  obtain ⟨apex', opened, named, -, mountPoint⟩ := recorded.file
  rw [path, activated.opened queued member] at opened
  cases opened
  exact ⟨named.symm, mountPoint, recorded.mounted⟩

theorem World.Activated.boundFrom_bindAt (activated : w₀.Activated queue w)
    (latest : (w.database.mountsOf apex.manifest.name).latest = some data) :
    (w.bindAt (kApexRoot ++ "/" ++ apex.manifest.name) data).BoundFrom (· = apex.path) := by
  intro package top isTop path _ _ _
  have isTop' : (w.database.mountsOf package).latest = some top := isTop
  obtain ⟨rfl, -, -⟩ := activated.latest_file queued member isTop' path
  cases latest.symm.trans isTop'
  rw [visibleAt_eq_head?, imagesAt_bindAt, if_pos rfl]
  rfl

theorem wpAmong_bindLatest (activated : w₀.Activated queue w) (records : w.Records apex) :
    wpAmong queue apex (bindLatest apex) (fun result w' => w'.Records apex ∧
      (result = .ok () → w'.BoundFrom (· = apex.path))) w := by
  have bounds (w₁ : World) (activated₁ : w₀.Activated queue w₁) (records₁ : w₁.Records apex)
      (bound : w₁.BoundFrom (· = apex.path)) : wpAmong queue apex (.done (.ok ()) : Procedure Unit)
        (fun _ w' => w'.Records apex ∧ w'.BoundFrom (· = apex.path)) w₁ := by
    have stable : Stable queue apex fun w' => w'.Records apex ∧
        w₀.Activated queue w' ∧ w'.BoundFrom (· = apex.path) := fun w₂ w₃ others last =>
      ⟨last.1.others others, stable_bound queued member w₂ w₃ others last.2⟩
    exact wpAmong_done stable ⟨records₁, activated₁, bound⟩ fun w₂ last => ⟨last.1, last.2.2⟩
  refine wpUnder_mapError (wpUnder_call_stable (stable_records queued) ⟨activated, records⟩
    fun w₁ reply w₂ before answer => ?_)
  rcases answer with answer | ⟨-, ⟨e, rfl⟩, rfl⟩
  · simp only [device, DatabaseCall.effect] at answer
    split at answer
    · cases answer
    · rename_i isLatest
      obtain ⟨top, latest, same⟩ := Option.map_eq_some_iff.mp isLatest
      have path := before.1.spelled queued member top (latest_mem latest) (of_decide_eq_true same)
      obtain ⟨-, mountPoint, images⟩ := before.1.latest_file queued member latest path
      have visible : visibleAt w₁.mounts (getPackageMountPoint apex.manifest) = some top := by
        rw [visibleAt_eq_head?, ← mountPoint, images]
        rfl
      rw [bindMount_of_visible visible] at answer
      cases answer
      have step : Advance apex w₁ (w₁.bindAt (getActiveMountPoint apex.manifest) top) := .bind latest path
      exact ⟨⟨member, step⟩, wpUnder_mono (bounds _ (before.1.advance queued member step)
        (before.2.advance step) (before.1.boundFrom_bindAt queued member latest))
        fun _ _ last => ⟨last.1, fun _ => last.2⟩⟩
    · rename_i notLatest
      cases answer
      refine ⟨⟨member, .idle _⟩, wpUnder_mono (bounds _ before.1 before.2
        fun package other isOther samePath apex' _ _ => ?_) fun _ _ last => ⟨last.1, fun _ => last.2⟩⟩
      obtain ⟨rfl, -, -⟩ := before.1.latest_file queued member isOther samePath
      rw [MountedApexDatabase.doIfLatest, isOther, Option.map_some, samePath] at notLatest
      simp at notLatest
  · exact ⟨⟨member, .idle _⟩, wpAmong_done (stable_records queued) before fun _ last =>
      ⟨last.2, fun isOk => by cases isOk⟩⟩

omit queued member in
/-- The version of an APEX that was found is recorded. -/
theorem World.Activated.records (activated : w₀.Activated queue w)
    {mounts : List (MountedApexData × Bool)} {found : VersionFound}
    (isFound : FoundAmong w₀ apex.manifest mounts found) (mounted : found.mounted = true)
    (entries : ∀ mount ∈ mounts, mount.1 ∈ (w.database.mountsOf apex.manifest.name).entries) :
    w.Records apex := by
  obtain ⟨mount, inMounts, -, other, opened, version⟩ := isFound.mounted mounted
  have isEntry := entries mount inMounts
  obtain ⟨apex', opened', named, -, mountPoint⟩ := ((activated.settled _).recorded mount.1 isEntry).file
  rw [activated.fs, opened] at opened'
  cases opened'
  refine ⟨mount.1, isEntry, ?_⟩
  rw [mountPoint, getPackageMountPoint, getPackageMountPoint, getPackageId, getPackageId, named, version]

/-- An activation among others that succeeds leaves the version of the APEX recorded, and bound if
it is the latest; one that fails leaves no mount that is not recorded. -/
theorem wpAmong_activatePackageImpl (awaits : w₀.Awaits queue apex w) {deviceName : String}
    {reuseDevice : Bool} : wpAmong queue apex (activatePackageImpl env apex deviceName reuseDevice)
      (fun result w' => (w₀.Complete → w'.Clean apex) ∧
        (result = .ok () → w'.Records apex ∧ w'.BoundFrom (· = apex.path))) w := by
  have notShim : (isShimApex apex && !env.repository.isPreInstalledApex apex) = false := by
    rcases queued.notUpdatedShim apex member with notShim | preInstalled
    · rw [notShim, Bool.false_and]
    · rw [preInstalled, Bool.not_true, Bool.and_false]
  have binds (w₁ : World) (activated₁ : w₀.Activated queue w₁) (records : w₁.Records apex) :
      wpAmong queue apex (do
        if !apex.manifest.provideSharedApexLibs then
          bindLatest apex) (fun result w' => (w₀.Complete → w'.Clean apex) ∧
            (result = .ok () → w'.Records apex ∧ w'.BoundFrom (· = apex.path))) w₁ := by
    split
    · refine wpUnder_mono (wpAmong_bindLatest queued member activated₁ records) ?_
      exact fun result w₂ last => ⟨fun _ => .inr last.1, fun isOk => ⟨last.1, last.2 isOk⟩⟩
    · rename_i shared
      refine wpAmong_done (stable_records queued) ⟨activated₁, records⟩ fun w₂ last =>
        ⟨fun _ => .inr last.2, fun _ => ⟨last.2, ?_⟩⟩
      intro package data latest path apex' opened notShared
      rw [path, last.1.opened queued member] at opened
      cases opened
      simp [notShared] at shared
  unfold activatePackageImpl
  dsimp only
  split
  · exact wpAmong_done (stable_awaits queued member) awaits fun _ last => ⟨last.clean, nofun⟩
  · rw [notShim]
    refine wpUnder_bind (wpUnder_mono (wpAmong_forallMountedApexesOf (stable_awaits queued member)
      member awaits) ?_)
    rintro result w₁ ⟨awaits₁, listed⟩
    cases result with
    | error e => exact ⟨awaits₁.clean, nofun⟩
    | ok mounts =>
      have stable : Stable queue apex fun w => w₀.Awaits queue apex w ∧
          ∀ mount ∈ mounts, mount.1 ∈ (w.database.mountsOf apex.manifest.name).entries := by
        rintro w₂ w₃ others ⟨holds, entries⟩
        refine ⟨stable_awaits queued member w₂ w₃ others holds, fun mount isListed => ?_⟩
        obtain ⟨other, -, -, step⟩ := others
        exact step.entries (entries mount isListed)
      refine wpUnder_bind (wpUnder_mono (wpAmong_findVersions stable member
        (fun _ holds => holds.1.activated.fs) ⟨awaits₁, listed mounts rfl⟩) ?_)
      rintro result w₂ ⟨⟨awaits₂, entries⟩, isFound⟩
      cases result with
      | error e => exact ⟨awaits₂.clean, nofun⟩
      | ok found =>
        dsimp only
        split
        · rename_i isActive
          have mounted := (isFound found rfl).activeMounted (Bool.and_eq_true_iff.mp isActive).1
          refine wpAmong_done stable ⟨awaits₂, entries⟩ fun w₃ last =>
            ⟨last.1.clean, fun _ => ⟨?_, last.1.bound⟩⟩
          exact last.1.activated.records (isFound found rfl) mounted last.2
        · split
          · refine wpUnder_bind (wpUnder_mono
              (wpAmong_mountAtItsPlace queued member ⟨awaits₂.activated, awaits₂.clean⟩) ?_)
            rintro result w₃ ⟨clean, mounts⟩
            cases result with
            | error e => exact ⟨clean, nofun⟩
            | ok _ => exact binds w₃ (mounts rfl).1 (mounts rfl).2
          · rename_i isMounted
            exact binds w₂ awaits₂.activated (awaits₂.activated.records (isFound found rfl)
              (by simpa using isMounted) entries)

end Worker

/-! ## All workers -/

variable {threads : Nat} {mode : ActivationMode} {results : List (ApexFile × Except String Unit)}

theorem cooperates_activateFromQueue (queued : w₀.Queued env queue) :
    Pool.Cooperates fallible (Advances queue) (OtherWorkers queue)
      (fun apex w => apex ∈ queue ∧ w₀.Awaits queue apex w)
      (fun apex result w' => (w₀.Complete → w'.Clean apex) ∧
        (result = .ok () → w'.Records apex ∧ w'.BoundFrom (· = apex.path)))
      (activateFromQueue env mode) queue where
  covers := by
    rintro item other w w' ne ⟨_, member, step⟩
    exact ⟨other, member, ne queued.nodup, step⟩
  stable := by
    rintro apex w w' others ⟨member, holds⟩
    exact ⟨member, stable_awaits queued member w w' others holds⟩
  programs := by
    rintro apex member w ⟨-, awaits⟩
    refine wpUnder_mapError (wpUnder_mono (wpAmong_activatePackageImpl queued member awaits)
      fun result w' holds => ⟨holds.1, fun isOk => ?_⟩)
    cases result with
    | error e => cases isOk
    | ok _ => exact holds.2 rfl

/-- What the workers leave when the queue is empty and each of them is done. -/
structure World.ActivatedAll (w : World) (results : List (ApexFile × Except String Unit)) (w' : World) :
    Prop where
  activated : w.Activated (results.map Prod.fst) w'
  /-- the version of an APEX that was activated has one entry -/
  recorded : ∀ apex, (apex, .ok ()) ∈ results → ∃ data,
    (w'.database.mountsOf apex.manifest.name).entries.filter
      (fun other => other.mountPoint = getPackageMountPoint apex.manifest) = [data]
  /-- a package is bound unless its latest version is of an APEX that could not be activated -/
  bound : ∀ package, (∀ data, (w'.database.mountsOf package).latest = some data →
    ∀ apex e, (apex, .error e) ∈ results → data.fullPath ≠ apex.path) → w'.Bound package
  /-- no mount is left that is not recorded -/
  complete : w.Complete → w'.Complete

/-- Of a package whose entries are all mounted there is at most one for a version. -/
theorem World.Settled.filter_eq_singleton (settled : w.Settled package)
    (member : data ∈ (w.database.mountsOf package).entries) :
    (w.database.mountsOf package).entries.filter
      (fun other => other.mountPoint = data.mountPoint) = [data] := by
  have nodup : (w.database.mountsOf package).entries.Nodup := by
    refine (w.database.mountsOf package).sorted.imp fun {a b} below => ?_
    rintro rfl
    exact lt_irrefl _ below
  have single : (w.database.mountsOf package).entries.filter
      (fun other => other.mountPoint = data.mountPoint) =
        (w.database.mountsOf package).entries.filter (· = data) := by
    refine List.filter_congr fun other isOther => decide_eq_decide.mpr ⟨fun same => ?_, fun same => ?_⟩
    · exact settled.eq_of_mountPoint isOther member same
    · rw [same]
  rw [single, List.filter_eq, List.count_eq_one_of_mem nodup member]
  rfl

/-- What is mounted where entries are recorded is what they say. -/
theorem World.Activated.clean (activated : w₀.Activated queue w) (complete : w.Complete) :
    w.Clean apex := by
  cases images : imagesAt w.mounts (getPackageMountPoint apex.manifest) with
  | nil => exact .inl images
  | cons image rest =>
    obtain ⟨package, isEntry, mountPoint⟩ := complete _ (at_mem_packageMountPoint apex.manifest) image
      (by rw [images]; exact List.mem_cons_self)
    obtain ⟨apex', -, named, -, place⟩ := ((activated.settled package).recorded image isEntry).file
    have ids := getPackageMountPoint_inj (place.symm.trans mountPoint)
    obtain rfl : package = apex.manifest.name := named.symm.trans (getPackageId_inj ids).1
    exact .inr ⟨image, isEntry, mountPoint⟩

/-- Activating a queue keeps the database true to the mounts, records every version exactly once
and leaves the latest versions bound, in whichever way the workers are interleaved. -/
theorem activatedAll_of_pool {count : Nat} (some' : queue ≠ [] → 0 < count)
    (wellMounted : w.WellMounted) (queued : w.Queued env queue)
    (run : Pool.Runs fallible (activateFromQueue env mode) queue count w results w') :
    (results.map Prod.fst).Perm queue ∧ w.ActivatedAll results w' := by
  have start : w.Activated queue w := ⟨rfl, fun _ _ => id, fun _ _ => .inl, wellMounted.settled,
    wellMounted.named, id, fun _ _ _ => rfl⟩
  have starts : ∀ apex ∈ queue, apex ∈ queue ∧ w.Awaits queue apex w := fun apex member =>
    ⟨member, start, fun package data latest _ => wellMounted.bound package data latest, start.clean⟩
  have cooperates : Pool.Cooperates fallible _ _ _ _ (activateFromQueue env mode) queue :=
    cooperates_activateFromQueue queued
  obtain ⟨perm, each⟩ : (results.map Prod.fst).Perm queue ∧ ∀ entry ∈ results,
      (w.Complete → w'.Clean entry.1) ∧
        (entry.2 = .ok () → w'.Records entry.1 ∧ w'.BoundFrom (· = entry.1.path)) := by
    by_cases nothing : queue = []
    · rw [cooperates.results_nil nothing run, nothing]
      exact ⟨.refl _, nofun⟩
    · exact cooperates.runs starts run (some' nothing)
  -- what the database says, and that nothing else was unbound, holds after every step
  obtain ⟨activated, others⟩ : w.Activated queue w' ∧
      w'.BoundFrom (fun path => ∀ apex ∈ queue, path ≠ apex.path) := by
    have changes := cooperates.changes starts run
    clear run each
    induction changes with
    | refl => exact ⟨start, fun package data latest _ => wellMounted.bound package data latest⟩
    | tail _ step ih =>
      obtain ⟨apex, member, _, -, step⟩ := step
      exact ⟨ih.1.advance queued member step,
        ih.2.advance ih.1 step fun notQueued => notQueued apex member rfl⟩
  have hasResult {apex : ApexFile} (inQueue : apex ∈ queue) : ∃ result, (apex, result) ∈ results := by
    obtain ⟨⟨_, result⟩, isResult, rfl⟩ := List.mem_map.mp (perm.mem_iff.mpr inQueue)
    exact ⟨result, isResult⟩
  refine ⟨perm, ⟨activated.fs, activated.kept, fun package data member => ?_, activated.settled,
    activated.named, activated.unique, fun target isAt notQueued => ?_⟩, fun apex isResult => ?_,
    fun package notFailed data latest => ?_, fun complete target isAt image isMounted => ?_⟩
  · refine (activated.only package data member).imp_right ?_
    rintro ⟨apex, inQueue, ofApex⟩
    exact ⟨apex, perm.mem_iff.mpr inQueue, ofApex⟩
  · exact activated.elsewhere target isAt fun apex inQueue => notQueued apex (perm.mem_iff.mpr inQueue)
  · obtain ⟨data, isEntry, mountPoint⟩ := ((each _ isResult).2 rfl).1
    rw [← mountPoint]
    exact ⟨data, (activated.settled _).filter_eq_singleton isEntry⟩
  · by_cases isQueued : ∃ apex ∈ queue, data.fullPath = apex.path
    · obtain ⟨apex, inQueue, path⟩ := isQueued
      obtain ⟨result, isResult⟩ := hasResult inQueue
      cases result with
      | error e => exact absurd path (notFailed data latest _ e isResult)
      | ok _ => exact ((each _ isResult).2 rfl).2 package data latest path
    · exact others package data latest fun apex inQueue path => isQueued ⟨apex, inQueue, path⟩
  · by_cases isQueued : ∃ apex ∈ queue, target = getPackageMountPoint apex.manifest
    · obtain ⟨apex, inQueue, rfl⟩ := isQueued
      obtain ⟨result, isResult⟩ := hasResult inQueue
      rcases (each _ isResult).1 complete with unmounted | ⟨data, isEntry, mountPoint⟩
      · rw [unmounted] at isMounted
        cases isMounted
      · have images := ((activated.settled _).recorded data isEntry).mounted
        rw [← mountPoint, images] at isMounted
        rw [List.mem_singleton.mp isMounted]
        exact ⟨_, isEntry, mountPoint⟩
    · rw [activated.elsewhere target isAt fun apex inQueue same => isQueued ⟨apex, inQueue, same⟩]
        at isMounted
      obtain ⟨package, isEntry, mountPoint⟩ := complete target isAt image isMounted
      exact ⟨package, activated.kept package image isEntry, mountPoint⟩

theorem World.ActivatedAll.wellMounted (all : w.ActivatedAll results w')
    (noErrors : errorsOf results = []) : w'.WellMounted where
  settled := all.activated.settled
  named := all.activated.named
  bound package := all.bound package fun data _ apex e isResult => by
    have inErrors : e ∈ errorsOf results := List.mem_filterMap.mpr ⟨_, isResult, rfl⟩
    rw [noErrors] at inErrors
    cases inErrors

/-- The two versions of a package that are not mounted. -/
def bothFoos : List ApexFile :=
  [⟨fooFile "1", .plain "foo" 1 0⟩, ⟨fooFile "2", .plain "foo" 2 1⟩]

theorem queued_bothFoos : twoFoos.Queued fooEnvironment bothFoos where
  nodup := by decide
  opened := by decide +kernel
  outside := by decide
  noAt := by simp [bothFoos, ApexFile.manifest, Archive.plain]
  spelled _ _ _ := nofun
  paths := by decide +kernel
  ids := by decide +kernel
  notUpdatedShim := by decide +kernel

end Apexd
