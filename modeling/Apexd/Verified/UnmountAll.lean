import Apexd.Process.Termination
import Apexd.Verified.PopulateFromMounts

/-! # Unmounting everything

`UnmountAll` runs in a process of its own, which learns from /proc/mounts what is mounted, and it
goes on when a call fails.  Its exit status tells whether everything that was found is unmounted.
-/

namespace Apexd

open Process Storage

/-- The device on which the calls in `may` may fail; `umount2` says that nothing is mounted only
where that is so. -/
def truthful (may : Call → Prop) : Semantics apexd String World :=
  fun request w reply w' => device request w reply w' ∨
    (may request ∧ w' = w ∧ ∃ e, reply = .error e ∧ ∀ target detach,
      request = .kernel (.umount target detach) → e ≠ World.notMounted ∧ e ≠ FsCall.noSuchFile)

theorem truthful_false : truthful (fun _ => False) = device := by
  funext request w reply w'
  simp [truthful]

/-- A mount as the handler of `ForallMountedApexes` gets it. -/
abbrev Visit := String × MountedApexData × Bool

/-- With a mount `UnmountAll` also unmounts what is bound at the mount point of the package. -/
def Visit.Unbinds (visit : Visit) (fs : FileSystem DirId Content) (target : String) : Prop :=
  visit.2.2 = true ∧ target = kApexRoot ++ "/" ++ visit.1 ∧
    ∃ apex, openAt fs visit.2.1.fullPath = .ok apex ∧ apex.manifest.provideSharedApexLibs = false

/-- The device after the visited mounts were unmounted. -/
structure World.WithoutVisited (w : World) (visited : List Visit) (w' : World) : Prop where
  versions : ∀ visit ∈ visited, imagesAt w'.mounts visit.2.1.mountPoint = []
  devices : ∀ visit ∈ visited, visit.2.1.deviceName ≠ "" → visit.2.1.deviceName ∉ w'.devices
  unbound : ∀ visit ∈ visited, ∀ target, visit.Unbinds w.fs target →
    imagesAt w'.mounts target = (imagesAt w.mounts target).tail
  elsewhere : ∀ target, (∀ visit ∈ visited, visit.2.1.mountPoint ≠ target ∧ ¬ visit.Unbinds w.fs target) →
    imagesAt w'.mounts target = imagesAt w.mounts target

variable {w w₁ w₂ w' : World} {package : String} {data : MountedApexData} {latest : Bool}
  {visit : Visit} {may : Call → Prop} {ret : Nat}

namespace MountedApexDatabase

variable {database : MountedApexDatabase}

theorem mem_forallMountedApexes : (package, data, latest) ∈ database.forallMountedApexes false ↔
    data ∈ (database.mountsOf package).entries ∧ data.isTempMount = false ∧
      latest = decide ((database.mountsOf package).latest = some data) := by
  let w : World := { World.ofDirectories [] with database := database }
  rw [← visited_iff (w := w)]
  simp only [forallMountedApexes, List.mem_flatMap, List.mem_map, Prod.mk.injEq]
  constructor
  · rintro ⟨_, -, _, member, rfl, rfl, rfl⟩
    exact member
  · intro member
    refine ⟨package, ?_, _, member, rfl, rfl, rfl⟩
    rw [Directory.mem_names]
    by_contra absent
    have isEntry := (visited_iff.mp member).1
    rw [mountsOf, Finmap.lookup_eq_none.mpr absent] at isEntry
    cases isEntry

theorem nodup_forallMountedApexes (database : MountedApexDatabase) :
    (database.forallMountedApexes false).Nodup := by
  refine List.nodup_flatMap.mpr ⟨fun name _ => ?_, ?_⟩
  · have reversed : ((database.mountsOf name).reversed.map Prod.fst).Nodup := by
      have same : (database.mountsOf name).reversed.map Prod.fst = (database.mountsOf name).entries.reverse := by
        rw [MountedSet.reversed]
        cases (database.mountsOf name).entries.reverse with
        | nil => rfl
        | cons top rest => simp [Function.comp_def]
      rw [same, List.nodup_reverse]
      exact MountedSet.nodup_entries _
    refine (reversed.of_map _).filter _ |>.map ?_
    rintro ⟨_, _⟩ ⟨_, _⟩ same
    cases same
    rfl
  · refine (Directory.nodup_names database).imp fun {a b} ne => ?_
    rintro ⟨name, entry⟩ first second
    obtain ⟨_, -, same⟩ := List.mem_map.mp first
    obtain ⟨_, -, same'⟩ := List.mem_map.mp second
    exact ne ((Prod.mk.inj same).1.trans (Prod.mk.inj same').1.symm)

end MountedApexDatabase

/-! ## One mount -/

theorem beforeAt_packageMountPoint {manifest : ApexManifest} (noAt : '@' ∉ manifest.name.toList) :
    beforeAt (getPackageMountPoint manifest) = some (kApexRoot ++ "/" ++ manifest.name) := by
  have none := at_not_mem_activeMountPoint noAt
  have joined : (getPackageMountPoint manifest).toList =
      (kApexRoot ++ "/" ++ manifest.name).toList ++ '@' :: (toString manifest.version).toList := by
    simp [getPackageMountPoint, getPackageId]
  have stops : (getPackageMountPoint manifest).toList.takeWhile (· ≠ '@') =
      (kApexRoot ++ "/" ++ manifest.name).toList := by
    rw [joined, List.takeWhile_append_of_pos]
    · simp
    · intro c member
      exact decide_eq_true fun same => none (same ▸ member)
  rw [beforeAt, if_pos (at_mem_packageMountPoint manifest), stops, String.ofList_toList]

section Calls

variable {α : Type} {request : Call} {next : Except String (apexd.Reply request) → Procedure α}
  {Q : Except String α → World → Prop}

/-- A call that is answered as it is without faults, or fails. -/
theorem wp_truthful (answers : ∀ reply w', device request w reply w' →
      wp (truthful may) Anything (next reply) Q w')
    (faults : may request → ∀ e, (∀ target detach, request = .kernel (.umount target detach) →
      e ≠ World.notMounted ∧ e ≠ FsCall.noSuchFile) → wp (truthful may) Anything (next (.error e)) Q w) :
    wp (truthful may) Anything (.call request next) Q w := by
  rintro reply w' (answer | ⟨mayFail, rfl, e, rfl, honest⟩)
  · exact ⟨trivial, answers reply w' answer⟩
  · exact ⟨trivial, faults mayFail e honest⟩

theorem wp_truthful_umount {target : String} {detach : Bool} {Q : Except String Unit → World → Prop}
    (done : ∀ w', w'.fs = w.fs → w'.devices = w.devices → LessAt target w w' → Q (.ok ()) w')
    (free : imagesAt w.mounts target = [] → Q (.error World.notMounted) w)
    (failed : may (.kernel (.umount target detach)) → ∀ e, e ≠ World.notMounted →
      e ≠ FsCall.noSuchFile → Q (.error e) w) :
    wp (truthful may) Anything (kernelCall (.umount target detach)) Q w := by
  refine wp_truthful (fun reply w' answer => ?_) fun mayFail e honest =>
    failed mayFail e (honest _ _ rfl).1 (honest _ _ rfl).2
  have answered : (reply, w') = w.umount target := answer
  have less := imagesAt_umount w target
  rw [World.umount] at answered less
  split at answered
  · rename_i visible
    rw [if_pos visible] at less
    cases answered
    exact done _ rfl rfl less
  · rename_i nothing
    cases answered
    rw [visibleAt_eq_head?, Bool.not_eq_true, Option.isSome_eq_false_iff, Option.isNone_iff_eq_none] at nothing
    exact free (List.head?_eq_none_iff.mp nothing)

end Calls

theorem wp_truthful_open {path : FilePath} {apex : ApexFile} {Q : Except String ApexFile → World → Prop}
    (opened : openAt w.fs path = .ok apex) (done : Q (.ok apex) w)
    (failed : (∃ request, may request) → ∀ e, Q (.error e) w) :
    wp (truthful may) Anything (ApexFile.open path) Q w := by
  rw [ApexFile.open, wp_bind, orErrno, wp_mapError]
  refine wp_truthful (fun reply w' answer => ?_) fun mayFail e _ => failed ⟨_, mayFail⟩ _
  obtain ⟨fs', answered, rfl⟩ := answer
  rw [openAt] at opened
  cases found : w.fs.file path with
  | none => simp [found] at opened
  | some content =>
    simp only [FsCall.Answers, FsCall.effect, found, Prod.mk.injEq] at answered
    obtain ⟨rfl, rfl⟩ := answered
    rw [found] at opened
    change wp (truthful may) Anything (.ofExcept (ApexFile.openContent path content)) Q w
    dsimp only at opened
    rw [wp_ofExcept, opened]
    exact done

/-- `Unmount` unmounts and deletes the device, unless a call fails. -/
theorem wp_truthful_unmount {Q : Except String Unit → World → Prop}
    (done : ∀ w', w'.fs = w.fs → LessAt data.mountPoint w w' →
      (∀ name ∈ w'.devices, name ∈ w.devices) →
      (data.deviceName ≠ "" → data.deviceName ∉ w'.devices) → Q (.ok ()) w')
    (failed : (∃ request, may request) → ∀ e w', w'.fs = w.fs → Q (.error e) w') :
    wp (truthful may) Anything (unmount data false) Q w := by
  have deletes (w₁ : World) (fs : w₁.fs = w.fs) (devices : w₁.devices = w.devices)
      (less : LessAt data.mountPoint w w₁) : wp (truthful may) Anything (do
        if data.deviceName ≠ "" then
          kernelCall (.deleteVerityDevice data.deviceName false)) Q w₁ := by
    split
    · refine wp_truthful (fun reply w₂ answer => ?_) fun mayFail e _ => failed ⟨_, mayFail⟩ e w₁ fs
      obtain ⟨rfl, rfl | ⟨impossible, -⟩⟩ : KernelCall.Answers (.deleteVerityDevice _ _) w₁ reply w₂ := answer
      · refine done _ fs less (fun name member => ?_) fun _ member => ?_
        · exact devices ▸ (List.mem_filter.mp member).1
        · simpa using (List.mem_filter.mp member).2
      · cases impossible
    · rename_i unnamed
      exact done w₁ fs less (fun name member => devices ▸ member) fun named => absurd named (by simpa using unnamed)
  rw [unmount, wp_bind, umountIfMounted, wp_bind, wp_attempt]
  refine wp_truthful_umount (fun w₁ fs devices less => ?_) (fun free => ?_) fun mayFail e notFree notFound => ?_
  · exact deletes w₁ fs devices less
  · refine deletes w rfl rfl fun target => ?_
    split
    · rename_i same
      rw [← same, free]
      rfl
    · rfl
  · dsimp only
    rw [if_neg (by simp [notFree, notFound])]
    exact failed ⟨_, mayFail⟩ _ w rfl

/-- The device after one mount was unmounted. -/
structure World.WithoutVisit (w : World) (fs : FileSystem DirId Content) (visit : Visit) (w' : World) :
    Prop where
  unmounted : ∀ target, visit.2.1.mountPoint = target ∨ visit.Unbinds fs target →
    imagesAt w'.mounts target = (imagesAt w.mounts target).tail
  elsewhere : ∀ target, visit.2.1.mountPoint ≠ target → ¬ visit.Unbinds fs target →
    imagesAt w'.mounts target = imagesAt w.mounts target
  fewer : ∀ name ∈ w'.devices, name ∈ w.devices
  device : visit.2.1.deviceName ≠ "" → visit.2.1.deviceName ∉ w'.devices

/-- Why `UnmountAll` may return 1 after a mount. -/
def World.BlamedOn (w : World) (may : Call → Prop) (visit : Visit) : Prop :=
  (∃ request, may request) ∨ ∃ target, visit.Unbinds w.fs target ∧ imagesAt w.mounts target = []

/-- The file of a mount can be read, and the mount is where its package has it. -/
structure Visit.Readable (visit : Visit) (fs : FileSystem DirId Content) : Prop where
  noAt : '@' ∉ visit.1.toList
  file : ∃ apex, openAt fs visit.2.1.fullPath = .ok apex ∧ apex.manifest.name = visit.1 ∧
    visit.2.1.mountPoint = getPackageMountPoint apex.manifest

section Visit

variable {apex : ApexFile} (readable : Visit.Readable (package, data, latest) w.fs)
  (opened : openAt w.fs data.fullPath = .ok apex)
include readable opened

omit readable in
theorem unbinds_iff {target : String} : Visit.Unbinds (package, data, latest) w.fs target ↔
    (latest && !apex.manifest.provideSharedApexLibs) = true ∧ kApexRoot ++ "/" ++ package = target := by
  simp only [Visit.Unbinds, opened, Except.ok.injEq, exists_eq_left', Bool.and_eq_true, Bool.not_eq_true']
  tauto

theorem Visit.Readable.mountPoint_eq : data.mountPoint = getPackageMountPoint apex.manifest ∧
    apex.manifest.name = package := by
  obtain ⟨apex', opened', named, mountPoint⟩ := readable.file
  obtain rfl : apex' = apex := Except.ok.inj (opened'.symm.trans opened)
  exact ⟨mountPoint, named⟩

omit opened in
theorem Visit.Readable.at_mem : '@' ∈ data.mountPoint.toList := by
  obtain ⟨apex, -, -, mountPoint⟩ := readable.file
  exact mountPoint ▸ at_mem_packageMountPoint _

/-- The package is unbound first, where it has to be. -/
theorem wp_truthful_unbindLatest {Q : Except String Nat → World → Prop}
    (unbound : ∀ w', w'.fs = w.fs → w'.devices = w.devices →
      (∀ target, imagesAt w'.mounts target =
        if (latest && !apex.manifest.provideSharedApexLibs) = true ∧ kApexRoot ++ "/" ++ package = target
        then (imagesAt w.mounts target).tail else imagesAt w.mounts target) → Q (.ok ret) w')
    (failed : w.BlamedOn may (package, data, latest) → Q (.ok 1) w) :
    wp (truthful may) Anything (if latest && !apex.manifest.provideSharedApexLibs then
      unmountBindMount data ret else pure ret) Q w := by
  obtain ⟨mountPoint, named⟩ := readable.mountPoint_eq opened
  split
  · rename_i unbinds
    rw [unmountBindMount, mountPoint, beforeAt_packageMountPoint (named ▸ readable.noAt), named]
    dsimp only
    rw [wp_bind, wp_attempt]
    refine wp_truthful_umount (fun w₁ fs devices less => unbound w₁ fs devices fun target => ?_)
      (fun free => failed (.inr ⟨_, (unbinds_iff opened).mpr ⟨unbinds, rfl⟩, free⟩))
      fun mayFail e _ _ => failed (.inl ⟨_, mayFail⟩)
    rw [less]
    simp only [unbinds, true_and]
  · rename_i stays
    exact unbound w rfl rfl fun target => by rw [if_neg fun both => stays both.1]

/-- A mount is unmounted, or it is returned that it may not be. -/
theorem wp_truthful_unmountVisited :
    wp (truthful may) Anything (unmountVisited ret (package, data, latest)) (fun result w' => w'.fs = w.fs ∧
      ((result = .ok ret ∧ w.WithoutVisit w.fs (package, data, latest) w') ∨
        (result = .ok 1 ∧ w.BlamedOn may (package, data, latest)))) w := by
  have noBindAt := at_not_mem_activeMountPoint readable.noAt
  have isAt := readable.at_mem
  rw [unmountVisited, wp_bind, wp_attempt]
  refine wp_truthful_open opened ?_ fun mayFail e => ⟨rfl, .inr ⟨rfl, .inl mayFail⟩⟩
  dsimp only
  rw [wp_bind]
  refine wp_truthful_unbindLatest readable opened (fun w₁ fs devices images => ?_) fun blamed => ?_
  · dsimp only
    rw [wp_bind, wp_attempt]
    refine wp_truthful_unmount (fun w₂ fs₂ less fewer device => ⟨fs₂.trans fs, .inl ⟨rfl,
      fun target which => ?_, fun target notHere notBound => ?_, fun name member => devices ▸ fewer name member,
      device⟩⟩) fun mayFail e w₂ fs₂ => ⟨fs₂.trans fs, .inr ⟨rfl, .inl mayFail⟩⟩
    · rw [unbinds_iff opened] at which
      rw [less, images]
      rcases which with here | bound
      · have notBound : kApexRoot ++ "/" ++ package ≠ target := fun same =>
          noBindAt (same.trans here.symm ▸ isAt)
        rw [if_pos here, if_neg fun both => notBound both.2]
      · have notHere : data.mountPoint ≠ target := fun here => noBindAt (bound.2.trans here.symm ▸ isAt)
        rw [if_neg notHere, if_pos bound]
    · rw [unbinds_iff opened] at notBound
      rw [less, images, if_neg notHere, if_neg notBound]
  · dsimp only
    rw [wp_bind, wp_attempt]
    exact wp_truthful_unmount (fun w₂ fs₂ _ _ _ => ⟨fs₂, .inr ⟨rfl, blamed⟩⟩)
      fun mayFail e w₂ fs₂ => ⟨fs₂, .inr ⟨rfl, .inl mayFail⟩⟩

end Visit

/-- The `CHECK` of an `@` in the mount point passes, and every call is answered. -/
theorem mountsNothing_unmountVisited (isAt : '@' ∈ visit.2.1.mountPoint.toList) :
    (unmountVisited ret visit).Within MountsNothing := by
  obtain ⟨package, data, latest⟩ := visit
  have opening := (always_apexFile_open data.fullPath).mono fun _ => AlwaysAnswered.mountsNothing
  have unmounting : (unmount data false).Within MountsNothing := within_unmount trivial trivial
  have unbinding : (unmountBindMount data ret).Within MountsNothing := by
    rw [unmountBindMount, beforeAt, if_pos isAt]
    refine (Program.Within.perform (I := apexd) trivial).attempt.bind fun unbound => ?_
    cases unbound <;> trivial
  refine opening.attempt.bind fun opened => ?_
  cases opened with
  | error e => trivial
  | ok apex =>
    refine Program.Within.bind ?_ fun ret => unmounting.attempt.bind fun unmounted => ?_
    · split
      · exact unbinding
      · trivial
    · cases unmounted <;> trivial

/-! ## All mounts -/

theorem World.WithoutVisited.refl (w : World) : w.WithoutVisited [] w :=
  ⟨by simp, by simp, by simp, fun _ _ => rfl⟩

theorem latest_of_unbinds {database : MountedApexDatabase} {fs : FileSystem DirId Content}
    (isVisit : visit ∈ database.forallMountedApexes false)
    (unbinds : visit.Unbinds fs (kApexRoot ++ "/" ++ package)) :
    (database.mountsOf package).latest = some visit.2.1 ∧ visit = (package, visit.2.1, true) := by
  obtain ⟨other, data, latest⟩ := visit
  obtain ⟨isLatest, point, -⟩ := unbinds
  have same : package = other := by simpa using point
  subst same
  dsimp only at isLatest
  subst isLatest
  have top := (MountedApexDatabase.mem_forallMountedApexes.mp isVisit).2.2
  exact ⟨of_decide_eq_true top.symm, rfl⟩

/-- At most one mount unbinds a mount point. -/
theorem unbinds_unique {database : MountedApexDatabase} {fs : FileSystem DirId Content} {other : Visit}
    {target : String} (isVisit : visit ∈ database.forallMountedApexes false)
    (isOther : other ∈ database.forallMountedApexes false)
    (unbinds : visit.Unbinds fs target) (unbinds' : other.Unbinds fs target) : visit = other := by
  obtain rfl := unbinds.2.1
  have first := latest_of_unbinds isVisit unbinds
  have second := latest_of_unbinds isOther unbinds'
  rw [second.2, first.2, Option.some.inj (second.1.symm.trans first.1)]

section All

variable (readable : ∀ visit ∈ w.database.forallMountedApexes false, Visit.Readable visit w.fs)
include readable

theorem at_mem_of_visit (member : visit ∈ w.database.forallMountedApexes false) :
    '@' ∈ visit.2.1.mountPoint.toList :=
  (readable visit member).at_mem

theorem Visit.Unbinds.at_not_mem {target : String}
    (member : visit ∈ w.database.forallMountedApexes false) (unbinds : visit.Unbinds w.fs target) :
    '@' ∉ target.toList := by
  rw [unbinds.2.1]
  exact at_not_mem_activeMountPoint (readable visit member).noAt

theorem mountPoint_ne_of_unbinds {other : Visit} {target : String}
    (member : visit ∈ w.database.forallMountedApexes false)
    (isOther : other ∈ w.database.forallMountedApexes false) (unbinds : other.Unbinds w.fs target) :
    visit.2.1.mountPoint ≠ target := fun same =>
  unbinds.at_not_mem readable isOther (same ▸ at_mem_of_visit readable member)

section Step

variable {before after : List Visit} (without : w.WithoutVisited before w₁)
  (split : w.database.forallMountedApexes false = before ++ visit :: after)
include split

omit readable in
theorem not_unbinds_of_before {other : Visit} (member : other ∈ before) {target : String}
    (unbinds : other.Unbinds w.fs target) : ¬ visit.Unbinds w.fs target := by
  intro unbinds'
  have nodup := MountedApexDatabase.nodup_forallMountedApexes w.database
  rw [split, List.nodup_append] at nodup
  have isVisit : visit ∈ w.database.forallMountedApexes false := by simp [split]
  have isOther : other ∈ w.database.forallMountedApexes false := by simp [split, member]
  exact nodup.2.2 other member visit List.mem_cons_self (unbinds_unique isOther isVisit unbinds unbinds')

include without

/-- What a mount unbinds was not touched before. -/
theorem World.WithoutVisited.untouched {target : String} (unbinds : visit.Unbinds w.fs target) :
    imagesAt w₁.mounts target = imagesAt w.mounts target := by
  have isVisit : visit ∈ w.database.forallMountedApexes false := by simp [split]
  refine without.elsewhere target fun earlier member => ⟨?_, fun unbinds' => ?_⟩
  · exact mountPoint_ne_of_unbinds readable (by simp [split, member]) isVisit unbinds
  · exact not_unbinds_of_before split member unbinds' unbinds

theorem World.WithoutVisited.step (alone : ∀ visit ∈ w.database.forallMountedApexes false,
      (imagesAt w.mounts visit.2.1.mountPoint).tail = [])
    (stepped : w₁.WithoutVisit w.fs visit w') : w.WithoutVisited (before ++ [visit]) w' := by
  have isVisit : visit ∈ w.database.forallMountedApexes false := by simp [split]
  have isBefore (other : Visit) (member : other ∈ before) :
      other ∈ w.database.forallMountedApexes false := by simp [split, member]
  refine ⟨fun other member => ?_, fun other member named => ?_, fun other member target unbinds => ?_,
    fun target untouched => ?_⟩
  · rcases List.mem_append.mp member with member | member
    · by_cases here : visit.2.1.mountPoint = other.2.1.mountPoint
      · rw [stepped.unmounted _ (.inl here), without.versions other member, List.tail_nil]
      · rw [stepped.elsewhere _ here fun unbinds =>
            mountPoint_ne_of_unbinds readable (isBefore other member) isVisit unbinds rfl,
          without.versions other member]
    · obtain rfl := List.mem_singleton.mp member
      rw [stepped.unmounted _ (.inl rfl)]
      by_cases again : ∃ earlier ∈ before, earlier.2.1.mountPoint = other.2.1.mountPoint
      · obtain ⟨earlier, member, same⟩ := again
        rw [← same, without.versions earlier member, List.tail_nil]
      · rw [without.elsewhere _ fun earlier member => ⟨fun same => again ⟨earlier, member, same⟩,
            fun unbinds => mountPoint_ne_of_unbinds readable isVisit (isBefore earlier member) unbinds rfl⟩,
          alone other isVisit]
  · rcases List.mem_append.mp member with member | member
    · exact fun isDevice => without.devices other member named (stepped.fewer _ isDevice)
    · obtain rfl := List.mem_singleton.mp member
      exact stepped.device named
  · rcases List.mem_append.mp member with member | member
    · have here := mountPoint_ne_of_unbinds readable isVisit (isBefore other member) unbinds
      rw [stepped.elsewhere _ here (not_unbinds_of_before split member unbinds),
        without.unbound other member target unbinds]
    · obtain rfl := List.mem_singleton.mp member
      rw [stepped.unmounted _ (.inr unbinds), without.untouched readable split unbinds]
  · have notThis := untouched visit (by simp)
    rw [stepped.elsewhere _ notThis.1 notThis.2]
    exact without.elsewhere _ fun other member => untouched other (by simp [member])

end Step

/-- Nothing was bound where a mount is to be unbound, or a call failed. -/
def World.Blamed (w : World) (may : Call → Prop) : Prop :=
  (∃ request, may request) ∨ ∃ visit ∈ w.database.forallMountedApexes false, ∃ target,
    Visit.Unbinds visit w.fs target ∧ imagesAt w.mounts target = []

/-- It comes to an end, whatever fails. -/
theorem ends_unmountAll (database : ∀ request, ¬ may (.database request)) :
    Ends (truthful may) unmountAll w := by
  have answered (request : Call) (mountsNothing : MountsNothing request) (w : World) :
      ∃ reply w', truthful may request w reply w' := by
    obtain ⟨reply, w', answer⟩ := answered_of_mountsNothing request mountsNothing w
    exact ⟨reply, w', .inl answer⟩
  refine ⟨answered (.database (.forallMountedApexes false)) trivial w, fun reply w₁ answer => ?_⟩
  rcases answer with answer | ⟨mayFail, -⟩
  · cases answer
    refine Ends.fold (fun _ _ => True) trivial fun visit member ret w₁ _ => ⟨?_, ?_⟩
    · exact .of_within (mountsNothing_unmountVisited (at_mem_of_visit readable member)) answered w₁
    · exact wp_mono (wp_anything _ _) fun _ _ _ _ _ => trivial
  · exact absurd mayFail (database _)

/-- It returns 0 only if all is unmounted, and 1 only if there is a reason. -/
theorem wp_truthful_unmountAll (database : ∀ request, ¬ may (.database request))
    (alone : ∀ visit ∈ w.database.forallMountedApexes false,
      (imagesAt w.mounts visit.2.1.mountPoint).tail = []) :
    wp (truthful may) Anything unmountAll (fun result w' =>
      (result = .ok 0 ∧ w'.fs = w.fs ∧ w.WithoutVisited (w.database.forallMountedApexes false) w') ∨
        (result = .ok 1 ∧ w.Blamed may)) w := by
  refine wp_truthful (fun reply w₁ answer => ?_) fun mayFail => absurd mayFail (database _)
  cases answer
  refine wp_fold (fun before ret w₁ => w₁.fs = w.fs ∧
    ((ret = 0 ∧ w.WithoutVisited before w₁) ∨ (ret = 1 ∧ w.Blamed may)))
    ⟨rfl, .inl ⟨rfl, .refl w⟩⟩ ?_ ?_
  · rintro before ⟨package, data, latest⟩ after ret w₁ split ⟨fs, outcome⟩
    have isVisit : (package, data, latest) ∈ w.database.forallMountedApexes false := by simp [split]
    obtain ⟨apex, opened, -, -⟩ := (readable _ isVisit).file
    rw [← fs] at opened
    have readable₁ : Visit.Readable (package, data, latest) w₁.fs := fs ▸ readable _ isVisit
    refine wp_mono (wp_truthful_unmountVisited readable₁ opened) ?_
    rintro result w₂ ⟨fs₂, ⟨rfl, stepped⟩ | ⟨rfl, blamed⟩⟩
    · refine ⟨fs₂.trans fs, outcome.imp (fun ⟨isZero, without⟩ => ⟨isZero, ?_⟩) id⟩
      rw [fs] at stepped
      exact without.step readable split alone stepped
    · refine ⟨fs₂.trans fs, .inr ⟨rfl, ?_⟩⟩
      rcases outcome with ⟨-, without⟩ | ⟨-, already⟩
      · refine blamed.imp id fun ⟨target, unbinds, free⟩ => ⟨_, isVisit, target, fs ▸ unbinds, ?_⟩
        rw [← without.untouched readable split (fs ▸ unbinds), free]
      · exact already
  · rintro ret w₁ ⟨fs, ⟨rfl, without⟩ | ⟨rfl, blamed⟩⟩
    · exact .inl ⟨rfl, fs, without⟩
    · exact .inr ⟨rfl, blamed⟩

end All

/-! ## After a restart -/

/-- The device after everything that a restart finds was unmounted. -/
structure World.AllUnmounted (w : World) (dirs : ApexDirs) (w' : World) : Prop where
  fs : w'.fs = w.fs
  versions : ∀ target, '@' ∈ target.toList →
    imagesAt w'.mounts target = (imagesAt w.mounts target).filter fun image => !dirs.Restores image
  devices : ∀ package, ∀ data ∈ (w.database.mountsOf package).entries, dirs.Restores data = true →
    data.deviceName ≠ "" → data.deviceName ∉ w'.devices
  /-- what is bound goes with the latest mount that is found -/
  active : ∀ package data apex,
    ((w.database.mountsOf package).entries.filter dirs.Restores).getLast? = some data →
    openAt w.fs data.fullPath = .ok apex →
    imagesAt w'.mounts (kApexRoot ++ "/" ++ package) =
      if apex.manifest.provideSharedApexLibs then imagesAt w.mounts (kApexRoot ++ "/" ++ package)
      else (imagesAt w.mounts (kApexRoot ++ "/" ++ package)).tail
  elsewhere : ∀ target, '@' ∉ target.toList →
    (∀ package, ∀ data ∈ (w.database.mountsOf package).entries, dirs.Restores data = true →
      target ≠ kApexRoot ++ "/" ++ package) →
    imagesAt w'.mounts target = imagesAt w.mounts target

/-- What `UnmountAll` does with the database of a restart. -/
structure World.UnmountsAll (w : World) (dirs : ApexDirs) (rebuilt : MountedApexDatabase) : Prop where
  /-- it comes to an end, whatever fails -/
  ends : ∀ may, (∀ request, ¬ may (.database request)) →
    Ends (truthful may) unmountAll { w with database := rebuilt }
  /-- when it returns 0 everything that was found is unmounted, and nothing else -/
  unmounts : ∀ may w', (∀ request, ¬ may (.database request)) →
    Runs (truthful may) unmountAll { w with database := rebuilt } (.ok 0) w' → w.AllUnmounted dirs w'
  /-- it does return 0 when no call fails and something is bound for every package with a mount -/
  succeeds : (∀ package, ∀ data ∈ (w.database.mountsOf package).entries,
      imagesAt w.mounts (kApexRoot ++ "/" ++ package) ≠ []) →
    (∃ w', Runs device unmountAll { w with database := rebuilt } (.ok 0) w') ∧
      ∀ result w', Runs device unmountAll { w with database := rebuilt } result w' → result = .ok 0

section Restart

variable {sys : SysBlock} {dirs : ApexDirs} {lines others : List String} {shown : List (Mount × String)}
  {deleted : MountedApexData → Bool} {rebuilt : MountedApexDatabase} (accounted : w.Accounted) (legible : w.Legible)

section Rebuilt

variable (entries : ∀ package, (rebuilt.mountsOf package).entries =
  ((w.database.mountsOf package).entries.filter dirs.Restores).map (MountedApexData.refresh deleted))
include entries

theorem entry_of_visit (member : (package, data, latest) ∈ rebuilt.forallMountedApexes false) :
    ∃ entry ∈ (w.database.mountsOf package).entries,
      dirs.Restores entry = true ∧ entry.refresh deleted = data := by
  have isEntry := (MountedApexDatabase.mem_forallMountedApexes.mp member).1
  rw [entries] at isEntry
  obtain ⟨entry, inRestored, rfl⟩ := List.mem_map.mp isEntry
  obtain ⟨member, restores⟩ := List.mem_filter.mp inRestored
  exact ⟨entry, member, restores, rfl⟩

include accounted

theorem exists_visit (member : data ∈ (w.database.mountsOf package).entries)
    (restores : dirs.Restores data = true) : (package, data.refresh deleted,
      decide ((rebuilt.mountsOf package).latest = some (data.refresh deleted))) ∈
        rebuilt.forallMountedApexes false := by
  refine MountedApexDatabase.mem_forallMountedApexes.mpr ⟨?_, ?_, rfl⟩
  · rw [entries]
    exact List.mem_map_of_mem (List.mem_filter.mpr ⟨member, restores⟩)
  · exact ((accounted.settled package).recorded data member).notTemp

include legible

theorem readable_of_visit (member : visit ∈ rebuilt.forallMountedApexes false) : visit.Readable w.fs := by
  obtain ⟨package, data, latest⟩ := visit
  obtain ⟨entry, isEntry, -, rfl⟩ := entry_of_visit entries member
  obtain ⟨apex, opened, named, -, mountPoint⟩ := ((accounted.settled package).recorded entry isEntry).file
  exact ⟨(legible.plain package entry isEntry).noAt, apex, opened, named, mountPoint⟩

theorem allUnmounted_of_withoutVisited (fs : w'.fs = w.fs)
    (readable : ∀ visit ∈ rebuilt.forallMountedApexes false, Visit.Readable visit w.fs)
    (without : World.WithoutVisited { w with database := rebuilt } (rebuilt.forallMountedApexes false) w') :
    w.AllUnmounted dirs w' where
  fs := fs
  versions target isAt := by
    have notBound (visit : Visit) (member : visit ∈ rebuilt.forallMountedApexes false) :
        ¬ visit.Unbinds w.fs target := fun unbinds => by
      exact at_not_mem_activeMountPoint (readable visit member).noAt (unbinds.2.1 ▸ isAt)
    by_cases visited : ∃ visit : Visit, visit ∈ rebuilt.forallMountedApexes false ∧ visit.2.1.mountPoint = target
    · obtain ⟨⟨package, data, latest⟩, member, rfl⟩ := visited
      obtain ⟨entry, isEntry, restores, rfl⟩ := entry_of_visit entries member
      have mounted : imagesAt w.mounts (entry.refresh deleted).mountPoint = [entry] :=
        ((accounted.settled package).recorded entry isEntry).mounted
      rw [without.versions _ member, mounted]
      simp [restores]
    · rw [without.elsewhere target fun visit member => ⟨fun same => visited ⟨visit, member, same⟩,
        notBound visit member⟩]
      refine (List.filter_eq_self.mpr fun image member => ?_).symm
      obtain ⟨package, isEntry, here⟩ := accounted.complete target isAt image member
      rw [Bool.not_eq_true']
      by_contra restores
      exact visited ⟨_, exists_visit accounted entries isEntry (by simpa using restores), here⟩
  devices package data member restores named :=
    without.devices _ (exists_visit accounted entries member restores) named
  active package data apex latest opened := by
    obtain ⟨isEntry, restores⟩ := List.mem_filter.mp (List.mem_of_getLast? latest)
    have latest : (rebuilt.mountsOf package).latest = some (data.refresh deleted) := by
      rw [MountedSet.latest, entries, List.getLast?_map, latest]
      rfl
    have noAt := at_not_mem_activeMountPoint (legible.plain package data isEntry).noAt
    split
    · rename_i shared
      refine without.elsewhere _ fun visit isVisit => ⟨fun same => noAt ?_, fun unbinds => ?_⟩
      · exact same ▸ at_mem_of_visit (w := { w with database := rebuilt }) readable isVisit
      · obtain ⟨latest', -⟩ := latest_of_unbinds isVisit unbinds
        obtain ⟨-, -, other, opened', notShared⟩ := unbinds
        rw [Option.some.inj (latest'.symm.trans latest)] at opened'
        obtain rfl := Except.ok.inj (opened.symm.trans opened')
        exact Bool.false_ne_true (notShared.symm.trans shared)
    · rename_i notShared
      exact without.unbound _ (exists_visit accounted entries isEntry restores) _
        ⟨decide_eq_true latest, rfl, apex, opened, by simpa using notShared⟩
  elsewhere target noAt notActive := by
    refine without.elsewhere target fun visit isVisit => ⟨fun same => noAt ?_, fun unbinds => ?_⟩
    · exact same ▸ at_mem_of_visit (w := { w with database := rebuilt }) readable isVisit
    · obtain ⟨entry, isEntry, restores, -⟩ := entry_of_visit entries isVisit
      exact notActive _ entry isEntry restores unbinds.2.1

end Rebuilt

include accounted legible

/-- `UnmountAll` after a restart: it comes to an end, and when it returns 0 everything that is found
in /proc/mounts is unmounted and nothing else, whatever calls fail; when no call fails and something
is bound for every package with a mount, it returns 0. -/
theorem unmountAll_of_listedBy (apart : dirs.Apart)
    (listed : w.ListedBy sys dirs deleted lines shown others) :
    ∃ rebuilt, MountedApexDatabase.populateFromMounts ∅ sys dirs lines = some rebuilt ∧
      w.UnmountsAll dirs rebuilt := by
  obtain ⟨rebuilt, populated, perm⟩ := exists_populated accounted legible apart listed
  have entries (package : String) : (rebuilt.mountsOf package).entries =
      ((w.database.mountsOf package).entries.filter dirs.Restores).map (MountedApexData.refresh deleted) :=
    entries_of_perm_allMounts perm
  let restarted : World := { w with database := rebuilt }
  have readable (visit : Visit) (member : visit ∈ rebuilt.forallMountedApexes false) :
      visit.Readable w.fs := readable_of_visit accounted legible entries member
  have alone : ∀ visit ∈ rebuilt.forallMountedApexes false,
      (imagesAt restarted.mounts visit.2.1.mountPoint).tail = [] := by
    rintro ⟨package, data, latest⟩ member
    obtain ⟨entry, isEntry, -, rfl⟩ := entry_of_visit entries member
    have mounted : imagesAt w.mounts (entry.refresh deleted).mountPoint = [entry] :=
      ((accounted.settled package).recorded entry isEntry).mounted
    rw [mounted, List.tail_cons]
  have ends (may : Call → Prop) (database : ∀ request, ¬ may (.database request)) :
      Ends (truthful may) unmountAll restarted := ends_unmountAll (w := restarted) readable database
  have unmounting (may : Call → Prop) (database : ∀ request, ¬ may (.database request)) :=
    wp_truthful_unmountAll (w := restarted) readable database alone
  refine ⟨rebuilt, populated, ends, fun may w' database runs => ?_, fun bound => ?_⟩
  · rcases wp_runs (unmounting may database) runs with ⟨-, fs, without⟩ | ⟨isOne, -⟩
    · exact allUnmounted_of_withoutVisited accounted legible entries fs readable without
    · cases isOne
  · have isZero (result : Except String Nat) (w' : World) (runs : Runs device unmountAll restarted result w') :
        result = .ok 0 := by
      rw [← truthful_false] at runs
      rcases wp_runs (unmounting _ fun _ => id) runs with
        ⟨isZero, -⟩ | ⟨-, ⟨_, impossible⟩ | ⟨⟨package, data, latest⟩, member, target, unbinds, free⟩⟩
      · exact isZero
      · exact impossible.elim
      · obtain rfl := unbinds.2.1
        obtain ⟨entry, isEntry, -, -⟩ := entry_of_visit entries member
        exact absurd free (bound package entry isEntry)
    obtain ⟨result, w', runs⟩ := (ends (fun _ => False) fun _ => id).exists_runs
    rw [truthful_false] at runs
    exact ⟨⟨w', isZero _ _ runs ▸ runs⟩, isZero⟩

omit accounted legible in
/-- The package that was activated is unmounted as a whole. -/
theorem unmountAll_of_listedBy_foo : ∃ (w : World) (rebuilt : MountedApexDatabase),
    MountedApexDatabase.populateFromMounts ∅ fooSys .config fooLines = some rebuilt ∧
      (w.database.mountsOf "foo").entries = [fooMount] ∧
      ∃ w', Runs device unmountAll { w with database := rebuilt } (.ok 0) w' ∧
        imagesAt w'.mounts "/apex/foo@2" = [] ∧ imagesAt w'.mounts "/apex/foo" = [] := by
  obtain ⟨w, accounted, legible, mounts, entries, opened⟩ := exists_activated_foo
  have apart : ApexDirs.config.Apart := ⟨by decide +kernel, by decide +kernel, by decide, by decide⟩
  obtain ⟨rebuilt, populated, unmountsAll⟩ :=
    unmountAll_of_listedBy accounted legible apart (listedBy_fooLines mounts)
  have bound : ∀ package, ∀ data ∈ (w.database.mountsOf package).entries,
      imagesAt w.mounts (kApexRoot ++ "/" ++ package) ≠ [] := by
    intro package data member
    have isMounted : data ∈ imagesAt w.mounts data.mountPoint := by
      simp [((accounted.settled package).recorded data member).mounted]
    obtain ⟨mount, isMount, rfl⟩ := List.mem_map.mp isMounted
    have image : ∀ mount ∈ fooShown.map Prod.fst, mount.image = fooMount := by decide
    rw [← accounted.parseMountPoint_eq legible member,
      image mount (mounts ▸ (List.mem_filter.mp isMount).1), mounts]
    decide +kernel
  obtain ⟨⟨w', runs⟩, -⟩ := unmountsAll.succeeds bound
  have all := unmountsAll.unmounts (fun _ => False) w' (fun _ => id) (truthful_false ▸ runs)
  refine ⟨w, rebuilt, populated, entries, w', runs, ?_, ?_⟩
  · rw [all.versions _ (by decide), mounts]
    decide +kernel
  · have active := all.active "foo" fooMount _ (by rw [entries]; decide +kernel) opened
    rw [mounts] at active
    exact active

end Restart

end Apexd
