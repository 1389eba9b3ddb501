import Apexd.Model.Mounting
import Apexd.Process.Faults
import Apexd.Verified.ImageMount
import Mathlib.Data.Fintype.EquivFin
import Mathlib.Data.List.Forall2

/-! # The mount of an image as one call

All of apexd but `MountPackageImpl` itself knows the devices by the data of the mounts on them, and
takes setting up an image for one call of the kernel.  Here the tables of the kernel are related to
such a device: every run of `MountPackageImpl` call by call is one of the program with the one call,
with the same data, an error for an error, and related devices afterwards.
-/

namespace Apexd

open Process Storage

/-! ## What the data of the mounts say of the block devices -/

/-- A loop device that is attached and in use, under one of its names. -/
def BlockLayer.Holds (s : BlockLayer) (device : LoopbackDevice) (user : LoopUser) : Prop :=
  device.name ∈ candidateDevices device.number ∧
    ∃ loop, s.loops device.number = some loop ∧ user ∈ loop.users

/-- A mount and what is known of it: the image is on a loop device that the mount uses, or on a
verity device that uses the loop devices of its table. -/
inductive Shows (s : BlockLayer) : BlockMount → Mount → Prop
  | onLoopDevice {target bound : String} {device : LoopbackDevice} {image : MountedApexData}
      (held : s.Holds device (.mounted bound)) (noDevice : image.deviceName = "")
      (loopName : image.loopName = device.name) (noHashtree : image.hashtreeLoopName = "") :
      Shows s ⟨target, .loop device⟩ ⟨target, image⟩
  | onVerity {target : String} {image : MountedApexData} {table : VerityTable}
      (named : image.deviceName ≠ "") (active : s.devices image.deviceName = some ⟨some table⟩)
      (held : s.Holds table.blockDevice (.table image.deviceName))
      (heldTree : s.Holds table.hashDevice (.table image.deviceName))
      (loopName : image.loopName = table.blockDevice.name)
      (hashtree : image.hashtreeLoopName = "" ∨ image.hashtreeLoopName = table.hashDevice.name) :
      Shows s ⟨target, .dm image.deviceName⟩ ⟨target, image⟩

/-- The mounts are the same, and every device-mapper device is known. -/
structure Represents (s : BlockLayer) (w : World) : Prop where
  mounts : List.Forall₂ (Shows s) s.mounts w.mounts
  devices : ∀ name, s.devices name ≠ none → name ∈ w.devices

theorem represents_create {w : World} (none : w.mounts = []) : Represents .create w where
  mounts := none ▸ .nil
  devices _ present := absurd rfl present

variable {s s' : BlockLayer} {w : World} {name target deviceName : String} {device : LoopbackDevice}
  {user : LoopUser} {mount : BlockMount} {shown : Mount}

theorem Shows.target_eq (shows : Shows s mount shown) : mount.target = shown.target := by
  cases shows <;> rfl

theorem Shows.source_eq_iff (shows : Shows s mount shown) (named : name ≠ "") :
    mount.source = .dm name ↔ shown.image.deviceName = name := by
  cases shows with
  | onLoopDevice held noDevice => simp [noDevice, Ne.symm named]
  | onVerity => simp

theorem Shows.source_ne (shows : Shows s mount shown) : mount.source ≠ .dm "" := by
  cases shows with
  | onLoopDevice => simp
  | onVerity named => simpa using named

theorem mounted_eq_of_shows {mounts : List BlockMount} {shown : List Mount}
    (shows : List.Forall₂ (Shows s) mounts shown) :
    (mounts.any fun mount => mount.target = target) = (visibleAt shown target).isSome := by
  induction shows with
  | nil => rfl
  | cons first rest ih =>
    rw [List.any_cons, ih, visibleAt, visibleAt, List.find?_cons, first.target_eq]
    split <;> simp_all

theorem inUse_eq_of_shows {mounts : List BlockMount} {shown : List Mount}
    (shows : List.Forall₂ (Shows s) mounts shown) (named : name ≠ "") :
    (mounts.any fun mount => mount.source = .dm name) =
      shown.any fun mount => mount.image.deviceName = name := by
  induction shows with
  | nil => rfl
  | cons first rest ih =>
    have same := first.source_eq_iff named
    rw [List.any_cons, List.any_cons, ih, decide_eq_decide.mpr same]

theorem Represents.mounted_eq (represents : Represents s w) :
    s.mounted target = (visibleAt w.mounts target).isSome :=
  mounted_eq_of_shows represents.mounts

theorem Represents.deviceInUse_eq (represents : Represents s w) (named : name ≠ "") :
    s.deviceInUse name = w.deviceInUse name :=
  inUse_eq_of_shows represents.mounts named

/-- A verity device that is mounted is active. -/
theorem Shows.active (shows : Shows s mount shown) (source : mount.source = .dm name) :
    s.getState name = .ACTIVE := by
  cases shows with
  | onLoopDevice => cases source
  | onVerity named active =>
    cases source
    rw [BlockLayer.getState, active]

theorem Represents.consistent (represents : Represents s w) : s.Consistent := by
  intro name used
  obtain ⟨mount, member, isSource⟩ := List.any_eq_true.mp used
  have active := represents.mounts.imp fun mount shown (shows : Shows s mount shown) =>
    And.intro (fun source : mount.source = .dm name => shows.active source) shows
  exact ((List.forall₂_and_left _ _).mp active).1 mount member (of_decide_eq_true isSource)

/-! ## Loop devices that are free -/

/-- A name tells which loop device it is of. -/
theorem candidateDevices_inj {first second : Int} (isFirst : name ∈ candidateDevices first)
    (isSecond : name ∈ candidateDevices second) : first = second := by
  have apart (a b : String) : "/dev/block/loop" ++ a ≠ "/dev/loop" ++ b := by
    intro same
    have chars := congrArg (fun text => (text.toList.drop 5).head?) same
    simp [String.toList_append] at chars
  simp only [candidateDevices, List.mem_cons, List.not_mem_nil, or_false] at isFirst isSecond
  rcases isFirst with rfl | rfl <;> rcases isSecond with same | same
  · exact Text.toString_int_inj ((String.append_right_inj _).mp same)
  · exact absurd same (apart _ _)
  · exact absurd same.symm (apart _ _)
  · exact Text.toString_int_inj ((String.append_right_inj _).mp same)

theorem ne_empty_of_mem_candidateDevices {number : Int} (isName : name ∈ candidateDevices number) :
    name ≠ "" := by
  rintro rfl
  simp only [candidateDevices, List.mem_cons, List.not_mem_nil, or_false] at isName
  rcases isName with same | same
  all_goals
    have first := congrArg (fun text => text.toList.head?) same
    simp [String.toList_append] at first

/-- A free loop device is not known from a mount. -/
theorem Shows.not_mem (shows : Shows s mount shown) {number : Nat} (free : s.loops number = none)
    (isName : name ∈ candidateDevices number) :
    name ∉ [shown.image.loopName, shown.image.hashtreeLoopName] := by
  have notHeld {device : LoopbackDevice} {user : LoopUser} (held : s.Holds device user) :
      name ≠ device.name := by
    rintro rfl
    obtain ⟨isOther, loop, attached, -⟩ := held
    rw [Int.natCast_inj.mp (candidateDevices_inj isOther isName), free] at attached
    cases attached
  have notEmpty := ne_empty_of_mem_candidateDevices isName
  simp only [List.mem_cons, List.not_mem_nil, or_false, not_or]
  cases shows with
  | onLoopDevice held noDevice loopName noHashtree =>
    exact ⟨loopName ▸ notHeld held, noHashtree ▸ notEmpty⟩
  | onVerity named active held heldTree loopName hashtree =>
    refine ⟨loopName ▸ notHeld held, ?_⟩
    rcases hashtree with none | isDevice
    · exact none ▸ notEmpty
    · exact isDevice ▸ notHeld heldTree

theorem Represents.not_mem_loopDevices (represents : Represents s w) {number : Nat}
    (free : s.loops number = none) (isName : name ∈ candidateDevices number) : name ∉ w.loopDevices := by
  have unknown := represents.mounts.flip.imp fun shown mount (shows : Shows s mount shown) =>
    And.intro (shows.not_mem free isName) shows
  rw [World.loopDevices, List.mem_flatMap]
  rintro ⟨shown, member, isDevice⟩
  exact ((List.forall₂_and_left _ _).mp unknown).1 shown member isDevice

/-! ## What a mount leaves of the others -/

/-- A user keeps its loop device when others leave. -/
theorem LoopDevice.drop_keeps {loop : LoopDevice} {other : LoopUser} (uses : user ∈ loop.users)
    (ne : user ≠ other) : ∃ kept, loop.drop other = some kept ∧ user ∈ kept.users := by
  unfold LoopDevice.drop
  have stays : user ∈ loop.users.erase other := Finset.mem_erase.mpr ⟨ne, uses⟩
  split
  · rw [if_neg fun both => Finset.ne_empty_of_mem stays both.1]
    exact ⟨_, rfl, stays⟩
  · exact ⟨loop, rfl, uses⟩

theorem BlockLayer.Holds.dropUser (held : s.Holds device user) {number : Nat} {other : LoopUser}
    (ne : user ≠ other) : (s.dropUser number other).Holds device user := by
  obtain ⟨isName, loop, attached, uses⟩ := held
  refine ⟨isName, ?_⟩
  by_cases same : device.number = number
  · obtain ⟨kept, drops, still⟩ := LoopDevice.drop_keeps uses ne
    refine ⟨kept, ?_, still⟩
    rw [← same, BlockLayer.dropUser, BlockLayer.loops_setLoop_self, attached]
    exact drops
  · exact ⟨loop, (BlockLayer.loops_setLoop_ne same _).trans attached, uses⟩

theorem BlockLayer.Holds.setLoop (held : s.Holds device user) {number : Nat}
    (free : s.loops number = none) (found : Option LoopDevice) :
    (s.setLoop number found).Holds device user := by
  obtain ⟨isName, loop, attached, uses⟩ := held
  have ne : device.number ≠ number := by
    intro same
    rw [same, free] at attached
    cases attached
  exact ⟨isName, loop, (BlockLayer.loops_setLoop_ne ne _).trans attached, uses⟩

theorem BlockLayer.Holds.discard (held : s.Holds device user) (ne : user ≠ .table deviceName) :
    (s.discard deviceName).Holds device user := by
  unfold BlockLayer.discard
  split
  · exact (held.dropUser ne).dropUser ne
  · exact held

/-- A mount stays what it is where its devices stay. -/
theorem Shows.mono (held : ∀ device user, user ≠ .table deviceName → s.Holds device user →
      s'.Holds device user) (devices : ∀ name, name ≠ deviceName → s'.devices name = s.devices name)
    (ne : mount.source ≠ .dm deviceName) (shows : Shows s mount shown) : Shows s' mount shown := by
  cases shows with
  | onLoopDevice used noDevice loopName noHashtree =>
    exact .onLoopDevice (held _ _ (by simp) used) noDevice loopName noHashtree
  | onVerity named active used usedTree loopName hashtree =>
    have other : _ ≠ deviceName := fun same => ne (congrArg ImageDevice.dm same)
    have otherUser : LoopUser.table _ ≠ .table deviceName := fun same => other (LoopUser.table.inj same)
    exact .onVerity named ((devices _ other).trans active) (held _ _ otherUser used)
      (held _ _ otherUser usedTree) loopName hashtree

theorem shows_mono (held : ∀ device user, user ≠ .table deviceName → s.Holds device user →
      s'.Holds device user) (devices : ∀ name, name ≠ deviceName → s'.devices name = s.devices name)
    {mounts : List BlockMount} {shown : List Mount}
    (unused : ∀ mount ∈ mounts, mount.source ≠ .dm deviceName)
    (shows : List.Forall₂ (Shows s) mounts shown) : List.Forall₂ (Shows s') mounts shown := by
  induction shows with
  | nil => exact .nil
  | cons first rest ih =>
    obtain ⟨here, later⟩ := List.forall_mem_cons.mp unused
    exact .cons (first.mono held devices here) (ih later)

theorem ne_of_not_deviceInUse (unused : s.deviceInUse deviceName = false) :
    ∀ mount ∈ s.mounts, mount.source ≠ .dm deviceName := by
  simpa [BlockLayer.deviceInUse] using unused

/-- Directories are not part of what is known. -/
theorem Represents.setDirectory (represents : Represents s w) (target : String)
    (names : Option (List String)) : Represents (s.setDirectory target names) w where
  mounts := represents.mounts.imp fun mount shown shows =>
    show Shows (s.setDirectory target names) mount shown from
      Shows.mono (fun device user _ (held : s.Holds device user) => held) (fun _ _ => rfl)
        shows.source_ne shows
  devices := represents.devices

theorem devices_discard_ne (ne : name ≠ deviceName) :
    (s.discard deviceName).devices name = s.devices name := by
  unfold BlockLayer.discard
  split <;> simp [BlockLayer.setDevice, BlockLayer.dropUser, ne]

/-- A dangling device that is gone is still taken for one that may be there. -/
theorem Represents.forgets (represents : Represents s w) (forgets : Forgets deviceName s s') :
    Represents s' w := by
  rcases forgets with rfl | ⟨unused, rfl⟩
  · exact represents
  · constructor
    · rw [BlockLayer.mounts_discard]
      exact shows_mono (fun _ _ ne held => held.discard ne) (fun _ => devices_discard_ne)
        (ne_of_not_deviceInUse unused) represents.mounts
    · intro name present
      by_cases same : name = deviceName
      · rw [same, BlockLayer.devices_discard_self] at present
        exact absurd rfl present
      · exact represents.devices name (devices_discard_ne same ▸ present)

/-! ## One call -/

variable {env : ImageEnvironment} {apex : ApexFile} {mountPoint : String} {hashtreeFile : FilePath}
  {verityData : HashtreeDescriptor} {verifyImage reuseDevice tempMount useLoopConfigure : Bool}
  {imageOffset imageSize : Nat} {data : MountedApexData}

/-- What `MountPackageImpl` asks for as one call, when the image is verified. -/
def mountRequest (env : ImageEnvironment) (apex : ApexFile) (mountPoint deviceName : String)
    (hashtreeFile : FilePath) (verityData : HashtreeDescriptor)
    (verifyImage reuseDevice tempMount : Bool) : MountRequest where
  apex := apex
  mountPoint := mountPoint
  deviceName := deviceName
  hashtreeFile := hashtreeFile
  separateHashtree := verityData.treeSize = 0
  onVerity := needsVerity env apex
  verifyImage := verifyImage
  reuseDevice := reuseDevice
  tempMount := tempMount

/-- The device on which an image may fail to be mounted. -/
abbrev refusing : Semantics apexd String World :=
  Apexd.device.withFaults fun request => ∃ mount, request = .kernel (.mountImage mount)

theorem runs_mountPackageImpl {w' : World} {reply : Except String MountedApexData}
    (notCompressed : apex.isCompressed = false) (verified : Verifies env apex verityData)
    (answer : KernelCall.Answers (.mountImage (mountRequest env apex mountPoint deviceName hashtreeFile
      verityData verifyImage reuseDevice tempMount)) w reply w') :
    Runs refusing (mountPackageImpl env.toEnvironment apex mountPoint deviceName hashtreeFile
      verifyImage reuseDevice tempMount) w reply w' := by
  obtain ⟨publicKey, key, descriptor, -⟩ := verified
  have treeSize : env.verifyApexVerity apex.archive publicKey = .ok verityData.treeSize := by
    rw [env.treeSize, descriptor]
    rfl
  have program : mountPackageImpl env.toEnvironment apex mountPoint deviceName hashtreeFile verifyImage
      reuseDevice tempMount = kernelCall (.mountImage (mountRequest env apex mountPoint deviceName
        hashtreeFile verityData verifyImage reuseDevice tempMount)) := by
    rw [mountPackageImpl, if_neg (by simp [notCompressed]), key]
    change (Program.mapError _ (Program.ofExcept (env.verifyApexVerity apex.archive publicKey)) >>= _) = _
    rw [treeSize]
    rfl
  rw [program]
  exact runs_call.mpr ⟨reply, w', .inl answer, runs_done.mpr ⟨rfl, rfl⟩⟩

/-- The program with the one call fails whenever it may. -/
theorem exists_refused : ∃ e, Runs refusing (mountPackageImpl env.toEnvironment apex mountPoint
    deviceName hashtreeFile verifyImage reuseDevice tempMount) w (.error e) w := by
  rw [mountPackageImpl]
  split
  · exact ⟨_, runs_done.mpr ⟨rfl, rfl⟩⟩
  · cases env.repository.getPublicKey apex.manifest.name with
    | error e => exact ⟨e, runs_done.mpr ⟨rfl, rfl⟩⟩
    | ok publicKey =>
      change ∃ e, Runs refusing (Program.mapError _ (Program.ofExcept
        (env.verifyApexVerity apex.archive publicKey)) >>= _) w (.error e) w
      cases env.verifyApexVerity apex.archive publicKey with
      | error e => exact ⟨_, runs_done.mpr ⟨rfl, rfl⟩⟩
      | ok treeSize =>
        exact ⟨"", runs_call.mpr ⟨.error "", w, .inr ⟨⟨_, rfl⟩, ⟨"", rfl⟩, rfl⟩,
          runs_done.mpr ⟨rfl, rfl⟩⟩⟩

/-- The data that the one call returns for the same devices. -/
theorem RecordsApex.data_eq {loopName hashtreeLoopName : String}
    (records : RecordsApex apex mountPoint tempMount data) (isLoop : data.loopName = loopName)
    (isDevice : data.deviceName = if needsVerity env apex then deviceName else "")
    (isHashtree : data.hashtreeLoopName =
      if needsVerity env apex && decide (verityData.treeSize = 0) then hashtreeLoopName else "") :
    (mountRequest env apex mountPoint deviceName hashtreeFile verityData verifyImage reuseDevice
      tempMount).data loopName hashtreeLoopName = data := by
  obtain ⟨version, fullPath, isMountPoint, deleted, isTempMount⟩ := records
  cases data
  simp only at version fullPath isMountPoint deleted isTempMount isLoop isDevice isHashtree
  subst version fullPath isMountPoint deleted isTempMount isLoop isDevice isHashtree
  rfl

theorem exists_fresh (names : List String) : ∃ name, name ∉ names := by
  obtain ⟨name, notIn⟩ := Infinite.exists_notMem_finset names.toFinset
  exact ⟨name, fun member => notIn (List.mem_toFinset.mpr member)⟩

theorem answers_mountImage {loopName hashtreeLoopName : String}
    (notMounted : (visibleAt w.mounts mountPoint).isSome = false)
    (unused : needsVerity env apex = true → w.deviceInUse deviceName = false)
    (fresh : w.FreshLoops loopName hashtreeLoopName)
    (isData : (mountRequest env apex mountPoint deviceName hashtreeFile verityData verifyImage reuseDevice
      tempMount).data loopName hashtreeLoopName = data) :
    KernelCall.Answers (.mountImage (mountRequest env apex mountPoint deviceName hashtreeFile verityData
        verifyImage reuseDevice tempMount)) w (.ok data)
      (w.withImage (mountRequest env apex mountPoint deviceName hashtreeFile verityData verifyImage
        reuseDevice tempMount) loopName hashtreeLoopName) := by
  have noError : w.mountError (mountRequest env apex mountPoint deviceName hashtreeFile verityData
      verifyImage reuseDevice tempMount) = none := by
    have notBoth : (needsVerity env apex && w.deviceInUse deviceName) = false := by
      cases verity : needsVerity env apex with
      | false => rfl
      | true => exact unused verity
    simp [World.mountError, mountRequest, notMounted, notBoth]
  rw [KernelCall.Answers, noError]
  exact ⟨loopName, hashtreeLoopName, fresh, congrArg Except.ok isData.symm, rfl⟩

/-- The request that is answered mounts the image with the data of the mount. -/
theorem represents_withImage {request : MountRequest} {source : ImageDevice}
    {loopName hashtreeLoopName : String} (mounts : s'.mounts = ⟨request.mountPoint, source⟩ :: s.mounts)
    (isData : request.data loopName hashtreeLoopName = data)
    (first : Shows s' ⟨request.mountPoint, source⟩ ⟨request.mountPoint, data⟩)
    (rest : List.Forall₂ (Shows s') s.mounts w.mounts)
    (devices : ∀ name, s'.devices name ≠ none →
      name ∈ w.devices ∨ (request.onVerity = true ∧ name = request.deviceName)) :
    Represents s' (w.withImage request loopName hashtreeLoopName) where
  mounts := by
    rw [mounts]
    exact .cons (isData ▸ first) rest
  devices name present := by
    simp only [World.withImage]
    split
    · rcases devices name present with known | ⟨-, rfl⟩
      · exact List.mem_append_left _ known
      · exact List.mem_append_right _ (List.mem_singleton_self _)
    · rename_i notNew
      rcases devices name present with known | ⟨onVerity, rfl⟩
      · exact known
      · simpa [onVerity] using notNew

variable (env apex deviceName hashtreeFile verityData verifyImage reuseDevice imageOffset imageSize) in
/-- An image on a loop device is mounted by the one call. -/
theorem Represents.mount_onLoopDevice (represents : Represents s w)
    (notMounted : s.mounted mountPoint = false) (isName : device.name ∈ candidateDevices device.number)
    (noVerity : needsVerity env apex = false) (free : s.loops device.number = none)
    (loopName : data.loopName = device.name) (noDevice : data.deviceName = "")
    (noHashtree : data.hashtreeLoopName = "") (records : RecordsApex apex mountPoint tempMount data) :
    ∃ w', KernelCall.Answers (.mountImage (mountRequest env apex mountPoint deviceName hashtreeFile
        verityData verifyImage reuseDevice tempMount)) w (.ok data) w' ∧
      Represents { s.setLoop device.number (some (attachedBy apex.path imageOffset imageSize
        {.mounted mountPoint})) with mounts := ⟨mountPoint, .loop device⟩ :: s.mounts } w' := by
  obtain ⟨fresh, notIn⟩ := exists_fresh ("" :: device.name :: w.loopDevices)
  simp only [List.mem_cons, not_or] at notIn
  have isData : (mountRequest env apex mountPoint deviceName hashtreeFile verityData verifyImage
      reuseDevice tempMount).data device.name fresh = data :=
    records.data_eq loopName (by simp [noDevice, noVerity]) (by simp [noHashtree, noVerity])
  have freshLoops : w.FreshLoops device.name fresh :=
    ⟨ne_empty_of_mem_candidateDevices isName, notIn.1, Ne.symm notIn.2.1,
      represents.not_mem_loopDevices free isName, notIn.2.2⟩
  have unused (onVerity : needsVerity env apex = true) : w.deviceInUse deviceName = false :=
    absurd (noVerity.symm.trans onVerity) Bool.false_ne_true
  have answer := answers_mountImage (represents.mounted_eq.symm.trans notMounted) unused freshLoops
    isData
  refine ⟨_, answer, represents_withImage rfl isData ?_ ?_ fun name present =>
    .inl (represents.devices name present)⟩
  · have held : BlockLayer.Holds { s.setLoop device.number (some (attachedBy apex.path imageOffset
        imageSize {.mounted mountPoint})) with mounts := ⟨mountPoint, .loop device⟩ :: s.mounts }
        device (.mounted mountPoint) :=
      ⟨isName, _, BlockLayer.loops_setLoop_self _, Finset.mem_singleton_self _⟩
    exact .onLoopDevice held noDevice loopName noHashtree
  · refine represents.mounts.imp fun mount shown shows => ?_
    refine Shows.mono (s := s) (fun d user _ held => ?_) (fun _ _ => rfl) shows.source_ne shows
    have kept := held.setLoop free (some (attachedBy apex.path imageOffset imageSize
      {.mounted mountPoint}))
    exact kept

variable {hash : Option LoopbackDevice}

/-- A device that is attached for a verity device is held by it. -/
theorem holds_imageOnVerity {t : BlockLayer} {table : VerityTable} {d : LoopbackDevice}
    (free : t.Free device hash)
    (named : ∀ d ∈ hash.toList ++ [device], d.name ∈ candidateDevices d.number)
    (isOf : d ∈ hash.toList ++ [device]) :
    ((t.imageOnVerity apex imageOffset imageSize hashtreeFile device hash {.table deviceName} deviceName
      table).mount (.dm deviceName) mountPoint).Holds d (.table deviceName) := by
  refine ⟨named d isOf, ?_⟩
  rcases List.mem_append.mp isOf with isTree | isImage
  · obtain rfl := Option.mem_toList.mp isTree
    exact ⟨_, BlockLayer.loops_setLoop_self _, Finset.mem_singleton_self _⟩
  · obtain rfl := List.mem_singleton.mp isImage
    refine ⟨attachedBy apex.path imageOffset imageSize {.table deviceName}, ?_,
      Finset.mem_singleton_self _⟩
    cases hash with
    | none => exact BlockLayer.loops_setLoop_self _
    | some tree =>
      exact (BlockLayer.loops_setLoop_ne (Ne.symm (free.apart tree rfl)) _).trans
        (BlockLayer.loops_setLoop_self _)

/-- What the data say of an image that was mounted on its verity device. -/
theorem shows_imageOnVerity {t : BlockLayer} {table : VerityTable} (free : t.Free device hash)
    (named : ∀ d ∈ hash.toList ++ [device], d.name ∈ candidateDevices d.number)
    (blockDevice : table.blockDevice = device) (hashDevice : table.hashDevice = hash.getD device)
    (isNamed : data.deviceName ≠ "") (loopName : data.loopName = device.name)
    (hashtree : data.hashtreeLoopName = (hash.map LoopbackDevice.name).getD "") :
    Shows ((t.imageOnVerity apex imageOffset imageSize hashtreeFile device hash {.table data.deviceName}
        data.deviceName table).mount (.dm data.deviceName) mountPoint)
      ⟨mountPoint, .dm data.deviceName⟩ ⟨mountPoint, data⟩ := by
  have active : (t.imageOnVerity apex imageOffset imageSize hashtreeFile device hash
      {.table data.deviceName} data.deviceName table).devices data.deviceName = some ⟨some table⟩ := by
    simp [BlockLayer.imageOnVerity, BlockLayer.setDevice]
  have isTree : table.hashDevice ∈ hash.toList ++ [device] := by
    rw [hashDevice]
    cases hash <;> simp
  have isImage : table.blockDevice ∈ hash.toList ++ [device] := by simp [blockDevice]
  refine .onVerity isNamed active (holds_imageOnVerity free named isImage)
    (holds_imageOnVerity free named isTree) (blockDevice ▸ loopName) ?_
  rw [hashtree, hashDevice]
  cases hash with
  | none => exact .inl rfl
  | some tree => exact .inr rfl

theorem BlockLayer.Holds.imageOnVerity {t : BlockLayer} {other : LoopbackDevice}
    {users : Finset LoopUser} {table : VerityTable} (held : t.Holds other user)
    (free : t.Free device hash) :
    ((t.imageOnVerity apex imageOffset imageSize hashtreeFile device hash users deviceName table).mount
      (.dm deviceName) mountPoint).Holds other user := by
  have image : (t.setLoop device.number (some (attachedBy apex.path imageOffset imageSize users))).Holds
      other user := held.setLoop free.image _
  cases hash with
  | none => exact image
  | some tree =>
    have both := image.setLoop ((loops_setLoop_ne (free.apart tree rfl) _).trans (free.tree tree rfl))
      (some (attachedBy hashtreeFile 0 0 users))
    exact both

theorem devices_imageOnVerity_ne {t : BlockLayer} {table : VerityTable} {users : Finset LoopUser}
    (ne : name ≠ deviceName) :
    (t.imageOnVerity apex imageOffset imageSize hashtreeFile device hash users deviceName table).devices
      name = t.devices name := by
  rw [BlockLayer.imageOnVerity, BlockLayer.imageAttached, BlockLayer.attached]
  simp [BlockLayer.setDevice, BlockLayer.devices_setHash, ne]

/-- The loop devices of an image that needs a verity device are names the kernel may choose. -/
theorem Represents.freshLoops (represents : Represents s w) (free : s.Free device hash)
    (named : ∀ d ∈ hash.toList ++ [device], d.name ∈ candidateDevices d.number) :
    ∃ hashtreeLoopName, w.FreshLoops device.name hashtreeLoopName ∧
      ∀ d ∈ hash, hashtreeLoopName = d.name := by
  have isName := named device (List.mem_append_right _ (List.mem_singleton_self _))
  have image := represents.not_mem_loopDevices free.image isName
  cases hash with
  | none =>
    obtain ⟨fresh, notIn⟩ := exists_fresh ("" :: device.name :: w.loopDevices)
    simp only [List.mem_cons, not_or] at notIn
    exact ⟨fresh, ⟨ne_empty_of_mem_candidateDevices isName, notIn.1, Ne.symm notIn.2.1, image,
      notIn.2.2⟩, by simp⟩
  | some tree =>
    have isTree := named tree (List.mem_append_left _ (by simp))
    have apart : device.name ≠ tree.name := by
      intro same
      exact free.apart tree rfl (Int.natCast_inj.mp (candidateDevices_inj (same ▸ isTree) isName))
    exact ⟨tree.name, ⟨ne_empty_of_mem_candidateDevices isName, ne_empty_of_mem_candidateDevices isTree,
      apart, image, represents.not_mem_loopDevices (free.tree tree rfl) isTree⟩, by simp⟩

variable (apex hashtreeFile reuseDevice imageOffset imageSize) in
/-- An image on a verity device is mounted by the one call. -/
theorem Represents.mount_onVerity (represents : Represents s w)
    (notMounted : s.mounted mountPoint = false)
    (named : ∀ d ∈ hash.toList ++ [device], d.name ∈ candidateDevices d.number)
    (verity : needsVerity env apex = true) (external : hash.isSome = true ↔ verityData.treeSize = 0)
    (free : s.Free device hash) (isNamed : deviceName ≠ "") (unused : s.deviceInUse deviceName = false)
    (loopName : data.loopName = device.name) (isDevice : data.deviceName = deviceName)
    (hashtree : data.hashtreeLoopName = (hash.map LoopbackDevice.name).getD "")
    (records : RecordsApex apex mountPoint tempMount data) :
    ∃ w', KernelCall.Answers (.mountImage (mountRequest env apex mountPoint deviceName hashtreeFile
        verityData verifyImage reuseDevice tempMount)) w (.ok data) w' ∧
      Represents (((s.discard deviceName).imageOnVerity apex imageOffset imageSize hashtreeFile device
        hash {.table deviceName} deviceName (createVerityTable verityData device (hash.getD device)
          (!verifyImage))).mount (.dm deviceName) mountPoint) w' := by
  obtain ⟨hashtreeLoopName, freshLoops, isTree⟩ := represents.freshLoops free named
  have isHashtree : data.hashtreeLoopName =
      if needsVerity env apex && decide (verityData.treeSize = 0) then hashtreeLoopName else "" := by
    rw [hashtree, verity, Bool.true_and]
    cases hash with
    | none => simpa using fun zero => absurd (external.mpr zero) Bool.false_ne_true
    | some tree => simp [external.mp rfl, isTree tree rfl]
  have isData : (mountRequest env apex mountPoint deviceName hashtreeFile verityData verifyImage
      reuseDevice tempMount).data device.name hashtreeLoopName = data :=
    records.data_eq loopName (by simp [isDevice, verity]) isHashtree
  have unused' (_ : needsVerity env apex = true) : w.deviceInUse deviceName = false :=
    (represents.deviceInUse_eq isNamed).symm.trans unused
  have answer := answers_mountImage (represents.mounted_eq.symm.trans notMounted) unused' freshLoops
    isData
  have mounts : (((s.discard deviceName).imageOnVerity apex imageOffset imageSize hashtreeFile device
      hash {.table deviceName} deviceName (createVerityTable verityData device (hash.getD device)
        (!verifyImage))).mount (.dm deviceName) mountPoint).mounts =
      ⟨mountPoint, .dm deviceName⟩ :: s.mounts :=
    congrArg (List.cons _) (BlockLayer.mounts_setHash.trans BlockLayer.mounts_discard)
  refine ⟨_, answer, represents_withImage mounts isData ?_ ?_ ?_⟩
  · subst isDevice
    exact shows_imageOnVerity free.discard named rfl rfl isNamed loopName hashtree
  · refine shows_mono (fun d user ne held => ?_) (fun other ne => ?_) (ne_of_not_deviceInUse unused)
      represents.mounts
    · exact (held.discard ne).imageOnVerity free.discard
    · exact (devices_imageOnVerity_ne ne).trans (devices_discard_ne ne)
  · intro name present
    by_cases same : name = deviceName
    · exact .inr ⟨verity, same⟩
    · refine .inl (represents.devices name ?_)
      rwa [← devices_discard_ne same, ← devices_imageOnVerity_ne same]

/-- A compressed APEX is not mounted. -/
theorem not_isCompressed_of_mounted
    (run : Runs (imageKernel useLoopConfigure) (ImageMount.mountPackageImpl env apex mountPoint deviceName
      hashtreeFile verifyImage reuseDevice tempMount) s (.ok data) s') : apex.isCompressed = false := by
  cases compressed : apex.isCompressed with
  | false => rfl
  | true =>
    rw [ImageMount.mountPackageImpl, if_pos compressed] at run
    cases (runs_done.mp run).1

/-- `MountPackageImpl` call by call does what it does with the one call that mounts the image: with
the same data for a mount, with an error for an error, and related devices afterwards. -/
theorem mountPackageImpl_simulated {result : Except String MountedApexData}
    (represents : Represents s w) (isNamed : deviceName ≠ "")
    (run : Runs (imageKernel useLoopConfigure) (ImageMount.mountPackageImpl env apex mountPoint deviceName
      hashtreeFile verifyImage reuseDevice tempMount) s result s') :
    ∃ result' w', Runs refusing (mountPackageImpl env.toEnvironment apex mountPoint deviceName
        hashtreeFile verifyImage reuseDevice tempMount) w result' w' ∧
      result'.toOption = result.toOption ∧ Represents s' w' := by
  have outcome := wp_runs (wp_mountPackageImpl_outcome represents.consistent) run
  cases result with
  | error e =>
    obtain ⟨t, left, forgets, -, rfl⟩ := outcome
    obtain ⟨e', refused⟩ := exists_refused
    exact ⟨_, w, refused, rfl, (represents.forgets forgets).setDirectory mountPoint left⟩
  | ok data =>
    obtain ⟨-, notMounted, ⟨imageOffset, imageSize, -, -, mounted⟩, records⟩ := outcome
    have notCompressed := not_isCompressed_of_mounted run
    have start := represents.setDirectory mountPoint (some [])
    cases mounted with
    | onLoopDevice device named noVerity verified free loopName noDevice noHashtree =>
      obtain ⟨verityData, verifies⟩ := verified
      obtain ⟨w', answer, after⟩ := start.mount_onLoopDevice deviceName env apex hashtreeFile verityData
        verifyImage reuseDevice imageOffset imageSize notMounted named noVerity free loopName noDevice
        noHashtree records
      exact ⟨_, w', runs_mountPackageImpl notCompressed verifies answer, rfl, after⟩
    | onVerity device hash verityData named verity verifies external free unused loopName isDevice
        hashtree =>
      obtain ⟨w', answer, after⟩ := start.mount_onVerity apex hashtreeFile reuseDevice imageOffset
        imageSize notMounted named verity external free isNamed unused loopName isDevice hashtree records
      exact ⟨_, w', runs_mountPackageImpl notCompressed verifies answer, rfl, after⟩

end Apexd
