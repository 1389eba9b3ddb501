import Apexd.Model.ImageMount

/-! # Mounting an image leaves nothing behind when it fails

Every call of `MountPackageImpl` is followed through the kernel's tables.  Its scope guards undo
what the calls before a failing one set up, so that an error leaves the loop devices, the mounts and
the device-mapper devices as they were, but for a dangling device of the name.
-/

namespace Apexd

open Process Storage

namespace BlockLayer

/-! ## Loop devices and their users -/

variable {s : BlockLayer} {number other : Nat} {loop : LoopDevice} {user : LoopUser}
  {name target : String}

theorem setLoop_setLoop (first second : Option LoopDevice) :
    (s.setLoop number first).setLoop number second = s.setLoop number second := by
  simp [setLoop, Function.update_idem]

theorem setLoop_eq_self {found : Option LoopDevice} (same : s.loops number = found) :
    s.setLoop number found = s := by
  subst same
  simp [setLoop]

theorem setLoop_comm (ne : number ≠ other) (first second : Option LoopDevice) :
    (s.setLoop number first).setLoop other second =
      (s.setLoop other second).setLoop number first := by
  simp [setLoop, Function.update_comm ne]

@[simp] theorem loops_setLoop_self (found : Option LoopDevice) :
    (s.setLoop number found).loops number = found := by
  simp [setLoop]

theorem loops_setLoop_ne (ne : other ≠ number) (found : Option LoopDevice) :
    (s.setLoop number found).loops other = s.loops other := by
  simp [setLoop, ne]

theorem drop_of_not_mem (absent : user ∉ loop.users) : loop.drop user = some loop := by
  rw [LoopDevice.drop, if_neg absent]

theorem dropUser_of_none (free : s.loops number = none) : s.dropUser number user = s := by
  rw [dropUser, free]
  exact setLoop_eq_self free

theorem dropUser_setLoop (found : Option LoopDevice) :
    (s.setLoop number found).dropUser number user = s.setLoop number (found.bind (·.drop user)) := by
  rw [dropUser, loops_setLoop_self, setLoop_setLoop]

theorem dropUser_setLoop_ne (ne : other ≠ number) (found : Option LoopDevice) :
    (s.setLoop number found).dropUser other user = (s.dropUser other user).setLoop number found := by
  rw [dropUser, dropUser, loops_setLoop_ne ne, setLoop_comm ne]

/-- A user who comes and goes changes nothing, where another one stays. -/
theorem drop_insert (absent : user ∉ loop.users) (kept : loop.users ≠ ∅) :
    LoopDevice.drop { loop with users := insert user loop.users } user = some loop := by
  rw [LoopDevice.drop, if_pos (Finset.mem_insert_self _ _)]
  simp [Finset.erase_insert absent, kept]

/-! ## Device-mapper devices -/

@[simp] theorem devices_setLoop (found : Option LoopDevice) :
    (s.setLoop number found).devices = s.devices := rfl

theorem setDevice_setDevice (first second : Option DmDevice) :
    (s.setDevice name first).setDevice name second = s.setDevice name second := by
  simp [setDevice]

theorem setDevice_eq_self {device : Option DmDevice} (same : s.devices name = device) :
    s.setDevice name device = s := by
  subst same
  simp [setDevice]

theorem dropUser_setDevice (device : Option DmDevice) :
    (s.setDevice name device).dropUser number user = (s.dropUser number user).setDevice name device :=
  rfl

theorem addUser_setDevice (device : Option DmDevice) :
    (s.setDevice name device).addUser number user = (s.addUser number user).setDevice name device :=
  rfl

theorem discard_of_none (absent : s.devices name = none) : s.discard name = s := by
  simp only [discard, absent, setDevice]
  rw [← absent]
  simp

/-- A dangling device does not use a loop device that is attached later. -/
theorem discard_setLoop (free : s.loops number = none) (absent : .table name ∉ loop.users) :
    (s.setLoop number (some loop)).discard name = (s.discard name).setLoop number (some loop) := by
  have drops (t : BlockLayer) (free : t.loops number = none) (other : Nat) :
      (t.setLoop number (some loop)).dropUser other (.table name) =
        (t.dropUser other (.table name)).setLoop number (some loop) := by
    by_cases same : other = number
    · subst same
      rw [dropUser_setLoop, Option.bind_some, drop_of_not_mem absent, dropUser_of_none free]
    · exact dropUser_setLoop_ne same _
  have stays (other : Nat) : (s.dropUser other (.table name)).loops number = none := by
    by_cases same : other = number
    · subst same
      rw [dropUser_of_none free, free]
    · rw [dropUser, loops_setLoop_ne (Ne.symm same), free]
  unfold discard
  rw [devices_setLoop]
  split
  · simp only [drops s free, drops _ (stays _)]
    rfl
  · rfl

theorem loops_discard_of_none (free : s.loops number = none) : (s.discard name).loops number = none := by
  have stays (t : BlockLayer) (free : t.loops number = none) (other : Nat) :
      (t.dropUser other (.table name)).loops number = none := by
    by_cases same : other = number
    · subst same
      rw [dropUser_of_none free, free]
    · rw [dropUser, loops_setLoop_ne (Ne.symm same), free]
  unfold discard
  split
  · exact stays _ (stays _ free _) _
  · exact free

theorem devices_discard_self : (s.discard name).devices name = none := by
  simp [discard, setDevice]

/-- A device without a table uses nothing. -/
theorem activate_discard_of_suspended {table : VerityTable} (suspended : s.getState name = .SUSPENDED) :
    (s.discard name).activate name table = s.activate name table := by
  have empty : s.devices name = some ⟨none⟩ := by
    unfold getState at suspended
    split at suspended <;> first | assumption | cases suspended
  simp only [discard, empty, activate, addUser_setDevice, setDevice_setDevice]

theorem addUser_setLoop :
    (s.setLoop number (some loop)).addUser number user =
      s.setLoop number (some { loop with users := insert user loop.users }) := by
  rw [addUser, loops_setLoop_self, Option.map_some, setLoop_setLoop]

theorem addUser_setLoop_ne (ne : other ≠ number) (found : Option LoopDevice) :
    (s.setLoop number found).addUser other user = (s.addUser other user).setLoop number found := by
  rw [addUser, addUser, loops_setLoop_ne ne, setLoop_comm ne]

theorem drop_drop : (loop.drop user).bind (·.drop user) = loop.drop user := by
  by_cases member : user ∈ loop.users
  · rw [LoopDevice.drop, if_pos member]
    simp only
    split
    · rfl
    · rw [Option.bind_some, drop_of_not_mem (Finset.notMem_erase _ _)]
  · rw [drop_of_not_mem member, Option.bind_some, drop_of_not_mem member]

@[simp] theorem mounts_discard : (s.discard name).mounts = s.mounts := by
  unfold discard
  split <;> rfl

/-- The loop device of the hash tree, if there is one. -/
def setHash (s : BlockLayer) (device : Option LoopbackDevice) (loop : Option LoopDevice) :
    BlockLayer :=
  match device with
  | none => s
  | some device => s.setLoop device.number loop

theorem mounts_setHash {hash : Option LoopbackDevice} {found : Option LoopDevice} :
    (s.setHash hash found).mounts = s.mounts := by
  cases hash <;> rfl

theorem devices_setHash {hash : Option LoopbackDevice} {found : Option LoopDevice} :
    (s.setHash hash found).devices = s.devices := by
  cases hash <;> rfl

variable {table : VerityTable} {device : LoopbackDevice} {hash : Option LoopbackDevice}
  {hashLoop : LoopDevice}

/-- A new device with a table uses the loop devices of the table. -/
theorem activate_setLoop (data : table.blockDevice = device)
    (tree : table.hashDevice = hash.getD device)
    (apart : ∀ d ∈ hash, d.number ≠ device.number) :
    ((s.setLoop device.number (some loop)).setHash hash (some hashLoop)).activate name table =
      ((s.setLoop device.number (some { loop with users := insert (.table name) loop.users })).setHash
        hash (some { hashLoop with users := insert (.table name) hashLoop.users })).setDevice name
          (some ⟨some table⟩) := by
  rw [activate, data, tree]
  congr 1
  cases hash with
  | none =>
    simp only [setHash, Option.getD_none]
    rw [addUser_setLoop, addUser_setLoop]
    simp
  | some d =>
    have ne : device.number ≠ d.number := fun same => apart d rfl same.symm
    simp only [setHash, Option.getD_some]
    rw [addUser_setLoop_ne ne, addUser_setLoop, addUser_setLoop]

variable (s loop name) in
/-- What a device used is what it would have been without it. -/
theorem discard_setDevice (data : table.blockDevice = device)
    (tree : table.hashDevice = hash.getD device)
    (apart : ∀ d ∈ hash, d.number ≠ device.number) (found : Option LoopDevice) :
    (((s.setLoop device.number (some loop)).setHash hash found).setDevice name
      (some ⟨some table⟩)).discard name =
      ((s.setLoop device.number (loop.drop (.table name))).setHash hash
        (found.bind (·.drop (.table name)))).setDevice name none := by
  have active : (((s.setLoop device.number (some loop)).setHash hash found).setDevice name
      (some ⟨some table⟩)).devices name = some ⟨some table⟩ := by simp [setDevice]
  rw [discard, active]
  simp only [data, tree, dropUser_setDevice, setDevice_setDevice]
  congr 1
  cases hash with
  | none =>
    simp only [setHash, Option.getD_none]
    rw [dropUser_setLoop, dropUser_setLoop, Option.bind_some, drop_drop]
  | some d =>
    have ne : device.number ≠ d.number := fun same => apart d rfl same.symm
    simp only [setHash, Option.getD_some]
    rw [dropUser_setLoop_ne ne, dropUser_setLoop, dropUser_setLoop, Option.bind_some]

/-! ## Mounts -/

theorem umount_mount_dm : (s.mount (.dm name) target).umount target = s := by
  simp [umount, mount]

theorem umount_mount_loop (attached : s.loops device.number = some loop)
    (absent : .mounted target ∉ loop.users) (kept : loop.users ≠ ∅) :
    (s.mount (.loop device) target).umount target = s := by
  have restored : (s.addUser device.number (.mounted target)).dropUser device.number
      (.mounted target) = s := by
    rw [addUser, attached, Option.map_some, dropUser_setLoop, Option.bind_some,
      drop_insert absent kept]
    exact setLoop_eq_self attached
  have same : (s.mount (.loop device) target).umount target =
      { (s.addUser device.number (.mounted target)).dropUser device.number (.mounted target) with
        mounts := s.mounts } := by
    simp only [umount, mount, List.find?_cons_of_pos, decide_true, List.eraseP_cons_of_pos]
    rfl
  rw [same, restored]

end BlockLayer

/-! ## Attaching a loop device -/

section LoopDevices

variable {s : BlockLayer} {device : LoopbackDevice} {loop : LoopDevice}

/-- A call of a destructor does what it does, and nothing else. -/
theorem wp_loopCall_sure {request : LoopCall} {next : Except String request.Reply → LoopProgram α}
    {Q : Except String α → BlockLayer → Prop} (sure : ¬ request.Fallible)
    (answers : ∀ reply s', request.Answers s reply s' → wp loopDriver Anything (next reply) Q s') :
    wp loopDriver Anything (.call request next) Q s :=
  wp_withFaults (fun reply s' answer => ⟨trivial, answers reply s' answer⟩) fun may => absurd may sure

/-- A call that succeeds with its effect or fails without one. -/
theorem wp_loopCall {request : LoopCall} {Q : Except String request.Reply → BlockLayer → Prop}
    (answers : ∀ reply s', request.Answers s reply s' → Q reply s')
    (fails : ∀ e, Q (.error e) s) : wp loopDriver Anything (loopCall request) Q s :=
  wp_withFaults (fun reply s' answer => ⟨trivial, answers reply s' answer⟩) fun _ e =>
    ⟨trivial, fails e⟩

/-- The descriptor of a device that nothing is attached to. -/
theorem wp_maybeCloseBad_of_none (free : s.loops device.number = none) :
    wp loopDriver Anything (maybeCloseBad device) (fun _ s' => s' = s) s := by
  rw [maybeCloseBad, wp_bind, wp_ignore]
  refine wp_loopCall_sure (by simp [LoopCall.Fallible]) fun reply s' cleared => ?_
  simp only [LoopCall.Answers, LoopCall.clearFd, free, Prod.mk.injEq] at cleared
  obtain ⟨-, rfl⟩ := cleared
  refine wp_loopCall_sure (by simp [LoopCall.Fallible]) fun reply s' closed => ?_
  exact closed.2.trans (BlockLayer.dropUser_of_none free)

/-- A device that nobody else uses is detached. -/
theorem wp_maybeCloseBad_of_only (attached : s.loops device.number = some loop)
    (only : loop.users = {.descriptor}) :
    wp loopDriver Anything (maybeCloseBad device)
      (fun _ s' => s' = s.setLoop device.number none) s := by
  rw [maybeCloseBad, wp_bind, wp_ignore]
  refine wp_loopCall_sure (by simp [LoopCall.Fallible]) fun reply s' cleared => ?_
  have erased : loop.users.erase .descriptor = ∅ := by rw [only]; rfl
  simp only [LoopCall.Answers, LoopCall.clearFd, attached, erased, if_true, Prod.mk.injEq] at cleared
  obtain ⟨-, rfl⟩ := cleared
  refine wp_loopCall_sure (by simp [LoopCall.Fallible]) fun reply s' closed => ?_
  exact closed.2.trans (BlockLayer.dropUser_of_none (BlockLayer.loops_setLoop_self none))

/-- A device that others use is left to them. -/
theorem wp_maybeCloseBad_of_used (attached : s.loops device.number = some loop)
    (held : .descriptor ∈ loop.users) (used : loop.users.erase .descriptor ≠ ∅)
    (autoclear : loop.info.autoclear = true) :
    wp loopDriver Anything (maybeCloseBad device) (fun result s' => result = .ok () ∧
      s' = s.setLoop device.number
        (some { loop with users := loop.users.erase .descriptor })) s := by
  rw [maybeCloseBad, wp_bind, wp_ignore]
  refine wp_loopCall_sure (by simp [LoopCall.Fallible]) fun reply s' cleared => ?_
  have unchanged : { loop with info := { loop.info with autoclear := true } } = loop := by
    rw [← autoclear]
  simp only [LoopCall.Answers, LoopCall.clearFd, attached, used, if_false, unchanged,
    BlockLayer.setLoop_eq_self attached, Prod.mk.injEq] at cleared
  obtain ⟨-, rfl⟩ := cleared
  refine wp_loopCall_sure (by simp [LoopCall.Fallible]) fun reply s' closed => ?_
  refine ⟨closed.1, ?_⟩
  rw [closed.2, BlockLayer.dropUser, attached, Option.bind_some, LoopDevice.drop, if_pos held]
  simp [used]

/-- A device as apexd attaches it. -/
def attachedBy (target : FilePath) (imageOffset imageSize : Nat) (users : Finset LoopUser) :
    LoopDevice where
  target := target
  info := imageInfo imageOffset imageSize
  users := users

/-- A loop device was attached that was free before, or nothing has changed. -/
def Attaches (target : FilePath) (imageOffset imageSize : Nat) (s : BlockLayer) :
    Except String LoopbackDevice → BlockLayer → Prop
  | .ok device, s' => s.loops device.number = none ∧
    device.name ∈ candidateDevices device.number ∧
    s' = s.setLoop device.number (some (attachedBy target imageOffset imageSize {.descriptor}))
  | .error _, s' => s' = s

theorem wp_openLoopTarget (target : FilePath) :
    wp loopDriver Anything (openLoopTarget target) (fun _ s' => s' = s) s := by
  rw [openLoopTarget, wp_bind, wp_attempt]
  refine wp_loopCall (fun reply s' opened => ?_) fun e => ?_
  · obtain ⟨rfl, rfl⟩ := opened
    rfl
  · change wp _ _ ((loopCall (.statfs target)).attempt >>= _) _ s
    rw [wp_bind, wp_attempt]
    refine wp_loopCall (fun reply s' found => ?_) fun _ => rfl
    obtain ⟨rfl, magic, rfl⟩ := found
    simp only
    split
    · rfl
    · rw [afterText, wp_mapError]
      exact wp_loopCall (fun reply s' opened => opened.2) fun _ => rfl

variable {target : FilePath} {imageOffset imageSize : Nat}

/-- With either ioctl the device is attached with the flag that clears it, or the descriptor is
all that uses it. -/
theorem wp_configureLoopDevice (useLoopConfigure : Bool) (free : s.loops device.number = none) :
    wp loopDriver Anything
      (configureLoopDevice useLoopConfigure device target imageOffset imageSize)
      (fun result s' => match result with
        | .ok _ => s' = s.setLoop device.number
            (some (attachedBy target imageOffset imageSize {.descriptor}))
        | .error _ => s' = s ∨ ∃ loop, loop.users = {.descriptor} ∧
            s' = s.setLoop device.number (some loop)) s := by
  rw [configureLoopDevice, wp_bind]
  refine wp_mono (wp_openLoopTarget target) ?_
  rintro (e | ⟨⟨⟩⟩) _ rfl
  · exact .inl rfl
  · simp only
    cases useLoopConfigure with
    | true =>
      rw [if_pos rfl, afterText, wp_mapError]
      refine wp_loopCall (fun reply s' configured => ?_) fun _ => .inl rfl
      simp only [LoopCall.Answers, LoopCall.attach, free, Prod.mk.injEq] at configured
      obtain ⟨rfl, rfl⟩ := configured
      rfl
    | false =>
      rw [if_neg (by simp), wp_bind, afterText, wp_mapError]
      refine wp_loopCall (fun reply s₁ attached => ?_) fun _ => .inl rfl
      simp only [LoopCall.Answers, LoopCall.attach, free, Prod.mk.injEq] at attached
      obtain ⟨rfl, rfl⟩ := attached
      simp only [Except.mapError]
      rw [wp_bind, afterText, wp_mapError]
      refine wp_loopCall (fun reply s₂ set => ?_) fun _ => .inr ⟨_, rfl, rfl⟩
      simp only [LoopCall.Answers, BlockLayer.loops_setLoop_self, BlockLayer.setLoop_setLoop] at set
      obtain ⟨rfl, rfl⟩ := set
      simp only [Except.mapError]
      rw [wp_bind, afterText, wp_mapError]
      refine wp_loopCall (fun reply s₃ flushed => ?_) fun _ => .inr ⟨_, rfl, rfl⟩
      obtain ⟨rfl, rfl⟩ := flushed
      simp only [Except.mapError]
      rw [wp_ignore]
      exact wp_loopCall (fun reply s₄ sized => sized.2) fun _ => rfl

/-- `CreateLoopDevice` attaches a loop device or leaves all of them as they are. -/
theorem wp_createLoopDevice (useLoopConfigure : Bool) :
    wp loopDriver Anything (createLoopDevice useLoopConfigure target imageOffset imageSize)
      (Attaches target imageOffset imageSize s) s := by
  rw [createLoopDevice, wp_bind, afterText, wp_mapError]
  refine wp_loopCall (fun reply s₁ opened => ?_) fun _ => rfl
  obtain ⟨rfl, rfl⟩ := opened
  simp only [Except.mapError]
  rw [wp_bind, afterText, wp_mapError]
  refine wp_loopCall (fun reply s₂ got => ?_) fun _ => rfl
  obtain ⟨rfl, num, free, rfl⟩ := got
  simp only [Except.mapError]
  rw [wp_bind]
  refine wp_loopCall (fun reply s₃ waited => ?_) fun _ => rfl
  obtain ⟨rfl, name, named, rfl⟩ := waited
  simp only
  rw [wp_bind, wp_onError]
  refine wp_mono (wp_configureLoopDevice useLoopConfigure free) ?_
  rintro (e | ⟨⟨⟩⟩) s' configured
  · rcases configured with rfl | ⟨loop, only, rfl⟩
    · exact wp_mono (wp_maybeCloseBad_of_none free) fun _ _ same => same
    · refine wp_mono (wp_maybeCloseBad_of_only (BlockLayer.loops_setLoop_self _) only) ?_
      rintro _ _ rfl
      exact (BlockLayer.setLoop_setLoop _ _).trans (BlockLayer.setLoop_eq_self free)
  · exact ⟨free, named, configured⟩

end LoopDevices

section Images

variable {useLoopConfigure : Bool} {s : BlockLayer}

/-- A call that succeeds with its effect or fails without one. -/
theorem wp_imageCall {request : ImageCall} {Q : Except String request.Reply → BlockLayer → Prop}
    (answers : ∀ reply s', request.Answers useLoopConfigure s reply s' → Q reply s')
    (fails : request.Fallible → ∀ e, Q (.error e) s) :
    wp (imageKernel useLoopConfigure) Anything (imageCall request) Q s :=
  wp_withFaults (fun reply s' answer => ⟨trivial, answers reply s' answer⟩) fun may e =>
    ⟨trivial, fails may e⟩

/-- A call that reads, or that changes nothing of the block devices. -/
theorem wp_imageCall_same {request : ImageCall} {Q : Except String request.Reply → BlockLayer → Prop}
    (keeps : ∀ reply s', request.Answers useLoopConfigure s reply s' → s' = s)
    (holds : ∀ reply, Q reply s) :
    wp (imageKernel useLoopConfigure) Anything (imageCall request) Q s :=
  wp_imageCall (fun reply s' answer => keeps reply s' answer ▸ holds reply) fun _ e => holds (.error e)

theorem wp_liftLoop {p : LoopProgram α} {Q : Except String α → BlockLayer → Prop}
    (holds : wp loopDriver Anything p Q s) :
    wp (imageKernel useLoopConfigure) Anything (liftLoop p) Q s := by
  induction p generalizing s with
  | done result => exact holds
  | call request next ih =>
    refine wp_withFaults (fun reply s' answer => ⟨trivial, ih reply (holds reply s' answer).2⟩) ?_
    intro may e
    exact ⟨trivial, ih _ (holds (.error e) s (.inr ⟨may, ⟨e, rfl⟩, rfl⟩)).2⟩

variable {target : FilePath} {imageOffset imageSize : Nat}

theorem wp_createAndConfigureLoopDevice :
    wp (imageKernel useLoopConfigure) Anything
      (createAndConfigureLoopDevice target imageOffset imageSize)
      (Attaches target imageOffset imageSize s) s := by
  rw [createAndConfigureLoopDevice, wp_bind]
  refine wp_imageCall (fun reply s₁ created => ?_) fun _ _ => rfl
  have attaches := wp_runs (wp_createLoopDevice useLoopConfigure) created
  cases reply with
  | error e => exact attaches
  | ok device =>
    obtain ⟨free, named, rfl⟩ := attaches
    simp only
    rw [wp_bind, wp_ignore]
    refine wp_imageCall_same (fun _ _ answer => answer.2) fun _ => ?_
    simp only
    rw [wp_bind, wp_ignore]
    refine wp_imageCall_same (fun _ _ answer => answer.2) fun _ => ?_
    simp only
    rw [wp_bind, wp_onError]
    refine wp_imageCall_same (fun _ _ answer => answer.2) fun reply => ?_
    cases reply with
    | ok _ => exact ⟨free, named, rfl⟩
    | error e =>
      refine wp_mono (wp_liftLoop (wp_maybeCloseBad_of_only
        (BlockLayer.loops_setLoop_self _) rfl)) ?_
      rintro _ _ rfl
      exact (BlockLayer.setLoop_setLoop _ _).trans (BlockLayer.setLoop_eq_self free)

theorem wp_setUpLoopDevice (attempts : Nat) :
    wp (imageKernel useLoopConfigure) Anything
      (setUpLoopDevice target imageOffset imageSize attempts)
      (Attaches target imageOffset imageSize s) s := by
  induction attempts with
  | zero =>
    rw [setUpLoopDevice, wp_mapError]
    refine wp_mono wp_createAndConfigureLoopDevice ?_
    rintro (e | device) s' attaches <;> exact attaches
  | succ attempts ih =>
    rw [setUpLoopDevice, wp_bind, wp_attempt]
    refine wp_mono wp_createAndConfigureLoopDevice ?_
    rintro (e | device) s' attaches
    · subst attaches
      exact ih
    · exact attaches

/-! ## Verity devices -/

/-- What is mounted is active. -/
def BlockLayer.Consistent (s : BlockLayer) : Prop :=
  ∀ name, s.deviceInUse name = true → s.getState name = .ACTIVE

/-- Nothing has changed, except that a device of the name may be gone that was not mounted. -/
def Forgets (name : String) (s s' : BlockLayer) : Prop :=
  s' = s ∨ (s.deviceInUse name = false ∧ s' = s.discard name)

/-- The device was created, in the place of a dangling one if there was one. -/
def Creates (name : String) (table : VerityTable) (s : BlockLayer) :
    Except String Unit → BlockLayer → Prop
  | .ok _, s' => s.deviceInUse name = false ∧ s' = (s.discard name).activate name table
  | .error _, s' => Forgets name s s'

variable {name : String} {table : VerityTable}

theorem wp_createNewVerityDevice {s₀ : BlockLayer} (unused : s₀.deviceInUse name = false)
    (discarded : s = s₀.discard name) :
    wp (imageKernel useLoopConfigure) Anything (createNewVerityDevice name table)
      (Creates name table s₀) s := by
  have forgets : Forgets name s₀ s := .inr ⟨unused, discarded⟩
  rw [createNewVerityDevice, wp_mapError]
  refine wp_imageCall (fun reply s' created => ?_) fun _ _ => forgets
  simp only [ImageCall.Answers] at created
  split at created
  · obtain ⟨rfl, rfl⟩ := created
    exact ⟨unused, by rw [discarded]⟩
  · obtain ⟨⟨e, rfl⟩, rfl⟩ := created
    exact forgets

/-- A device is deleted unless it is mounted. -/
theorem wp_deleteVerityDevice (present : s.devices name ≠ none) :
    wp (imageKernel useLoopConfigure) Anything (deleteVerityDevice name false)
      (fun result s' => match result with
        | .ok _ => s.deviceInUse name = false ∧ s' = s.discard name
        | .error _ => s.deviceInUse name = true ∧ s' = s) s := by
  rw [deleteVerityDevice, if_neg (by simp), wp_mapError]
  refine wp_imageCall (fun reply s' deleted => ?_) fun may => may.elim
  simp only [ImageCall.Answers, present, false_or] at deleted
  split at deleted
  · rename_i used
    obtain ⟨⟨e, rfl⟩, rfl⟩ := deleted
    exact ⟨used, rfl⟩
  · rename_i unused
    obtain ⟨rfl, rfl⟩ := deleted
    exact ⟨by simpa using unused, rfl⟩

/-- The clean-up of the device that was to be reused. -/
theorem wp_deleteDevice {s₀ : BlockLayer} (present : s.devices name ≠ none)
    (unused : s.deviceInUse name = false) (unused₀ : s₀.deviceInUse name = false)
    (undone : s.discard name = s₀.discard name) :
    wp (imageKernel useLoopConfigure) Anything (imageCall (.deleteDevice name false))
      (fun _ => Forgets name s₀) s := by
  refine wp_imageCall (fun reply s' deleted => ?_) fun may => may.elim
  simp only [ImageCall.Answers, present, unused, false_or, Bool.false_eq_true, if_false] at deleted
  exact .inr ⟨unused₀, deleted.2.trans undone⟩

theorem wp_createVerityDevice (reuseDevice : Bool)
    (active : s.deviceInUse name = true → s.getState name = .ACTIVE)
    (undone : s.getState name = .SUSPENDED →
      (s.activate name table).discard name = s.discard name) :
    wp (imageKernel useLoopConfigure) Anything (createVerityDevice name table reuseDevice)
      (Creates name table s) s := by
  have unusedUnless (inactive : s.getState name ≠ .ACTIVE) : s.deviceInUse name = false := by
    cases used : s.deviceInUse name with
    | false => rfl
    | true => exact absurd (active used) inactive
  have replaces (present : s.devices name ≠ none) : wp (imageKernel useLoopConfigure) Anything
      (do deleteVerityDevice name false; createNewVerityDevice name table) (Creates name table s) s := by
    rw [wp_bind]
    refine wp_mono (wp_deleteVerityDevice present) ?_
    rintro (e | ⟨⟨⟩⟩) s₁ ⟨unused, rfl⟩
    · exact .inl rfl
    · exact wp_createNewVerityDevice unused rfl
  rw [createVerityDevice, wp_bind]
  refine wp_imageCall (fun reply s₁ asked => ?_) fun _ _ => .inl rfl
  obtain ⟨rfl, rfl⟩ := asked
  simp only
  split
  · rename_i invalid
    have absent : s₁.devices name = none := by
      unfold BlockLayer.getState at invalid
      split at invalid <;> first | assumption | cases invalid
    exact wp_createNewVerityDevice (unusedUnless (by simp [invalid]))
      (BlockLayer.discard_of_none absent).symm
  · rename_i valid
    have present : s₁.devices name ≠ none := fun absent => valid (by simp [BlockLayer.getState, absent])
    split
    · split
      · exact replaces present
      · rename_i inactive
        have suspended : s₁.getState name = .SUSPENDED := by
          cases state : s₁.getState name <;> simp_all
        have unused := unusedUnless inactive
        rw [wp_bind, wp_onError, wp_mapError]
        refine wp_imageCall (fun reply s₂ activated => ?_) fun _ e =>
          wp_deleteDevice present unused unused rfl
        simp only [ImageCall.Answers] at activated
        split at activated
        · obtain ⟨rfl, rfl⟩ := activated
          have inPlace : s₁.activate name table = (s₁.discard name).activate name table :=
            (BlockLayer.activate_discard_of_suspended suspended).symm
          have present' : (s₁.activate name table).devices name ≠ none := by
            simp [BlockLayer.activate, BlockLayer.setDevice]
          simp only [Except.mapError]
          rw [wp_onError, wp_mapError]
          refine wp_imageCall_same (fun _ _ answer => answer.2) fun reply => ?_
          cases reply with
          | ok _ => exact ⟨unused, inPlace⟩
          | error e => exact wp_deleteDevice present' unused unused (undone suspended)
        · obtain ⟨⟨e, rfl⟩, rfl⟩ := activated
          exact wp_deleteDevice present unused unused rfl
    · exact replaces present

/-! ## The image -/

/-- The loop devices of an image and of its hash tree. -/
def BlockLayer.attached (s : BlockLayer) (device : LoopbackDevice) (hash : Option LoopbackDevice)
    (loop hashLoop : LoopDevice) : BlockLayer :=
  (s.setLoop device.number (some loop)).setHash hash (some hashLoop)

/-- The devices are free and not the same. -/
structure BlockLayer.Free (s : BlockLayer) (device : LoopbackDevice) (hash : Option LoopbackDevice) :
    Prop where
  image : s.loops device.number = none
  tree : ∀ d ∈ hash, s.loops d.number = none
  apart : ∀ d ∈ hash, d.number ≠ device.number

section Attached

variable {device : LoopbackDevice} {hash : Option LoopbackDevice} {loop hashLoop : LoopDevice}
  {mountPoint deviceName : String}

theorem BlockLayer.Free.discard (free : s.Free device hash) :
    (s.discard deviceName).Free device hash where
  image := loops_discard_of_none free.image
  tree d member := loops_discard_of_none (free.tree d member)
  apart := free.apart

theorem BlockLayer.Free.discard_attached (free : s.Free device hash)
    (loopUsers : loop.users = {.descriptor}) (hashUsers : hashLoop.users = {.descriptor}) :
    (s.attached device hash loop hashLoop).discard deviceName =
      (s.discard deviceName).attached device hash loop hashLoop := by
  have first : (s.setLoop device.number (some loop)).discard deviceName =
      (s.discard deviceName).setLoop device.number (some loop) :=
    discard_setLoop free.image (by rw [loopUsers]; simp)
  unfold attached
  cases hash with
  | none => exact first
  | some d =>
    have freeHash : (s.setLoop device.number (some loop)).loops d.number = none :=
      (loops_setLoop_ne (free.apart d rfl) _).trans (free.tree d rfl)
    simp only [setHash]
    rw [discard_setLoop freeHash (by rw [hashUsers]; simp), first]

theorem BlockLayer.Free.setHash_absent (free : s.Free device hash) :
    (s.setLoop device.number (some loop)).setHash hash none = s.setLoop device.number (some loop) := by
  cases hash with
  | none => rfl
  | some d => exact setLoop_eq_self ((loops_setLoop_ne (free.apart d rfl) _).trans (free.tree d rfl))

/-- Without its hash tree only the image is attached. -/
theorem BlockLayer.Free.setHash_none (free : s.Free device hash) (found : Option LoopDevice) :
    ((s.setLoop device.number (some loop)).setHash hash found).setHash hash none =
      s.setLoop device.number (some loop) := by
  cases hash with
  | none => rfl
  | some d =>
    simp only [setHash]
    rw [setLoop_setLoop]
    exact setLoop_eq_self ((loops_setLoop_ne (free.apart d rfl) _).trans (free.tree d rfl))

end Attached

section Mounting

variable {env : ImageEnvironment} {apex : ApexFile} {mountPoint deviceName : String}
  {hashtreeFile : FilePath}

theorem wp_verifyMountedImage (apex : ApexFile) (mountPoint : String) :
    wp (imageKernel useLoopConfigure) Anything (verifyMountedImage apex mountPoint)
      (fun _ s' => s' = s) s := by
  rw [verifyMountedImage, wp_bind]
  refine wp_imageCall (fun reply s' read => ?_) fun _ _ => rfl
  obtain ⟨rfl, manifest, rfl⟩ := read
  simp only
  split
  · rfl
  · split
    · exact wp_imageCall_same (fun _ _ answer => answer.2) fun _ => rfl
    · rfl

/-- A mount that is not verified is undone. -/
theorem wp_mountBlockDevice {source : ImageDevice}
    (undone : (s.mount source mountPoint).umount mountPoint = s) :
    wp (imageKernel useLoopConfigure) Anything
      (ImageMount.mountBlockDevice env apex source mountPoint)
      (fun result s' => match result with
        | .ok _ => s' = s.mount source mountPoint
        | .error _ => s' = s) s := by
  rw [ImageMount.mountBlockDevice]
  cases env.fsType apex.archive with
  | none => rfl
  | some fsType =>
    simp only
    rw [wp_bind, afterText, wp_mapError]
    refine wp_imageCall (fun reply s₁ mounted => ?_) fun _ _ => rfl
    simp only [ImageCall.Answers] at mounted
    split at mounted
    · obtain ⟨rfl, rfl⟩ := mounted
      simp only [Except.mapError]
      rw [wp_onError, wp_mapError]
      refine wp_mono (wp_verifyMountedImage apex mountPoint) ?_
      rintro (e | ⟨⟨⟩⟩) _ rfl
      · refine wp_imageCall (fun reply s₂ unmounted => ?_) fun may => may.elim
        have isMounted : (s.mount source mountPoint).mounted mountPoint = true := by
          simp [BlockLayer.mounted, BlockLayer.mount]
        simp only [ImageCall.Answers, isMounted, if_true] at unmounted
        exact unmounted.2.trans undone
      · rfl
    · obtain ⟨⟨e, rfl⟩, rfl⟩ := mounted
      rfl

/-- A loop device is attached to the hash tree file if the image has no hash tree. -/
theorem wp_hashDevice (verityData : HashtreeDescriptor) :
    wp (imageKernel useLoopConfigure) Anything
      (ImageMount.hashDevice apex verityData hashtreeFile)
      (fun result s' => match result with
        | .ok hash => (hash.isSome = true ↔ verityData.treeSize = 0) ∧
          (∀ d ∈ hash, s.loops d.number = none ∧ d.name ∈ candidateDevices d.number) ∧
          s' = s.setHash hash (some (attachedBy hashtreeFile 0 0 {.descriptor}))
        | .error _ => s' = s) s := by
  rw [ImageMount.hashDevice]
  by_cases external : verityData.treeSize = 0
  · rw [if_pos external, wp_bind]
    refine wp_imageCall_same (fun _ _ answer => answer.2) fun reply => ?_
    cases reply with
    | error e => rfl
    | ok _ =>
      simp only
      rw [wp_bind]
      refine wp_mono wp_createAndConfigureLoopDevice ?_
      rintro (e | d) s' attaches
      · exact attaches
      · obtain ⟨free, named, rfl⟩ := attaches
        refine ⟨by simp [external], ?_, rfl⟩
        rintro _ ⟨⟩
        exact ⟨free, named⟩
  · rw [if_neg external]
    exact ⟨by simp [external], by simp, rfl⟩

variable {device : LoopbackDevice} {hash : Option LoopbackDevice} {loop hashLoop : LoopDevice}

/-- The loop device of the hash tree is detached where only its descriptor uses it. -/
theorem wp_closeBad_of_only (free : s.Free device hash) (only : hashLoop.users = {.descriptor}) :
    wp (imageKernel useLoopConfigure) Anything (ImageMount.closeBad hash)
      (fun _ s' => s' = s.setLoop device.number (some loop))
      (s.attached device hash loop hashLoop) := by
  cases hash with
  | none => rfl
  | some d =>
    refine wp_mono (wp_liftLoop (wp_maybeCloseBad_of_only (BlockLayer.loops_setLoop_self _) only)) ?_
    rintro _ _ rfl
    exact free.setHash_none _

/-- Where a verity device uses it too, it is left to that device. -/
theorem wp_closeBad_of_used {t : BlockLayer}
    (attached : ∀ d ∈ hash, t.loops d.number = some hashLoop) (held : .descriptor ∈ hashLoop.users)
    (used : hashLoop.users.erase .descriptor ≠ ∅) (autoclear : hashLoop.info.autoclear = true) :
    wp (imageKernel useLoopConfigure) Anything (ImageMount.closeBad hash)
      (fun result s' => result = .ok () ∧ s' = t.setHash hash
        (some { hashLoop with users := hashLoop.users.erase .descriptor })) t := by
  cases hash with
  | none => exact ⟨rfl, rfl⟩
  | some d => exact wp_liftLoop (wp_maybeCloseBad_of_used (attached d rfl) held used autoclear)

/-! ## Setting up and taking down a verity device -/

theorem erase_descriptor (name : String) :
    ({.table name, .descriptor} : Finset LoopUser).erase .descriptor = {.table name} := by
  rw [Finset.erase_insert_of_ne (by simp)]
  simp

variable {target : FilePath} {imageOffset imageSize : Nat}

/-- An attached device after a verity device has stopped using it. -/
theorem drop_table (name : String) :
    (attachedBy target imageOffset imageSize {.table name, .descriptor}).drop (.table name) =
      some (attachedBy target imageOffset imageSize {.descriptor}) := by
  have absent : LoopUser.table name ∉ (attachedBy target imageOffset imageSize {.descriptor}).users := by
    simp [attachedBy]
  have kept : (attachedBy target imageOffset imageSize {.descriptor}).users ≠ ∅ := by simp [attachedBy]
  exact BlockLayer.drop_insert absent kept

/-- The image and its hash tree on devices with the given users. -/
def BlockLayer.imageAttached (s : BlockLayer) (apex : ApexFile) (imageOffset imageSize : Nat)
    (hashtreeFile : FilePath) (device : LoopbackDevice) (hash : Option LoopbackDevice)
    (users : Finset LoopUser) : BlockLayer :=
  s.attached device hash (attachedBy apex.path imageOffset imageSize users)
    (attachedBy hashtreeFile 0 0 users)

/-- A verity device on top of them. -/
def BlockLayer.imageOnVerity (s : BlockLayer) (apex : ApexFile) (imageOffset imageSize : Nat)
    (hashtreeFile : FilePath) (device : LoopbackDevice) (hash : Option LoopbackDevice)
    (users : Finset LoopUser) (deviceName : String) (table : VerityTable) : BlockLayer :=
  (s.imageAttached apex imageOffset imageSize hashtreeFile device hash users).setDevice deviceName
    (some ⟨some table⟩)

variable {table : VerityTable}

theorem activate_imageAttached (data : table.blockDevice = device)
    (tree : table.hashDevice = hash.getD device) (free : s.Free device hash) :
    (s.imageAttached apex imageOffset imageSize hashtreeFile device hash {.descriptor}).activate
        deviceName table =
      s.imageOnVerity apex imageOffset imageSize hashtreeFile device hash
        {.table deviceName, .descriptor} deviceName table :=
  BlockLayer.activate_setLoop data tree free.apart

theorem discard_imageOnVerity (data : table.blockDevice = device)
    (tree : table.hashDevice = hash.getD device) (free : s.Free device hash) :
    (s.imageOnVerity apex imageOffset imageSize hashtreeFile device hash
        {.table deviceName, .descriptor} deviceName table).discard deviceName =
      (s.imageAttached apex imageOffset imageSize hashtreeFile device hash
        {.descriptor}).setDevice deviceName none := by
  have drops := BlockLayer.discard_setDevice s
    (attachedBy apex.path imageOffset imageSize {.table deviceName, .descriptor}) deviceName data tree
    free.apart (some (attachedBy hashtreeFile 0 0 {.table deviceName, .descriptor}))
  rw [Option.bind_some, drop_table, drop_table] at drops
  exact drops

/-- The destructors of the hash tree's loop device and of the verity device. -/
theorem wp_takeDown (data : table.blockDevice = device) (tree : table.hashDevice = hash.getD device)
    (free : s.Free device hash) (absent : s.devices deviceName = none)
    (unused : s.deviceInUse deviceName = false) :
    wp (imageKernel useLoopConfigure) Anything
      (do ImageMount.closeBad hash; (deleteVerityDevice deviceName false).ignore)
      (fun _ s' => s' = s.setLoop device.number
        (some (attachedBy apex.path imageOffset imageSize {.descriptor})))
      (s.imageOnVerity apex imageOffset imageSize hashtreeFile device hash
        {.table deviceName, .descriptor} deviceName table) := by
  have kept : (attachedBy hashtreeFile 0 0 {.table deviceName, .descriptor}).users.erase .descriptor ≠
      ∅ := by
    change ({.table deviceName, .descriptor} : Finset LoopUser).erase .descriptor ≠ ∅
    rw [erase_descriptor]
    simp
  rw [wp_bind]
  refine wp_mono (wp_closeBad_of_used ?_ (by simp [attachedBy]) kept rfl) ?_
  · rintro d rfl
    exact BlockLayer.loops_setLoop_self _
  rintro result _ ⟨rfl, rfl⟩
  have shape : (s.imageOnVerity apex imageOffset imageSize hashtreeFile device hash
        {.table deviceName, .descriptor} deviceName table).setHash hash (some (attachedBy hashtreeFile 0 0
          (({.table deviceName, .descriptor} : Finset LoopUser).erase .descriptor))) =
      ((s.setLoop device.number (some (attachedBy apex.path imageOffset imageSize
        {.table deviceName, .descriptor}))).setHash hash (some (attachedBy hashtreeFile 0 0
          {.table deviceName}))).setDevice deviceName (some ⟨some table⟩) := by
    rw [erase_descriptor]
    cases hash with
    | none => rfl
    | some d =>
      exact congrArg (·.setDevice deviceName (some ⟨some table⟩)) (BlockLayer.setLoop_setLoop _ _)
  -- the verity device is the last user of the hash tree's loop device, which is cleared with it
  have released : (attachedBy hashtreeFile 0 0 {.table deviceName}).drop (.table deviceName) = none := by
    simp [LoopDevice.drop, attachedBy, imageInfo]
  have discarded := BlockLayer.discard_setDevice s
    (attachedBy apex.path imageOffset imageSize {.table deviceName, .descriptor}) deviceName data tree
    free.apart (some (attachedBy hashtreeFile 0 0 {.table deviceName}))
  rw [Option.bind_some, drop_table, released] at discarded
  change wp _ _ (deleteVerityDevice deviceName false).ignore _ (BlockLayer.setHash _ hash
    (some (attachedBy hashtreeFile 0 0 (({.table deviceName, .descriptor} : Finset LoopUser).erase _))))
  rw [shape, wp_ignore]
  refine wp_mono (wp_deleteVerityDevice (by simp [BlockLayer.setDevice])) ?_
  rintro (e | ⟨⟨⟩⟩) s' ⟨used, rfl⟩
  · have mounts : (BlockLayer.setHash (s.setLoop device.number (some (attachedBy apex.path imageOffset
        imageSize {.table deviceName, .descriptor}))) hash (some (attachedBy hashtreeFile 0 0
          {.table deviceName}))).mounts = s.mounts := BlockLayer.mounts_setHash
    refine absurd ((congrArg (List.any · _) mounts).symm.trans used) ?_
    exact Bool.eq_false_iff.mp unused
  · rw [discarded]
    have detached : (s.setLoop device.number (some (attachedBy apex.path imageOffset imageSize
        {.descriptor}))).setHash hash none = s.setLoop device.number (some (attachedBy apex.path
          imageOffset imageSize {.descriptor})) := free.setHash_absent
    rw [detached]
    exact BlockLayer.setDevice_eq_self absent

theorem wp_readBlocks {path : String} (source : ImageDevice) (bytesLeft : Nat) :
    wp (imageKernel useLoopConfigure) Anything (readBlocks path source bytesLeft)
      (fun _ s' => s' = s) s := by
  induction bytesLeft using Nat.strongRecOn with
  | ind bytesLeft ih =>
    rw [readBlocks]
    split
    · rename_i more
      rw [wp_bind, afterText, wp_mapError]
      refine wp_imageCall_same (fun _ _ answer => answer.2) fun reply => ?_
      cases reply with
      | error e => rfl
      | ok _ =>
        have positive : 0 < kBufSize := by decide
        exact ih _ (by omega)
    · rfl

/-- Reading all of the device changes nothing. -/
theorem wp_readVerityDevice {path : String} (source : ImageDevice) (deviceSize : Nat) :
    wp (imageKernel useLoopConfigure) Anything (readVerityDevice path source deviceSize)
      (fun _ s' => s' = s) s := by
  rw [readVerityDevice, wp_bind, afterText, wp_mapError]
  refine wp_imageCall_same (fun _ _ answer => answer.2) fun reply => ?_
  cases reply with
  | error e => rfl
  | ok _ => exact wp_readBlocks source deviceSize

theorem wp_verifyAndMount {source : ImageDevice} {path : String} {deviceSize : Nat} {verifyImage : Bool}
    (undone : (s.mount source mountPoint).umount mountPoint = s) :
    wp (imageKernel useLoopConfigure) Anything (do
      if verifyImage then readVerityDevice path source deviceSize
      ImageMount.mountBlockDevice env apex source mountPoint)
      (fun result s' => match result with
        | .ok _ => s' = s.mount source mountPoint
        | .error _ => s' = s) s := by
  split
  · rw [wp_bind]
    refine wp_mono (wp_readVerityDevice _ _) ?_
    rintro (e | ⟨⟨⟩⟩) _ rfl
    · rfl
    · exact wp_mountBlockDevice undone
  · exact wp_mountBlockDevice undone

theorem deviceInUse_imageAttached {users : Finset LoopUser} (name : String) :
    (s.imageAttached apex imageOffset imageSize hashtreeFile device hash users).deviceInUse name =
      s.deviceInUse name := by
  rw [BlockLayer.deviceInUse, BlockLayer.imageAttached, BlockLayer.attached, BlockLayer.mounts_setHash]
  rfl

theorem getState_imageAttached {users : Finset LoopUser} (name : String) :
    (s.imageAttached apex imageOffset imageSize hashtreeFile device hash users).getState name =
      s.getState name := by
  rw [BlockLayer.getState, BlockLayer.imageAttached, BlockLayer.attached, BlockLayer.devices_setHash]
  rfl

variable (apex hashtreeFile imageOffset imageSize) in
/-- From the verity device on: the image is mounted, or only its loop device is left. -/
theorem wp_mountOnVerity {verityData : HashtreeDescriptor} {verifyImage reuseDevice : Bool}
    (free : s.Free device hash) (consistent : s.Consistent)
    (isTable : createVerityTable verityData device (hash.getD device) (!verifyImage) = table) :
    wp (imageKernel useLoopConfigure) Anything
      (ImageMount.mountOnVerity env apex verityData device hash mountPoint deviceName verifyImage
        reuseDevice)
      (fun result s' => match result with
        | .ok _ => s.deviceInUse deviceName = false ∧
          s' = ((s.discard deviceName).imageOnVerity apex imageOffset imageSize hashtreeFile device
            hash {.table deviceName, .descriptor} deviceName table).mount (.dm deviceName) mountPoint
        | .error _ => ∃ t, Forgets deviceName s t ∧ s' = t.setLoop device.number
            (some (attachedBy apex.path imageOffset imageSize {.descriptor})))
      (s.imageAttached apex imageOffset imageSize hashtreeFile device hash {.descriptor}) := by
  have data : table.blockDevice = device := isTable ▸ rfl
  have tree : table.hashDevice = hash.getD device := isTable ▸ rfl
  have discards : (s.imageAttached apex imageOffset imageSize hashtreeFile device hash
      {.descriptor}).discard deviceName = (s.discard deviceName).imageAttached apex imageOffset
        imageSize hashtreeFile device hash {.descriptor} := free.discard_attached rfl rfl
  have undone (suspended : (s.imageAttached apex imageOffset imageSize hashtreeFile device hash
      {.descriptor}).getState deviceName = .SUSPENDED) :
      ((s.imageAttached apex imageOffset imageSize hashtreeFile device hash {.descriptor}).activate
        deviceName table).discard deviceName =
      (s.imageAttached apex imageOffset imageSize hashtreeFile device hash {.descriptor}).discard
        deviceName := by
    rw [activate_imageAttached data tree free, discard_imageOnVerity data tree free]
    have empty : (s.imageAttached apex imageOffset imageSize hashtreeFile device hash
        {.descriptor}).devices deviceName = some ⟨none⟩ := by
      unfold BlockLayer.getState at suspended
      split at suspended <;> first | assumption | cases suspended
    simp only [BlockLayer.discard, empty]
  rw [ImageMount.mountOnVerity, isTable, wp_bind, wp_onError, wp_mapError]
  refine wp_mono (wp_createVerityDevice reuseDevice (fun used => ?_) undone) ?_
  · rw [deviceInUse_imageAttached] at used
    rw [getState_imageAttached]
    exact consistent deviceName used
  rintro (e | ⟨⟨⟩⟩) s₁ created
  · rcases created with rfl | ⟨unused, rfl⟩
    · refine wp_mono (wp_closeBad_of_only free rfl) ?_
      rintro _ _ rfl
      exact ⟨s, .inl rfl, rfl⟩
    · rw [deviceInUse_imageAttached] at unused
      rw [discards]
      refine wp_mono (wp_closeBad_of_only free.discard rfl) ?_
      rintro _ _ rfl
      exact ⟨_, .inr ⟨unused, rfl⟩, rfl⟩
  · obtain ⟨unused, rfl⟩ := created
    rw [deviceInUse_imageAttached] at unused
    have isOn : ((s.imageAttached apex imageOffset imageSize hashtreeFile device hash
        {.descriptor}).discard deviceName).activate deviceName table =
        (s.discard deviceName).imageOnVerity apex imageOffset imageSize hashtreeFile device hash
          {.table deviceName, .descriptor} deviceName table :=
      (congrArg (·.activate deviceName table) discards).trans
        (activate_imageAttached data tree free.discard)
    -- from here on every error runs the destructors on the same state
    have takesDown : wp (imageKernel useLoopConfigure) Anything
        (do ImageMount.closeBad hash; (deleteVerityDevice deviceName false).ignore)
        (fun _ s' => ∃ t, Forgets deviceName s t ∧ s' = t.setLoop device.number
          (some (attachedBy apex.path imageOffset imageSize {.descriptor})))
        ((s.discard deviceName).imageOnVerity apex imageOffset imageSize hashtreeFile device hash
          {.table deviceName, .descriptor} deviceName table) := by
      have notMounted : (s.discard deviceName).deviceInUse deviceName = false := by
        rw [BlockLayer.deviceInUse, BlockLayer.mounts_discard]
        exact unused
      refine wp_mono (wp_takeDown data tree free.discard BlockLayer.devices_discard_self notMounted) ?_
      exact fun _ s' same => ⟨_, .inr ⟨unused, rfl⟩, same⟩
    rw [isOn]
    simp only [Except.mapError]
    rw [wp_onError, wp_bind]
    refine wp_imageCall_same (fun _ _ answer => answer.2) fun reply => ?_
    cases reply with
    | error e => exact takesDown
    | ok _ =>
      refine wp_mono (wp_verifyAndMount BlockLayer.umount_mount_dm) ?_
      rintro (e | ⟨⟨⟩⟩) s₂ mounted
      · rw [mounted]
        exact takesDown
      · exact ⟨unused, mounted⟩

/-! ## Handing the image over -/

/-- Closing a descriptor leaves the device to its other users. -/
theorem wp_close {t : BlockLayer} :
    wp (imageKernel useLoopConfigure) Anything (liftLoop (loopCall (.close device)))
      (fun result s' => result = .ok () ∧ s' = t.dropUser device.number .descriptor) t :=
  wp_liftLoop (wp_loopCall_sure (by simp [LoopCall.Fallible]) fun _ _ closed => closed)

/-- An attached device after apexd has closed its descriptor. -/
theorem drop_descriptor {user : LoopUser} (ne : user ≠ .descriptor) :
    (attachedBy target imageOffset imageSize {user, .descriptor}).drop .descriptor =
      some (attachedBy target imageOffset imageSize {user}) := by
  have erased : ({user, .descriptor} : Finset LoopUser).erase .descriptor = {user} := by
    rw [Finset.erase_insert_of_ne ne]
    simp
  simp [LoopDevice.drop, attachedBy, erased]

/-- Whether `MountPackageImpl` puts a verity device between the loop device and the mount. -/
def needsVerity (env : ImageEnvironment) (apex : ApexFile) : Bool :=
  !env.repository.isPreInstalledApex apex || env.repository.isDecompressedApex apex ||
    env.repository.isBlockApex apex

/-- The key of the package verifies the image, and this is how its blocks are verified. -/
def Verifies (env : ImageEnvironment) (apex : ApexFile) (verityData : HashtreeDescriptor) : Prop :=
  ∃ publicKey, env.repository.getPublicKey apex.manifest.name = .ok publicKey ∧
    env.verityData apex.archive publicKey = .ok verityData ∧
    checkBlockApexRootDigest env apex verityData.rootDigest = .ok ()

/-- What the data of a mount say whatever devices it is on. -/
structure RecordsApex (apex : ApexFile) (mountPoint : String) (tempMount : Bool)
    (data : MountedApexData) : Prop where
  version : data.version = apex.manifest.version.toInt32
  fullPath : data.fullPath = apex.path
  mountPoint : data.mountPoint = mountPoint
  deleted : data.deleted = false
  isTempMount : data.isTempMount = tempMount

/-- The verified image is mounted.  Its loop devices were free and are used by the mount or by the
verity device alone, and the data name what was set up. -/
inductive ImageMounted (env : ImageEnvironment) (apex : ApexFile) (mountPoint deviceName : String)
    (hashtreeFile : FilePath) (verifyImage : Bool) (imageOffset imageSize : Nat) (s : BlockLayer)
    (data : MountedApexData) : BlockLayer → Prop where
  | onLoopDevice (device : LoopbackDevice) (named : device.name ∈ candidateDevices device.number)
      (noVerity : needsVerity env apex = false)
      (verified : ∃ verityData, Verifies env apex verityData) (free : s.loops device.number = none)
      (loopName : data.loopName = device.name) (noDevice : data.deviceName = "")
      (noHashtree : data.hashtreeLoopName = "") :
      ImageMounted env apex mountPoint deviceName hashtreeFile verifyImage imageOffset imageSize s data
        { s.setLoop device.number (some (attachedBy apex.path imageOffset imageSize
            {.mounted mountPoint})) with mounts := ⟨mountPoint, .loop device⟩ :: s.mounts }
  | onVerity (device : LoopbackDevice) (hash : Option LoopbackDevice) (verityData : HashtreeDescriptor)
      (named : ∀ d ∈ hash.toList ++ [device], d.name ∈ candidateDevices d.number)
      (verity : needsVerity env apex = true) (verified : Verifies env apex verityData)
      (external : hash.isSome = true ↔ verityData.treeSize = 0) (free : s.Free device hash)
      (unused : s.deviceInUse deviceName = false) (loopName : data.loopName = device.name)
      (isDevice : data.deviceName = deviceName)
      (hashtree : data.hashtreeLoopName = (hash.map LoopbackDevice.name).getD "") :
      ImageMounted env apex mountPoint deviceName hashtreeFile verifyImage imageOffset imageSize s data
        (((s.discard deviceName).imageOnVerity apex imageOffset imageSize hashtreeFile device hash
          {.table deviceName} deviceName (createVerityTable verityData device (hash.getD device)
            (!verifyImage))).mount (.dm deviceName) mountPoint)

theorem close_setLoop {number : Nat} {user : LoopUser} (ne : user ≠ .descriptor) :
    (s.setLoop number (some (attachedBy target imageOffset imageSize {user, .descriptor}))).dropUser
      number .descriptor =
      s.setLoop number (some (attachedBy target imageOffset imageSize {user})) := by
  rw [BlockLayer.dropUser_setLoop, Option.bind_some, drop_descriptor ne]

theorem mount_loop_closed :
    ((s.setLoop device.number (some (attachedBy target imageOffset imageSize {.descriptor}))).mount
      (.loop device) mountPoint).dropUser device.number .descriptor =
    { s.setLoop device.number (some (attachedBy target imageOffset imageSize {.mounted mountPoint})) with
      mounts := ⟨mountPoint, .loop device⟩ :: s.mounts } := by
  have used : (s.setLoop device.number (some (attachedBy target imageOffset imageSize
      {.descriptor}))).addUser device.number (.mounted mountPoint) =
      s.setLoop device.number (some (attachedBy target imageOffset imageSize
        {.mounted mountPoint, .descriptor})) := BlockLayer.addUser_setLoop
  exact congrArg (fun u : BlockLayer => { u with mounts := ⟨mountPoint, .loop device⟩ :: s.mounts })
    ((congrArg (·.dropUser device.number .descriptor) used).trans (close_setLoop (by simp)))

/-- The descriptors of the loop devices are closed: the verity device keeps them attached. -/
theorem wp_closeBoth {t : BlockLayer} (free : t.Free device hash) :
    wp (imageKernel useLoopConfigure) Anything
      (do liftLoop (loopCall (.close device)); ImageMount.closeGood hash)
      (fun result s' => result = .ok () ∧ s' = (t.imageOnVerity apex imageOffset imageSize hashtreeFile
        device hash {.table deviceName} deviceName table).mount (.dm deviceName) mountPoint)
      ((t.imageOnVerity apex imageOffset imageSize hashtreeFile device hash
        {.table deviceName, .descriptor} deviceName table).mount (.dm deviceName) mountPoint) := by
  have image (found : Option LoopDevice) : ((t.setLoop device.number (some (attachedBy apex.path
      imageOffset imageSize {.table deviceName, .descriptor}))).setHash hash found).dropUser
        device.number .descriptor =
      (t.setLoop device.number (some (attachedBy apex.path imageOffset imageSize
        {.table deviceName}))).setHash hash found := by
    cases hash with
    | none => exact close_setLoop (by simp)
    | some d =>
      simp only [BlockLayer.setHash]
      rw [BlockLayer.dropUser_setLoop_ne (Ne.symm (free.apart d rfl)), close_setLoop (by simp)]
  rw [wp_bind]
  refine wp_mono wp_close ?_
  rintro _ _ ⟨rfl, rfl⟩
  have closed : ((t.imageOnVerity apex imageOffset imageSize hashtreeFile device hash
      {.table deviceName, .descriptor} deviceName table).mount (.dm deviceName) mountPoint).dropUser
        device.number .descriptor =
      (((t.setLoop device.number (some (attachedBy apex.path imageOffset imageSize
        {.table deviceName}))).setHash hash (some (attachedBy hashtreeFile 0 0
          {.table deviceName, .descriptor}))).setDevice deviceName (some ⟨some table⟩)).mount
            (.dm deviceName) mountPoint :=
    congrArg (fun u : BlockLayer => (u.setDevice deviceName (some ⟨some table⟩)).mount
      (.dm deviceName) mountPoint) (image _)
  rw [closed]
  cases hash with
  | none => exact ⟨rfl, rfl⟩
  | some d =>
    refine wp_mono wp_close ?_
    rintro _ _ ⟨rfl, rfl⟩
    exact ⟨rfl, congrArg (fun u : BlockLayer => (u.setDevice deviceName (some ⟨some table⟩)).mount
      (.dm deviceName) mountPoint) (close_setLoop (by simp))⟩

/-- From the loop device of the image on: the image is mounted, or nothing but that device is left. -/
theorem wp_mountLoopDevice {verifyImage reuseDevice tempMount : Bool}
    (free : s.loops device.number = none) (named : device.name ∈ candidateDevices device.number)
    (consistent : s.Consistent) :
    wp (imageKernel useLoopConfigure) Anything
      (ImageMount.mountLoopDevice env apex device mountPoint deviceName hashtreeFile verifyImage
        reuseDevice tempMount)
      (fun result s' => match result with
        | .ok data => ImageMounted env apex mountPoint deviceName hashtreeFile verifyImage imageOffset
          imageSize s data s' ∧ RecordsApex apex mountPoint tempMount data
        | .error _ => ∃ t, Forgets deviceName s t ∧ s' = t.setLoop device.number
            (some (attachedBy apex.path imageOffset imageSize {.descriptor})))
      (s.setLoop device.number (some (attachedBy apex.path imageOffset imageSize {.descriptor}))) := by
  rw [ImageMount.mountLoopDevice, wp_bind, wp_ofExcept]
  cases key : env.repository.getPublicKey apex.manifest.name with
  | error e => exact ⟨s, .inl rfl, rfl⟩
  | ok publicKey =>
    simp only
    rw [wp_bind, wp_mapError, wp_ofExcept]
    cases descriptor : env.verityData apex.archive publicKey with
    | error e => exact ⟨s, .inl rfl, rfl⟩
    | ok verityData =>
      simp only [Except.mapError]
      rw [wp_bind, wp_ofExcept]
      cases check : checkBlockApexRootDigest env apex verityData.rootDigest with
      | error e => exact ⟨s, .inl rfl, rfl⟩
      | ok _ =>
        have verified : Verifies env apex verityData := ⟨publicKey, key, descriptor, check⟩
        simp only
        split
        · rename_i verity
          rw [wp_bind]
          refine wp_mono (wp_hashDevice verityData) ?_
          rintro (e | hash) s₁ attaches
          · exact ⟨s, .inl rfl, attaches⟩
          · obtain ⟨external, hashFree, rfl⟩ := attaches
            -- the device of the image is attached, so LOOP_CTL_GET_FREE gave another one
            have both : s.Free device hash := by
              have apart : ∀ d ∈ hash, d.number ≠ device.number := by
                intro d member same
                have found := (hashFree d member).1
                rw [same, BlockLayer.loops_setLoop_self] at found
                cases found
              exact ⟨free, fun d member => (BlockLayer.loops_setLoop_ne (apart d member) _).symm.trans
                (hashFree d member).1, apart⟩
            simp only
            rw [wp_bind]
            refine wp_mono (wp_mountOnVerity apex hashtreeFile imageOffset imageSize both consistent
              rfl) ?_
            rintro (e | ⟨⟨⟩⟩) s₂ mounted
            · exact mounted
            · obtain ⟨unused, rfl⟩ := mounted
              simp only
              rw [← Program.bind_assoc, wp_bind]
              refine wp_mono (wp_closeBoth both.discard) ?_
              rintro _ _ ⟨rfl, rfl⟩
              have allNamed : ∀ d ∈ hash.toList ++ [device], d.name ∈ candidateDevices d.number := by
                intro d member
                rcases List.mem_append.mp member with inHash | isImage
                · exact (hashFree d (Option.mem_toList.mp inHash)).2
                · exact List.mem_singleton.mp isImage ▸ named
              exact ⟨.onVerity device hash verityData allNamed verity verified external both unused
                rfl rfl rfl, rfl, rfl, rfl, rfl, rfl⟩
        · rename_i noVerity
          have attached : (s.setLoop device.number (some (attachedBy apex.path imageOffset imageSize
              {.descriptor}))).loops device.number = some (attachedBy apex.path imageOffset imageSize
                {.descriptor}) := BlockLayer.loops_setLoop_self _
          rw [wp_bind]
          refine wp_mono (wp_mountBlockDevice (BlockLayer.umount_mount_loop attached
            (by simp [attachedBy]) (by simp [attachedBy]))) ?_
          rintro (e | ⟨⟨⟩⟩) s₁ mounted
          · exact ⟨s, .inl rfl, mounted⟩
          · simp only
            rw [wp_bind]
            refine wp_mono wp_close ?_
            rintro _ _ ⟨rfl, rfl⟩
            rw [mounted, mount_loop_closed]
            exact ⟨.onLoopDevice device named (by simpa [needsVerity] using noVerity)
              ⟨verityData, verified⟩ free rfl rfl rfl, rfl, rfl, rfl, rfl, rfl⟩

/-! ## The mount point -/

theorem BlockLayer.loops_of_forgets {t : BlockLayer} {number : Nat} (forgets : Forgets deviceName s t)
    (free : s.loops number = none) : t.loops number = none := by
  rcases forgets with rfl | ⟨-, rfl⟩
  · exact free
  · exact loops_discard_of_none free

/-- `true` means that the directory is there, empty and not mounted on. -/
theorem wp_isEmptyDirectory :
    wp (imageKernel useLoopConfigure) Anything (isEmptyDirectory mountPoint)
      (fun result s' => s' = s ∧ ∃ isEmpty, result = .ok isEmpty ∧
        (isEmpty = true → s.directories mountPoint = some [] ∧ s.mounted mountPoint = false)) s := by
  rw [isEmptyDirectory, wp_bind, wp_attempt]
  refine wp_imageCall (fun reply s₁ read => ?_) fun _ _ => ⟨rfl, false, rfl, by simp⟩
  simp only [ImageCall.Answers] at read
  obtain ⟨rfl, names⟩ := read
  split at names
  · obtain ⟨names, some', rfl⟩ := names
    exact ⟨rfl, _, rfl, fun isEmpty => absurd (List.isEmpty_iff.mp isEmpty) some'⟩
  · rename_i notMounted
    split at names
    · subst names
      exact ⟨rfl, false, rfl, by simp⟩
    · rename_i names' found
      subst names
      refine ⟨rfl, _, rfl, fun isEmpty => ⟨?_, by simpa using notMounted⟩⟩
      rw [found, List.isEmpty_iff.mp isEmpty]

variable {verifyImage reuseDevice tempMount : Bool}

/-- The image is mounted on the empty directory, or the block devices are as they were but for a
dangling device of the name. -/
theorem wp_mountImage (consistent : s.Consistent) :
    wp (imageKernel useLoopConfigure) Anything
      (ImageMount.mountImage env apex mountPoint deviceName hashtreeFile verifyImage reuseDevice
        tempMount)
      (fun result s' => match result with
        | .ok data => s.directories mountPoint = some [] ∧ s.mounted mountPoint = false ∧
          (∃ imageOffset imageSize, env.imageOffset apex.archive = some imageOffset ∧
            env.imageSize apex.archive = some imageSize ∧
            ImageMounted env apex mountPoint deviceName hashtreeFile verifyImage imageOffset imageSize
              s data s') ∧ RecordsApex apex mountPoint tempMount data
        | .error _ => Forgets deviceName s s') s := by
  rw [ImageMount.mountImage, wp_bind]
  refine wp_mono wp_isEmptyDirectory ?_
  rintro _ _ ⟨rfl, isEmpty, rfl, empty⟩
  simp only
  split
  · rename_i isEmpty'
    obtain ⟨present, notMounted⟩ := empty isEmpty'
    cases offset : env.imageOffset apex.archive with
    | none => exact .inl rfl
    | some imageOffset =>
      cases size : env.imageSize apex.archive with
      | none => exact .inl rfl
      | some imageSize =>
        simp only
        rw [wp_bind]
        refine wp_mono (wp_setUpLoopDevice _) ?_
        rintro (e | device) s₁ attaches
        · exact .inl attaches
        · obtain ⟨free, named, rfl⟩ := attaches
          simp only
          rw [wp_onError]
          refine wp_mono (wp_mountLoopDevice free named consistent) ?_
          rintro (e | data) s₂ mounted
          · obtain ⟨t, forgets, rfl⟩ := mounted
            refine wp_mono (wp_liftLoop (wp_maybeCloseBad_of_only (BlockLayer.loops_setLoop_self _)
              rfl)) ?_
            rintro _ _ rfl
            rw [BlockLayer.setLoop_setLoop, BlockLayer.setLoop_eq_self
              (BlockLayer.loops_of_forgets forgets free)]
            exact forgets
          · exact ⟨present, notMounted, ⟨_, _, rfl, rfl, mounted.1⟩, mounted.2⟩
  · exact .inl rfl

theorem BlockLayer.discard_setDirectory (names : Option (List String)) :
    (s.setDirectory mountPoint names).discard deviceName =
      (s.discard deviceName).setDirectory mountPoint names := by
  have devices : (s.setDirectory mountPoint names).devices deviceName = s.devices deviceName := rfl
  unfold BlockLayer.discard
  rw [devices]
  split <;> rfl

theorem Forgets.exists_setDirectory {t : BlockLayer} {names : Option (List String)}
    (forgets : Forgets deviceName (s.setDirectory mountPoint names) t) :
    ∃ u, Forgets deviceName s u ∧ t = u.setDirectory mountPoint names := by
  rcases forgets with rfl | ⟨unused, rfl⟩
  · exact ⟨s, .inl rfl, rfl⟩
  · exact ⟨_, .inr ⟨unused, rfl⟩, BlockLayer.discard_setDirectory names⟩

theorem BlockLayer.setDirectory_eq_self {names : Option (List String)}
    (same : s.directories mountPoint = names) : s.setDirectory mountPoint names = s := by
  subst same
  simp [setDirectory]

theorem BlockLayer.setDirectory_setDirectory (first second : Option (List String)) :
    (s.setDirectory mountPoint first).setDirectory mountPoint second =
      s.setDirectory mountPoint second := by
  simp [setDirectory]

/-- Removing the mount point leaves the block devices alone, and what is in the directory. -/
theorem wp_rmdir {names : List String} :
    wp (imageKernel useLoopConfigure) Anything (imageCall (.rmdir mountPoint))
      (fun _ s' => ∃ left : Option (List String), left.getD [] = names ∧
        s' = s.setDirectory mountPoint left) (s.setDirectory mountPoint (some names)) := by
  refine wp_imageCall (fun reply s' removed => ?_) fun may => may.elim
  simp only [ImageCall.Answers] at removed
  split at removed
  · rename_i isEmpty
    have same : some names = some [] := by simpa [BlockLayer.setDirectory] using isEmpty.1
    refine ⟨none, (Option.some.inj same).symm, ?_⟩
    rw [removed.2, BlockLayer.setDirectory_setDirectory]
  · exact ⟨some names, rfl, removed.2⟩

/-- What `MountPackageImpl` leaves behind.  On an error these are the block devices as they were,
but for a dangling device of the name, and a mount point with what was in it. -/
def MountOutcome (env : ImageEnvironment) (apex : ApexFile) (mountPoint deviceName : String)
    (hashtreeFile : FilePath) (verifyImage tempMount : Bool) (s : BlockLayer) :
    Except String MountedApexData → BlockLayer → Prop
  | .ok data, s' => (s.directories mountPoint).getD [] = [] ∧ s.mounted mountPoint = false ∧
    (∃ imageOffset imageSize, env.imageOffset apex.archive = some imageOffset ∧
      env.imageSize apex.archive = some imageSize ∧
      ImageMounted env apex mountPoint deviceName hashtreeFile verifyImage imageOffset imageSize
        (s.setDirectory mountPoint (some [])) data s') ∧
    RecordsApex apex mountPoint tempMount data
  | .error _, s' => ∃ t left, Forgets deviceName s t ∧
    left.getD [] = (s.directories mountPoint).getD [] ∧ s' = t.setDirectory mountPoint left

theorem BlockLayer.getState_setDevice_ne {name : String} (ne : name ≠ deviceName)
    (found : Option DmDevice) : (s.setDevice deviceName found).getState name = s.getState name := by
  simp [getState, setDevice, ne]

theorem BlockLayer.getState_discard_ne {name : String} (ne : name ≠ deviceName) :
    (s.discard deviceName).getState name = s.getState name := by
  rw [discard, getState_setDevice_ne ne]
  split <;> rfl

/-- A device that is not mounted may go. -/
theorem Forgets.consistent {t : BlockLayer} (consistent : s.Consistent)
    (forgets : Forgets deviceName s t) : t.Consistent := by
  rcases forgets with rfl | ⟨unused, rfl⟩
  · exact consistent
  · intro name used
    rw [BlockLayer.deviceInUse, BlockLayer.mounts_discard] at used
    have ne : name ≠ deviceName := by
      rintro rfl
      exact Bool.false_ne_true (unused.symm.trans used)
    rw [BlockLayer.getState_discard_ne ne]
    exact consistent name used

theorem ImageMounted.consistent {data : MountedApexData} {s' : BlockLayer} (consistent : s.Consistent)
    (mounted : ImageMounted env apex mountPoint deviceName hashtreeFile verifyImage imageOffset imageSize
      s data s') : s'.Consistent := by
  cases mounted with
  | onLoopDevice device =>
    intro name used
    refine consistent name ?_
    simpa [BlockLayer.deviceInUse] using used
  | onVerity device hash verityData named verity verified external free unused =>
    intro name used
    by_cases same : name = deviceName
    · subst same
      simp [BlockLayer.getState, BlockLayer.mount, BlockLayer.imageOnVerity, BlockLayer.setDevice]
    · have others : ((s.discard deviceName).imageAttached apex imageOffset imageSize hashtreeFile device
          hash {.table deviceName}).deviceInUse name = true := by
        simpa [BlockLayer.deviceInUse, BlockLayer.mount, BlockLayer.imageOnVerity, Ne.symm same,
          BlockLayer.setDevice] using used
      rw [deviceInUse_imageAttached, BlockLayer.deviceInUse, BlockLayer.mounts_discard] at others
      change ((_ : BlockLayer).setDevice deviceName _).getState name = _
      rw [BlockLayer.getState_setDevice_ne same, getState_imageAttached,
        BlockLayer.getState_discard_ne same]
      exact consistent name others

theorem MountOutcome.consistent {result : Except String MountedApexData} {s' : BlockLayer}
    (consistent : s.Consistent)
    (outcome : MountOutcome env apex mountPoint deviceName hashtreeFile verifyImage tempMount s result s') :
    s'.Consistent := by
  cases result with
  | error e =>
    obtain ⟨t, left, forgets, -, rfl⟩ := outcome
    have kept : t.Consistent := forgets.consistent consistent
    exact kept
  | ok data =>
    obtain ⟨-, -, ⟨_, _, -, -, mounted⟩, -⟩ := outcome
    have start : (s.setDirectory mountPoint (some [])).Consistent := consistent
    exact mounted.consistent start

/-- An image is mounted with all that belongs to it, or nothing of it is left. -/
theorem wp_mountPackageImpl_outcome (consistent : s.Consistent) :
    wp (imageKernel useLoopConfigure) Anything
      (ImageMount.mountPackageImpl env apex mountPoint deviceName hashtreeFile verifyImage
        reuseDevice tempMount)
      (MountOutcome env apex mountPoint deviceName hashtreeFile verifyImage tempMount s) s := by
  have unchanged (e : String) :
      MountOutcome env apex mountPoint deviceName hashtreeFile verifyImage tempMount s (.error e) s :=
    ⟨s, _, .inl rfl, rfl, (BlockLayer.setDirectory_eq_self rfl).symm⟩
  have mounts (names : List String) (isDirectory : (s.directories mountPoint).getD [] = names) :
      wp (imageKernel useLoopConfigure) Anything
        ((ImageMount.mountImage env apex mountPoint deviceName hashtreeFile verifyImage reuseDevice
          tempMount).onError (imageCall (.rmdir mountPoint)))
        (MountOutcome env apex mountPoint deviceName hashtreeFile verifyImage tempMount s)
        (s.setDirectory mountPoint (some names)) := by
    rw [wp_onError]
    refine wp_mono (wp_mountImage consistent) ?_
    rintro (e | data) s₁ mounted
    · obtain ⟨t, forgets, rfl⟩ := Forgets.exists_setDirectory mounted
      refine wp_mono wp_rmdir ?_
      rintro _ _ ⟨left, same, rfl⟩
      exact ⟨t, left, forgets, same.trans isDirectory.symm, rfl⟩
    · obtain ⟨present, notMounted, image, isData⟩ := mounted
      have isEmpty : some names = some [] := by simpa [BlockLayer.setDirectory] using present
      obtain rfl := Option.some.inj isEmpty
      exact ⟨isDirectory, notMounted, image, isData⟩
  rw [ImageMount.mountPackageImpl]
  split
  · exact unchanged _
  · rw [wp_bind, wp_mapError]
    refine wp_imageCall (fun reply s₁ found => ?_) fun _ e => unchanged _
    obtain ⟨rfl, rfl⟩ := found
    simp only [Except.mapError]
    cases exists' : s₁.directories mountPoint with
    | some names =>
      have start := mounts names (by rw [exists']; rfl)
      rw [BlockLayer.setDirectory_eq_self exists'] at start
      exact start
    | none =>
      have start := mounts [] (by rw [exists']; rfl)
      rw [if_pos (by simp), wp_bind, afterText, wp_mapError]
      refine wp_imageCall (fun reply s₂ made => ?_) fun _ e => unchanged _
      simp only [ImageCall.Answers, exists', Option.isSome_none, Bool.false_eq_true, if_false] at made
      obtain ⟨rfl, rfl⟩ := made
      exact start

end Mounting

/-- The block devices after calls of `MountPackageImpl` one after another. -/
inductive MountsImages (useLoopConfigure : Bool) : BlockLayer → Prop
  | start {s : BlockLayer} (consistent : s.Consistent) : MountsImages useLoopConfigure s
  | call {s s' : BlockLayer} {env : ImageEnvironment} {apex : ApexFile}
      {mountPoint deviceName : String} {hashtreeFile : FilePath}
      {verifyImage reuseDevice tempMount : Bool} {result : Except String MountedApexData}
      (before : MountsImages useLoopConfigure s)
      (run : Runs (imageKernel useLoopConfigure) (ImageMount.mountPackageImpl env apex mountPoint
        deviceName hashtreeFile verifyImage reuseDevice tempMount) s result s') :
      MountsImages useLoopConfigure s'

theorem MountsImages.consistent (reached : MountsImages useLoopConfigure s) : s.Consistent := by
  induction reached with
  | start consistent => exact consistent
  | call _ run ih => exact (wp_runs (wp_mountPackageImpl_outcome ih) run).consistent ih

/-- At any call of a history an image is mounted with all that belongs to it, or nothing of it is
left. -/
theorem mountPackageImpl_all_or_nothing {env : ImageEnvironment} {apex : ApexFile}
    {mountPoint deviceName : String} {hashtreeFile : FilePath} {verifyImage reuseDevice tempMount : Bool}
    {result : Except String MountedApexData} {s' : BlockLayer}
    (reached : MountsImages useLoopConfigure s)
    (run : Runs (imageKernel useLoopConfigure) (ImageMount.mountPackageImpl env apex mountPoint
      deviceName hashtreeFile verifyImage reuseDevice tempMount) s result s') :
    MountOutcome env apex mountPoint deviceName hashtreeFile verifyImage tempMount s result s' :=
  wp_runs (wp_mountPackageImpl_outcome reached.consistent) run

end Images

/-! ## An image without a hash tree -/

/-- The calls that set up a loop device where the ioctl LOOP_CONFIGURE exists. -/
def loopHandler : Handler loopCalls String BlockLayer
  | .ctlGetFree, s =>
    ((List.range 8).find? fun num => decide (s.loops num = none)).map fun num => (.ok num, s)
  | .waitForDevice num, s => some (.ok ⟨num, "/dev/block/loop" ++ toString num⟩, s)
  | .loopConfigure device target info, s => some (LoopCall.attach s device target info)
  | .loopClrFd device, s => some (LoopCall.clearFd s device)
  | .close device, s => some (.ok (), s.dropUser device.number .descriptor)
  | .openControl, s | .openTarget _ _, s => some (.ok (), s)
  | _, _ => none

/-- The calls that mount an image with this manifest. -/
def imageHandler (manifest : ApexManifest) : Handler imageCalls String BlockLayer
  | .stat dir, s => some (.ok (s.directories dir).isSome, s)
  | .mkdir dir, s =>
    if (s.directories dir).isSome then none else some (.ok (), s.setDirectory dir (some []))
  | .rmdir dir, s =>
    if s.directories dir = some [] ∧ s.mounted dir = false then
      some (.ok (), s.setDirectory dir none)
    else none
  | .readDir dir, s =>
    if s.mounted dir then none else (s.directories dir).map fun names => (.ok names, s)
  | .loop request, s => loopHandler request s
  | .createLoopDevice target imageOffset imageSize, s =>
    exec loopHandler (createLoopDevice true target imageOffset imageSize) s
  | .getState name, s => some (.ok (s.getState name), s)
  | .createDevice name table, s =>
    if s.devices name = none ∧ s.backs table then some (.ok (), s.activate name table) else none
  | .deleteDevice name _, s =>
    if s.devices name = none ∨ s.deviceInUse name then none else some (.ok (), s.discard name)
  | .mount source target _ _, s =>
    if s.readable source ∧ (s.directories target).isSome then some (.ok (), s.mount source target)
    else none
  | .umount target, s => if s.mounted target then some (.ok (), s.umount target) else none
  | .readManifest _, s => some (.ok manifest, s)
  | .configureScheduler _, s | .configureQueueDepth _ _, s | .configureReadAhead _, s
  | .prepareHashTree _ _, s | .openDevice _, s | .readDevice _ _, s => some (.ok (), s)
  | _, _ => none

theorem loopHandler_sound : loopHandler.Sound loopDriver := by
  refine Handler.Sound.withFaults fun request s reply s' computed => ?_
  cases request with
  | ctlGetFree =>
    obtain ⟨num, found, same⟩ := Option.map_eq_some_iff.mp computed
    cases same
    have free := List.find?_some found
    exact ⟨rfl, num, of_decide_eq_true free, rfl⟩
  | waitForDevice num =>
    cases computed
    exact ⟨rfl, _, List.mem_cons_self, rfl⟩
  | loopConfigure device target info => exact (Option.some.inj computed).symm
  | loopClrFd device => exact (Option.some.inj computed).symm
  | close device => cases computed; exact ⟨rfl, rfl⟩
  | openControl => cases computed; exact ⟨rfl, rfl⟩
  | openTarget target direct => cases computed; exact ⟨rfl, rfl⟩
  | _ => cases computed

theorem imageHandler_sound (manifest : ApexManifest) :
    (imageHandler manifest).Sound (imageKernel true) := by
  refine Handler.Sound.withFaults fun request s reply s' computed => ?_
  cases request with
  | stat dir => cases computed; exact ⟨rfl, rfl⟩
  | mkdir dir =>
    simp only [imageHandler] at computed
    split at computed
    · cases computed
    · rename_i absent
      cases computed
      simp [ImageCall.Answers, absent]
  | rmdir dir =>
    simp only [imageHandler] at computed
    split at computed
    · rename_i possible
      cases computed
      simp only [ImageCall.Answers, possible, and_self, if_true]
    · cases computed
  | readDir dir =>
    simp only [imageHandler] at computed
    split at computed
    · cases computed
    · rename_i notMounted
      obtain ⟨names, found, same⟩ := Option.map_eq_some_iff.mp computed
      cases same
      simp [ImageCall.Answers, notMounted, found]
  | loop request => exact loopHandler_sound computed
  | createLoopDevice target imageOffset imageSize => exact exec_runs loopHandler_sound computed
  | getState name => cases computed; exact ⟨rfl, rfl⟩
  | createDevice name table =>
    simp only [imageHandler] at computed
    split at computed
    · rename_i possible
      cases computed
      simp only [ImageCall.Answers, possible, and_self, if_true]
    · cases computed
  | deleteDevice name deferred =>
    simp only [imageHandler] at computed
    split at computed
    · cases computed
    · rename_i possible
      cases computed
      simp only [ImageCall.Answers, possible, if_false, and_self]
  | umount target =>
    simp only [imageHandler] at computed
    split at computed
    · rename_i mounted
      cases computed
      simp only [ImageCall.Answers, mounted, if_true, and_self]
    · cases computed
  | mount source target fsType noexec =>
    simp only [imageHandler] at computed
    split at computed
    · rename_i possible
      cases computed
      simp only [ImageCall.Answers, possible, and_self, if_true]
    · cases computed
  | readManifest target => cases computed; exact ⟨rfl, _, rfl⟩
  | configureScheduler name => cases computed; exact ⟨rfl, rfl⟩
  | configureQueueDepth name target => cases computed; exact ⟨rfl, rfl⟩
  | configureReadAhead source => cases computed; exact ⟨rfl, rfl⟩
  | prepareHashTree apex hashtreeFile => cases computed; exact ⟨rfl, rfl⟩
  | openDevice source => cases computed; exact ⟨rfl, rfl⟩
  | readDevice source size => cases computed; exact ⟨rfl, rfl⟩
  | _ => cases computed

/-- Every image has a size of one block, and none a hash tree. -/
def fooImages : ImageEnvironment where
  toEnvironment := .plain (.ofPackages ["foo"])
  imageOffset _ := some 4096
  imageSize _ := some 4096
  fsType _ := some "ext4"
  nocode _ := false
  verityData _ _ := .ok {
    hashBlockSize := 4096
    imageSize := 4096
    hashAlgorithm := "sha256"
    salt := "00"
    rootDigest := "00"
    dmVerityVersion := 1
    dataBlockSize := 4096
    treeOffset := 0
    treeSize := 0 }
  treeSize _ _ := rfl
  getBlockApexRootDigest _ := none
  devPath := ("/dev/block/mapper/" ++ ·)

def fooImage : ApexFile := ⟨⟨.active, "foo@2.apex"⟩, .plain "foo" 2 1⟩

def mountFoo : ImageProgram MountedApexData :=
  ImageMount.mountPackageImpl fooImages fooImage "/apex/foo@2" "foo@2" ⟨.hashTree, "foo@2"⟩ false
    false false

/-- An image with the manifest of another package is mounted and then all of it is undone; after
that the image and its hash tree are on the first two loop devices. -/
theorem mountPackageImpl_all_or_nothing_foo : ∃ e s data s',
    Runs (imageKernel true) mountFoo BlockLayer.create (.error e) s ∧
    data.loopName = "/dev/block/loop0" ∧ data.hashtreeLoopName = "/dev/block/loop1" ∧
    data.deviceName = "foo@2" ∧
    MountOutcome fooImages fooImage "/apex/foo@2" "foo@2" ⟨.hashTree, "foo@2"⟩ false false
      s (.ok data) s' := by
  let succeeds : Except String MountedApexData × BlockLayer → Bool := fun outcome =>
    outcome.1.toOption.any fun data => data.loopName = "/dev/block/loop0" ∧
      data.hashtreeLoopName = "/dev/block/loop1" ∧ data.deviceName = "foo@2"
  let fails : Except String MountedApexData × BlockLayer → Bool := fun outcome =>
    outcome.1.toOption.isNone &&
      (exec (imageHandler fooImage.manifest) mountFoo outcome.2).any succeeds
  obtain ⟨⟨first, s⟩, computed, failed⟩ := (Option.any_eq_true fails
    (exec (imageHandler (Archive.plain "bar" 2 1).manifest) mountFoo .create)).mp (by decide +kernel)
  obtain ⟨notOk, again⟩ := Bool.and_eq_true_iff.mp failed
  obtain ⟨⟨result, s'⟩, computed', succeeded⟩ := (Option.any_eq_true succeeds _).mp again
  have run := exec_runs (imageHandler_sound _) computed
  have run' := exec_runs (imageHandler_sound _) computed'
  have consistent : BlockLayer.create.Consistent := fun name used => by cases used
  cases first with
  | ok data => cases notOk
  | error e =>
    cases result with
    | error e => cases succeeded
    | ok data =>
      obtain ⟨loopName, hashtree, deviceName⟩ := of_decide_eq_true succeeded
      exact ⟨e, s, data, s', run, loopName, hashtree, deviceName,
        mountPackageImpl_all_or_nothing (.call (.start consistent) run) run'⟩

end Apexd
