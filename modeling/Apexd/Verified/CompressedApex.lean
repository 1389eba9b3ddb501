import Apexd.Model.Decompression
import Apexd.Model.Labels
import Apexd.Process.Faults
import Apexd.Verified.BootSelection

/-! # Processing a compressed APEX

Whatever fails, what `ProcessCompressedApex` returns is valid and has the right label, and a
failure leaves nothing behind.  Inside the chroot of an OTA no decompressed APEX is touched.  A
second call finds what the first one returned.
-/

namespace Apexd

open Process Storage

variable {env : BootEnvironment} {capex : ApexFile} {s : LabelledWorld} {path : FilePath}

/-- A file that can stand for the compressed APEX: it is there, it has the key, the version and
the root digest of the original, and its label is that of an active APEX. -/
structure UsableAt (env : BootEnvironment) (capex : ApexFile) (s : LabelledWorld)
    (apex : ApexFile) : Prop where
  opened : openAt s.world.fs apex.path = .ok apex
  valid : validateDecompressedApex env capex apex = .ok ()
  context : Text.startsWith (s.labels apex.path) kActiveApexSelinuxCtx = true

theorem validateDecompressedApex_eq_ok_iff {apex : ApexFile} :
    validateDecompressedApex env capex apex = .ok () ↔
      capex.archive.bundledPublicKey = apex.archive.bundledPublicKey ∧
      capex.manifest.version = apex.manifest.version ∧
      (∃ verified, env.verifyApexVerity apex.archive apex.archive.bundledPublicKey =
        .ok verified) ∧
      env.originalApexDigest capex.archive = env.rootDigest apex.archive := by
  unfold validateDecompressedApex
  by_cases key : capex.archive.bundledPublicKey = apex.archive.bundledPublicKey
  · by_cases version : capex.manifest.version = apex.manifest.version
    · rw [if_neg (not_not.mpr key), if_neg (not_not.mpr version)]
      cases env.verifyApexVerity apex.archive apex.archive.bundledPublicKey with
      | error e => simp
      | ok verified =>
        by_cases digest : env.originalApexDigest capex.archive = env.rootDigest apex.archive
        · simp [key, version, digest]
        · simp [digest]
    · rw [if_neg (not_not.mpr key), if_pos version]
      simp [version]
  · rw [if_pos key]
    simp [key]

/-! ## Calls -/

section Calls

variable {may : Call → Prop} {G : Guarantee apexd LabelledWorld}

/-- Some call may fail. -/
abbrev SomeFault (may : Call → Prop) : Prop :=
  ∃ request, may request

/-- A call that reads gives what is there, or fails. -/
theorem wp_reads {request : FsCall DirId} (quiet : ∀ request s, G request s s)
    (notListing : ∀ d, request ≠ .readDir d)
    (reads : (request.effect s.world.fs).2 = s.world.fs)
    (keeps : ∀ policy labels, relabel policy labels (.fs request) = labels)
    {Q : Except String (request.Reply Content) → LabelledWorld → Prop}
    (answers : Q (request.effect s.world.fs).1 s)
    (faults : SomeFault may → ∀ e, Q (.error e) s) :
    wp (labelled.withFaults may) G (fsCall request) Q s := by
  refine wp_withFaults (fun reply s' answer => ?_) fun mayFail e => ?_
  · obtain ⟨⟨fs', effect, world⟩, policy, labels⟩ :=
      (labelled_of_ne_getfileconPath (by simp)).mp answer
    have outcome : (reply, fs') = request.effect s.world.fs := by
      cases request with
      | readDir d => exact absurd rfl (notListing d)
      | _ => exact effect
    have replied : reply = (request.effect s.world.fs).1 := congrArg Prod.fst outcome
    have same : fs' = s.world.fs := (congrArg Prod.snd outcome).trans reads
    have sameLabels : s'.labels = s.labels := by
      rw [labels]
      cases reply with
      | ok value => exact keeps policy s.labels
      | error e => rfl
    have sameState : s' = s := by
      cases s
      cases s'
      simp_all
    rw [sameState, replied]
    exact ⟨quiet _ s, answers⟩
  · exact ⟨quiet _ s, faults ⟨_, mayFail⟩ e⟩

theorem wp_accessible_faults (quiet : ∀ request s, G request s s)
    {Q : Except String Bool → LabelledWorld → Prop}
    (post : ∀ found, found = (s.world.fs.file path).isSome ∨ SomeFault may → Q (.ok found) s) :
    wp (labelled.withFaults may) G (accessible path) Q s := by
  rw [accessible, wp_bind, wp_attempt]
  refine wp_reads quiet (by simp) rfl (fun _ _ => rfl) ?_ fun fault e => ?_
  · exact post _ (.inl rfl)
  · exact post false (.inr fault)

theorem wp_apexFile_open_faults (quiet : ∀ request s, G request s s)
    {Q : Except String ApexFile → LabelledWorld → Prop} (opens : Q (openAt s.world.fs path) s)
    (faults : SomeFault may → ∀ e, Q (.error e) s) :
    wp (labelled.withFaults may) G (ApexFile.open path) Q s := by
  rw [ApexFile.open, wp_bind, orErrno, wp_mapError]
  refine wp_reads quiet (by simp) ?_ (fun _ _ => rfl) ?_ fun fault e => faults fault _
  · simp only [FsCall.effect]
    split <;> rfl
  · rw [openAt] at opens
    simp only [FsCall.effect]
    cases found : s.world.fs.file path with
    | none =>
      rw [found] at opens
      exact opens
    | some content =>
      rw [found] at opens
      exact opens

/-- No usable file is at the path, or something fails. -/
def Unusable (may : Call → Prop) (env : BootEnvironment) (capex : ApexFile) (s : LabelledWorld)
    (path : FilePath) : Prop :=
  SomeFault may ∨ ∀ apex, apex.path = path → ¬ UsableAt env capex s apex

theorem unusable_of_absent {found : Bool}
    (accessed : found = (s.world.fs.file path).isSome ∨ SomeFault may) (absent : found = false) :
    Unusable may env capex s path := by
  refine accessed.symm.imp_right fun same apex isAt usable => ?_
  have isThere := (openAt_eq_ok_iff.mp usable.opened).1
  rw [isAt] at isThere
  rw [absent, isThere] at same
  cases same

/-- What opening and validating a file may give: a usable file, and, unless something fails, the
one at the path. -/
structure Finds (may : Call → Prop) (env : BootEnvironment) (capex : ApexFile)
    (s : LabelledWorld) (path : FilePath) (found : Option ApexFile) : Prop where
  usable : ∀ apex, found = some apex → apex.path = path ∧ UsableAt env capex s apex
  finds : ¬ SomeFault may → ∀ apex, apex.path = path → UsableAt env capex s apex →
    found = some apex

theorem Finds.unusable (finds : Finds may env capex s path none) :
    Unusable may env capex s path := by
  refine or_iff_not_imp_left.mpr fun noFault apex isAt usable => ?_
  cases finds.finds noFault apex isAt usable

theorem Finds.of_fault (fault : SomeFault may) : Finds may env capex s path none :=
  ⟨fun _ same => (nomatch same), fun none => absurd fault none⟩

theorem wp_openAndValidate (quiet : ∀ request s, G request s s)
    {Q : Except String ApexFile → LabelledWorld → Prop}
    (post : ∀ result : Except String ApexFile, Finds may env capex s path result.toOption →
      Q result s) :
    wp (labelled.withFaults may) G (openAndValidateDecompressedApex env capex path) Q s := by
  rw [openAndValidateDecompressedApex, wp_bind, wp_mapError]
  refine wp_apexFile_open_faults quiet ?_ fun fault e => post (.error _) (.of_fault fault)
  cases opened : openAt s.world.fs path with
  | error e =>
    refine post (.error _) ⟨fun _ same => (nomatch same), fun _ apex isAt usable => ?_⟩
    exact absurd (isAt ▸ usable.opened) (by simp [opened])
  | ok apex =>
    have isAt : apex.path = path := (openAt_eq_ok_iff.mp opened).2.1
    have unique {other : ApexFile} (at' : other.path = path) (usable : UsableAt env capex s other) :
        other = apex := Except.ok.inj ((at' ▸ usable.opened).symm.trans opened)
    show wp _ _ (.ofExcept (validateDecompressedApex env capex apex) >>= _) _ _
    cases valid : validateDecompressedApex env capex apex with
    | error e =>
      refine post (.error e) ⟨fun _ same => (nomatch same), fun _ other at' usable => ?_⟩
      rw [unique at' usable] at usable
      exact absurd usable.valid (by simp [valid])
    | ok _ =>
      refine wp_withFaults (fun reply s' answer => ?_) fun mayFail e => ?_
      · obtain ⟨rfl, rfl⟩ := answer
        refine ⟨quiet _ _, ?_⟩
        have exists' : (s'.world.fs.file path).isSome = true := by
          rw [(openAt_eq_ok_iff.mp opened).1]
          rfl
        rw [LabelledWorld.fileContext, if_pos exists']
        show wp _ _ (if Text.startsWith (s'.labels path) kActiveApexSelinuxCtx = true then _ else _)
          _ _
        by_cases context : Text.startsWith (s'.labels path) kActiveApexSelinuxCtx = true
        · rw [if_pos context]
          have usable : UsableAt env capex s' apex := ⟨isAt ▸ opened, valid, isAt ▸ context⟩
          refine post (.ok apex) ⟨fun _ same => Option.some.inj same ▸ ⟨isAt, usable⟩, ?_⟩
          exact fun _ other at' usable' => (congrArg some (unique at' usable')).symm
        · rw [if_neg context]
          refine post (.error _) ⟨fun _ same => (nomatch same), fun _ other at' usable => ?_⟩
          exact absurd (at' ▸ usable.context) context
      · exact ⟨quiet _ s, post (.error e) (.of_fault ⟨_, mayFail⟩)⟩

end Calls

/-! ## The procedures -/

section Procedures

/-- Where `ProcessCompressedApex` decompresses to. -/
def decompressionDest (capex : ApexFile) (isOtaChroot : Bool) : FilePath :=
  if isOtaChroot then otaApexPath capex else decompressedApexPath capex

variable {may : Call → Prop} {isOtaChroot : Bool}

/-- A file that is used is not touched. -/
theorem wp_reuseDecompressedApex
    {Q : Except String (Option ApexFile) → LabelledWorld → Prop}
    (used : ∀ apex, apex.path = decompressedApexPath capex → UsableAt env capex s apex →
      Q (.ok (some apex)) s)
    (notUsed : ∀ s', Unusable may env capex s (decompressedApexPath capex) →
      (isOtaChroot = true → s' = s) → Q (.ok none) s') :
    wp (labelled.withFaults may) Anything (reuseDecompressedApex env capex isOtaChroot) Q s := by
  rw [reuseDecompressedApex, wp_bind]
  refine wp_accessible_faults (fun _ _ => trivial) fun found accessed => ?_
  cases found with
  | false => exact notUsed s (unusable_of_absent accessed rfl) fun _ => rfl
  | true =>
    show wp _ _ ((openAndValidateDecompressedApex env capex _).attempt >>= _) _ _
    rw [wp_bind, wp_attempt]
    refine wp_openAndValidate (fun _ _ => trivial) fun result finds => ?_
    cases result with
    | ok apex =>
      obtain ⟨isAt, usable⟩ := finds.usable apex rfl
      exact used apex isAt usable
    | error e =>
      show wp _ _ (if (!isOtaChroot) = true then _ else _) _ _
      cases isOtaChroot with
      | true => exact notUsed s finds.unusable fun _ => rfl
      | false =>
        show wp _ _ (removeFileIfExists _ >>= _) _ _
        rw [wp_bind, removeFileIfExists, wp_ignore]
        exact wp_mono (wp_anything _ _) fun _ s' _ => notUsed s' finds.unusable nofun

theorem wp_reuseOtaApex {Q : Except String (Option ApexFile) → LabelledWorld → Prop}
    (used : ∀ apex s', UsableAt env capex s' apex →
      apex.path = decompressedApexPath capex ∨ isOtaChroot = true ∧ apex.path = otaApexPath capex →
      (isOtaChroot = true → apex.path = otaApexPath capex ∧ s' = s) → Q (.ok (some apex)) s')
    (notUsed : ∀ s', (isOtaChroot = true → Unusable may env capex s (otaApexPath capex)) →
      Q (.ok none) s') :
    wp (labelled.withFaults may) Anything (reuseOtaApex env capex isOtaChroot) Q s := by
  rw [reuseOtaApex, wp_bind]
  refine wp_accessible_faults (fun _ _ => trivial) fun found accessed => ?_
  cases found with
  | false => exact notUsed s fun _ => unusable_of_absent accessed rfl
  | true =>
    show wp _ _ ((openAndValidateDecompressedApex env capex _).attempt >>= _) _ _
    rw [wp_bind, wp_attempt]
    refine wp_openAndValidate (fun _ _ => trivial) fun result finds => ?_
    cases result with
    | error e =>
      show wp _ _ (if isOtaChroot = true then _ else _) _ _
      cases isOtaChroot with
      | false => exact notUsed s nofun
      | true =>
        show wp _ _ (removeFileIfExists _ >>= _) _ _
        rw [wp_bind, removeFileIfExists, wp_ignore]
        exact wp_mono (wp_anything _ _) fun _ s' _ => notUsed s' fun _ => finds.unusable
    | ok apex =>
      obtain ⟨isAt, usable⟩ := finds.usable apex rfl
      show wp _ _ (if isOtaChroot = true then _ else _) _ _
      cases isOtaChroot with
      | true => exact used apex s usable (.inr ⟨rfl, isAt⟩) fun _ => ⟨isAt, rfl⟩
      | false =>
        show wp _ _ ((rename _ _).attempt >>= _) _ _
        rw [wp_bind, wp_attempt]
        refine wp_mono (wp_anything _ _) fun renamed s₁ _ => ?_
        cases renamed with
        | error e => exact notUsed s₁ nofun
        | ok _ =>
          show wp _ _ ((openAndValidateDecompressedApex env capex _).attempt >>= _) _ _
          rw [wp_bind, wp_attempt]
          refine wp_openAndValidate (fun _ _ => trivial) fun result finds => ?_
          cases result with
          | ok again =>
            obtain ⟨isAt', usable'⟩ := finds.usable again rfl
            exact used again s₁ usable' (.inl isAt') nofun
          | error e =>
            show wp _ _ (removeFileIfExists _ >>= _) _ _
            rw [wp_bind, removeFileIfExists, wp_ignore]
            exact wp_mono (wp_anything _ _) fun _ s' _ => notUsed s' nofun

/-- What was decompressed is usable, or it is removed. -/
theorem wp_decompressAnew {dest : FilePath} (removes : ¬ may (.fs (.removeFile dest)))
    {Q : Except String ApexFile → LabelledWorld → Prop}
    (post : ∀ apex s', apex.path = dest → UsableAt env capex s' apex → Q (.ok apex) s')
    (fails : ∀ e s', s'.world.fs.file dest = none → Q (.error e) s') :
    wp (labelled.withFaults may) Anything
      ((decompressAnew env capex dest).onError (removeFileIfExists dest)) Q s := by
  have removed (e : String) (s : LabelledWorld) : wp (labelled.withFaults may) Anything
      (removeFileIfExists dest) (fun _ => Q (.error e)) s := by
    rw [removeFileIfExists, wp_ignore]
    refine wp_withFaults (fun reply s' answer => ?_) fun mayFail => absurd mayFail removes
    obtain ⟨⟨fs', effect, world⟩, -⟩ := (labelled_of_ne_getfileconPath (by simp)).mp answer
    have after : fs' = s.world.fs.remove dest := congrArg Prod.snd effect
    refine ⟨trivial, fails e s' ?_⟩
    rw [world, after, FileSystem.file_remove, Function.update_self]
  rw [wp_onError, decompressAnew, wp_bind]
  refine wp_mono (wp_anything _ _) fun decompressed s₁ _ => ?_
  cases decompressed with
  | error e => exact removed e s₁
  | ok _ =>
    show wp _ _ (restoreconPath _ >>= _) _ _
    rw [wp_bind]
    refine wp_mono (wp_anything _ _) fun restored s₂ _ => ?_
    cases restored with
    | error e => exact removed e s₂
    | ok _ =>
      show wp _ _ ((openAndValidateDecompressedApex env capex dest).mapError _ >>= _) _ _
      rw [wp_bind, wp_mapError]
      refine wp_openAndValidate (fun _ _ => trivial) fun result finds => ?_
      cases result with
      | error e => exact removed _ s₂
      | ok apex =>
        obtain ⟨isAt, usable⟩ := finds.usable apex rfl
        refine wp_withFaults (fun reply s' answer => ⟨trivial, ?_⟩) fun _ e => ⟨trivial, removed e s₂⟩
        obtain ⟨⟨rfl, world⟩, policy, labels⟩ :=
          (labelled_of_ne_getfileconPath (by simp)).mp answer
        refine post apex s' isAt ⟨?_, usable.valid, ?_⟩
        · rw [world]
          exact usable.opened
        · rw [labels]
          exact usable.context

/-- What `ProcessCompressedApex` returns, and what it leaves where it fails. -/
theorem wp_processCompressedApex
    (removes : ∀ path, path.dir = .decompression → ¬ may (.fs (.removeFile path)))
    {Q : Except String ApexFile → LabelledWorld → Prop}
    (decompressed : ∀ apex, apex.path = decompressedApexPath capex → UsableAt env capex s apex →
      Q (.ok apex) s)
    (reused : Unusable may env capex s (decompressedApexPath capex) → isOtaChroot = true →
      ∀ apex, apex.path = otaApexPath capex → UsableAt env capex s apex → Q (.ok apex) s)
    (made : Unusable may env capex s (decompressedApexPath capex) →
      (isOtaChroot = true → Unusable may env capex s (otaApexPath capex)) →
      ∀ apex s', UsableAt env capex s' apex → apex.path = decompressionDest capex isOtaChroot →
        Q (.ok apex) s')
    (fails : Unusable may env capex s (decompressedApexPath capex) →
      (isOtaChroot = true → Unusable may env capex s (otaApexPath capex)) →
      ∀ e s', s'.world.fs.file (decompressionDest capex isOtaChroot) = none → Q (.error e) s') :
    wp (labelled.withFaults may) Anything (processCompressedApex env isOtaChroot capex) Q s := by
  rw [processCompressedApex, wp_bind]
  refine wp_reuseDecompressedApex decompressed fun s₁ unusable same => ?_
  show wp _ _ (reuseOtaApex env capex isOtaChroot >>= _) _ _
  rw [wp_bind]
  refine wp_reuseOtaApex (fun apex s' usable isAt ota => ?_) fun s₂ notOta => ?_
  · cases isOtaChroot with
    | false => exact made unusable nofun apex s' usable (isAt.resolve_right nofun)
    | true =>
      obtain ⟨atOta, rfl⟩ := ota rfl
      cases same rfl
      exact reused unusable rfl apex atOta usable
  · have noOta (inOta : isOtaChroot = true) : Unusable may env capex s (otaApexPath capex) :=
      same inOta ▸ notOta inOta
    show wp _ _ ((deleteDirContent kOtaReservedDir).ignore >>= _) _ _
    rw [wp_bind, wp_ignore]
    refine wp_mono (wp_anything _ _) fun _ s₃ _ => ?_
    have inDecompression : (decompressionDest capex isOtaChroot).dir = .decompression := by
      cases isOtaChroot <;> rfl
    exact wp_decompressAnew (removes _ inDecompression)
      (fun apex s' isAt usable => made unusable noOta apex s' usable isAt)
      (fails unusable noOta)

end Procedures

/-! ## The calls that are made -/

inductive ProcessCall (capex : ApexFile) (isOtaChroot : Bool) : Call → Prop where
  | access (path : FilePath) : ProcessCall capex isOtaChroot (.fs (.access path))
  | read (path : FilePath) : ProcessCall capex isOtaChroot (.fs (.read path))
  | context (path : FilePath) : ProcessCall capex isOtaChroot (.outside (.getfileconPath path))
  | listReserved : ProcessCall capex isOtaChroot (.fs (.readDir kOtaReservedDir))
  | removeReserved (name : String) :
    ProcessCall capex isOtaChroot (.fs (.removeFile ⟨kOtaReservedDir, name⟩))
  | removeOta : ProcessCall capex isOtaChroot (.fs (.removeFile (otaApexPath capex)))
  | removeDecompressed (outside : isOtaChroot = false) :
    ProcessCall capex isOtaChroot (.fs (.removeFile (decompressedApexPath capex)))
  | rename (outside : isOtaChroot = false) :
    ProcessCall capex isOtaChroot (.fs (.rename (otaApexPath capex) (decompressedApexPath capex)))
  | create (content : Content) :
    ProcessCall capex isOtaChroot (.createFile (decompressionDest capex isOtaChroot) content)
  | restorecon :
    ProcessCall capex isOtaChroot (.restorecon (.file (decompressionDest capex isOtaChroot)))
  | markChanged (package : String) : ProcessCall capex isOtaChroot (.markChanged package)

section Calls

variable {isOtaChroot : Bool}

theorem within_accessible (path : FilePath) :
    (accessible path).Within (ProcessCall capex isOtaChroot) :=
  (Program.Within.perform (.access path)).attempt.bind fun found => by
    cases found <;> trivial

theorem within_openAndValidate (path : FilePath) :
    (openAndValidateDecompressedApex env capex path).Within (ProcessCall capex isOtaChroot) := by
  have opens : (ApexFile.open path).Within (ProcessCall capex isOtaChroot) :=
    ((Program.Within.perform (.read path)).mapError _).bind fun _ => Program.within_ofExcept _
  refine (opens.mapError _).bind fun apex => (Program.within_ofExcept _).bind fun _ => ?_
  refine Program.Within.bind (Program.Within.perform (.context path)) fun ctx => ?_
  split <;> trivial

theorem within_reuseDecompressedApex :
    (reuseDecompressedApex env capex isOtaChroot).Within (ProcessCall capex isOtaChroot) := by
  refine (within_accessible _).bind fun found => ?_
  cases found with
  | false => trivial
  | true =>
    refine (within_openAndValidate _).attempt.bind fun result => ?_
    cases result with
    | ok apex => trivial
    | error e =>
      cases isOtaChroot with
      | true => trivial
      | false =>
        exact (Program.Within.perform (.removeDecompressed rfl)).ignore.bind fun _ => trivial

theorem within_reuseOtaApex :
    (reuseOtaApex env capex isOtaChroot).Within (ProcessCall capex isOtaChroot) := by
  refine (within_accessible _).bind fun found => ?_
  cases found with
  | false => trivial
  | true =>
    refine (within_openAndValidate _).attempt.bind fun result => ?_
    cases isOtaChroot with
    | true =>
      cases result with
      | ok apex => trivial
      | error e => exact (Program.Within.perform .removeOta).ignore.bind fun _ => trivial
    | false =>
      cases result with
      | error e => trivial
      | ok apex =>
        refine (Program.Within.perform (.rename rfl)).attempt.bind fun renamed => ?_
        cases renamed with
        | error e => trivial
        | ok _ =>
          refine (within_openAndValidate _).attempt.bind fun again => ?_
          cases again with
          | ok apex => trivial
          | error e =>
            exact (Program.Within.perform (.removeDecompressed rfl)).ignore.bind fun _ => trivial

theorem within_decompressAnew :
    (decompressAnew env capex (decompressionDest capex isOtaChroot)).Within
      (ProcessCall capex isOtaChroot) := by
  have decompresses : (capex.decompress env (decompressionDest capex isOtaChroot)).Within
      (ProcessCall capex isOtaChroot) := by
    unfold ApexFile.decompress
    split
    · trivial
    · refine ((Program.Within.perform (.read capex.path)).mapError _).bind fun content => ?_
      refine (Program.within_ofExcept _).bind fun original => ?_
      exact (Program.Within.perform (.create original)).mapError _
  refine (decompresses.mapError _).bind fun _ => ?_
  refine ((Program.Within.perform .restorecon).mapError _).bind fun _ => ?_
  refine ((within_openAndValidate _).mapError _).bind fun apex => ?_
  exact Program.Within.bind (Program.Within.perform (.markChanged _)) fun _ => trivial

theorem within_processCompressedApex :
    (processCompressedApex env isOtaChroot capex).Within (ProcessCall capex isOtaChroot) := by
  refine within_reuseDecompressedApex.bind fun found => ?_
  cases found with
  | some apex => trivial
  | none =>
    refine within_reuseOtaApex.bind fun found => ?_
    cases found with
    | some apex => trivial
    | none =>
      have clean : (deleteDirContent kOtaReservedDir).Within (ProcessCall capex isOtaChroot) := by
        refine ((Program.Within.perform .listReserved).mapError _).bind fun names => ?_
        exact Program.Within.forM fun name _ =>
          (Program.Within.perform (.removeReserved name)).mapError _
      refine clean.ignore.bind fun _ => within_decompressAnew.onError ?_
      refine (Program.Within.ignore ?_)
      cases isOtaChroot with
      | true => exact Program.Within.perform .removeOta
      | false => exact Program.Within.perform (.removeDecompressed rfl)

/-- Every call of `ProcessCompressedApex` is answered. -/
theorem answered_of_processCall {request : Call} (call : ProcessCall capex isOtaChroot request)
    (s : LabelledWorld) : ∃ reply s', labelled request s reply s' := by
  by_cases isContext : ∃ path, request = .outside (.getfileconPath path)
  · obtain ⟨path, rfl⟩ := isContext
    exact ⟨_, s, rfl, rfl⟩
  · have always : AlwaysAnswered request := by cases call <;> trivial
    obtain ⟨reply, w', answer⟩ := answered_of_always request always s.world
    refine ⟨reply, ⟨w', labelsAfter s.labels s.labels request reply⟩, ?_⟩
    exact (labelled_of_ne_getfileconPath fun path is => isContext ⟨path, is⟩).mpr
      ⟨answer, s.labels, rfl⟩

end Calls

/-! ## Inside the chroot of an OTA -/

def IsDecompressedApex (path : FilePath) : Prop :=
  path.dir = .decompression ∧ Text.endsWith path.name kDecompressedApexPackageSuffix = true

theorem isDecompressedApex_decompressedApexPath (capex : ApexFile) :
    IsDecompressedApex (decompressedApexPath capex) :=
  ⟨rfl, Text.endsWith_append _ _⟩

theorem not_isDecompressedApex_otaApexPath (capex : ApexFile) :
    ¬ IsDecompressedApex (otaApexPath capex) := by
  rintro ⟨-, decompressed⟩
  have ota := Text.endsWith_append (getPackageId capex.manifest) kOtaApexPackageSuffix
  have shorter := List.suffix_of_suffix_length_le (List.isSuffixOf_iff_suffix.mp ota)
    (List.isSuffixOf_iff_suffix.mp decompressed) (by decide)
  exact absurd shorter (by decide)

/-- No decompressed APEX was created, modified or removed. -/
def SameDecompressed (s s' : LabelledWorld) : Prop :=
  ∀ path, IsDecompressedApex path →
    s'.world.fs.file path = s.world.fs.file path ∧ s'.labels path = s.labels path

namespace SameDecompressed

theorem refl (s : LabelledWorld) : SameDecompressed s s :=
  fun _ _ => ⟨rfl, rfl⟩

theorem trans {s s' s'' : LabelledWorld} (first : SameDecompressed s s')
    (second : SameDecompressed s' s'') : SameDecompressed s s'' :=
  fun path is => ⟨(second path is).1.trans (first path is).1,
    (second path is).2.trans (first path is).2⟩

theorem usableAt {s s' : LabelledWorld} {apex : ApexFile} (same : SameDecompressed s s')
    (isAt : IsDecompressedApex apex.path) :
    UsableAt env capex s' apex ↔ UsableAt env capex s apex := by
  obtain ⟨file, label⟩ := same apex.path isAt
  constructor
  · rintro ⟨opened, valid, context⟩
    exact ⟨by rwa [openAt, file] at opened, valid, by rwa [label] at context⟩
  · rintro ⟨opened, valid, context⟩
    exact ⟨by rwa [openAt, file], valid, by rwa [label]⟩

end SameDecompressed

/-- A call that leaves the directory alone and the labels as they are. -/
theorem sameDecompressed_of_frame {request : FsCall DirId} {s s' : LabelledWorld}
    {reply : Except String (request.Reply Content)} {fs' : FileSystem DirId Content}
    (unchanged : request.changes .decompression = false)
    (answer : request.Answers s.world.fs reply fs') (world : s'.world = { s.world with fs := fs' })
    (labels : s'.labels = s.labels) : SameDecompressed s s' := by
  intro path isDecompressed
  refine ⟨?_, congrFun labels path⟩
  have dir : fs'.dir path.dir = s.world.fs.dir path.dir := by
    rw [isDecompressed.1]
    exact answer.frame unchanged
  rw [world]
  exact congrFun (FileSystem.view_of_dir_eq dir) path.name

theorem sameDecompressed_of_call {may : Call → Prop} {request : Call}
    (call : ProcessCall capex true request) {s s' : LabelledWorld}
    {reply : Except String (apexd.Reply request)}
    (answer : labelled.withFaults may request s reply s') : SameDecompressed s s' := by
  rcases answer with answer | ⟨-, -, rfl⟩
  · have notOta {path : FilePath} (isDecompressed : IsDecompressedApex path) :
        path ≠ otaApexPath capex := fun same =>
      not_isDecompressedApex_otaApexPath capex (same ▸ isDecompressed)
    by_cases isContext : ∃ path, request = .outside (.getfileconPath path)
    · obtain ⟨path, rfl⟩ := isContext
      obtain ⟨-, rfl⟩ := answer
      exact .refl _
    · obtain ⟨answer, policy, labels⟩ :=
        (labelled_of_ne_getfileconPath fun path is => isContext ⟨path, is⟩).mp answer
      have sameLabels (same : relabel policy s.labels request = s.labels) :
          s'.labels = s.labels := by
        rw [labels]
        cases reply with
        | ok value => exact same
        | error e => rfl
      have notRelabelled {path : FilePath} (isDecompressed : IsDecompressedApex path)
          (update : relabel policy s.labels request = Function.update s.labels (otaApexPath capex)
            (policy (otaApexPath capex))) : s'.labels path = s.labels path := by
        rw [labels]
        cases reply with
        | ok value =>
          rw [labelsAfter, update, Function.update_of_ne (notOta isDecompressed)]
        | error e => rfl
      cases call with
      | access path | read path | listReserved | removeReserved name =>
        obtain ⟨fs', effect, world⟩ := answer
        exact sameDecompressed_of_frame rfl effect world (sameLabels rfl)
      | context path => exact absurd ⟨path, rfl⟩ isContext
      | removeOta =>
        obtain ⟨fs', effect, world⟩ := answer
        have after : fs' = s.world.fs.remove (otaApexPath capex) := congrArg Prod.snd effect
        intro path isDecompressed
        refine ⟨?_, congrFun (sameLabels rfl) path⟩
        rw [world, after, FileSystem.file_remove, Function.update_of_ne (notOta isDecompressed)]
      | removeDecompressed outside | rename outside => cases outside
      | create content =>
        intro path isDecompressed
        refine ⟨?_, notRelabelled isDecompressed rfl⟩
        have world : s'.world = (s.world.createFile (otaApexPath capex) content).2 :=
          congrArg Prod.snd answer
        rw [world, World.createFile]
        split
        · rfl
        · split
          · rename_i exists'
            show (s.world.fs.write _ content).file path = _
            rw [FileSystem.file_write _ _ exists', Function.update_of_ne (notOta isDecompressed)]
          · rfl
      | restorecon =>
        intro path isDecompressed
        exact ⟨by rw [answer.2], notRelabelled isDecompressed rfl⟩
      | markChanged package =>
        intro path isDecompressed
        exact ⟨by rw [answer.2], congrFun (sameLabels rfl) path⟩
  · exact .refl _

/-! ## The claims of a call -/

/-- What may fail: everything but the removal of a file that was not good enough. -/
def InternalFailure : Call → Prop
  | .fs (.removeFile path) => path.dir ≠ .decompression
  | .markChanged _ | .fatal => False
  | _ => True

theorem UsableAt.unique {first second : ApexFile} (usable : UsableAt env capex s first)
    (usable' : UsableAt env capex s second) (same : first.path = second.path) : first = second :=
  Except.ok.inj ((same ▸ usable.opened).symm.trans usable'.opened)

section Runs

variable {isOtaChroot : Bool} {s' : LabelledWorld} {apex : ApexFile}

/-- Without failures a file that can be reused is, the decompressed one first. -/
theorem processCompressedApex_reuses {result : Except String ApexFile}
    (run : Runs labelled (processCompressedApex env isOtaChroot capex) s result s')
    (usable : UsableAt env capex s apex)
    (isAt : apex.path = decompressedApexPath capex ∨ isOtaChroot = true ∧
      apex.path = otaApexPath capex ∧ ∀ other, other.path = decompressedApexPath capex →
        ¬ UsableAt env capex s other) : result = .ok apex ∧ s' = s := by
  have noFault : ¬ SomeFault fun _ => False := fun ⟨_, fault⟩ => fault
  suffices wp (labelled.withFaults fun _ => False) Anything
      (processCompressedApex env isOtaChroot capex)
      (fun result s' => result = .ok apex ∧ s' = s) s by
    rw [Semantics.withFaults_false] at this
    exact wp_runs this run
  have contradicts {P : Prop} (notDecompressed : Unusable (fun _ => False) env capex s
        (decompressedApexPath capex))
      (notOta : isOtaChroot = true → Unusable (fun _ => False) env capex s (otaApexPath capex)) :
      P := by
    rcases isAt with decompressed | ⟨inOta, ota, -⟩
    · exact absurd usable (notDecompressed.resolve_left noFault apex decompressed)
    · exact absurd usable ((notOta inOta).resolve_left noFault apex ota)
  refine wp_processCompressedApex (fun _ _ => id) ?_ ?_ ?_ ?_
  · intro other at' usable'
    rcases isAt with decompressed | ⟨-, -, none⟩
    · exact ⟨congrArg _ (usable'.unique usable (at'.trans decompressed.symm)), rfl⟩
    · exact absurd usable' (none other at')
  · intro notDecompressed inOta other at' usable'
    rcases isAt with decompressed | ⟨-, ota, -⟩
    · exact absurd usable (notDecompressed.resolve_left noFault apex decompressed)
    · exact ⟨congrArg _ (usable'.unique usable (at'.trans ota.symm)), rfl⟩
  · exact fun notDecompressed notOta _ _ _ _ => contradicts notDecompressed notOta
  · exact fun notDecompressed notOta _ _ _ => contradicts notDecompressed notOta

/-- Inside the chroot of an OTA no moment of a call finds a decompressed APEX changed. -/
theorem sameDecompressed_of_reaches {may : Call → Prop}
    (reaches : Reaches (labelled.withFaults may) (processCompressedApex env true capex) s s') :
    SameDecompressed s s' := by
  have respects : wp (labelled.withFaults may) (fun _ => SameDecompressed)
      (processCompressedApex env true capex) (fun _ _ => True) s :=
    wp_of_within within_processCompressedApex
      (fun _ call _ _ _ answer => sameDecompressed_of_call call answer) s
  have steps := wp_reaches respects reaches
  clear reaches
  induction steps with
  | refl => exact .refl s
  | tail _ change ih =>
    obtain ⟨_, same⟩ := change
    exact ih.trans same

end Runs

/-- What `ProcessCompressedApex` returns stands for the compressed APEX whatever failed, a failure
leaves no file at the destination, and inside the chroot of an OTA no decompressed APEX changes.
A second call without failures changes nothing and returns the same file, or the decompressed
one that a failure kept the first call from using. -/
theorem processCompressedApex_safe (env : BootEnvironment) (capex : ApexFile) (isOtaChroot : Bool)
    (s : LabelledWorld) :
    (∀ apex s', Runs (labelled.withFaults InternalFailure)
        (processCompressedApex env isOtaChroot capex) s (.ok apex) s' →
      UsableAt env capex s' apex ∧
      (capex.archive.bundledPublicKey = apex.archive.bundledPublicKey ∧
        capex.manifest.version = apex.manifest.version ∧
        env.originalApexDigest capex.archive = env.rootDigest apex.archive) ∧
      (apex.path = decompressedApexPath capex ∨
        isOtaChroot = true ∧ apex.path = otaApexPath capex) ∧
      (∃ again s'', Runs labelled (processCompressedApex env isOtaChroot capex) s' again s'') ∧
      ∀ again s'', Runs labelled (processCompressedApex env isOtaChroot capex) s' again s'' →
        s'' = s' ∧
        (again = .ok apex ∨ isOtaChroot = true ∧ apex.path = otaApexPath capex ∧
          ∃ kept, again = .ok kept ∧ kept.path = decompressedApexPath capex ∧
            UsableAt env capex s kept ∧ UsableAt env capex s' kept) ∧
        (Runs labelled (processCompressedApex env isOtaChroot capex) s (.ok apex) s' →
          again = .ok apex)) ∧
    (∀ e s', Runs (labelled.withFaults InternalFailure)
        (processCompressedApex env isOtaChroot capex) s (.error e) s' →
      s'.world.fs.file (decompressionDest capex isOtaChroot) = none) ∧
    (isOtaChroot = true → ∀ s', Reaches (labelled.withFaults InternalFailure)
        (processCompressedApex env isOtaChroot capex) s s' → SameDecompressed s s') := by
  have removes (path : FilePath) (inside : path.dir = .decompression) :
      ¬ InternalFailure (.fs (.removeFile path)) := not_not.mpr inside
  have atDest {apex : ApexFile} (isAt : apex.path = decompressionDest capex isOtaChroot) :
      apex.path = decompressedApexPath capex ∨
        isOtaChroot = true ∧ apex.path = otaApexPath capex := by
    cases isOtaChroot with
    | true => exact .inr ⟨rfl, isAt⟩
    | false => exact .inl isAt
  refine ⟨fun apex s' run => ?_, fun e s' run => ?_, ?_⟩
  · have returned : wp (labelled.withFaults InternalFailure) Anything
        (processCompressedApex env isOtaChroot capex) (fun result s' => ∀ apex, result = .ok apex →
          UsableAt env capex s' apex ∧ (apex.path = decompressedApexPath capex ∨
            isOtaChroot = true ∧ apex.path = otaApexPath capex)) s := by
      refine wp_processCompressedApex removes ?_ ?_ ?_ ?_
      · rintro found isAt usable _ ⟨⟩
        exact ⟨usable, .inl isAt⟩
      · rintro - inOta found isAt usable _ ⟨⟩
        exact ⟨usable, .inr ⟨inOta, isAt⟩⟩
      · rintro - - found s' usable isAt _ ⟨⟩
        exact ⟨usable, atDest isAt⟩
      · exact fun _ _ _ _ _ _ failed => nomatch failed
    obtain ⟨usable, isAt⟩ := wp_runs returned run apex rfl
    obtain ⟨key, version, -, digest⟩ := validateDecompressedApex_eq_ok_iff.mp usable.valid
    refine ⟨usable, ⟨key, version, digest⟩, isAt, ?_, fun again s'' second => ?_⟩
    · exact within_processCompressedApex.exists_runs
        (fun request call => answered_of_processCall call) s'
    · by_cases kept : ∃ kept, kept.path = decompressedApexPath capex ∧ UsableAt env capex s' kept
      · obtain ⟨kept, atKept, usableKept⟩ := kept
        obtain ⟨rfl, rfl⟩ := processCompressedApex_reuses second usableKept (.inl atKept)
        rcases isAt with decompressed | ⟨rfl, ota⟩
        · have same := usableKept.unique usable (atKept.trans decompressed.symm)
          exact ⟨rfl, .inl (congrArg _ same), fun _ => congrArg _ same⟩
        · -- the first call did not touch it, so it was there before
          have usableBefore : UsableAt env capex s kept :=
            ((sameDecompressed_of_reaches run.reaches).usableAt
              (atKept ▸ isDecompressedApex_decompressedApexPath capex)).mp usableKept
          refine ⟨rfl, .inr ⟨rfl, ota, kept, rfl, atKept, usableBefore, usableKept⟩, fun first => ?_⟩
          exact (processCompressedApex_reuses first usableBefore (.inl atKept)).1.symm
      · have none (other : ApexFile) (at' : other.path = decompressedApexPath capex) :
            ¬ UsableAt env capex s' other := fun usable' => kept ⟨other, at', usable'⟩
        obtain ⟨rfl, rfl⟩ := processCompressedApex_reuses second usable
          (isAt.imp_right fun ota => ⟨ota.1, ota.2, none⟩)
        exact ⟨rfl, .inl rfl, fun _ => rfl⟩
  · have left : wp (labelled.withFaults InternalFailure) Anything
        (processCompressedApex env isOtaChroot capex) (fun result s' => ∀ e, result = .error e →
          s'.world.fs.file (decompressionDest capex isOtaChroot) = none) s := by
      refine wp_processCompressedApex removes ?_ ?_ ?_ ?_
      · exact fun _ _ _ _ => nofun
      · exact fun _ _ _ _ _ _ => nofun
      · exact fun _ _ _ _ _ _ _ => nofun
      · exact fun _ _ _ _ absent _ _ => absent
    exact wp_runs left run e rfl
  · rintro rfl s' reaches
    exact sameDecompressed_of_reaches reaches

/-- The compressed APEX that `bootWithFoo` can decompress. -/
def compressedFoo : ApexFile :=
  ⟨⟨.other "/system/apex", "foo.capex"⟩, { Archive.plain "foo" 1 1 with isCompressed := true }⟩

/-- Both copies of it are there and have the right label. -/
def bothCopies : LabelledWorld where
  world := .ofDirectories [(.decompression, [("foo@1.decompressed.apex", .apex (.plain "foo" 1 1)),
    ("foo@1.ota.apex", .apex (.plain "foo" 1 1))])]
  labels _ := "u:object_r:staging_data_file:s0"

def isAccessOf (path : FilePath) : Call → Bool
  | .fs (.access other) => other = path
  | _ => false

/-- Both calls return a file, and not the same one. -/
def otherFile : Except String ApexFile → Option (Except String ApexFile × LabelledWorld) → Bool
  | .ok apex, some (.ok again, _) => apex.path ≠ again.path
  | _, _ => false

/-- The decompressed copy cannot be accessed at the first call, which takes the other one; the
second call takes the decompressed one. -/
theorem second_call_returns_other_file : ¬ ∀ s apex s',
    Runs (labelled.withFaults InternalFailure)
      (processCompressedApex bootWithFoo true compressedFoo) s (.ok apex) s' →
    ∀ again s'', Runs labelled (processCompressedApex bootWithFoo true compressedFoo) s' again s'' →
      again = .ok apex ∧ s'' = s' := by
  intro same
  let handler := labelledHandler "u:object_r:staging_data_file:s0"
  have sound : (handler.failingOn (isAccessOf (decompressedApexPath compressedFoo)) "I/O error").Sound
      (labelled.withFaults InternalFailure) := by
    refine Handler.failingOn_sound (labelledHandler_sound _) (fun request chosen => ?_) _
    cases request with
    | fs request => cases request <;> trivial
    | _ => cases chosen
  obtain ⟨result, s', run, computed⟩ := exists_runs sound
    (processCompressedApex bootWithFoo true compressedFoo) bothCopies
    (fun result s' => otherFile result (exec handler
      (processCompressedApex bootWithFoo true compressedFoo) s')) (by decide +kernel)
  unfold otherFile at computed
  split at computed
  · rename_i apex again s'' evaluated
    have second := exec_runs (labelledHandler_sound _) evaluated
    cases (same _ _ _ run _ _ second).1
    exact absurd rfl (of_decide_eq_true computed)
  · cases computed

end Apexd
