import Apexd.Storage.Overwrite
import Apexd.Storage.Promotion
import Apexd.Verified.StagingPlan

/-! # What staging does to the directories

Staging the packages of a session is an overwrite of the active directory and a promotion of
hash tree files.  `Progress` holds between any two moments of it: whatever was done so far, the
rest of the work leads to the same result.
-/

namespace Apexd

open Process Storage

/-! ## The effect of a plan -/

/-- The last of the packages that is staged under a name. -/
def stagedAs (apexFiles : List ApexFile) (name : String) : Option Content :=
  (apexFiles.reverse.find? fun apexFile => (stageDestPath apexFile).name = name).map
    fun apexFile => .apex apexFile.archive

/-- Link the packages, and drop the other APEX files of the same packages. -/
def stagingOverwrite (apexFiles : List ApexFile) : Overwrite String Content where
  puts := stagedAs apexFiles
  drops name content := Text.endsWith name kApexPackageSuffix = true ∧
    ∃ archive, content = .apex archive ∧
      ∃ apexFile ∈ apexFiles, apexFile.manifest.name = archive.manifest.name

/-- The name of a hash tree file that was made for a new version. -/
def newHashTree (id : String) : String :=
  id ++ ".new"

def packageIds (apexFiles : List ApexFile) (id : String) : Prop :=
  ∃ apexFile ∈ apexFiles, getPackageId apexFile.manifest = id

variable {apexFile : ApexFile} {apexFiles before : List ApexFile} {name id : String}

@[simp] theorem stagedAs_nil (name : String) : stagedAs [] name = none := rfl

theorem stagedAs_append_singleton (before : List ApexFile) (apexFile : ApexFile) (name : String) :
    stagedAs (before ++ [apexFile]) name =
      if (stageDestPath apexFile).name = name then some (.apex apexFile.archive)
      else stagedAs before name := by
  rw [stagedAs, List.reverse_append, List.reverse_singleton, List.singleton_append, List.find?_cons]
  by_cases same : (stageDestPath apexFile).name = name <;> simp [same, stagedAs]

theorem stagedAs_eq_none : stagedAs apexFiles name = none ↔
    ∀ apexFile ∈ apexFiles, (stageDestPath apexFile).name ≠ name := by
  simp [stagedAs]

theorem exists_of_stagedAs {content : Content} (staged : stagedAs apexFiles name = some content) :
    ∃ apexFile ∈ apexFiles, (stageDestPath apexFile).name = name ∧
      content = .apex apexFile.archive := by
  obtain ⟨apexFile, found, rfl⟩ := Option.map_eq_some_iff.mp staged
  exact ⟨apexFile, List.mem_reverse.mp (List.mem_of_find?_eq_some found),
    by simpa using List.find?_some found, rfl⟩

theorem newHashTree_injective : Function.Injective newHashTree := by
  intro a b same
  exact String.append_left_inj _ |>.mp same

/-- A package id ends with a digit, the name of a new hash tree file does not. -/
theorem getPackageId_ne_newHashTree (manifest : ApexManifest) (id : String) :
    getPackageId manifest ≠ newHashTree id := by
  intro same
  obtain ⟨front, c, split, digit⟩ := Text.getLast_isDigit manifest.version.toInt
  have left : (getPackageId manifest).toList =
      (manifest.name.toList ++ '@' :: front) ++ [c] := by
    rw [getPackageId, toString_version, String.toList_append, split]
    simp
  have right : (newHashTree id).toList = (id.toList ++ ['.', 'n', 'e']) ++ ['w'] := by
    simp [newHashTree]
  have last : c = 'w' := by
    have := left.symm.trans ((congrArg String.toList same).trans right)
    simpa using (List.append_inj' this rfl).2
  rw [last] at digit
  exact absurd digit (by decide)

theorem packageIds_separate (apexFiles : List ApexFile) :
    Separate newHashTree (packageIds apexFiles) := by
  rintro _ j ⟨apexFile, _, rfl⟩ _
  exact getPackageId_ne_newHashTree _ _

/-! ## Progress -/

/-- Every APEX file in the active directory can be opened. -/
def World.Openable (w : World) : Prop :=
  ∀ name content, Text.endsWith name kApexPackageSuffix = true →
    w.view .active name = some content → ∃ archive, content = .apex archive ∧ archive.IsValid

/-- Whether an APEX file of the active directory can be opened. -/
def opensAs (content : Option Content) : Bool :=
  match content with
  | some (.apex archive) => archive.IsValid
  | _ => false

theorem openable_iff {w : World} : w.Openable ↔ ∀ name ∈ (w.files .active).names,
    Text.endsWith name kApexPackageSuffix = true → opensAs ((w.files .active).lookup name) = true := by
  constructor
  · intro openable name listed suffix
    obtain ⟨content, found⟩ := Option.isSome_iff_exists.mp
      (Finmap.lookup_isSome.mpr (Directory.mem_names.mp listed))
    obtain ⟨archive, rfl, valid⟩ := openable name content suffix found
    rw [found]
    exact decide_eq_true valid
  · intro opens name content suffix found
    have found' : (w.files .active).lookup name = some content := found
    have listed : name ∈ (w.files .active).names :=
      Directory.mem_names.mpr (Finmap.lookup_isSome.mp (found' ▸ rfl))
    have opened := opens name listed suffix
    rw [found'] at opened
    cases content with
    | data bytes => cases opened
    | apex archive => exact ⟨archive, rfl, of_decide_eq_true opened⟩

instance (w : World) : Decidable w.Openable :=
  decidable_of_iff _ openable_iff.symm

/-- The world `w'` is as good a start for staging the packages as `w` is. -/
structure Progress (apexFiles : List ApexFile) (w w' : World) : Prop where
  sessions : w'.sessions = w.sessions
  staged : SameStaged w.fs w'.fs
  active : (stagingOverwrite apexFiles).apply (w'.view .active) =
    (stagingOverwrite apexFiles).apply (w.view .active)
  hashTree : promote newHashTree (packageIds apexFiles) (w'.view .hashTree) =
    promote newHashTree (packageIds apexFiles) (w.view .hashTree)
  openable : w.Openable → w'.Openable

/-- Every call of the staging makes progress. -/
abbrev Staging (apexFiles : List ApexFile) : Guarantee apexd World :=
  fun _ => Progress apexFiles

variable {w w' : World}

theorem Progress.refl (apexFiles : List ApexFile) (w : World) : Progress apexFiles w w where
  sessions := rfl
  staged := .refl w.fs
  active := rfl
  hashTree := rfl
  openable := fun openable => openable

theorem Progress.trans {w'' : World} (first : Progress apexFiles w w')
    (second : Progress apexFiles w' w'') : Progress apexFiles w w'' where
  sessions := second.sessions.trans first.sessions
  staged := first.staged.trans second.staged
  active := second.active.trans first.active
  hashTree := second.hashTree.trans first.hashTree
  openable := fun openable => second.openable (first.openable openable)

theorem quiet_staging : Quiet (Staging apexFiles) :=
  fun _ w => .refl apexFiles w

theorem sameStaged_of_only {d : DirId} (only : w.OnlyIn d w')
    (notStaged : ∀ stagingId, DirId.staged stagingId ≠ d) : SameStaged w.fs w'.fs :=
  fun stagingId => only.dir (notStaged stagingId)

theorem openable_of_view (same : w'.view .active = w.view .active) (openable : w.Openable) :
    w'.Openable := by
  intro name content suffix found
  exact openable name content suffix (same ▸ found)

/-- Nothing on disk and no session changed. -/
theorem Progress.of_same (fs : w'.fs = w.fs) (sessions : w'.sessions = w.sessions) :
    Progress apexFiles w w' where
  sessions := sessions
  staged := fs ▸ .refl w.fs
  active := by rw [World.view, fs, World.view]
  hashTree := by rw [World.view, fs, World.view]
  openable := openable_of_view (by rw [World.view, fs, World.view])

/-- A change of the active directory that the overwrite makes up for. -/
theorem Progress.of_active (only : w.OnlyIn .active w')
    (active : (stagingOverwrite apexFiles).apply (w'.view .active) =
      (stagingOverwrite apexFiles).apply (w.view .active))
    (openable : w.Openable → w'.Openable) : Progress apexFiles w w' where
  sessions := only.sessions
  staged := sameStaged_of_only only (by simp)
  active := active
  hashTree := by rw [only.view (by simp)]
  openable := openable

/-- A change of the hash tree directory that the promotion makes up for. -/
theorem Progress.of_hashTree (only : w.OnlyIn .hashTree w')
    (hashTree : promote newHashTree (packageIds apexFiles) (w'.view .hashTree) =
      promote newHashTree (packageIds apexFiles) (w.view .hashTree)) : Progress apexFiles w w' where
  sessions := only.sessions
  staged := sameStaged_of_only only (by simp)
  active := by rw [only.view (by simp)]
  hashTree := hashTree
  openable := openable_of_view (only.view (by simp))

/-- The removal of an active file that the overwrite binds or drops. -/
theorem Progress.remove
    (absorbed : (stagingOverwrite apexFiles).apply (Function.update (w.view .active) name none) =
      (stagingOverwrite apexFiles).apply (w.view .active)) :
    Progress apexFiles w (w.withFs (w.fs.remove ⟨.active, name⟩)) := by
  have view : (w.withFs (w.fs.remove ⟨.active, name⟩)).view .active =
      Function.update (w.view .active) name none := w.fs.view_remove ⟨.active, name⟩
  refine .of_active (.remove w ⟨.active, name⟩) (by rw [view, absorbed]) ?_
  intro openable other content suffix found
  rw [view] at found
  by_cases same : other = name
  · subst same
    simp at found
  · rw [Function.update_of_ne same] at found
    exact openable other content suffix found

theorem stagedAs_dest_ne_none (member : apexFile ∈ apexFiles) :
    stagedAs apexFiles (stageDestPath apexFile).name ≠ none := by
  intro none
  exact stagedAs_eq_none.mp none apexFile member rfl

theorem oldHashTreeFile (apexFile : ApexFile) : getHashTreeFileName apexFile false =
    ⟨.hashTree, getPackageId apexFile.manifest⟩ := by
  simp [getHashTreeFileName]

theorem newHashTreeFile (apexFile : ApexFile) : getHashTreeFileName apexFile true =
    ⟨.hashTree, newHashTree (getPackageId apexFile.manifest)⟩ := by
  simp [getHashTreeFileName, newHashTree]

/-! ## The steps of the loop -/

/-- A package in a directory that staging does not touch. -/
structure Elsewhere (fs : FileSystem DirId Content) (apexFile : ApexFile) : Prop where
  notActive : apexFile.path.dir ≠ .active
  notHashTree : apexFile.path.dir ≠ .hashTree
  present : fs.file apexFile.path = some (.apex apexFile.archive)
  valid : apexFile.archive.IsValid

theorem Waits.elsewhere (waits : Waits w.fs apexFile) : Elsewhere w.fs apexFile := by
  obtain ⟨stagingId, staged⟩ := waits.staged
  exact ⟨by simp [staged], by simp [staged], waits.present, waits.valid⟩

theorem Elsewhere.of_dir {fs fs' : FileSystem DirId Content} (elsewhere : Elsewhere fs apexFile)
    (same : fs'.dir apexFile.path.dir = fs.dir apexFile.path.dir) : Elsewhere fs' apexFile := by
  refine ⟨elsewhere.notActive, elsewhere.notHashTree, ?_, elsewhere.valid⟩
  rw [FileSystem.file, FileSystem.files_of_dir_eq same]
  exact elsewhere.present

theorem Elsewhere.of_active (elsewhere : Elsewhere w.fs apexFile) (only : w.OnlyIn .active w') :
    Elsewhere w'.fs apexFile :=
  elsewhere.of_dir (only.dir elsewhere.notActive)

theorem Elsewhere.of_hashTree (elsewhere : Elsewhere w.fs apexFile)
    (only : w.OnlyIn .hashTree w') : Elsewhere w'.fs apexFile :=
  elsewhere.of_dir (only.dir elsewhere.notHashTree)

/-- Promoting the hash tree file of a package. -/
theorem wp_promoteHashtree (member : apexFile ∈ apexFiles)
    {Q : Except String (Option FilePath) → World → Prop}
    (post : ∀ changed w', w.OnlyIn .hashTree w' → w'.view .hashTree =
      promote newHashTree (· = getPackageId apexFile.manifest) (w.view .hashTree) →
      Q (.ok changed) w') :
    wp device (Staging apexFiles) (promoteHashtree apexFile) Q w := by
  have separate := getPackageId_ne_newHashTree apexFile.manifest (getPackageId apexFile.manifest)
  have isId : packageIds apexFiles (getPackageId apexFile.manifest) := ⟨apexFile, member, rfl⟩
  rw [promoteHashtree, newHashTreeFile, oldHashTreeFile]
  generalize getPackageId apexFile.manifest = id at *
  rw [wp_bind]
  apply wp_accessible quiet_staging
  cases found : w.fs.file ⟨.hashTree, newHashTree id⟩ with
  | none =>
    refine post none w (.refl _ w) ?_
    exact (promote_one_of_none separate found).symm
  | some content =>
    let removed := w.withFs (w.fs.remove ⟨.hashTree, newHashTree id⟩)
    let renamed := removed.withFs (removed.fs.write ⟨.hashTree, id⟩ content)
    have exists' : w.fs.has .hashTree = true := FileSystem.has_of_file found
    have only : w.OnlyIn .hashTree renamed :=
      (World.OnlyIn.remove w ⟨.hashTree, newHashTree id⟩).trans
        (.write removed ⟨.hashTree, id⟩ content)
    have view : renamed.view .hashTree = promote newHashTree (· = id) (w.view .hashTree) := by
      rw [promote_one separate found]
      have removedView := w.fs.view_remove ⟨DirId.hashTree, newHashTree id⟩
      refine (removed.fs.view_write ⟨.hashTree, id⟩ ?_ content).trans ?_
      · exact (FileSystem.has_remove w.fs _ _).trans exists'
      · exact congrArg (fun f => Function.update f id (some content)) removedView
    change wp device (Staging apexFiles) (orErrno (rename _ _) _ >>= fun _ => _) Q w
    rw [wp_bind]
    apply wp_orErrno
    refine wp_rename found exists' (.of_hashTree only ?_) (post _ renamed only view)
    refine (congrArg _ view).trans ?_
    exact promote_promote newHashTree_injective (packageIds_separate apexFiles)
      fun _ same => same ▸ isId

/-- Linking a package over what is there. -/
theorem wp_linkPackage (member : apexFile ∈ apexFiles) (elsewhere : Elsewhere w.fs apexFile)
    (exists' : w.fs.has .active = true) {Q : Except String Unit → World → Prop}
    (post : ∀ w', w.OnlyIn .active w' → w'.fs.has .active = true → w'.view .active =
      Function.update (w.view .active) (stageDestPath apexFile).name
        (some (.apex apexFile.archive)) → Q (.ok ()) w') :
    wp device (Staging apexFiles) (linkPackage apexFile) Q w := by
  have bound : stagedAs apexFiles (stageDestPath apexFile).name ≠ none :=
    stagedAs_dest_ne_none member
  -- the link itself, once the destination is free
  have linked (w₁ : World) (only : w.OnlyIn .active w₁) (exists₁ : w₁.fs.has .active = true)
      (free : w₁.fs.file (stageDestPath apexFile) = none)
      (same : Function.update (w₁.view .active) (stageDestPath apexFile).name
          (some (.apex apexFile.archive)) =
        Function.update (w.view .active) (stageDestPath apexFile).name
          (some (.apex apexFile.archive))) :
      wp device (Staging apexFiles) (orErrno (link apexFile.path (stageDestPath apexFile))
        ("Unable to link " ++ pathText apexFile.path ++ " to " ++
          pathText (stageDestPath apexFile))) Q w₁ := by
    have present := (elsewhere.of_active only).present
    have onlyIn := World.OnlyIn.write w₁ (stageDestPath apexFile) (.apex apexFile.archive)
    have view := w₁.fs.view_write (stageDestPath apexFile) exists₁
      (.apex apexFile.archive)
    apply wp_orErrno
    refine wp_link present free exists₁ (.of_active onlyIn ?_ ?_) (post _ (only.trans onlyIn) ?_ ?_)
    · exact (congrArg _ view).trans (Overwrite.apply_update_of_puts bound _)
    · intro openable name content suffix found
      have found' : Function.update (w₁.view .active) (stageDestPath apexFile).name
          (some (.apex apexFile.archive)) name = some content := (congrFun view name) ▸ found
      by_cases isDest : name = (stageDestPath apexFile).name
      · subst isDest
        rw [Function.update_self] at found'
        cases found'
        exact ⟨_, rfl, elsewhere.valid⟩
      · rw [Function.update_of_ne isDest] at found'
        exact openable name content suffix found'
    · exact (FileSystem.has_write w₁.fs _ _ _).trans exists₁
    · exact view.trans same
  rw [linkPackage]
  dsimp only
  rw [wp_bind]
  apply wp_accessible quiet_staging
  cases found : w.fs.file (stageDestPath apexFile) with
  | none => exact linked w (.refl _ w) exists' found rfl
  | some content =>
    have view := w.fs.view_remove (stageDestPath apexFile)
    change wp device (Staging apexFiles) (orErrno (unlink _) _ >>= fun _ => _) Q w
    rw [wp_bind]
    apply wp_orErrno
    refine wp_unlink found (.remove (Overwrite.apply_update_of_puts bound none)) ?_
    refine linked _ (.remove w (stageDestPath apexFile)) ?_ ?_ ?_
    · exact (FileSystem.has_remove w.fs _ _).trans exists'
    · exact (congrFun view _).trans (Function.update_self _ _ _)
    · exact (congrArg (fun f => Function.update f _ _) view).trans (Function.update_idem _ _ _)

/-- The loop after the packages of `before`. -/
structure LoopState (before : List ApexFile) (staged : Staged) (w : World) : Prop where
  files : ∀ path, path ∈ staged.stagedFiles ↔ ∃ apexFile ∈ before, stageDestPath apexFile = path
  packages : ∀ name, name ∈ staged.stagedPackages ↔
    ∃ apexFile ∈ before, apexFile.manifest.name = name
  exists' : w.fs.has .active = true
  linked : ∀ name content, stagedAs before name = some content → w.view .active name = some content
  promoted : ∀ id, packageIds before id → w.view .hashTree (newHashTree id) = none

theorem LoopState.step {staged : Staged} {changed : Option FilePath} {w₁ w₂ : World}
    (state : LoopState before staged w) (onlyHashTree : w.OnlyIn .hashTree w₁)
    (hashTree : w₁.view .hashTree =
      promote newHashTree (· = getPackageId apexFile.manifest) (w.view .hashTree))
    (onlyActive : w₁.OnlyIn .active w₂) (exists₂ : w₂.fs.has .active = true)
    (active : w₂.view .active = Function.update (w₁.view .active) (stageDestPath apexFile).name
      (some (.apex apexFile.archive))) :
    LoopState (before ++ [apexFile]) ((staged.promoted changed).linked apexFile) w₂ where
  files path := by
    simp only [Staged.linked, Staged.promoted, List.mem_insert_iff, state.files]
    grind
  packages name := by
    simp only [Staged.linked, Staged.promoted, List.mem_insert_iff, state.packages]
    grind
  exists' := exists₂
  linked name content staged := by
    rw [stagedAs_append_singleton] at staged
    rw [active, onlyHashTree.view (by simp)]
    by_cases isDest : name = (stageDestPath apexFile).name
    · subst isDest
      rw [if_pos rfl] at staged
      rw [Function.update_self, staged]
    · rw [if_neg (Ne.symm isDest)] at staged
      rw [Function.update_of_ne isDest]
      exact state.linked name content staged
  promoted id isId := by
    rw [onlyActive.view (by simp), hashTree]
    obtain ⟨other, member, rfl⟩ := isId
    by_cases same : getPackageId other.manifest = getPackageId apexFile.manifest
    · rw [same]
      exact @promote_new _ _ newHashTree (· = getPackageId apexFile.manifest) _ _ rfl
    · have earlier : other ∈ before := by
        rcases List.mem_append.mp member with earlier | last
        · exact earlier
        · exact absurd (List.mem_singleton.mp last ▸ rfl) same
      refine (promote_other ?_ ?_).trans (state.promoted _ ⟨other, earlier, rfl⟩)
      · rintro _ rfl equal
        exact same (newHashTree_injective equal)
      · intro equal
        exact getPackageId_ne_newHashTree apexFile.manifest _ equal.symm

theorem wp_stageLoop (rest : List ApexFile) {before : List ApexFile} {staged : Staged}
    (state : LoopState before staged w) (member : ∀ apexFile ∈ rest, apexFile ∈ apexFiles)
    (elsewhere : ∀ apexFile ∈ rest, Elsewhere w.fs apexFile)
    {Q : Except String Staged → World → Prop}
    (post : ∀ staged w', LoopState (before ++ rest) staged w' → Q (.ok staged) w') :
    wp device (Staging apexFiles) (stageLoop rest staged) Q w := by
  induction rest generalizing before staged w with
  | nil =>
    rw [List.append_nil] at post
    exact post staged w state
  | cons apexFile rest ih =>
    rw [stageLoop, wp_bind, wp_onError]
    refine wp_promoteHashtree (member _ (by simp)) fun changed w₁ only₁ hashTree => ?_
    have exists₁ : w₁.fs.has .active = true := by
      rw [FileSystem.has, only₁.dir (by simp)]
      exact state.exists'
    dsimp only
    rw [wp_bind, wp_onError]
    refine wp_linkPackage (member _ (by simp)) ((elsewhere _ (by simp)).of_hashTree only₁) exists₁
      fun w₂ only₂ exists₂ active => ?_
    refine ih (state.step only₁ hashTree only₂ exists₂ active)
      (fun other later => member _ (by simp [later]))
      (fun other later => ((elsewhere _ (by simp [later])).of_hashTree only₁).of_active only₂) ?_
    rw [List.append_assoc]
    exact post

/-! ## Removing what was active before -/

/-- The active directory without the files of the affected packages, except those to keep. -/
def dropPrevious (affected : List String) (keep : List FilePath) (f : String → Option Content) :
    String → Option Content := fun name => match f name with
  | some (.apex archive) =>
    if Text.endsWith name kApexPackageSuffix &&
      (archive.manifest.name ∈ affected && !(⟨.active, name⟩ ∈ keep)) then none
    else some (.apex archive)
  | other => other

/-- Removing the files that the staged packages replace. -/
theorem wp_removePreviouslyActiveApexFiles {affected : List String} {keep : List FilePath}
    (covered : ∀ name ∈ affected, ∃ apexFile ∈ apexFiles, apexFile.manifest.name = name)
    (openable : w.Openable) (exists' : w.fs.has .active = true)
    {Q : Except String Unit → World → Prop}
    (post : ∀ w', w.OnlyIn .active w' →
      w'.view .active = dropPrevious affected keep (w.view .active) → Q (.ok ()) w') :
    wp device (Staging apexFiles) (removePreviouslyActiveApexFiles affected keep) Q w := by
  rw [removePreviouslyActiveApexFiles, wp_bind]
  refine wp_findFilesBySuffix quiet_staging exists' fun listing isListing => ?_
  dsimp only
  refine wp_forM (fun before w' => w.OnlyIn .active w' ∧ ∀ name, w'.view .active name =
    if ⟨.active, name⟩ ∈ before then dropPrevious affected keep (w.view .active) name
    else w.view .active name) ⟨.refl _ w, fun name => by simp⟩ ?_ ?_
  · rintro before ⟨dir, name⟩ after w' split ⟨only, view⟩
    have member : (⟨dir, name⟩ : FilePath) ∈ withSuffix .active [kApexPackageSuffix] listing := by
      simp [split]
    obtain ⟨rfl, listed, suffix⟩ := mem_withSuffix.mp member
    have fresh : (⟨.active, name⟩ : FilePath) ∉ before := by
      intro earlier
      have nodup : (withSuffix .active [kApexPackageSuffix] listing).Nodup :=
        nodup_withSuffix isListing.nodup
      rw [split] at nodup
      exact List.disjoint_of_nodup_append nodup earlier (by simp)
    obtain ⟨content, found⟩ := isListing.mem_iff.mp listed
    obtain ⟨archive, rfl, valid⟩ := openable name content suffix found
    have foundNow : w'.view .active name = some (.apex archive) := by
      rw [view, if_neg fresh]
      exact found
    have opened : openAt w'.fs ⟨.active, name⟩ = .ok ⟨⟨.active, name⟩, archive⟩ :=
      openAt_eq_ok_iff.mpr ⟨foundNow, rfl, valid⟩
    rw [wp_bind]
    apply wp_apexFile_open quiet_staging
    rw [opened]
    have step (w'' : World) (only' : w'.OnlyIn .active w'') (changed : w''.view .active =
        Function.update (w'.view .active) name (dropPrevious affected keep (w.view .active) name)) :
        w.OnlyIn .active w'' ∧ ∀ other, w''.view .active other =
          if ⟨.active, other⟩ ∈ before ++ [(⟨.active, name⟩ : FilePath)]
          then dropPrevious affected keep (w.view .active) other else w.view .active other := by
      refine ⟨only.trans only', fun other => ?_⟩
      rw [changed]
      by_cases same : other = name
      · subst same
        simp
      · rw [Function.update_of_ne same, view]
        simp [same]
    dsimp only
    by_cases replaced : (archive.manifest.name ∈ affected &&
        !(⟨.active, name⟩ ∈ keep : Bool)) = true
    · have drops : (stagingOverwrite apexFiles).drops name (.apex archive) := by
        refine ⟨suffix, archive, rfl, covered _ ?_⟩
        simp only [Bool.and_eq_true, decide_eq_true_eq] at replaced
        exact replaced.1
      rw [ApexFile.manifest, if_pos replaced]
      apply wp_orErrno
      refine wp_unlink foundNow (.remove (Overwrite.apply_update_of_drops foundNow drops)) ?_
      refine step _ (.remove w' ⟨.active, name⟩) ?_
      have gone : dropPrevious affected keep (w.view .active) name = none := by
        have found' : w.view .active name = some (.apex archive) := found
        simp only [dropPrevious, found', suffix, replaced, Bool.and_self, if_true]
      rw [gone]
      exact w'.fs.view_remove ⟨.active, name⟩
    · rw [ApexFile.manifest, if_neg replaced]
      refine step w' (.refl _ w') ?_
      have kept : dropPrevious affected keep (w.view .active) name = some (.apex archive) := by
        have found' : w.view .active name = some (.apex archive) := found
        rw [Bool.not_eq_true] at replaced
        simp only [dropPrevious, found', replaced, Bool.and_false, Bool.false_eq_true, if_false]
      rw [kept, ← foundNow, Function.update_eq_self]
  · rintro w' ⟨only, view⟩
    refine post w' only (funext fun name => ?_)
    rw [view]
    split
    · rfl
    · rename_i notListed
      cases found : w.view .active name with
      | none => simp [dropPrevious, found]
      | some content =>
        have noSuffix : ¬ Text.endsWith name kApexPackageSuffix = true := fun suffix =>
          notListed (mem_withSuffix.mpr ⟨rfl, isListing.mem_iff.mpr ⟨content, found⟩, suffix⟩)
        cases content <;> simp [dropPrevious, found, noSuffix]

/-! ## The whole -/

/-- What was staged stays, and what it replaces is gone. -/
theorem fixes_dropPrevious {staged : Staged} (state : LoopState apexFiles staged w) :
    (stagingOverwrite apexFiles).Fixes
      (dropPrevious staged.stagedPackages staged.stagedFiles (w.view .active)) := by
  refine Overwrite.fixes_iff.mpr ⟨?_, ?_⟩
  · intro name content bound
    obtain ⟨apexFile, member, rfl, rfl⟩ := exists_of_stagedAs bound
    have kept : (⟨.active, (stageDestPath apexFile).name⟩ : FilePath) ∈ staged.stagedFiles :=
      (state.files _).mpr ⟨apexFile, member, rfl⟩
    simp [dropPrevious, state.linked _ _ bound, kept]
  · rintro name content free found ⟨suffix, archive, rfl, apexFile, member, named⟩
    have affected : archive.manifest.name ∈ staged.stagedPackages :=
      (state.packages _).mpr ⟨apexFile, member, named⟩
    have notKept : (⟨.active, name⟩ : FilePath) ∉ staged.stagedFiles := by
      intro kept
      obtain ⟨other, isStaged, dest⟩ := (state.files _).mp kept
      exact stagedAs_eq_none.mp free other isStaged (congrArg Path.name dest)
    cases before : w.view .active name with
    | none => simp [dropPrevious, before] at found
    | some content' =>
      cases content' with
      | data bytes => simp [dropPrevious, before] at found
      | apex archive' =>
        simp only [dropPrevious, before] at found
        split at found
        · cases found
        · rename_i keeps
          cases found
          simp [suffix, affected, notKept] at keeps

/-- Staging is the overwrite and the promotion of its packages. -/
theorem wp_stageFiles (elsewhere : ∀ apexFile ∈ apexFiles, Elsewhere w.fs apexFile)
    (openable : w.Openable) {Q : Except String Unit → World → Prop}
    (post : ∀ w', Progress apexFiles w w' →
      w'.view .active = (stagingOverwrite apexFiles).apply (w.view .active) →
      w'.view .hashTree = promote newHashTree (packageIds apexFiles) (w.view .hashTree) →
      Q (.ok ()) w') :
    wp device (Staging apexFiles) (stageFiles apexFiles) Q w := by
  have staged : wp device (Staging apexFiles) (stageFiles apexFiles) (fun result w' =>
      result = .ok () ∧ (stagingOverwrite apexFiles).Fixes (w'.view .active) ∧
        ∀ id, packageIds apexFiles id → w'.view .hashTree (newHashTree id) = none) w := by
    rw [stageFiles, wp_bind]
    refine wp_createDirIfNeeded quiet_staging ?_ fun w₁ only₁ exists₁ view₁ => ?_
    · intro request w₁ w₂ only₁ view₁ only₂ view₂
      refine .of_active only₂ (by rw [view₁, view₂]) ?_
      exact openable_of_view (view₂.trans view₁.symm)
    have start : LoopState [] .none w₁ :=
      ⟨by simp [Staged.none], by simp [Staged.none], exists₁, by simp, by simp [packageIds]⟩
    dsimp only
    rw [wp_bind]
    have loop : wp device (Staging apexFiles) (stageLoop apexFiles .none)
        (fun result w₂ => ∃ staged, result = .ok staged ∧ LoopState apexFiles staged w₂) w₁ :=
      wp_stageLoop apexFiles start (fun _ member => member)
        (fun apexFile member => (elsewhere apexFile member).of_active only₁)
        fun staged w₂ state => ⟨staged, rfl, state⟩
    refine wp_mono (wp_keeps World.Openable (fun _ _ _ openable progress => progress.openable openable)
      (openable_of_view view₁ openable) loop) ?_
    rintro _ w₂ ⟨⟨staged, rfl, state⟩, openable₂⟩
    refine wp_removePreviouslyActiveApexFiles (fun name => (state.packages name).mp) openable₂
      state.exists' fun w₃ only₃ view₃ => ⟨rfl, ?_, ?_⟩
    · rw [view₃]
      exact fixes_dropPrevious state
    · intro id isId
      rw [only₃.view (by simp)]
      exact state.promoted id isId
  refine wp_mono (wp_keeps (Progress apexFiles w) (fun _ _ _ => Progress.trans) (.refl apexFiles w) staged) ?_
  rintro _ w' ⟨⟨rfl, fixes, promoted⟩, progress⟩
  refine post w' progress ?_ ?_
  · exact fixes.symm.trans progress.active
  · exact (promote_of_nothingNew (packageIds_separate _) promoted).symm.trans progress.hashTree

end Apexd
