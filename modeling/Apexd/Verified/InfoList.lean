import Apexd.Model.Queries
import Apexd.Process.Termination
import Apexd.Verified.LatestMount
import Apexd.Verified.StagingPlan

/-! # The list of APEX packages

The active packages and the factory packages that are not active make up the list that is
written to `apex-info-list.xml` and handed out by the binder service.  No path is on it twice,
and every pre-installed package is on it exactly once.
-/

namespace Apexd

open Process Storage

variable {env : Environment} {w w' : World}

/-! ## Lists with a key -/

section Keyed

variable {α β : Type} [DecidableEq β] {xs : List α} {x : α} {key : α → β}

theorem filter_key_eq_singleton (nodup : (xs.map key).Nodup) (member : x ∈ xs) :
    (xs.filter fun y => key y = key x) = [x] := by
  induction xs with
  | nil => cases member
  | cons y ys ih =>
    obtain ⟨fresh, rest⟩ := List.nodup_cons.mp nodup
    rcases List.mem_cons.mp member with rfl | later
    · have none : (ys.filter fun y => key y = key x) = [] := by
        refine List.filter_eq_nil_iff.mpr fun y inRest same => fresh ?_
        rw [← of_decide_eq_true same]
        exact List.mem_map_of_mem inRest
      rw [List.filter_cons_of_pos (by simp), none]
    · have ne : key y ≠ key x := fun same => fresh (same ▸ List.mem_map_of_mem later)
      rw [List.filter_cons_of_neg (by simp [ne]), ih rest later]

theorem filter_key_eq_nil {value : β} (absent : ∀ y ∈ xs, key y ≠ value) (p : α → Bool) :
    (xs.filter fun y => key y = value && p y) = [] :=
  List.filter_eq_nil_iff.mpr fun y member => by simp [absent y member]

theorem filter_key_and (nodup : (xs.map key).Nodup) (member : x ∈ xs) (p : α → Bool) :
    (xs.filter fun y => key y = key x && p y) = if p x then [x] else [] := by
  have split : (xs.filter fun y => key y = key x && p y) =
      (xs.filter fun y => key y = key x).filter p := by
    rw [List.filter_filter]
    exact List.filter_congr fun y _ => Bool.and_comm _ _
  rw [split, filter_key_eq_singleton nodup member]
  cases holds : p x <;> simp [holds]

end Keyed

/-! ## The lists that the queries give -/

/-- The files that can be opened at some paths. -/
def openable (fs : FileSystem DirId Content) (paths : List FilePath) : List ApexFile :=
  paths.filterMap fun path => (openAt fs path).toOption

theorem computes_openAll (paths : List FilePath) :
    Computes device Anything (openAll paths) (.ok (openable w.fs paths)) w := by
  induction paths with
  | nil => exact computes_ofExcept (.ok []) w
  | cons path rest ih =>
    intro Q post
    rw [openAll, wp_bind, wp_attempt]
    apply wp_apexFile_open quiet_anything
    dsimp only
    rw [wp_bind]
    apply ih
    rw [openable, List.filterMap_cons] at post
    cases opened : openAt w.fs path with
    | ok apexFile =>
      rw [opened] at post
      exact post
    | error e =>
      rw [opened] at post
      exact post

theorem computes_forallMountedApexes (matchTempMounts : Bool) :
    Computes device Anything (databaseCall (.forallMountedApexes matchTempMounts))
      (.ok (w.database.forallMountedApexes matchTempMounts)) w := by
  rintro Q post reply w' answer
  cases answer
  exact ⟨trivial, post⟩

/-- The packages with the mounts that `GetActivePackages` opens. -/
def latestMounts (database : MountedApexDatabase) : List (String × MountedApexData) :=
  ((database.forallMountedApexes false).filter fun (_, _, latest) => latest).map
    fun (package, data, _) => (package, data)

/-- The active packages. -/
def activeFiles (w : World) : List ApexFile :=
  openable w.fs ((latestMounts w.database).map fun (_, data) => data.fullPath)

theorem computes_getActivePackages :
    Computes device Anything getActivePackages (.ok (activeFiles w)) w := by
  intro Q post
  rw [getActivePackages, wp_bind]
  apply computes_forallMountedApexes
  apply computes_openAll
  rw [activeFiles, latestMounts, List.map_map] at post
  exact post

/-- The factory packages of a repository whose files can be opened, for given active packages. -/
def factoryFiles (repository : ApexFileRepository) (active : List ApexFile) : List ApexFile :=
  let decompressed := active.filter repository.isDecompressedApex
  let decompressedPkgNames := decompressed.map fun apex => apex.manifest.name
  decompressed ++ repository.preInstalledStore.toList.filter fun apexFile =>
    !(apexFile.isCompressed && apexFile.manifest.name ∈ decompressedPkgNames)

def inactiveFiles (repository : ApexFileRepository) (active : List ApexFile) : List ApexFile :=
  withoutPathsOf active (factoryFiles repository active)

/-! ## States in which every file opens -/

/-- The paths that the database and the repository know. -/
def IsKnownPath (repository : ApexFileRepository) (database : MountedApexDatabase)
    (path : FilePath) : Prop :=
  (∃ package, ∃ data ∈ (database.mountsOf package).entries, data.fullPath = path) ∨
    ∃ name apex, repository.preInstalledStore.find name = some apex ∧ apex.path = path

/-- Every file opens, to the package it is known for. -/
structure AllOpen (repository : ApexFileRepository) (w : World) : Prop where
  mounted : ∀ package, ∀ data ∈ (w.database.mountsOf package).entries,
    ∃ apex, openAt w.fs data.fullPath = .ok apex ∧ apex.manifest.name = package
  preInstalled : ∀ name apex, repository.preInstalledStore.find name = some apex →
    openAt w.fs apex.path = .ok apex
  /-- the spelling of a path tells which file it is -/
  spelled : ∀ path path', IsKnownPath repository w.database path →
    IsKnownPath repository w.database path' → pathText path = pathText path' → path = path'

def NoTempMounts (database : MountedApexDatabase) : Prop :=
  ∀ package, ∀ data ∈ (database.mountsOf package).entries, data.isTempMount = false

/-- Every active package that was decompressed is pre-installed in compressed form. -/
def DecompressedFromCompressed (repository : ApexFileRepository) (active : List ApexFile) : Prop :=
  ∀ apex ∈ active, repository.isDecompressedApex apex = true →
    ∃ preInstalled, repository.preInstalledStore.find apex.manifest.name = some preInstalled ∧
      preInstalled.isCompressed = true

theorem openable_preInstalled {repository : ApexFileRepository} (opens : AllOpen repository w) :
    openable w.fs (repository.preInstalledStore.toList.map ApexFile.path) =
      repository.preInstalledStore.toList := by
  rw [openable, List.filterMap_map]
  have same : ∀ apex ∈ repository.preInstalledStore.toList,
      (openAt w.fs apex.path).toOption = some apex := by
    intro apex member
    rw [opens.preInstalled _ apex (ApexStore.mem_toList.mp member)]
    rfl
  exact (List.filterMap_congr same).trans List.filterMap_some

theorem computes_getFactoryPackages (opens : AllOpen env.repository w) :
    Computes device Anything (getFactoryPackages env)
      (.ok (factoryFiles env.repository (activeFiles w))) w := by
  intro Q post
  rw [getFactoryPackages, wp_bind]
  apply computes_getActivePackages
  dsimp only
  rw [wp_bind]
  apply computes_openAll
  rw [openable_preInstalled opens]
  exact post

/-! ## The active packages -/

section Active

variable {database : MountedApexDatabase} {package : String} {data : MountedApexData}

/-- Without temporary mounts the last mount of every package is opened. -/
theorem latestMounts_eq (noTemp : NoTempMounts database) : latestMounts database =
    (Directory.names database).flatMap fun package =>
      (database.mountsOf package).latest.toList.map (package, ·) := by
  rw [latestMounts, MountedApexDatabase.forallMountedApexes, List.filter_flatMap, List.map_flatMap]
  congr 1
  funext package
  have all : database.forallMountedApexesOf package false = (database.mountsOf package).reversed := by
    refine List.filter_eq_self.mpr fun visit visited => decide_eq_true ?_
    have member : visit.1 ∈ (database.mountsOf package).reversed.map Prod.fst :=
      List.mem_map_of_mem visited
    rw [MountedSet.map_fst_reversed, List.mem_reverse] at member
    exact noTemp package _ member
  rw [all, MountedSet.latest, ← List.head?_reverse, MountedSet.reversed]
  cases (database.mountsOf package).entries.reverse with
  | nil => rfl
  | cons top rest => simp [Function.comp_def]

theorem mem_latestMounts (noTemp : NoTempMounts database) :
    (package, data) ∈ latestMounts database ↔ (database.mountsOf package).latest = some data := by
  rw [latestMounts_eq noTemp, List.mem_flatMap]
  constructor
  · rintro ⟨other, _, member⟩
    obtain ⟨_, last, same⟩ := List.mem_map.mp member
    cases same
    exact Option.mem_toList.mp last
  · intro last
    refine ⟨package, ?_, List.mem_map_of_mem (Option.mem_toList.mpr last)⟩
    refine Directory.mem_names.mpr ?_
    by_contra absent
    rw [MountedApexDatabase.mountsOf, Finmap.lookup_eq_none.mpr absent] at last
    cases last

theorem nodup_latestMounts (noTemp : NoTempMounts database) :
    ((latestMounts database).map Prod.fst).Nodup := by
  rw [latestMounts_eq noTemp, List.map_flatMap]
  refine List.Sublist.nodup ?_ (Directory.nodup_names database)
  induction Directory.names database with
  | nil => exact .slnil
  | cons package rest ih =>
    rw [List.flatMap_cons]
    cases (database.mountsOf package).latest with
    | none => exact ih.cons package
    | some data => exact ih.cons_cons package

variable {repository : ApexFileRepository} {apex : ApexFile}

theorem latest_of_getLatestMountedApex (noTemp : NoTempMounts database)
    (isLatest : database.getLatestMountedApex package = some data) :
    (database.mountsOf package).latest = some data := by
  cases last : (database.mountsOf package).latest with
  | none =>
    have empty : (database.mountsOf package).entries = [] := List.getLast?_eq_none_iff.mp last
    simp [MountedApexDatabase.getLatestMountedApex, MountedApexDatabase.forallMountedApexesOf,
      MountedSet.reversed, empty] at isLatest
  | some top =>
    have member := (MountedSet.latest_eq_some_iff.mp last).1
    rw [MountedApexDatabase.getLatestMountedApex_eq last, noTemp package top member] at isLatest
    exact isLatest

theorem mem_entries_of_latest (last : (database.mountsOf package).latest = some data) :
    data ∈ (database.mountsOf package).entries :=
  (MountedSet.latest_eq_some_iff.mp last).1

/-- An active file is the one that the last mount of its package is of. -/
theorem mem_activeFiles (noTemp : NoTempMounts w.database) (opens : AllOpen repository w) :
    apex ∈ activeFiles w ↔ ∃ data,
      (w.database.mountsOf apex.manifest.name).latest = some data ∧
        openAt w.fs data.fullPath = .ok apex := by
  simp only [activeFiles, openable, List.mem_filterMap, List.mem_map, Prod.exists]
  constructor
  · rintro ⟨_, ⟨package, data, mounted, rfl⟩, opened⟩
    have last := (mem_latestMounts noTemp).mp mounted
    obtain ⟨other, openedOther, named⟩ := opens.mounted package data (mem_entries_of_latest last)
    rw [openedOther] at opened
    cases opened
    rw [named]
    exact ⟨data, last, openedOther⟩
  · rintro ⟨data, last, opened⟩
    exact ⟨_, ⟨_, data, (mem_latestMounts noTemp).mpr last, rfl⟩, by rw [opened]; rfl⟩

theorem names_activeFiles (noTemp : NoTempMounts w.database) (opens : AllOpen repository w) :
    (activeFiles w).map (fun apex => apex.manifest.name) =
      (latestMounts w.database).map Prod.fst := by
  have each : ∀ visit ∈ latestMounts w.database,
      ∃ apex, openAt w.fs visit.2.fullPath = .ok apex ∧ apex.manifest.name = visit.1 := by
    rintro ⟨package, data⟩ visited
    exact opens.mounted package data (mem_entries_of_latest ((mem_latestMounts noTemp).mp visited))
  rw [activeFiles, openable]
  generalize latestMounts w.database = visits at each ⊢
  induction visits with
  | nil => rfl
  | cons visit rest ih =>
    obtain ⟨apex, opened, named⟩ := each visit (by simp)
    have later := ih fun other member => each other (by simp [member])
    rw [List.map_cons, List.filterMap_cons, opened]
    change apex.manifest.name :: _ = visit.1 :: _
    rw [named, ← later]

end Active

/-! ## The partition -/

/-- Active packages beside the pre-installed ones of a repository. -/
structure Beside (repository : ApexFileRepository) (active : List ApexFile) : Prop where
  names : (active.map fun apex => apex.manifest.name).Nodup
  compressed : DecompressedFromCompressed repository active
  /-- files at one path are of one package -/
  named : ∀ apex apex', apex ∈ active ∨ apex ∈ repository.preInstalledStore.toList →
    apex' ∈ active ∨ apex' ∈ repository.preInstalledStore.toList →
    pathText apex.path = pathText apex'.path → apex.manifest.name = apex'.manifest.name

namespace Beside

variable {repository : ApexFileRepository} {active : List ApexFile} {package : String}
  {preInstalled : ApexFile}

/-- What was decompressed is active, so none of it is left. -/
theorem inactiveFiles_eq (repository : ApexFileRepository) (active : List ApexFile) :
    inactiveFiles repository active = withoutPathsOf active
      (repository.preInstalledStore.toList.filter fun apexFile => !(apexFile.isCompressed &&
        apexFile.manifest.name ∈ (active.filter repository.isDecompressedApex).map
          fun apex => apex.manifest.name)) := by
  have gone : withoutPathsOf active (active.filter repository.isDecompressedApex) = [] := by
    refine List.filter_eq_nil_iff.mpr fun apex member => ?_
    have same : active.any (fun activeApex => pathText apex.path = pathText activeApex.path) = true :=
      List.any_eq_true.mpr ⟨apex, (List.mem_filter.mp member).1, by simp⟩
    simp [same]
  rw [inactiveFiles, factoryFiles, withoutPathsOf, List.filter_append, ← withoutPathsOf, gone]
  rfl

/-- The pre-installed packages that are not active themselves. -/
theorem mem_inactiveFiles {apex : ApexFile} : apex ∈ inactiveFiles repository active ↔
    apex ∈ repository.preInstalledStore.toList ∧
      (∀ activeApex ∈ active, pathText apex.path ≠ pathText activeApex.path) ∧
      ∀ activeApex ∈ active, repository.isDecompressedApex activeApex = true →
        activeApex.manifest.name = apex.manifest.name → apex.isCompressed = false := by
  rw [inactiveFiles_eq, withoutPathsOf]
  simp only [List.mem_filter, List.mem_map, Bool.not_eq_eq_eq_not, Bool.not_true,
    List.any_eq_false, decide_eq_true_eq, Bool.and_eq_false_iff, decide_eq_false_iff_not]
  grind

theorem sublist_inactiveFiles (repository : ApexFileRepository) (active : List ApexFile) :
    (inactiveFiles repository active).Sublist repository.preInstalledStore.toList := by
  rw [inactiveFiles_eq]
  exact List.filter_sublist.trans List.filter_sublist

theorem nodup_names_preInstalled (store : ApexStore) :
    (store.toList.map fun apex => apex.manifest.name).Nodup := by
  refine List.Sublist.nodup ?_ (Directory.nodup_names store.files)
  rw [ApexStore.toList]
  induction Directory.names store.files with
  | nil => exact .slnil
  | cons name rest ih =>
    rw [List.filterMap_cons]
    cases found : store.find name with
    | none => exact ih.cons name
    | some apex =>
      rw [List.map_cons, ApexStore.name_of_find found]
      exact ih.cons_cons name

theorem nodup_paths (beside : Beside repository active) :
    ((active ++ inactiveFiles repository active).map fun apex => pathText apex.path).Nodup := by
  have keyed (files : List ApexFile) (nodup : (files.map fun apex => apex.manifest.name).Nodup)
      (known : ∀ apex ∈ files, apex ∈ active ∨ apex ∈ repository.preInstalledStore.toList) :
      (files.map fun apex => pathText apex.path).Nodup := by
    refine (List.Nodup.of_map _ nodup).map_on fun apex member apex' member' same => ?_
    have named := beside.named apex apex' (known apex member) (known apex' member') same
    exact List.inj_on_of_nodup_map nodup member member' named
  rw [List.map_append, List.nodup_append]
  refine ⟨keyed active beside.names fun _ => .inl, keyed _ ?_ ?_, ?_⟩
  · exact (nodup_names_preInstalled _).sublist ((sublist_inactiveFiles repository active).map _)
  · exact fun apex member => .inr (mem_inactiveFiles.mp member).1
  · intro path inActive path' inInactive same
    obtain ⟨apex, member, rfl⟩ := List.mem_map.mp inActive
    obtain ⟨apex', member', rfl⟩ := List.mem_map.mp inInactive
    exact (mem_inactiveFiles.mp member').2.1 apex member same.symm

/-- Every pre-installed package is on the list once. -/
theorem preInstalled_once (beside : Beside repository active)
    (found : repository.preInstalledStore.find package = some preInstalled) :
    ∃ apex, ((active ++ inactiveFiles repository active).filter fun apex =>
      apex.manifest.name = package && repository.isPreInstalledApex apex) = [apex] := by
  have named : preInstalled.manifest.name = package := ApexStore.name_of_find found
  subst named
  have installed : preInstalled ∈ repository.preInstalledStore.toList := ApexStore.mem_toList.mpr found
  have isPreInstalled {apex : ApexFile} (same : apex.manifest.name = preInstalled.manifest.name) :
      repository.isPreInstalledApex apex =
        (pathText preInstalled.path = pathText apex.path || repository.isDecompressedApex apex) := by
    rw [ApexFileRepository.isPreInstalledApex, same, found]
  have inactiveNames : ((inactiveFiles repository active).map fun apex => apex.manifest.name).Nodup :=
    (nodup_names_preInstalled _).sublist ((sublist_inactiveFiles repository active).map _)
  have onlyInactive {apex : ApexFile} (member : apex ∈ inactiveFiles repository active)
      (same : apex.manifest.name = preInstalled.manifest.name) : apex = preInstalled := by
    have inStore := ApexStore.mem_toList.mp (mem_inactiveFiles.mp member).1
    rw [same, found, Option.some.injEq] at inStore
    exact inStore.symm
  rw [List.filter_append]
  by_cases activeOne : ∃ apex ∈ active, apex.manifest.name = preInstalled.manifest.name ∧
      repository.isPreInstalledApex apex = true
  · obtain ⟨apex, member, same, isOne⟩ := activeOne
    -- the active file stands for the package, so the pre-installed one is left out
    have fromActive := filter_key_and beside.names member repository.isPreInstalledApex
    have fromInactive : ∀ other ∈ inactiveFiles repository active,
        other.manifest.name ≠ preInstalled.manifest.name := by
      intro other inInactive sameName
      obtain rfl := onlyInactive inInactive sameName
      obtain ⟨_, otherPath, notCompressed⟩ := mem_inactiveFiles.mp inInactive
      rw [isPreInstalled same, Bool.or_eq_true, decide_eq_true_eq] at isOne
      rcases isOne with samePath | decompressed
      · exact otherPath apex member samePath
      · obtain ⟨form, foundForm, compressed⟩ := beside.compressed apex member decompressed
        rw [same, found, Option.some.injEq] at foundForm
        rw [← foundForm, notCompressed apex member decompressed same] at compressed
        cases compressed
    rw [same, isOne] at fromActive
    exact ⟨apex, by rw [fromActive, filter_key_eq_nil fromInactive]; rfl⟩
  · have fromActive : (active.filter fun apex =>
        apex.manifest.name = preInstalled.manifest.name && repository.isPreInstalledApex apex) = [] :=
      List.filter_eq_nil_iff.mpr fun apex member isOne => by
        rw [Bool.and_eq_true, decide_eq_true_eq] at isOne
        exact activeOne ⟨apex, member, isOne⟩
    have inInactive : preInstalled ∈ inactiveFiles repository active := by
      refine mem_inactiveFiles.mpr ⟨installed, fun apex member samePath => ?_, ?_⟩
      · have same := beside.named apex preInstalled (.inl member) (.inr installed) samePath.symm
        exact activeOne ⟨apex, member, same, by simp [isPreInstalled same, samePath]⟩
      · intro apex member decompressed same
        exact absurd ⟨apex, member, same, by simp [isPreInstalled same, decompressed]⟩ activeOne
    have fromInactive := filter_key_and inactiveNames inInactive repository.isPreInstalledApex
    rw [isPreInstalled rfl, decide_eq_true rfl, Bool.true_or, if_pos rfl] at fromInactive
    exact ⟨preInstalled, by rw [fromActive, fromInactive]; rfl⟩

end Beside

theorem beside_of_allOpen {repository : ApexFileRepository} (noTemp : NoTempMounts w.database)
    (opens : AllOpen repository w)
    (compressed : DecompressedFromCompressed repository (activeFiles w)) :
    Beside repository (activeFiles w) where
  names := by
    rw [names_activeFiles noTemp opens]
    exact nodup_latestMounts noTemp
  compressed := compressed
  named := by
    have known (apex : ApexFile)
        (listed : apex ∈ activeFiles w ∨ apex ∈ repository.preInstalledStore.toList) :
        IsKnownPath repository w.database apex.path ∧ openAt w.fs apex.path = .ok apex := by
      rcases listed with active | installed
      · obtain ⟨data, last, opened⟩ := (mem_activeFiles noTemp opens).mp active
        have samePath := (openAt_eq_ok_iff.mp opened).2.1
        rw [samePath]
        exact ⟨.inl ⟨_, data, mem_entries_of_latest last, rfl⟩, opened⟩
      · have found := ApexStore.mem_toList.mp installed
        exact ⟨.inr ⟨_, apex, found, rfl⟩, opens.preInstalled _ apex found⟩
    intro apex apex' listed listed' same
    obtain ⟨path, opened⟩ := known apex listed
    obtain ⟨path', opened'⟩ := known apex' listed'
    rw [opens.spelled _ _ path path' same, opened', Except.ok.injEq] at opened
    rw [opened]

/-! ### The queries come to an end -/

theorem mountsNothing_openAll (paths : List FilePath) : (openAll paths).Within MountsNothing := by
  induction paths with
  | nil => trivial
  | cons path rest ih =>
    have opening := (always_apexFile_open path).mono fun _ => AlwaysAnswered.mountsNothing
    refine opening.attempt.bind fun opened => ih.bind fun apexFiles => ?_
    cases opened <;> trivial

theorem mountsNothing_getActivePackages : getActivePackages.Within MountsNothing := by
  have listing : (databaseCall (.forallMountedApexes false)).Within MountsNothing :=
    ⟨trivial, fun _ => trivial⟩
  exact listing.bind fun _ => mountsNothing_openAll _

theorem mountsNothing_getFactoryPackages (env : Environment) :
    (getFactoryPackages env).Within MountsNothing :=
  mountsNothing_getActivePackages.bind fun _ => (mountsNothing_openAll _).bind fun _ => trivial

theorem mountsNothing_calculateInactivePackages (env : Environment) (active : List ApexFile) :
    (calculateInactivePackages env active).Within MountsNothing :=
  (mountsNothing_getFactoryPackages env).bind fun _ => trivial

/-- What the queries return, with or without the list being written, is one and the same list. -/
structure InfoList (env : Environment) (w : World) (active inactive : List ApexFile) : Prop where
  getActivePackages : Returns device getActivePackages (.ok active) w
  calculateInactivePackages :
    Returns device (calculateInactivePackages env active) (.ok inactive) w
  emitApexInfoList : Returns device (emitApexInfoList env false) (.ok (active, inactive)) w
  otaChrootApexInfoList :
    Returns device (otaChrootApexInfoList env) (.ok (active, inactive)) w
  getAllPackages : Returns device (getAllPackages env)
    (.ok (active.map (·, true) ++ inactive.map (·, false))) w

theorem infoList_of_allOpen (opens : AllOpen env.repository w) :
    InfoList env w (activeFiles w) (inactiveFiles env.repository (activeFiles w)) := by
  have ends {α : Type} {p : Procedure α} (within : p.Within MountsNothing) : Ends device p w :=
    .of_within within answered_of_mountsNothing w
  have inactive : Computes device Anything (calculateInactivePackages env (activeFiles w))
      (.ok (inactiveFiles env.repository (activeFiles w))) w := by
    intro Q post
    rw [calculateInactivePackages, wp_bind]
    apply computes_getFactoryPackages opens
    exact post
  constructor
  · exact computes_getActivePackages.returns (ends mountsNothing_getActivePackages)
  · exact inactive.returns (ends (mountsNothing_calculateInactivePackages env _))
  · have emits : Computes device Anything (emitApexInfoList env false)
        (.ok (activeFiles w, inactiveFiles env.repository (activeFiles w))) w := by
      intro Q post
      rw [Apexd.emitApexInfoList, wp_bind]
      apply computes_getActivePackages
      dsimp only
      rw [if_neg Bool.false_ne_true, wp_bind]
      apply inactive
      exact post
    refine emits.returns (ends (mountsNothing_getActivePackages.bind fun active => ?_))
    exact (mountsNothing_calculateInactivePackages env active).bind fun _ => trivial
  · have writes : Computes device Anything (otaChrootApexInfoList env)
        (.ok (activeFiles w, inactiveFiles env.repository (activeFiles w))) w := by
      intro Q post
      rw [Apexd.otaChrootApexInfoList, wp_bind]
      apply computes_getActivePackages
      dsimp only
      rw [wp_bind]
      apply computes_getFactoryPackages opens
      exact post
    refine writes.returns (ends (mountsNothing_getActivePackages.bind fun active => ?_))
    exact (mountsNothing_getFactoryPackages env).bind fun _ => trivial
  · have lists : Computes device Anything (getAllPackages env)
        (.ok ((activeFiles w).map (·, true) ++
          (inactiveFiles env.repository (activeFiles w)).map (·, false))) w := by
      intro Q post
      rw [Apexd.getAllPackages, wp_bind]
      apply computes_getActivePackages
      dsimp only
      rw [wp_bind]
      apply computes_getFactoryPackages opens
      exact post
    refine lists.returns (ends (mountsNothing_getActivePackages.bind fun active => ?_))
    exact (mountsNothing_getFactoryPackages env).bind fun _ => trivial

/-- The list of APEX packages is a partition: the queries agree on it, no path is on it twice,
every pre-installed package is on it once, and every mounted package has one active file. -/
theorem infoList_partition (noTemp : NoTempMounts w.database) (opens : AllOpen env.repository w)
    (compressed : DecompressedFromCompressed env.repository (activeFiles w)) :
    ∃ active inactive, InfoList env w active inactive ∧
      ((active ++ inactive).map fun apex => pathText apex.path).Nodup ∧
      (∀ package, env.repository.hasPreInstalledVersion package = true →
        ∃ apex, ((active ++ inactive).filter fun apex =>
          apex.manifest.name = package && env.repository.isPreInstalledApex apex) = [apex]) ∧
      ∀ package data, w.database.getLatestMountedApex package = some data →
        ∃ apex, (active.filter fun apex => apex.manifest.name = package) = [apex] ∧
          apex.path = data.fullPath := by
  have beside := beside_of_allOpen noTemp opens compressed
  refine ⟨_, _, infoList_of_allOpen opens, beside.nodup_paths, fun package installed => ?_, ?_⟩
  · obtain ⟨preInstalled, found⟩ := Option.isSome_iff_exists.mp installed
    exact beside.preInstalled_once found
  · intro package data isLatest
    have last := latest_of_getLatestMountedApex noTemp isLatest
    obtain ⟨apex, opened, named⟩ := opens.mounted package data (mem_entries_of_latest last)
    have active : apex ∈ activeFiles w :=
      (mem_activeFiles noTemp opens).mpr ⟨data, by rw [named, last], opened⟩
    have one := filter_key_eq_singleton beside.names active
    rw [named] at one
    exact ⟨apex, one, (openAt_eq_ok_iff.mp opened).2.1⟩

/-- A mount of the file at a path. -/
def mountAt (path : FilePath) : MountedSet :=
  ⟨[{ version := 1
      loopName := "/dev/block/" ++ path.name
      fullPath := path
      mountPoint := "/apex/" ++ path.name
      deviceName := path.name
      hashtreeLoopName := ""
      deleted := false
      isTempMount := false }], List.pairwise_singleton _ _⟩

/-- A device with a package that is active in its decompressed form and one that was updated. -/
def decompressedAndUpdated : World :=
  { World.ofDirectories [
      (.other "/system/apex", [("a.capex", .apex { Archive.plain "a" 1 0 with isCompressed := true }),
        ("b.apex", .apex (.plain "b" 1 0))]),
      (.decompression, [("a@1.decompressed.apex", .apex (.plain "a" 1 1))]),
      (.active, [("b@2.apex", .apex (.plain "b" 2 2))])] with
    database := ((∅ : MountedApexDatabase).insert "a"
      (mountAt ⟨.decompression, "a@1.decompressed.apex"⟩)).insert "b" (mountAt ⟨.active, "b@2.apex"⟩) }

def compressedAndPlain : ApexFileRepository :=
  { ApexFileRepository.ofPackages ["b"] with
    preInstalledStore := (ApexFileRepository.ofPackages ["b"]).preInstalledStore.insert
      ⟨⟨.other "/system/apex", "a.capex"⟩, { Archive.plain "a" 1 0 with isCompressed := true }⟩ }

theorem infoList_partition_decompressed : ∃ active inactive,
    InfoList (.plain compressedAndPlain) decompressedAndUpdated active inactive ∧
      ∃ apex, ((active ++ inactive).filter fun apex =>
        apex.manifest.name = "a" && compressedAndPlain.isPreInstalledApex apex) = [apex] := by
  have mounts (package : String) (data : MountedApexData)
      (member : data ∈ (decompressedAndUpdated.database.mountsOf package).entries) :
      (package, data.fullPath, data.isTempMount) ∈ [("a", ⟨.decompression, "a@1.decompressed.apex"⟩, false),
        ("b", (⟨.active, "b@2.apex"⟩ : FilePath), false)] := by
    simp only [decompressedAndUpdated, MountedApexDatabase.mountsOf_insert] at member
    split_ifs at member with isB isA
    · simp_all [mountAt]
    · simp_all [mountAt]
    · cases member
  have installed (name : String) (apex : ApexFile)
      (found : compressedAndPlain.preInstalledStore.find name = some apex) :
      apex ∈ compressedAndPlain.preInstalledStore.toList := by
    rw [ApexStore.mem_toList, ApexStore.name_of_find found, found]
  have known (path : FilePath) (isKnown : IsKnownPath compressedAndPlain
      decompressedAndUpdated.database path) : path ∈ [⟨.decompression, "a@1.decompressed.apex"⟩,
        ⟨.active, "b@2.apex"⟩, ⟨.other "/system/apex", "a.capex"⟩,
        (⟨.other "/system/apex", "b.apex"⟩ : FilePath)] := by
    rcases isKnown with ⟨package, data, member, rfl⟩ | ⟨name, apex, found, rfl⟩
    · have := mounts package data member
      grind
    · have paths : compressedAndPlain.preInstalledStore.toList.map ApexFile.path =
          [⟨.other "/system/apex", "a.capex"⟩, ⟨.other "/system/apex", "b.apex"⟩] := by
        decide +kernel
      have member := List.mem_map_of_mem (f := ApexFile.path) (installed name apex found)
      rw [paths] at member
      exact List.mem_append_right [_, _] member
  have noTemp : NoTempMounts decompressedAndUpdated.database := by
    intro package data member
    have mounted := mounts package data member
    grind
  have opens : AllOpen compressedAndPlain decompressedAndUpdated := by
    refine ⟨fun package data member => ?_, fun name apex found => ?_, fun path path' first second => ?_⟩
    · have opened : ∀ mounted ∈ [("a", ⟨.decompression, "a@1.decompressed.apex"⟩, false),
          ("b", (⟨.active, "b@2.apex"⟩ : FilePath), false)],
          ((openAt decompressedAndUpdated.fs mounted.2.1).toOption.map
            fun apex => apex.manifest.name) = some mounted.1 := by decide +kernel
      have named := opened _ (mounts package data member)
      cases result : openAt decompressedAndUpdated.fs data.fullPath with
      | error e => simp [result, Except.toOption] at named
      | ok apex => exact ⟨apex, rfl, by simpa [result, Except.toOption] using named⟩
    · have opened : ∀ apex ∈ compressedAndPlain.preInstalledStore.toList,
          openAt decompressedAndUpdated.fs apex.path = .ok apex := by decide +kernel
      exact opened apex (installed name apex found)
    · have spelled : ∀ path ∈ [⟨.decompression, "a@1.decompressed.apex"⟩, ⟨.active, "b@2.apex"⟩,
          ⟨.other "/system/apex", "a.capex"⟩, (⟨.other "/system/apex", "b.apex"⟩ : FilePath)],
          ∀ path' ∈ [⟨.decompression, "a@1.decompressed.apex"⟩, ⟨.active, "b@2.apex"⟩,
            ⟨.other "/system/apex", "a.capex"⟩, (⟨.other "/system/apex", "b.apex"⟩ : FilePath)],
            pathText path = pathText path' → path = path' := by decide +kernel
      exact spelled path (known path first) path' (known path' second)
  have compressed : DecompressedFromCompressed compressedAndPlain (activeFiles decompressedAndUpdated) := by
    have formOf : ∀ apex ∈ activeFiles decompressedAndUpdated,
        compressedAndPlain.isDecompressedApex apex = true →
          (compressedAndPlain.preInstalledStore.find apex.manifest.name).any
            ApexFile.isCompressed = true := by decide +kernel
    intro apex active decompressed
    have form := formOf apex active decompressed
    cases found : compressedAndPlain.preInstalledStore.find apex.manifest.name with
    | none => simp [found] at form
    | some preInstalled => exact ⟨preInstalled, rfl, by simpa [found] using form⟩
  obtain ⟨active, inactive, list, -, once, -⟩ := @infoList_partition (.plain compressedAndPlain)
    decompressedAndUpdated noTemp opens compressed
  exact ⟨active, inactive, list, once "a" (by decide +kernel)⟩

end Apexd
