import Apexd.Model.RepositoryScan
import Apexd.Process.Termination
import Apexd.Storage.KeyedScan
import Apexd.Verified.Calls

/-! # Multi-installed APEXes

The scan of the built-in directories treats the files of a package with a select property as
candidates with keys.  What it stores for such a package is the outcome of a scan that checks
keys, for some order of the candidates in each directory, and every such outcome is possible.
-/

namespace Apexd

open Process Storage Storage.KeyedScan

theorem ApexStore.find_emplace_self (store : ApexStore) (apex : ApexFile) :
    (store.emplace apex).find apex.manifest.name =
      (store.find apex.manifest.name).or (some apex) := by
  unfold emplace
  cases found : store.find apex.manifest.name with
  | some existing => rw [Option.isSome_some, if_pos rfl, found, Option.some_or]
  | none => rw [Option.isSome_none, if_neg nofun, find_insert_self, Option.none_or]

theorem ApexStore.find_emplace_ne (store : ApexStore) {apex : ApexFile} {name : String}
    (ne : name ≠ apex.manifest.name) : (store.emplace apex).find name = store.find name := by
  unfold emplace
  split
  · rfl
  · exact store.find_insert_ne apex ne

theorem ApexStore.find_erase_self (store : ApexStore) (name : String) :
    (store.erase name).find name = none :=
  Finmap.lookup_erase name store.files

theorem ApexStore.find_erase_ne (store : ApexStore) {name other : String} (ne : name ≠ other) :
    (store.erase other).find name = store.find name :=
  Finmap.lookup_erase_ne ne

namespace ApexFileRepository

variable {env : Environment} {repository before after : ApexFileRepository} {w : World}
  {name selectFilename : String} {apex : ApexFile} {progress : Progress String ApexFile}

/-- The suffixes of pre-installed files. -/
abbrev builtInSuffixes : List String := [kApexPackageSuffix, kCompressedApexPackageSuffix]

/-- Multi-install APEXes can only be pre-installed on /vendor/apex/. -/
def isAllowed (repository : ApexFileRepository) (apex : ApexFile) : Bool :=
  !(repository.enforceMultiInstallPartition &&
    !Text.startsWith (pathText apex.path) "/vendor/apex/")

/-- A file of the directory that is a version of the package, on an allowed partition. -/
structure IsCandidate (repository : ApexFileRepository) (fs : FileSystem DirId Content)
    (name : String) (d : DirId) (apex : ApexFile) : Prop where
  inDir : apex.path.dir = d
  suffix : builtInSuffixes.any (Text.endsWith apex.path.name) = true
  opened : openAt fs apex.path = .ok apex
  named : apex.manifest.name = name
  allowed : repository.isAllowed apex = true

def publicKey (apex : ApexFile) : String :=
  apex.archive.bundledPublicKey

/-- The file has the name that the select property says. -/
def isSelected (selectFilename : String) (apex : ApexFile) : Bool :=
  consumeApexPackageSuffix apex.path.name = selectFilename

/-- What the repository knows of the package; the rest of it is as it was. -/
structure Tracks (before : ApexFileRepository) (name : String) (progress : Progress String ApexFile)
    (after : ApexFileRepository) : Prop where
  kept : after.preInstalledStore.find name = progress.kept
  keys : (after.multiInstallPublicKeys.lookup name).getD [] = progress.keys
  prefixes : after.multiInstallSelectPropPrefixes = before.multiInstallSelectPropPrefixes
  enforces : after.enforceMultiInstallPartition = before.enforceMultiInstallPartition

theorem Tracks.isAllowed (tracks : before.Tracks name progress after) (apex : ApexFile) :
    after.isAllowed apex = before.isAllowed apex := by
  unfold ApexFileRepository.isAllowed
  rw [tracks.enforces]

/-- A candidate is a step of the scan of its package. -/
theorem Tracks.addMultiInstall (tracks : before.Tracks apex.manifest.name progress after)
    (allowed : before.isAllowed apex = true) :
    before.Tracks apex.manifest.name (step publicKey (isSelected selectFilename) progress apex)
      (after.addMultiInstall selectFilename apex) := by
  have isAllowed := (tracks.isAllowed apex).trans allowed
  rw [ApexFileRepository.isAllowed, Bool.not_eq_true'] at isAllowed
  simp only [ApexFileRepository.addMultiInstall, isAllowed, Bool.false_eq_true, if_false,
    tracks.keys, step, publicKey, isSelected, decide_eq_true_eq]
  by_cases differ : (progress.keys.insert apex.archive.bundledPublicKey).length > 1
  · rw [if_pos differ, if_pos differ]
    exact ⟨ApexStore.find_erase_self _ _, by simp, tracks.prefixes, tracks.enforces⟩
  · rw [if_neg differ, if_neg differ]
    by_cases selected : consumeApexPackageSuffix apex.path.name = selectFilename
    · rw [if_pos selected, if_pos selected]
      refine ⟨?_, by simp, tracks.prefixes, tracks.enforces⟩
      rw [ApexStore.find_emplace_self, tracks.kept]
    · rw [if_neg selected, if_neg selected]
      exact ⟨tracks.kept, by simp, tracks.prefixes, tracks.enforces⟩

/-- A file that is not allowed, or of another package, says nothing. -/
theorem Tracks.addMultiInstall_other (tracks : before.Tracks name progress after)
    (other : apex.manifest.name ≠ name ∨ before.isAllowed apex = false) :
    before.Tracks name progress (after.addMultiInstall selectFilename apex) := by
  unfold ApexFileRepository.addMultiInstall
  dsimp only
  split
  · exact tracks
  · rename_i isAllowed
    have ne : name ≠ apex.manifest.name := by
      rintro rfl
      have notAllowed := (tracks.isAllowed apex).trans (other.resolve_left fun ne => ne rfl)
      rw [ApexFileRepository.isAllowed, Bool.not_eq_false'] at notAllowed
      exact isAllowed notAllowed
    split
    · refine ⟨?_, ?_, tracks.prefixes, tracks.enforces⟩
      · exact (ApexStore.find_erase_ne _ ne).trans tracks.kept
      · rw [Finmap.lookup_insert_of_ne _ ne, tracks.keys]
    · split
      · refine ⟨?_, ?_, tracks.prefixes, tracks.enforces⟩
        · exact (ApexStore.find_emplace_ne _ ne).trans tracks.kept
        · rw [Finmap.lookup_insert_of_ne _ ne, tracks.keys]
      · refine ⟨tracks.kept, ?_, tracks.prefixes, tracks.enforces⟩
        rw [Finmap.lookup_insert_of_ne _ ne, tracks.keys]

/-! ## Scanning -/

/-- Whether an opened file is a candidate. -/
def candidate (repository : ApexFileRepository) (name : String) (apex : ApexFile) : Bool :=
  apex.manifest.name = name && repository.isAllowed apex

/-- The candidates among the files of a listing. -/
def candidatesIn (repository : ApexFileRepository) (fs : FileSystem DirId Content)
    (name : String) (files : List FilePath) : List ApexFile :=
  (files.filterMap fun file => (openAt fs file).toOption).filter (repository.candidate name)

theorem candidatesIn_append (fs : FileSystem DirId Content) (first second : List FilePath) :
    repository.candidatesIn fs name (first ++ second) =
      repository.candidatesIn fs name first ++ repository.candidatesIn fs name second := by
  rw [candidatesIn, List.filterMap_append, List.filter_append]
  rfl

theorem mem_candidatesIn {fs : FileSystem DirId Content} {files : List FilePath} :
    apex ∈ repository.candidatesIn fs name files ↔
      apex.path ∈ files ∧ openAt fs apex.path = .ok apex ∧ apex.manifest.name = name ∧
        repository.isAllowed apex = true := by
  simp only [candidatesIn, candidate, List.mem_filter, List.mem_filterMap, Bool.and_eq_true,
    decide_eq_true_eq]
  constructor
  · rintro ⟨⟨file, member, opens⟩, isCandidate⟩
    cases opened : openAt fs file with
    | error e =>
      rw [opened] at opens
      cases opens
    | ok found =>
      rw [opened] at opens
      cases opens
      have isAt := (openAt_eq_ok_iff.mp opened).2.1
      exact ⟨isAt ▸ member, isAt ▸ opened, isCandidate⟩
  · rintro ⟨member, opened, isCandidate⟩
    exact ⟨⟨apex.path, member, by rw [opened]; rfl⟩, isCandidate⟩

/-- The files of a package whose select property is set. -/
theorem wp_scanBuiltInFile {file : FilePath} (opened : openAt w.fs file = .ok apex)
    (selects : getApexSelectFilenameFromProp env before.multiInstallSelectPropPrefixes name =
      selectFilename) (isSet : selectFilename ≠ "")
    (tracks : before.Tracks name progress repository) :
    wp device Anything (scanBuiltInFile env repository file) (fun result w' => w' = w ∧
      ∃ after, result = .ok after ∧ before.Tracks name
        (if before.candidate name apex = true then
          step publicKey (isSelected selectFilename) progress apex else progress) after) w := by
  rw [scanBuiltInFile, wp_bind, wp_mapError]
  refine wp_apexFile_open quiet_anything ?_
  rw [opened]
  dsimp only [Except.mapError]
  by_cases named : apex.manifest.name = name
  · subst named
    rw [tracks.prefixes, selects, if_pos isSet]
    refine ⟨rfl, _, rfl, ?_⟩
    cases allowed : before.isAllowed apex with
    | true =>
      have isCandidate : before.candidate apex.manifest.name apex = true := by
        simp [candidate, allowed]
      rw [if_pos isCandidate]
      exact tracks.addMultiInstall allowed
    | false =>
      have notCandidate : ¬ before.candidate apex.manifest.name apex = true := by
        simp [candidate, allowed]
      rw [if_neg notCandidate]
      exact tracks.addMultiInstall_other (.inr allowed)
  · have notCandidate : ¬ before.candidate name apex = true := by simp [candidate, named]
    rw [if_neg notCandidate]
    by_cases other : getApexSelectFilenameFromProp env repository.multiInstallSelectPropPrefixes
        apex.manifest.name ≠ ""
    · rw [if_pos other]
      exact ⟨rfl, _, rfl, tracks.addMultiInstall_other (.inl named)⟩
    · rw [if_neg other]
      cases repository.preInstalledStore.find apex.manifest.name with
      | none =>
        refine ⟨rfl, _, rfl, ?_, tracks.keys, tracks.prefixes, tracks.enforces⟩
        exact (ApexStore.find_emplace_ne _ (Ne.symm named)).trans tracks.kept
      | some existing =>
        dsimp only
        split
        · split
          · exact wp_fatal
          · exact ⟨rfl, _, rfl, tracks⟩
        · split
          · exact wp_fatal
          · exact ⟨rfl, _, rfl, tracks⟩

/-- The files of a directory in the order of its listing. -/
theorem wp_fold_scanBuiltInFile {files : List FilePath}
    (opens : ∀ file ∈ files, ∃ apex, openAt w.fs file = .ok apex)
    (selects : getApexSelectFilenameFromProp env before.multiInstallSelectPropPrefixes name =
      selectFilename) (isSet : selectFilename ≠ "")
    (tracks : before.Tracks name progress repository) :
    wp device Anything (Program.fold (scanBuiltInFile env) repository files)
      (fun result w' => w' = w ∧ ∃ after, result = .ok after ∧ before.Tracks name
        ((before.candidatesIn w.fs name files).foldl
          (step publicKey (isSelected selectFilename)) progress) after) w := by
  refine wp_fold (fun done after w' => w' = w ∧ before.Tracks name
    ((before.candidatesIn w.fs name done).foldl (step publicKey (isSelected selectFilename))
      progress) after) ⟨rfl, tracks⟩ ?_ ?_
  · rintro done file rest after w' rfl ⟨rfl, tracks⟩
    obtain ⟨apex, opened⟩ := opens file (by simp)
    refine wp_mono (wp_scanBuiltInFile opened selects isSet tracks) ?_
    rintro _ w'' ⟨rfl, next, rfl, tracks'⟩
    refine ⟨rfl, ?_⟩
    rw [candidatesIn_append, List.foldl_append]
    have last : before.candidatesIn w''.fs name [file] =
        if before.candidate name apex = true then [apex] else [] := by
      simp only [candidatesIn, List.filterMap_cons, List.filterMap_nil, opened, Except.toOption,
        List.filter_cons, List.filter_nil]
    rw [last]
    split
    · rename_i isCandidate
      rwa [if_pos isCandidate] at tracks'
    · rename_i notCandidate
      rwa [if_neg notCandidate] at tracks'
  · rintro after w' ⟨rfl, tracks'⟩
    exact ⟨rfl, after, rfl, tracks'⟩

/-- A listing gives each candidate once. -/
theorem enumerates_candidatesIn {d : DirId} {listing : List String}
    (isListing : (w.files d).IsListing listing) :
    Enumerates (before.IsCandidate w.fs name) d
      (before.candidatesIn w.fs name (withSuffix d builtInSuffixes listing)) where
  nodup := by
    refine List.Nodup.filter _ (List.Nodup.filterMap ?_ (nodup_withSuffix isListing.nodup))
    intro first second found inFirst inSecond
    have isAt {file : FilePath} (opens : found ∈ (openAt w.fs file).toOption) :
        found.path = file := by
      cases opened : openAt w.fs file with
      | error e =>
        rw [opened] at opens
        cases opens
      | ok apex =>
        rw [opened] at opens
        cases opens
        exact (openAt_eq_ok_iff.mp opened).2.1
    exact (isAt inFirst).symm.trans (isAt inSecond)
  mem_iff apex := by
    rw [mem_candidatesIn, mem_withSuffix_iff]
    constructor
    · rintro ⟨⟨inDir, -, suffix⟩, opened, named, allowed⟩
      exact ⟨inDir, suffix, opened, named, allowed⟩
    · rintro ⟨inDir, suffix, opened, named, allowed⟩
      refine ⟨⟨inDir, isListing.mem_iff.mpr ⟨.apex apex.archive, ?_⟩, suffix⟩, opened, named,
        allowed⟩
      have found := (openAt_eq_ok_iff.mp opened).1
      rw [FileSystem.file, inDir] at found
      exact found

/-- The candidates of a directory can be listed in any order. -/
theorem exists_listing {d : DirId} {candidates : List ApexFile}
    (enumerates : Enumerates (before.IsCandidate w.fs name) d candidates) :
    ∃ listing, (w.files d).IsListing listing ∧
      before.candidatesIn w.fs name (withSuffix d builtInSuffixes listing) = candidates := by
  have pathOf {apex : ApexFile} (member : apex ∈ candidates) :
      apex.path = ⟨d, apex.path.name⟩ := by
    rw [← ((enumerates.mem_iff apex).mp member).inDir]
  let names := candidates.map fun apex => apex.path.name
  let others := (w.files d).names.filter (· ∉ names)
  have isListing : (w.files d).IsListing (names ++ others) := by
    have nodup : names.Nodup := by
      refine enumerates.nodup.map_on fun first inFirst second inSecond same => ?_
      have opened := ((enumerates.mem_iff first).mp inFirst).opened
      have opened' := ((enumerates.mem_iff second).mp inSecond).opened
      rw [pathOf inFirst, same, ← pathOf inSecond] at opened
      exact Except.ok.inj (opened.symm.trans opened')
    refine (List.perm_ext_iff_of_nodup ?_ (w.files d).nodup_names).mpr fun fileName => ?_
    · refine List.nodup_append'.mpr ⟨nodup, (w.files d).nodup_names.filter _, ?_⟩
      exact fun fileName inNames inOthers => by simpa [inNames] using List.of_mem_filter inOthers
    · rw [List.mem_append, List.mem_filter, decide_eq_true_eq]
      constructor
      · rintro (inNames | ⟨member, -⟩)
        · obtain ⟨apex, member, rfl⟩ := List.mem_map.mp inNames
          have found := (openAt_eq_ok_iff.mp ((enumerates.mem_iff apex).mp member).opened).1
          rw [FileSystem.file, ((enumerates.mem_iff apex).mp member).inDir] at found
          exact Directory.mem_names.mpr
            (Finmap.lookup_isSome.mp (Option.isSome_iff_exists.mpr ⟨_, found⟩))
        · exact member
      · intro member
        by_cases inNames : fileName ∈ names
        · exact .inl inNames
        · exact .inr ⟨member, inNames⟩
  refine ⟨names ++ others, isListing, ?_⟩
  have split : withSuffix d builtInSuffixes (names ++ others) =
      candidates.map ApexFile.path ++ withSuffix d builtInSuffixes others := by
    rw [withSuffix, List.filter_append, List.map_append, withSuffix]
    refine congrArg (· ++ _) ?_
    rw [List.filter_eq_self.mpr, List.map_map]
    · exact List.map_congr_left fun apex member => (pathOf member).symm
    · intro fileName inNames
      obtain ⟨apex, member, rfl⟩ := List.mem_map.mp inNames
      exact ((enumerates.mem_iff apex).mp member).suffix
  have here : before.candidatesIn w.fs name (candidates.map ApexFile.path) = candidates := by
    rw [candidatesIn, List.filterMap_map, List.filterMap_congr (g := some), List.filterMap_some,
      List.filter_eq_self]
    · intro apex member
      have isCandidate := (enumerates.mem_iff apex).mp member
      simp [candidate, isCandidate.named, isCandidate.allowed]
    · intro apex member
      exact congrArg Except.toOption ((enumerates.mem_iff apex).mp member).opened
  have rest : before.candidatesIn w.fs name (withSuffix d builtInSuffixes others) = [] := by
    refine List.eq_nil_iff_forall_not_mem.mpr fun apex member => ?_
    obtain ⟨inOthers, opened, named, allowed⟩ := mem_candidatesIn.mp member
    obtain ⟨inDir, isOther, suffix⟩ := mem_withSuffix_iff.mp inOthers
    have isCandidate := (enumerates.mem_iff apex).mpr ⟨inDir, suffix, opened, named, allowed⟩
    obtain ⟨-, notName⟩ := List.mem_filter.mp isOther
    exact of_decide_eq_true notName (List.mem_map.mpr ⟨apex, isCandidate, rfl⟩)
  rw [split, candidatesIn_append, here, rest, List.append_nil]

/-! ## Runs -/

/-- All files of the built-in directories that would be scanned can be opened. -/
def AllOpen (w : World) (prebuiltDirs : List DirId) : Prop :=
  ∀ d ∈ prebuiltDirs, ∀ fileName, builtInSuffixes.any (Text.endsWith fileName) = true →
    (w.fs.file ⟨d, fileName⟩).isSome = true → ∃ apex, openAt w.fs ⟨d, fileName⟩ = .ok apex

theorem AllOpen.listed {prebuiltDirs : List DirId} (allOpen : AllOpen w prebuiltDirs) {d : DirId}
    (member : d ∈ prebuiltDirs) {listing : List String} (isListing : (w.files d).IsListing listing) :
    ∀ file ∈ withSuffix d builtInSuffixes listing, ∃ apex, openAt w.fs file = .ok apex := by
  intro file inListing
  obtain ⟨rfl, isListed, suffix⟩ := mem_withSuffix_iff.mp inListing
  exact allOpen file.dir member file.name suffix
    (Option.isSome_iff_exists.mpr (isListing.mem_iff.mp isListed))

/-- The keys are forgotten after a directory. -/
theorem Tracks.clear (tracks : before.Tracks name progress after) :
    before.Tracks name ⟨progress.kept, []⟩ { after with multiInstallPublicKeys := ∅ } :=
  ⟨tracks.kept, rfl, tracks.prefixes, tracks.enforces⟩

theorem enumerates_of_absent {d : DirId} (absent : w.fs.has d = false) :
    Enumerates (before.IsCandidate w.fs name) d [] where
  nodup := List.nodup_nil
  mem_iff apex := by
    refine ⟨nofun, fun isCandidate => ?_⟩
    have found := (openAt_eq_ok_iff.mp isCandidate.opened).1
    rw [FileSystem.file, isCandidate.inDir, FileSystem.files,
      Option.not_isSome_iff_eq_none.mp (Bool.eq_false_iff.mp absent)] at found
    cases found

section Runs

variable {prebuiltDirs : List DirId} {d : DirId} {kept : Option ApexFile}

theorem wp_scanBuiltInDir (allOpen : AllOpen w prebuiltDirs) (member : d ∈ prebuiltDirs)
    (selects : getApexSelectFilenameFromProp env before.multiInstallSelectPropPrefixes name =
      selectFilename) (isSet : selectFilename ≠ "")
    (tracks : before.Tracks name ⟨kept, []⟩ repository) :
    wp device Anything (scanBuiltInDir env repository d) (fun result w' => w' = w ∧
      ∃ after candidates, result = .ok after ∧
        Enumerates (before.IsCandidate w.fs name) d candidates ∧
        before.Tracks name ⟨scan publicKey (isSelected selectFilename) kept candidates, []⟩
          after) w := by
  rw [scanBuiltInDir, wp_bind, wp_attempt]
  refine wp_stat quiet_anything ?_
  cases exists' : w.fs.dir d with
  | none =>
    have absent : w.fs.has d = false := by rw [FileSystem.has, exists']; rfl
    exact ⟨rfl, repository, [], rfl, enumerates_of_absent absent, tracks⟩
  | some dir =>
    have present : w.fs.has d = true := by rw [FileSystem.has, exists']; rfl
    show wp _ _ (findFilesBySuffix d builtInSuffixes >>= _) _ _
    rw [wp_bind]
    refine wp_findFilesBySuffix quiet_anything present fun listing isListing => ?_
    dsimp only
    rw [wp_bind]
    refine wp_mono (wp_fold_scanBuiltInFile (allOpen.listed member isListing) selects isSet
      tracks) ?_
    rintro _ w' ⟨rfl, after, rfl, tracks'⟩
    exact ⟨rfl, _, _, rfl, enumerates_candidatesIn isListing, tracks'.clear⟩

/-- Each order of the candidates can come up, if the scan comes back. -/
theorem exists_runs_scanBuiltInDir (allOpen : AllOpen w prebuiltDirs) (member : d ∈ prebuiltDirs)
    (selects : getApexSelectFilenameFromProp env before.multiInstallSelectPropPrefixes name =
      selectFilename) (isSet : selectFilename ≠ "")
    (tracks : before.Tracks name ⟨kept, []⟩ repository)
    (returns : Ends device (scanBuiltInDir env repository d) w) {candidates : List ApexFile}
    (enumerates : Enumerates (before.IsCandidate w.fs name) d candidates) :
    ∃ after, Runs device (scanBuiltInDir env repository d) w (.ok after) w ∧
      before.Tracks name ⟨scan publicKey (isSelected selectFilename) kept candidates, []⟩
        after := by
  have stats : Runs device (stat d).attempt w (.ok (.ok ((w.fs.dir d).map Dir.mode))) w :=
    runs_attempt.mpr ⟨_, runs_call.mpr ⟨_, w, ⟨w.fs, rfl, rfl⟩, runs_done.mpr ⟨rfl, rfl⟩⟩, rfl⟩
  have continues := returns.rest stats
  cases exists' : w.fs.dir d with
  | none =>
    have absent : w.fs.has d = false := by rw [FileSystem.has, exists']; rfl
    have empty : candidates = [] := List.eq_nil_iff_forall_not_mem.mpr fun apex inCandidates =>
      List.not_mem_nil (((enumerates_of_absent absent).mem_iff apex).mpr
        ((enumerates.mem_iff apex).mp inCandidates))
    rw [exists'] at stats
    refine ⟨repository, stats.bind (runs_done.mpr ⟨rfl, rfl⟩), ?_⟩
    rw [empty]
    exact tracks
  | some dir =>
    rw [exists'] at stats continues
    obtain ⟨listing, isListing, inOrder⟩ := exists_listing enumerates
    have lists : Runs device (findFilesBySuffix d builtInSuffixes) w
        (.ok (withSuffix d builtInSuffixes listing)) w := by
      have answer : (FsCall.readDir d).Answers w.fs (.ok listing) w.fs := by
        refine ⟨rfl, ?_⟩
        rw [World.files, FileSystem.files, exists'] at isListing
        rw [exists']
        exact ⟨listing, isListing, rfl⟩
      exact runs_call.mpr ⟨.ok listing, w, ⟨w.fs, answer, rfl⟩, runs_done.mpr ⟨rfl, rfl⟩⟩
    have scans := (continues.rest lists).first
    obtain ⟨result, w', run⟩ := scans.exists_runs
    obtain ⟨rfl, after, rfl, tracks'⟩ := wp_runs (wp_fold_scanBuiltInFile
      (allOpen.listed member isListing) selects isSet tracks) run
    refine ⟨{ after with multiInstallPublicKeys := ∅ }, stats.bind ?_, ?_⟩
    · exact lists.bind (run.bind (runs_done.mpr ⟨rfl, rfl⟩))
    · rw [inOrder] at tracks'
      exact tracks'.clear

theorem wp_addPreInstalledApex (allOpen : AllOpen w prebuiltDirs)
    (selects : getApexSelectFilenameFromProp env before.multiInstallSelectPropPrefixes name =
      selectFilename) (isSet : selectFilename ≠ "") (tracks : before.Tracks name ⟨none, []⟩ before) :
    wp device Anything (before.addPreInstalledApex env prebuiltDirs) (fun result _ =>
      ∃ after, result = .ok after ∧
        Outcome publicKey (isSelected selectFilename) (before.IsCandidate w.fs name) prebuiltDirs
          (after.getPreInstalledApex name)) w := by
  refine wp_fold (fun done after w' => w' = w ∧ ∃ directories,
    List.Forall₂ (Enumerates (before.IsCandidate w.fs name)) done directories ∧
      before.Tracks name ⟨scanAll publicKey (isSelected selectFilename) none directories, []⟩
        after) ⟨rfl, [], .nil, tracks⟩ ?_ ?_
  · rintro done d rest after w' split ⟨rfl, directories, enumerate, tracks'⟩
    refine wp_mono (wp_scanBuiltInDir allOpen (by simp [split]) selects isSet tracks') ?_
    rintro _ w'' ⟨rfl, next, candidates, rfl, enumerates, tracks''⟩
    refine ⟨rfl, directories ++ [candidates], List.rel_append enumerate (.cons enumerates .nil), ?_⟩
    rw [scanAll_append]
    exact tracks''
  · rintro after w' ⟨rfl, directories, enumerate, tracks'⟩
    exact ⟨after, rfl, directories, enumerate, tracks'.kept⟩

theorem exists_runs_addPreInstalledApex (allOpen : AllOpen w prebuiltDirs)
    (selects : getApexSelectFilenameFromProp env before.multiInstallSelectPropPrefixes name =
      selectFilename) (isSet : selectFilename ≠ "")
    (tracks : before.Tracks name ⟨kept, []⟩ repository)
    (returns : Ends device (repository.addPreInstalledApex env prebuiltDirs) w)
    {directories : List (List ApexFile)}
    (enumerate : List.Forall₂ (Enumerates (before.IsCandidate w.fs name)) prebuiltDirs
      directories) :
    ∃ after, Runs device (repository.addPreInstalledApex env prebuiltDirs) w (.ok after) w ∧
      after.getPreInstalledApex name =
        scanAll publicKey (isSelected selectFilename) kept directories := by
  induction enumerate generalizing repository kept with
  | nil => exact ⟨repository, runs_done.mpr ⟨rfl, rfl⟩, tracks.kept⟩
  | cons enumerates _ ih =>
    obtain ⟨next, run, tracks'⟩ := exists_runs_scanBuiltInDir allOpen (by simp) selects isSet
      tracks returns.first enumerates
    obtain ⟨after, rest, stored⟩ := ih
      (fun d member => allOpen d (List.mem_cons_of_mem _ member)) tracks' (returns.rest run)
    exact ⟨after, run.bind rest, stored⟩

/-- A scan that only finds multi-install APEXes comes back. -/
theorem ends_addPreInstalledApex (allOpen : AllOpen w prebuiltDirs)
    (selects : getApexSelectFilenameFromProp env before.multiInstallSelectPropPrefixes name =
      selectFilename) (isSet : selectFilename ≠ "") (tracks : before.Tracks name ⟨none, []⟩ before)
    (allSet : ∀ d ∈ prebuiltDirs, ∀ apex : ApexFile, apex.path.dir = d →
      openAt w.fs apex.path = .ok apex → getApexSelectFilenameFromProp env
        before.multiInstallSelectPropPrefixes apex.manifest.name ≠ "") :
    Ends device (before.addPreInstalledApex env prebuiltDirs) w := by
  have endsFile {file : FilePath} (member : file.dir ∈ prebuiltDirs) {apex : ApexFile}
      (opened : openAt w.fs file = .ok apex) {repository : ApexFileRepository}
      {progress : Progress String ApexFile} (tracks : before.Tracks name progress repository) :
      Ends device (scanBuiltInFile env repository file) w := by
    refine ((Ends.of_within (always_apexFile_open file) answered_of_always w).mapError _).bind ?_
    rw [wp_mapError]
    refine wp_apexFile_open quiet_anything ?_
    rw [opened]
    rintro _ ⟨⟩
    have isAt := (openAt_eq_ok_iff.mp opened).2.1
    dsimp only
    rw [tracks.prefixes, if_pos (allSet file.dir member apex (by rw [isAt]) (isAt ▸ opened))]
    trivial
  refine Ends.fold (fun after w' => w' = w ∧ ∃ kept, before.Tracks name ⟨kept, []⟩ after)
    ⟨rfl, none, tracks⟩ ?_
  rintro d member repository _ ⟨rfl, kept, tracks'⟩
  refine ⟨?_, ?_⟩
  · have stats : (stat d).attempt.Within AlwaysAnswered := (always_fsCall _).attempt
    refine (Ends.of_within stats answered_of_always _).bind ?_
    rw [wp_attempt]
    refine wp_stat quiet_anything ?_
    rintro _ ⟨⟩
    cases exists' : FileSystem.dir _ d with
    | none => trivial
    | some dir =>
      have lists := always_findFilesBySuffix d builtInSuffixes
      refine (Ends.of_within lists answered_of_always _).bind ?_
      refine wp_findFilesBySuffix quiet_anything (by rw [FileSystem.has, exists']; rfl)
        fun listing isListing => ?_
      rintro _ ⟨⟩
      refine Ends.bind ?_ (wp_mono (wp_anything _ _) fun _ _ _ _ _ => trivial)
      refine Ends.fold (fun after w' => w' = _ ∧ ∃ progress, before.Tracks name progress after)
        ⟨rfl, _, tracks'⟩ ?_
      rintro file inListing after _ ⟨rfl, progress, tracks''⟩
      obtain ⟨apex, opened⟩ := allOpen.listed member isListing file inListing
      have inDirs : file.dir ∈ prebuiltDirs := (mem_withSuffix_iff.mp inListing).1 ▸ member
      refine ⟨endsFile inDirs opened tracks'', ?_⟩
      refine wp_mono (wp_scanBuiltInFile opened selects isSet tracks'') ?_
      rintro _ w' ⟨rfl, next, rfl, tracks₃⟩ _ ⟨⟩
      exact ⟨rfl, _, tracks₃⟩
  · refine wp_mono (wp_scanBuiltInDir allOpen member selects isSet tracks') ?_
    rintro _ w' ⟨rfl, after, candidates, rfl, -, tracks''⟩ _ ⟨⟩
    exact ⟨rfl, _, tracks''⟩

end Runs

/-- What is stored for a package with a select property obeys the law of its selection, in every
order of the directories' entries, exactly where with one key the first directory with a file of
the selected name has only one, and where with several keys each directory with such a file, or
a later one, has candidates of several keys itself. -/
theorem addPreInstalledApex_lawful_iff {prebuiltDirs : List DirId}
    (empty : repository.preInstalledStore = .empty)
    (noKeys : repository.multiInstallPublicKeys = ∅)
    (selects : getApexSelectFilenameFromProp env repository.multiInstallSelectPropPrefixes name =
      selectFilename) (isSet : selectFilename ≠ "") (allOpen : AllOpen w prebuiltDirs)
    (returns : Ends device (repository.addPreInstalledApex env prebuiltDirs) w) :
    Lawful publicKey (isSelected selectFilename) (repository.IsCandidate w.fs name) prebuiltDirs
      (fun stored => ∃ after w', Runs device (repository.addPreInstalledApex env prebuiltDirs) w
        (.ok after) w' ∧ after.getPreInstalledApex name = stored) ↔
    Settles publicKey (isSelected selectFilename) (repository.IsCandidate w.fs name)
      prebuiltDirs := by
  classical
  have tracks : repository.Tracks name ⟨none, []⟩ repository :=
    ⟨by rw [empty]; rfl, by rw [noKeys]; rfl, rfl, rfl⟩
  have outcomes : (fun stored => ∃ after w', Runs device
      (repository.addPreInstalledApex env prebuiltDirs) w (.ok after) w' ∧
        after.getPreInstalledApex name = stored) =
      Outcome publicKey (isSelected selectFilename) (repository.IsCandidate w.fs name)
        prebuiltDirs := by
    funext stored
    refine propext ⟨?_, ?_⟩
    · rintro ⟨after, w', run, rfl⟩
      obtain ⟨_, ⟨⟩, outcome⟩ := wp_runs (wp_addPreInstalledApex allOpen selects isSet tracks) run
      exact outcome
    · rintro ⟨directories, enumerate, rfl⟩
      obtain ⟨after, run, stored⟩ := exists_runs_addPreInstalledApex allOpen selects isSet tracks
        returns enumerate
      exact ⟨after, w, run, stored⟩
  rw [outcomes]
  exact lawful_iff fun d _ => ⟨_, enumerates_candidatesIn (.refl _)⟩

/-- The package foo is multi-installed, and foo_a is selected. -/
def selectsFooA : Environment :=
  { Environment.plain .create with
    properties := fun key => if key = "persist.vendor.apex.foo" then "foo_a.apex" else "" }

def vendorDir : DirId := .other "/vendor/apex"

def fooA : ApexFile := ⟨⟨vendorDir, "foo_a.apex"⟩, .plain "foo" 1 1⟩
def fooB : ApexFile := ⟨⟨vendorDir, "foo_b.apex"⟩, .plain "foo" 1 2⟩

/-- Two versions of foo with one key. -/
def vendorFoo : World :=
  .ofDirectories [(vendorDir,
    [("foo_a.apex", .apex fooA.archive), ("foo_b.apex", .apex fooB.archive)])]

theorem openAt_vendorFoo {fileName : String}
    (found : (vendorFoo.fs.file ⟨vendorDir, fileName⟩).isSome = true) :
    openAt vendorFoo.fs ⟨vendorDir, fileName⟩ = .ok fooA ∨
      openAt vendorFoo.fs ⟨vendorDir, fileName⟩ = .ok fooB := by
  have member := Directory.mem_names.mpr (Finmap.lookup_isSome.mp found)
  have names : (vendorFoo.fs.files vendorDir).names = ["foo_a.apex", "foo_b.apex"] := by
    decide +kernel
  rw [names] at member
  rcases List.mem_cons.mp member with rfl | last
  · exact .inl rfl
  · cases List.mem_singleton.mp last
    exact .inr rfl

theorem eq_of_openAt_vendorFoo (inDir : apex.path.dir = vendorDir)
    (opened : openAt vendorFoo.fs apex.path = .ok apex) : apex = fooA ∨ apex = fooB := by
  have isAt : apex.path = ⟨vendorDir, apex.path.name⟩ := by rw [← inDir]
  rw [isAt] at opened
  have found : (vendorFoo.fs.file ⟨vendorDir, apex.path.name⟩).isSome = true := by
    rw [(openAt_eq_ok_iff.mp opened).1]
    rfl
  rcases openAt_vendorFoo found with isA | isB
  · exact .inl (Except.ok.inj (opened.symm.trans isA))
  · exact .inr (Except.ok.inj (opened.symm.trans isB))

theorem addPreInstalledApex_lawful_vendorFoo :
    Lawful publicKey (isSelected "foo_a") (create.IsCandidate vendorFoo.fs "foo") [vendorDir]
      (fun stored => ∃ after w', Runs device (create.addPreInstalledApex selectsFooA [vendorDir])
        vendorFoo (.ok after) w' ∧ after.getPreInstalledApex "foo" = stored) := by
  have selects : getApexSelectFilenameFromProp selectsFooA create.multiInstallSelectPropPrefixes
      "foo" = "foo_a" := by decide +kernel
  have allOpen : AllOpen vendorFoo [vendorDir] := by
    rintro d member fileName - found
    cases List.mem_singleton.mp member
    rcases openAt_vendorFoo found with isA | isB
    · exact ⟨_, isA⟩
    · exact ⟨_, isB⟩
  have returns : Ends device (create.addPreInstalledApex selectsFooA [vendorDir]) vendorFoo := by
    refine ends_addPreInstalledApex allOpen selects (by decide) ⟨rfl, rfl, rfl, rfl⟩ ?_
    rintro d member apex inDir opened
    rw [List.mem_singleton.mp member] at inDir
    have isFoo : apex.manifest.name = "foo" := by
      rcases eq_of_openAt_vendorFoo inDir opened with rfl | rfl <;> rfl
    rw [isFoo, selects]
    decide
  refine (addPreInstalledApex_lawful_iff rfl rfl selects (by decide) allOpen returns).mpr ?_
  constructor
  · rintro - before d after split - x y inX isX inY isY
    have inDirs : d ∈ [vendorDir] := by simp [split]
    cases List.mem_singleton.mp inDirs
    have isA {apex : ApexFile} (isCandidate : create.IsCandidate vendorFoo.fs "foo" vendorDir apex)
        (selected : isSelected "foo_a" apex = true) : apex = fooA := by
      refine (eq_of_openAt_vendorFoo isCandidate.inDir isCandidate.opened).resolve_right ?_
      rintro rfl
      exact absurd selected (by decide +kernel)
    rw [isA inX isX, isA inY isY]
  · intro severalKeys
    refine absurd ?_ severalKeys
    rintro d member d' member' x y inX inY
    cases List.mem_singleton.mp member
    cases List.mem_singleton.mp member'
    have hasKey {apex : ApexFile}
        (isCandidate : create.IsCandidate vendorFoo.fs "foo" vendorDir apex) :
        publicKey apex = "key" := by
      rcases eq_of_openAt_vendorFoo isCandidate.inDir isCandidate.opened with rfl | rfl <;> rfl
    rw [hasKey inX, hasKey inY]

/-- Any directory may hold a multi-install APEX, as in the tests. -/
def anyPartition : ApexFileRepository :=
  { create with enforceMultiInstallPartition := false }

def systemApexDir : DirId := .other "/system/apex"

/-- The versions of foo in two directories differ in their keys. -/
def fooWithTwoKeys : World :=
  .ofDirectories [(vendorDir, [("foo_a.apex", .apex fooA.archive)]),
    (systemApexDir, [("foo_b.apex", .apex { fooB.archive with bundledPublicKey := "other" })])]

theorem differing_keys_stored : ¬ Lawful publicKey (isSelected "foo_a")
    (anyPartition.IsCandidate fooWithTwoKeys.fs "foo") [vendorDir, systemApexDir]
    (fun stored => ∃ after w', Runs device
      (anyPartition.addPreInstalledApex selectsFooA [vendorDir, systemApexDir]) fooWithTwoKeys
      (.ok after) w' ∧ after.getPreInstalledApex "foo" = stored) := by
  intro lawful
  have severalKeys : ¬ OneKey publicKey (anyPartition.IsCandidate fooWithTwoKeys.fs "foo")
      [vendorDir, systemApexDir] := by
    intro oneKey
    have same := oneKey vendorDir (by simp) systemApexDir (by simp) fooA
      ⟨⟨systemApexDir, "foo_b.apex"⟩, { fooB.archive with bundledPublicKey := "other" }⟩
      ⟨rfl, by decide +kernel, rfl, rfl, rfl⟩ ⟨rfl, by decide +kernel, rfl, rfl, rfl⟩
    exact absurd same (by decide)
  obtain ⟨result, w', run, stored⟩ := exists_runs deviceHandler_sound
    (anyPartition.addPreInstalledApex selectsFooA [vendorDir, systemApexDir]) fooWithTwoKeys
    (fun result _ => result.toOption.any fun after => after.getPreInstalledApex "foo" = some fooA)
    (by decide +kernel)
  cases result with
  | ok after =>
    have none := lawful.differing severalKeys _ ⟨after, w', run, rfl⟩
    rw [of_decide_eq_true stored] at none
    cases none
  | error e => cases stored

end ApexFileRepository

end Apexd
