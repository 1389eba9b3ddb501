import Apexd.Model.Selection
import Apexd.Model.RepositoryScan

/-! # Which files are selected for activation

`AllApexFilesByName` groups the at most two files of every package, so the selection is decided
package by package.  The two files of a package are compared after the version of the other one
was cut to 32 bits, and a decompressed APEX passes for a pre-installed one.  The selection meets its
specification exactly when the two version numbers of a package do not let either show.
-/

namespace Apexd

open Process Storage

/-! ## The files of a package -/

namespace ApexFileRepository

/-- The entries of a package: the pre-installed file, then the data file. -/
def packageFiles (repository : ApexFileRepository) (name : String) : List ApexFileRef :=
  ((repository.preInstalledStore.find name).map (ApexFileRef.mk .preInstalled)).toList ++
    ((repository.dataStore.find name).map (ApexFileRef.mk .data)).toList

theorem name_of_mem_packageFiles {repository : ApexFileRepository} {name : String}
    {ref : ApexFileRef} (member : ref ∈ repository.packageFiles name) :
    ref.file.manifest.name = name := by
  simp only [packageFiles, List.mem_append, Option.mem_toList, Option.map_eq_some_iff] at member
  rcases member with ⟨apex, found, rfl⟩ | ⟨apex, found, rfl⟩
  · exact ApexStore.name_of_find found
  · exact ApexStore.name_of_find found

end ApexFileRepository

theorem filterMap_single {α : Type} {names : List String} (nodup : names.Nodup) (name : String)
    (f : String → Option α) :
    names.filterMap (fun other => if other = name then f other else none) =
      if name ∈ names then (f name).toList else [] := by
  induction names with
  | nil => rfl
  | cons head rest ih =>
    obtain ⟨fresh, restNodup⟩ := List.nodup_cons.mp nodup
    rw [List.filterMap_cons, ih restNodup]
    by_cases same : head = name
    · subst same
      cases f head <;> simp [fresh]
    · simp [same, Ne.symm same]

theorem ApexStore.filter_toList (store : ApexStore) (name : String) :
    store.toList.filter (fun apex => apex.manifest.name = name) = (store.find name).toList := by
  have byKey (other : String) :
      (store.find other).filter (fun apex => apex.manifest.name = name) =
        if other = name then store.find other else none := by
    cases found : store.find other with
    | none => simp
    | some apex =>
      rw [Option.filter_some, name_of_find found]
      by_cases same : other = name <;> simp [same]
  rw [toList, List.filter_filterMap]
  simp only [byKey]
  rw [filterMap_single (Directory.nodup_names _)]
  by_cases member : name ∈ Directory.names store.files
  · rw [if_pos member]
  · have absent : store.find name = none :=
      Finmap.lookup_eq_none.mpr fun found => member (Directory.mem_names.mpr found)
    rw [if_neg member, absent]
    rfl

theorem lookup_foldl_addToGroup (refs : List ApexFileRef)
    (result : Finmap fun _ : String => List ApexFileRef) (name : String) :
    (refs.foldl ApexFileRepository.addToGroup result).lookup name =
      let group := refs.filter fun ref => ref.file.manifest.name = name
      if group = [] then result.lookup name
      else some ((result.lookup name).getD [] ++ group) := by
  induction refs generalizing result with
  | nil => simp
  | cons ref rest ih =>
    rw [List.foldl_cons, ih]
    by_cases same : ref.file.manifest.name = name
    · subst same
      simp only [ApexFileRepository.addToGroup, Finmap.lookup_insert, List.filter_cons]
      by_cases none : rest.filter (fun other => other.file.manifest.name = ref.file.manifest.name) = []
      · simp [none]
      · simp [none]
    · have other : name ≠ ref.file.manifest.name := Ne.symm same
      simp only [ApexFileRepository.addToGroup, Finmap.lookup_insert_of_ne _ other]
      simp [same]

namespace ApexFileRepository

theorem lookup_allApexFilesByName (repository : ApexFileRepository) (name : String) :
    repository.allApexFilesByName.lookup name =
      if repository.packageFiles name = [] then none else some (repository.packageFiles name) := by
  have group : (repository.getPreInstalledApexFiles ++ repository.getDataApexFiles).filter
      (fun ref => ref.file.manifest.name = name) = repository.packageFiles name := by
    rw [List.filter_append, getPreInstalledApexFiles, getDataApexFiles, List.filter_map,
      List.filter_map]
    have pre := repository.preInstalledStore.filter_toList name
    have data := repository.dataStore.filter_toList name
    simp only [Function.comp_def] at pre data ⊢
    rw [pre, data, packageFiles]
    cases repository.preInstalledStore.find name <;>
      cases repository.dataStore.find name <;> rfl
  rw [allApexFilesByName, lookup_foldl_addToGroup, group]
  simp

end ApexFileRepository

/-- The entries of a map in the order of the keys. -/
def iterate {α : Type} (map : Finmap fun _ : String => α) : List (String × α) :=
  (Directory.names map).filterMap fun key => (map.lookup key).map (key, ·)

theorem isIteration_iterate {α : Type} (map : Finmap fun _ : String => α) :
    IsIteration (iterate map) map := by
  constructor
  · refine (Directory.nodup_names map).filterMap ?_
    intro key key' entry found found'
    obtain ⟨value, _, rfl⟩ := Option.map_eq_some_iff.mp found
    obtain ⟨value', _, equal⟩ := Option.map_eq_some_iff.mp found'
    exact (congrArg Prod.fst equal).symm
  · intro key value
    simp only [iterate, List.mem_filterMap, Option.map_eq_some_iff, Prod.mk.injEq]
    constructor
    · rintro ⟨key', _, value', found, rfl, rfl⟩
      exact found
    · intro found
      refine ⟨key, ?_, value, found, rfl, rfl⟩
      exact Directory.mem_names.mpr (Finmap.lookup_isSome.mp (Option.isSome_iff_exists.mpr ⟨_, found⟩))

theorem selectFromPackage_sublist (repository : ApexFileRepository) (name : String)
    (files : List ApexFileRef) : (selectFromPackage repository name files).Sublist files := by
  unfold selectFromPackage
  split
  · split <;> simp
  · rename_i first second
    split
    · dsimp only
      split <;> split <;> simp
    · simp
  · simp

section

variable {repository : ApexFileRepository} {allApex : List (String × List ApexFileRef)}

theorem mem_allApex (iteration : IsIteration allApex repository.allApexFilesByName)
    {name : String} {files : List ApexFileRef} :
    (name, files) ∈ allApex ↔
      files = repository.packageFiles name ∧ repository.packageFiles name ≠ [] := by
  rw [iteration.2, repository.lookup_allApexFilesByName]
  split
  · rename_i none
    simp [none]
  · rename_i some
    simp [some, eq_comm]

/-- The selection takes the files of a package to those that `selectFromPackage` keeps. -/
theorem mem_selectApexForActivation
    (iteration : IsIteration allApex repository.allApexFilesByName) {ref : ApexFileRef} :
    ref ∈ selectApexForActivation allApex repository ↔
      ref ∈ selectFromPackage repository ref.file.manifest.name
        (repository.packageFiles ref.file.manifest.name) := by
  rw [selectApexForActivation, List.mem_flatMap]
  constructor
  · rintro ⟨⟨name, files⟩, member, selected⟩
    obtain ⟨rfl, _⟩ := (mem_allApex iteration).mp member
    have inPackage := (selectFromPackage_sublist repository name _).subset selected
    rw [ApexFileRepository.name_of_mem_packageFiles inPackage]
    exact selected
  · intro selected
    have inPackage := (selectFromPackage_sublist repository _ _).subset selected
    exact ⟨_, (mem_allApex iteration).mpr ⟨rfl, List.ne_nil_of_mem inPackage⟩, selected⟩

theorem nodup_packageFiles (repository : ApexFileRepository) (name : String) :
    (repository.packageFiles name).Nodup := by
  unfold ApexFileRepository.packageFiles
  cases repository.preInstalledStore.find name <;> cases repository.dataStore.find name <;> simp

theorem nodup_selectApexForActivation
    (iteration : IsIteration allApex repository.allApexFilesByName) :
    (selectApexForActivation allApex repository).Nodup := by
  rw [selectApexForActivation, List.nodup_flatMap]
  constructor
  · rintro ⟨name, files⟩ member
    obtain ⟨rfl, _⟩ := (mem_allApex iteration).mp member
    exact (nodup_packageFiles repository name).sublist (selectFromPackage_sublist repository name _)
  · refine iteration.1.imp_of_mem ?_
    rintro ⟨name, files⟩ ⟨name', files'⟩ member member' ne ref selected selected'
    obtain ⟨rfl, _⟩ := (mem_allApex iteration).mp member
    obtain ⟨rfl, _⟩ := (mem_allApex iteration).mp member'
    have same := ApexFileRepository.name_of_mem_packageFiles
      ((selectFromPackage_sublist repository name _).subset selected)
    have same' := ApexFileRepository.name_of_mem_packageFiles
      ((selectFromPackage_sublist repository name' _).subset selected')
    exact ne (by rw [← same, ← same'])

end

/-! ## The specification -/

/-- Of the two files of a package, the one with the highest manifest version; on a tie the data
one. -/
def highestFile (preInstalled data : ApexFile) : ApexFileRef :=
  if data.manifest.version < preInstalled.manifest.version then ⟨.preInstalled, preInstalled⟩
  else ⟨.data, data⟩

def lowerFile (preInstalled data : ApexFile) : ApexFileRef :=
  if data.manifest.version < preInstalled.manifest.version then ⟨.data, data⟩
  else ⟨.preInstalled, preInstalled⟩

/-- What the documentation of `SelectApexForActivation` asks of the selected files. -/
structure SelectionCorrect (repository : ApexFileRepository) (selected : List ApexFileRef) :
    Prop where
  nodup : selected.Nodup
  stored : ∀ ref ∈ selected, ref ∈ repository.packageFiles ref.file.manifest.name
  mustBePreInstalled : ∀ name, repository.preInstalledStore.find name = none →
    ∀ ref ∈ selected, ref.file.manifest.name ≠ name
  onlyPreInstalled : ∀ name preInstalled, repository.preInstalledStore.find name = some preInstalled →
    repository.dataStore.find name = none → ⟨.preInstalled, preInstalled⟩ ∈ selected
  highest : ∀ name preInstalled data,
    repository.preInstalledStore.find name = some preInstalled →
    repository.dataStore.find name = some data → highestFile preInstalled data ∈ selected
  noOther : ∀ name preInstalled data,
    repository.preInstalledStore.find name = some preInstalled →
    repository.dataStore.find name = some data →
    preInstalled.manifest.provideSharedApexLibs = false →
    data.manifest.provideSharedApexLibs = false → lowerFile preInstalled data ∉ selected
  sharedLibs : ∀ name preInstalled data,
    repository.preInstalledStore.find name = some preInstalled →
    repository.dataStore.find name = some data →
    preInstalled.manifest.provideSharedApexLibs = true →
    data.manifest.provideSharedApexLibs = true →
    (lowerFile preInstalled data ∈ selected ↔
      preInstalled.manifest.version < data.manifest.version)

/-- A version as the other file of the package is compared with: cut to an `int`. -/
def cutVersion (version : Int64) : Int64 :=
  version.toInt32.toInt64

/-- The test `selectApex` makes on the pre-installed file of a package with two files. -/
def PreInstalledTest (preInstalled data : ApexFile) : Prop :=
  if preInstalled.manifest.provideSharedApexLibs then
    preInstalled.manifest.version ≠ cutVersion data.manifest.version
  else cutVersion data.manifest.version < preInstalled.manifest.version

/-- The test on the data file; `passes` says that it passes for a pre-installed one. -/
def DataTest (passes : Bool) (preInstalled data : ApexFile) : Prop :=
  if passes then
    if data.manifest.provideSharedApexLibs then
      data.manifest.version ≠ cutVersion preInstalled.manifest.version
    else cutVersion preInstalled.manifest.version < data.manifest.version
  else cutVersion preInstalled.manifest.version ≤ data.manifest.version

/-- The cut does not move the data version `d` across the pre-installed version `p`, as far as the
test on the pre-installed file depends on it. -/
def DataVersionKept (preInstalled data : ApexFile) : Prop :=
  let p := preInstalled.manifest.version
  let d := data.manifest.version
  match preInstalled.manifest.provideSharedApexLibs, data.manifest.provideSharedApexLibs with
  | false, false => ¬ (d < p ∧ p ≤ cutVersion d) ∧ ¬ (cutVersion d < p ∧ p ≤ d)
  | false, true => ¬ (d < p ∧ p ≤ cutVersion d)
  | true, false => ¬ (d < p ∧ p = cutVersion d)
  | true, true => p = cutVersion d ↔ p = d

/-- The cut does not move the pre-installed version `p` across the data version `d`, as far as the
test on the data file depends on it.  A data file that passes for a pre-installed one (it is a
decompressed APEX) loses a tie, and next to shared libraries it is selected also when it is lower. -/
def PreInstalledVersionKept (passes : Bool) (preInstalled data : ApexFile) : Prop :=
  let p := preInstalled.manifest.version
  let d := data.manifest.version
  match passes, preInstalled.manifest.provideSharedApexLibs,
    data.manifest.provideSharedApexLibs with
  | false, false, false | false, true, true =>
    ¬ (p ≤ d ∧ d < cutVersion p) ∧ ¬ (cutVersion p ≤ d ∧ d < p)
  | false, false, true | false, true, false => ¬ (p ≤ d ∧ d < cutVersion p)
  | true, false, false => ¬ (p ≤ d ∧ d ≤ cutVersion p) ∧ ¬ (cutVersion p < d ∧ d < p)
  | true, false, true => ¬ (p ≤ d ∧ d = cutVersion p)
  | true, true, false => ¬ (p ≤ d ∧ d ≤ cutVersion p)
  | true, true, true => ¬ (p ≤ d ∧ d = cutVersion p) ∧ ¬ (d < p ∧ d ≠ cutVersion p)

/-- The condition on the versions of the two files of a package. -/
def VersionsKept (repository : ApexFileRepository) (preInstalled data : ApexFile) : Prop :=
  DataVersionKept preInstalled data ∧
    PreInstalledVersionKept (repository.isPreInstalledApex data) preInstalled data

theorem selectApex_preInstalled {repository : ApexFileRepository} {apex : ApexFile}
    (passes : repository.isPreInstalledApex apex = true) (data : ApexFile) :
    selectApex repository apex data.manifest.version.toInt32 = true ↔
      PreInstalledTest apex data := by
  rw [selectApex, PreInstalledTest, cutVersion, passes]
  cases apex.manifest.provideSharedApexLibs <;> simp

theorem selectApex_data (repository : ApexFileRepository) (apex preInstalled : ApexFile) :
    selectApex repository apex preInstalled.manifest.version.toInt32 = true ↔
      DataTest (repository.isPreInstalledApex apex) preInstalled apex := by
  rw [selectApex, DataTest, cutVersion]
  cases repository.isPreInstalledApex apex <;> cases apex.manifest.provideSharedApexLibs <;>
    simp [Int64.lt_iff_toInt_lt, Int64.le_iff_toInt_le, ← Int64.toInt_inj]
  omega

theorem isPreInstalledApex_of_find {repository : ApexFileRepository} {name : String}
    {apex : ApexFile} (found : repository.preInstalledStore.find name = some apex) :
    repository.isPreInstalledApex apex = true := by
  simp [ApexFileRepository.isPreInstalledApex, ApexStore.name_of_find found, found]

section

variable {repository : ApexFileRepository} {allApex : List (String × List ApexFileRef)}
  {name : String} {preInstalled data : ApexFile}

theorem preInstalled_mem_select (iteration : IsIteration allApex repository.allApexFilesByName)
    (foundPre : repository.preInstalledStore.find name = some preInstalled)
    (foundData : repository.dataStore.find name = some data) :
    ⟨.preInstalled, preInstalled⟩ ∈ selectApexForActivation allApex repository ↔
      PreInstalledTest preInstalled data := by
  rw [mem_selectApexForActivation iteration, ApexStore.name_of_find foundPre,
    ApexFileRepository.packageFiles, foundPre, foundData,
    ← selectApex_preInstalled (isPreInstalledApex_of_find foundPre)]
  simp only [Option.map_some, Option.toList_some, List.singleton_append, selectFromPackage,
    ApexFileRepository.hasPreInstalledVersion, foundPre, Option.isSome_some, if_true]
  rw [List.mem_append]
  split <;> split <;> simp_all

theorem data_mem_select (iteration : IsIteration allApex repository.allApexFilesByName)
    (foundPre : repository.preInstalledStore.find name = some preInstalled)
    (foundData : repository.dataStore.find name = some data) :
    ⟨.data, data⟩ ∈ selectApexForActivation allApex repository ↔
      DataTest (repository.isPreInstalledApex data) preInstalled data := by
  rw [mem_selectApexForActivation iteration, ApexStore.name_of_find foundData,
    ApexFileRepository.packageFiles, foundPre, foundData, ← selectApex_data]
  simp only [Option.map_some, Option.toList_some, List.singleton_append, selectFromPackage,
    ApexFileRepository.hasPreInstalledVersion, foundPre, Option.isSome_some, if_true]
  rw [List.mem_append]
  split <;> split <;> simp_all

/-- The test on the pre-installed file decides as the specification asks, in the packages where
the specification asks for something. -/
theorem preInstalledTest_decides_iff (preInstalled data : ApexFile) :
    (data.manifest.version < preInstalled.manifest.version ∨
        preInstalled.manifest.provideSharedApexLibs = data.manifest.provideSharedApexLibs →
      (PreInstalledTest preInstalled data ↔
        data.manifest.version < preInstalled.manifest.version ∨
          (preInstalled.manifest.provideSharedApexLibs = true ∧
            preInstalled.manifest.version < data.manifest.version))) ↔
      DataVersionKept preInstalled data := by
  unfold PreInstalledTest DataVersionKept
  cases preInstalled.manifest.provideSharedApexLibs <;>
    cases data.manifest.provideSharedApexLibs <;>
    simp only [ne_eq, Int64.lt_iff_toInt_lt, Int64.le_iff_toInt_le, ← Int64.toInt_inj] <;> grind

theorem dataTest_decides_iff (passes : Bool) (preInstalled data : ApexFile) :
    (preInstalled.manifest.version ≤ data.manifest.version ∨
        preInstalled.manifest.provideSharedApexLibs = data.manifest.provideSharedApexLibs →
      (DataTest passes preInstalled data ↔
        preInstalled.manifest.version ≤ data.manifest.version)) ↔
      PreInstalledVersionKept passes preInstalled data := by
  unfold DataTest PreInstalledVersionKept
  cases passes <;> cases preInstalled.manifest.provideSharedApexLibs <;>
    cases data.manifest.provideSharedApexLibs <;>
    simp only [ne_eq, Int64.lt_iff_toInt_lt, Int64.le_iff_toInt_le, ← Int64.toInt_inj] <;> grind

/-- What the specification says of a package with two files, for their versions. -/
theorem versionsKept_iff (iteration : IsIteration allApex repository.allApexFilesByName)
    (foundPre : repository.preInstalledStore.find name = some preInstalled)
    (foundData : repository.dataStore.find name = some data) :
    VersionsKept repository preInstalled data ↔
      highestFile preInstalled data ∈ selectApexForActivation allApex repository ∧
      (preInstalled.manifest.provideSharedApexLibs = false →
        data.manifest.provideSharedApexLibs = false →
        lowerFile preInstalled data ∉ selectApexForActivation allApex repository) ∧
      (preInstalled.manifest.provideSharedApexLibs = true →
        data.manifest.provideSharedApexLibs = true →
        (lowerFile preInstalled data ∈ selectApexForActivation allApex repository ↔
          preInstalled.manifest.version < data.manifest.version)) := by
  have preSelected := preInstalled_mem_select iteration foundPre foundData
  have dataSelected := data_mem_select iteration foundPre foundData
  rw [VersionsKept, ← preInstalledTest_decides_iff, ← dataTest_decides_iff]
  by_cases lower : data.manifest.version < preInstalled.manifest.version
  · -- the pre-installed file is the highest
    have notLe : ¬ preInstalled.manifest.version ≤ data.manifest.version := by
      simpa [Int64.not_le] using lower
    have notLt : ¬ preInstalled.manifest.version < data.manifest.version := Int64.lt_asymm lower
    rw [highestFile, lowerFile, if_pos lower, if_pos lower, preSelected, dataSelected]
    cases preInstalled.manifest.provideSharedApexLibs <;>
      cases data.manifest.provideSharedApexLibs <;> simp [lower, notLe, notLt]
  · have le : preInstalled.manifest.version ≤ data.manifest.version := by
      simpa [Int64.not_lt] using lower
    rw [highestFile, lowerFile, if_neg lower, if_neg lower, preSelected, dataSelected]
    cases preInstalled.manifest.provideSharedApexLibs <;>
      cases data.manifest.provideSharedApexLibs <;> simp [lower, le, and_comm]

theorem versionsKept_of_correct (iteration : IsIteration allApex repository.allApexFilesByName)
    (correct : SelectionCorrect repository (selectApexForActivation allApex repository))
    (foundPre : repository.preInstalledStore.find name = some preInstalled)
    (foundData : repository.dataStore.find name = some data) :
    VersionsKept repository preInstalled data := by
  refine (versionsKept_iff iteration foundPre foundData).mpr ⟨?_, ?_, ?_⟩
  · exact correct.highest name preInstalled data foundPre foundData
  · exact correct.noOther name preInstalled data foundPre foundData
  · exact correct.sharedLibs name preInstalled data foundPre foundData

theorem not_mem_select_of_not_preInstalled
    (iteration : IsIteration allApex repository.allApexFilesByName)
    (absent : repository.preInstalledStore.find name = none) {ref : ApexFileRef}
    (selected : ref ∈ selectApexForActivation allApex repository) :
    ref.file.manifest.name ≠ name := by
  rintro rfl
  rw [mem_selectApexForActivation iteration, ApexFileRepository.packageFiles, absent] at selected
  cases found : repository.dataStore.find ref.file.manifest.name <;>
    simp [selectFromPackage, ApexFileRepository.hasPreInstalledVersion, absent, found] at selected

theorem only_mem_select (iteration : IsIteration allApex repository.allApexFilesByName)
    (foundPre : repository.preInstalledStore.find name = some preInstalled)
    (absent : repository.dataStore.find name = none) :
    ⟨.preInstalled, preInstalled⟩ ∈ selectApexForActivation allApex repository := by
  rw [mem_selectApexForActivation iteration, ApexStore.name_of_find foundPre,
    ApexFileRepository.packageFiles, foundPre, absent]
  simp [selectFromPackage, ApexFileRepository.hasPreInstalledVersion, foundPre]

/-- Versions that fit in 32 bits are not changed by the cut.  Then only a data file that passes for
a pre-installed one can be misjudged: it must not tie, and not be lower when both files provide
shared libraries. -/
theorem versionsKept_iff_of_small
    (smallPre : cutVersion preInstalled.manifest.version = preInstalled.manifest.version)
    (smallData : cutVersion data.manifest.version = data.manifest.version) :
    VersionsKept repository preInstalled data ↔
      repository.isPreInstalledApex data = false ∨
      preInstalled.manifest.version < data.manifest.version ∨
      (data.manifest.version < preInstalled.manifest.version ∧
        ¬ (preInstalled.manifest.provideSharedApexLibs = true ∧
          data.manifest.provideSharedApexLibs = true)) := by
  unfold VersionsKept DataVersionKept PreInstalledVersionKept
  dsimp only
  rw [smallPre, smallData]
  cases repository.isPreInstalledApex data <;>
    cases preInstalled.manifest.provideSharedApexLibs <;>
    cases data.manifest.provideSharedApexLibs <;>
    simp only [ne_eq, Int64.lt_iff_toInt_lt, Int64.le_iff_toInt_le, ← Int64.toInt_inj] <;> grind

end

/-- The selection meets its specification exactly when, in every package with two files, neither
version is moved across the other one when it is cut to 32 bits, and no decompressed APEX ties. -/
theorem selectionCorrect_iff (repository : ApexFileRepository)
    (allApex : List (String × List ApexFileRef))
    (iteration : IsIteration allApex repository.allApexFilesByName) :
    SelectionCorrect repository (selectApexForActivation allApex repository) ↔
      ∀ name preInstalled data, repository.preInstalledStore.find name = some preInstalled →
        repository.dataStore.find name = some data →
        VersionsKept repository preInstalled data := by
  constructor
  · intro correct name preInstalled data foundPre foundData
    exact versionsKept_of_correct iteration correct foundPre foundData
  · intro kept
    have package {name preInstalled data} (foundPre : _) (foundData : _) :=
      (versionsKept_iff iteration foundPre foundData).mp
        (kept name preInstalled data foundPre foundData)
    exact {
      nodup := nodup_selectApexForActivation iteration
      stored := fun ref selected => (selectFromPackage_sublist repository _ _).subset
        ((mem_selectApexForActivation iteration).mp selected)
      mustBePreInstalled := fun name absent ref selected =>
        not_mem_select_of_not_preInstalled iteration absent selected
      onlyPreInstalled := fun name preInstalled foundPre absent =>
        only_mem_select iteration foundPre absent
      highest := fun name preInstalled data foundPre foundData => (package foundPre foundData).1
      noOther := fun name preInstalled data foundPre foundData => (package foundPre foundData).2.1
      sharedLibs := fun name preInstalled data foundPre foundData =>
        (package foundPre foundData).2.2 }

/-! ## A pre-installed file and one on data -/

def systemDir : DirId := .other "/system/apex"

def smallVersion : ApexFile :=
  ⟨⟨systemDir, "foo.apex"⟩, .plain "com.android.foo" 2 0⟩

def newerVersion : ApexFile :=
  ⟨⟨.active, "com.android.foo@3.apex"⟩, .plain "com.android.foo" 3 1⟩

def hugeVersion : ApexFile :=
  ⟨⟨.active, "com.android.foo@4294967297.apex"⟩, .plain "com.android.foo" 4294967297 1⟩

/-- A device with version 2 of a package pre-installed and the given file on data. -/
def twoFilesDevice (data : ApexFile) : World := .ofDirectories [
  (systemDir, [(smallVersion.path.name, .apex smallVersion.archive)]),
  (.active, [(data.path.name, .apex data.archive)])]

def collectTwoFiles : Procedure ApexFileRepository := do
  let repository ← ApexFileRepository.create.addPreInstalledApex (.plain .create) [systemDir]
  repository.addDataApex .active

def collectsBoth (data : ApexFile) (result : Except String ApexFileRepository) (_ : World) :
    Bool :=
  match result with
  | .ok repository => repository.preInstalledStore.toList = [smallVersion] ∧
      repository.dataStore.toList = [data]
  | .error _ => false

theorem ApexStore.find_iff_of_toList_eq_singleton {store : ApexStore} {only : ApexFile}
    (entries : store.toList = [only]) {name : String} {apex : ApexFile} :
    store.find name = some apex ↔ name = only.manifest.name ∧ apex = only := by
  have member (apex : ApexFile) : store.find apex.manifest.name = some apex ↔ apex = only := by
    rw [← ApexStore.mem_toList, entries, List.mem_singleton]
  constructor
  · intro found
    have keyed := ApexStore.name_of_find found
    have same := (member apex).mp (by rw [keyed]; exact found)
    exact ⟨by rw [← keyed, same], same⟩
  · rintro ⟨rfl, rfl⟩
    exact (member _).mpr rfl

/-- `AddPreInstalledApex` and `AddDataApex` collect the two files. -/
theorem exists_reachable_twoFiles {data : ApexFile}
    (collected : ∃ result w,
      Runs device collectTwoFiles (twoFilesDevice data) result w ∧
        collectsBoth data result w = true) :
    ∃ repository, ApexFileRepository.Reachable (.plain .create) repository ∧
      repository.preInstalledStore.toList = [smallVersion] ∧
      repository.dataStore.toList = [data] := by
  obtain ⟨result, w, run, check⟩ := collected
  cases result with
  | error e => cases check
  | ok repository =>
    obtain ⟨first, middle, runPre, runData⟩ := runs_bind.mp run
    cases first with
    | error e => cases runData.1
    | ok collected =>
      exact ⟨repository, .addDataApex (.addPreInstalledApex .create runPre) runData,
        of_decide_eq_true check⟩

theorem exists_reachable_newerVersion : ∃ repository,
    ApexFileRepository.Reachable (.plain .create) repository ∧
    repository.preInstalledStore.toList = [smallVersion] ∧
    repository.dataStore.toList = [newerVersion] :=
  exists_reachable_twoFiles
    (exists_runs deviceHandler_sound collectTwoFiles (twoFilesDevice newerVersion)
      (collectsBoth newerVersion) rfl)

theorem exists_reachable_hugeVersion : ∃ repository,
    ApexFileRepository.Reachable (.plain .create) repository ∧
    repository.preInstalledStore.toList = [smallVersion] ∧
    repository.dataStore.toList = [hugeVersion] :=
  exists_reachable_twoFiles
    (exists_runs deviceHandler_sound collectTwoFiles (twoFilesDevice hugeVersion)
      (collectsBoth hugeVersion) rfl)

/-- With the data version 3 the selection is correct, so that it takes the data file only. -/
theorem selectionCorrect_iff_newerVersion :
    ∃ repository, ApexFileRepository.Reachable (.plain .create) repository ∧
      repository.preInstalledStore.toList = [smallVersion] ∧
      repository.dataStore.toList = [newerVersion] ∧
      SelectionCorrect repository
        (selectApexForActivation (iterate repository.allApexFilesByName) repository) := by
  obtain ⟨repository, reachable, onlyPre, onlyData⟩ := exists_reachable_newerVersion
  refine ⟨repository, reachable, onlyPre, onlyData, ?_⟩
  refine (selectionCorrect_iff repository _ (isIteration_iterate _)).mpr ?_
  intro name preInstalled data foundPre foundData
  obtain ⟨rfl, rfl⟩ := (ApexStore.find_iff_of_toList_eq_singleton onlyPre).mp foundPre
  obtain ⟨-, rfl⟩ := (ApexStore.find_iff_of_toList_eq_singleton onlyData).mp foundData
  exact (versionsKept_iff_of_small (by decide) (by decide)).mpr (.inr (.inl (by decide)))

/-- Both versions of the package are selected, although neither provides shared libraries. -/
theorem selection_incorrect_hugeVersion :
    ¬ ∀ (env : Environment) (repository : ApexFileRepository),
      ApexFileRepository.Reachable env repository →
      ∀ allApex, IsIteration allApex repository.allApexFilesByName →
        SelectionCorrect repository (selectApexForActivation allApex repository) := by
  intro claim
  obtain ⟨repository, reachable, onlyPre, onlyData⟩ := exists_reachable_hugeVersion
  have foundPre := (ApexStore.find_iff_of_toList_eq_singleton onlyPre).mpr ⟨rfl, rfl⟩
  have foundData := (ApexStore.find_iff_of_toList_eq_singleton onlyData).mpr ⟨rfl, rfl⟩
  have iteration := isIteration_iterate repository.allApexFilesByName
  have correct := claim (.plain .create) repository reachable _ iteration
  have kept : DataVersionKept smallVersion hugeVersion :=
    (versionsKept_of_correct iteration correct foundPre foundData).1
  -- 1 < 2 ≤ 2 ^ 32 + 1
  exact kept.2 ⟨by decide, by decide⟩

end Apexd
