import Apexd.Verified.Selection

/-! # Space reservation agrees with selection

`ShouldAllocateSpaceForDecompression` is asked before an OTA whether a compressed APEX of it
will be decompressed afterwards.  It must give the answer that `SelectApexForActivation` gives
once the new APEX is the pre-installed one.
-/

namespace Apexd

open Process Storage

namespace ApexFileRepository

/-- The repository after an OTA brought `apex` as the pre-installed one of its package. -/
def replacePreInstalled (repository : ApexFileRepository) (apex : ApexFile) :
    ApexFileRepository :=
  { repository with preInstalledStore := repository.preInstalledStore.insert apex }

/-- Without a data APEX, a compressed pre-installed APEX is decompressed already. -/
def isDecompressedAlready (repository : ApexFileRepository) (name : String) (version : Int64) :
    Bool :=
  !repository.hasDataVersion name && match repository.getPreInstalledApex name with
    | some preInstalled => preInstalled.isCompressed && preInstalled.manifest.version = version
    | none => false

end ApexFileRepository

/-- Versions that are positive and fit in an `int`. -/
def IsPositiveInt (version : Int64) : Prop :=
  0 < version.toInt ∧ version.toInt < 2 ^ 31

instance (version : Int64) : Decidable (IsPositiveInt version) :=
  inferInstanceAs (Decidable (_ ∧ _))

/-- The repositories the reservation is computed on: data APEXes have a pre-installed version
and are not decompressed ones, and versions are positive and fit in an `int`. -/
structure ApexFileRepository.ForReservation (repository : ApexFileRepository) : Prop where
  preInstalled : ∀ name, repository.hasDataVersion name = true →
    repository.hasPreInstalledVersion name = true
  notDecompressed : ∀ name data, repository.dataStore.find name = some data →
    repository.isDecompressedApex data = false
  dataVersions : ∀ name data, repository.dataStore.find name = some data →
    IsPositiveInt data.manifest.version
  preInstalledVersions : ∀ name apex, repository.preInstalledStore.find name = some apex →
    IsPositiveInt apex.manifest.version

/-- An incoming compressed APEX. -/
structure IncomingCompressed (apex : ApexFile) : Prop where
  compressed : apex.isCompressed = true
  version : IsPositiveInt apex.manifest.version

/-- The incoming APEX will be selected after the OTA and is not decompressed already. -/
def mustDecompress (repository : ApexFileRepository) (incoming : ApexFile) : Bool :=
  let after := repository.replacePreInstalled incoming
  decide (⟨.preInstalled, incoming⟩ ∈
    selectApexForActivation (iterate after.allApexFilesByName) after) &&
  !repository.isDecompressedAlready incoming.manifest.name incoming.manifest.version

theorem cutVersion_of_isPositiveInt {version : Int64} (small : IsPositiveInt version) :
    cutVersion version = version := by
  obtain ⟨positive, bound⟩ := small
  rw [← Int64.toInt_inj, cutVersion, Int32.toInt_toInt64, Int64.toInt_toInt32]
  exact Int.bmod_eq_of_le (by omega) (by omega)

section

variable {repository : ApexFileRepository} {incoming : ApexFile}
  {allApex : List (String × List ApexFileRef)}

theorem find_replacePreInstalled :
    (repository.replacePreInstalled incoming).preInstalledStore.find incoming.manifest.name =
      some incoming :=
  ApexStore.find_insert_self _ _

/-- When the package has a data APEX, the incoming one is selected if it is newer. -/
theorem incoming_mem_select_iff_newer
    (iteration : IsIteration allApex (repository.replacePreInstalled incoming).allApexFilesByName)
    (noSharedLibs : incoming.manifest.provideSharedApexLibs = false) {data : ApexFile}
    (foundData : repository.dataStore.find incoming.manifest.name = some data)
    (small : IsPositiveInt data.manifest.version) :
    ⟨.preInstalled, incoming⟩ ∈
        selectApexForActivation allApex (repository.replacePreInstalled incoming) ↔
      data.manifest.version < incoming.manifest.version := by
  rw [preInstalled_mem_select iteration find_replacePreInstalled foundData, PreInstalledTest,
    noSharedLibs, cutVersion_of_isPositiveInt small]
  simp

/-- The reservation is made for exactly the incoming APEXes that will be decompressed. -/
theorem shouldAllocate_iff (state : repository.ForReservation)
    (noSharedLibs : incoming.manifest.provideSharedApexLibs = false)
    (iteration : IsIteration allApex (repository.replacePreInstalled incoming).allApexFilesByName) :
    shouldAllocateSpaceForDecompression incoming.manifest.name incoming.manifest.version
        repository = true ↔
      ⟨.preInstalled, incoming⟩ ∈
        selectApexForActivation allApex (repository.replacePreInstalled incoming) ∧
      repository.isDecompressedAlready incoming.manifest.name incoming.manifest.version = false := by
  have preInstalled := state.preInstalled incoming.manifest.name
  rw [ApexFileRepository.hasDataVersion, ApexFileRepository.hasPreInstalledVersion] at preInstalled
  rw [shouldAllocateSpaceForDecompression, ApexFileRepository.isDecompressedAlready,
    ApexFileRepository.hasDataVersion, ApexFileRepository.getPreInstalledApex,
    ApexFileRepository.getDataApex]
  cases foundData : repository.dataStore.find incoming.manifest.name with
  | none =>
    have selected := only_mem_select iteration find_replacePreInstalled foundData
    cases foundPre : repository.preInstalledStore.find incoming.manifest.name with
    | none => simp [selected]
    | some current =>
      by_cases compressed : current.isCompressed = true
      · simp [selected, compressed]
        exact ne_comm
      · simp [selected, compressed]
  | some data =>
    rw [incoming_mem_select_iff_newer iteration noSharedLibs foundData
      (state.dataVersions _ _ foundData)]
    rw [foundData] at preInstalled
    obtain ⟨current, foundPre⟩ := Option.isSome_iff_exists.mp (preInstalled rfl)
    simp [foundPre]

end

theorem foldl_reservation {α : Type} (reserve : α → Bool) (size : α → Int64) (xs : List α)
    (total : Int64) :
    xs.foldl (fun result x => if reserve x then result + size x else result) total =
      ((xs.filter reserve).map size).foldl (· + ·) total := by
  induction xs generalizing total with
  | nil => rfl
  | cons x xs ih =>
    rw [List.foldl_cons, ih, List.filter_cons]
    split <;> simp

/-- Space is reserved for an incoming compressed APEX that `ApexFile::Open` accepts if and only
if it has to be decompressed after the OTA, and the size computed for a list of them is that of
the ones that have to be. -/
theorem reservation_agrees_with_selection (repository : ApexFileRepository)
    (state : repository.ForReservation) :
    (∀ incoming, IncomingCompressed incoming →
      incoming.manifest.provideSharedApexLibs = false → ∀ allApex,
      IsIteration allApex (repository.replacePreInstalled incoming).allApexFilesByName →
      (shouldAllocateSpaceForDecompression incoming.manifest.name incoming.manifest.version
          repository = true ↔
        ⟨.preInstalled, incoming⟩ ∈
          selectApexForActivation allApex (repository.replacePreInstalled incoming) ∧
        repository.isDecompressedAlready incoming.manifest.name incoming.manifest.version =
          false)) ∧
    ∀ incomings : List (ApexFile × Int64), (∀ entry ∈ incomings, IncomingCompressed entry.1 ∧
        entry.1.manifest.provideSharedApexLibs = false) →
      calculateSizeForCompressedApex
          (incomings.map fun (apex, size) => (apex.manifest.name, apex.manifest.version, size))
          repository =
        ((incomings.filter fun entry => mustDecompress repository entry.1).map
          Prod.snd).foldl (· + ·) 0 := by
  constructor
  · intro incoming _ noSharedLibs allApex iteration
    exact shouldAllocate_iff state noSharedLibs iteration
  · intro incomings valid
    have agrees : ∀ entry ∈ incomings,
        shouldAllocateSpaceForDecompression entry.1.manifest.name entry.1.manifest.version
          repository = mustDecompress repository entry.1 := by
      intro entry member
      rw [Bool.eq_iff_iff, shouldAllocate_iff state (valid entry member).2
        (isIteration_iterate _), mustDecompress]
      simp
    rw [calculateSizeForCompressedApex, List.foldl_map, ← List.filter_congr agrees]
    exact foldl_reservation _ _ _ _

/-! ## A repository with both files -/

def dataVersion (version : Int64) : ApexFile :=
  ⟨⟨.active, "foo.apex"⟩, .plain "com.android.foo" version 1⟩

/-- An APEX of an OTA, compressed, with the given flag. -/
def incomingVersion (version : Int64) (provideSharedApexLibs : Bool) : ApexFile :=
  let archive := Archive.plain "com.android.foo" version 2
  ⟨⟨systemDir, "foo.capex"⟩, { archive with
    isCompressed := true
    manifest := { archive.manifest with provideSharedApexLibs := provideSharedApexLibs } }⟩

/-- Version 2 of a package is pre-installed and version 5 is on data. -/
def bothVersions : ApexFileRepository :=
  { ApexFileRepository.create with
    preInstalledStore := ApexStore.empty.insert smallVersion
    dataStore := ApexStore.empty.insert (dataVersion 5) }

theorem eq_of_find_insert_empty {apex found : ApexFile} {name : String}
    (lookup : (ApexStore.empty.insert apex).find name = some found) : found = apex := by
  by_cases same : name = apex.manifest.name
  · subst same
    rw [ApexStore.find_insert_self] at lookup
    exact (Option.some.inj lookup).symm
  · rw [ApexStore.find_insert_ne _ _ same] at lookup
    cases lookup

theorem bothVersions_forReservation : bothVersions.ForReservation where
  preInstalled name found := by
    obtain ⟨data, found⟩ := Option.isSome_iff_exists.mp found
    have same := ApexStore.name_of_find found
    rw [eq_of_find_insert_empty found] at same
    rw [← same]
    rfl
  notDecompressed name data found := by
    rw [eq_of_find_insert_empty found]
    rfl
  dataVersions name data found := by
    rw [eq_of_find_insert_empty found]
    decide
  preInstalledVersions name apex found := by
    rw [eq_of_find_insert_empty found]
    decide

theorem reservation_agrees_with_selection_bothVersions :
    shouldAllocateSpaceForDecompression "com.android.foo" 7 bothVersions = true ↔
      ⟨.preInstalled, incomingVersion 7 false⟩ ∈ selectApexForActivation
        (iterate (bothVersions.replacePreInstalled (incomingVersion 7 false)).allApexFilesByName)
        (bothVersions.replacePreInstalled (incomingVersion 7 false)) ∧
      bothVersions.isDecompressedAlready "com.android.foo" 7 = false :=
  (reservation_agrees_with_selection bothVersions bothVersions_forReservation).1
    (incomingVersion 7 false) ⟨rfl, by decide⟩ rfl _ (isIteration_iterate _)

/-- A compressed APEX that claims to provide shared libraries would be selected although no
space is reserved for it; `ApexFile::Open` accepts no such APEX. -/
theorem reservation_disagrees_for_sharedLibs :
    ¬ ∀ (repository : ApexFileRepository), repository.ForReservation →
      ∀ incoming, IncomingCompressed incoming → ∀ allApex,
        IsIteration allApex (repository.replacePreInstalled incoming).allApexFilesByName →
        (shouldAllocateSpaceForDecompression incoming.manifest.name incoming.manifest.version
            repository = true ↔
          ⟨.preInstalled, incoming⟩ ∈
            selectApexForActivation allApex (repository.replacePreInstalled incoming) ∧
          repository.isDecompressedAlready incoming.manifest.name incoming.manifest.version =
            false) := by
  intro claim
  have iteration := isIteration_iterate
    (bothVersions.replacePreInstalled (incomingVersion 3 true)).allApexFilesByName
  have agrees := claim bothVersions bothVersions_forReservation (incomingVersion 3 true)
    ⟨rfl, by decide⟩ _ iteration
  have selected := (preInstalled_mem_select iteration find_replacePreInstalled
    (ApexStore.find_insert_self .empty (dataVersion 5))).mpr
      (show (3 : Int64) ≠ cutVersion 5 by decide)
  exact absurd (agrees.mpr ⟨selected, rfl⟩) (by decide)

end Apexd
