import Apexd.Model.RepositoryScan
import Apexd.Verified.BootSelection

/-! # The data APEXes that are collected

`AddDataApex` is a fold over the files of a directory.  What is known of it after some of the
files is about these files as a set, so that the order of the listing does not matter.
-/

namespace Apexd

open Process Storage

namespace ApexFileRepository

variable {repository before after : ApexFileRepository} {fs : FileSystem DirId Content}
  {files : List FilePath} {apex entry : ApexFile} {name : String}

/-- One of the files is this APEX, and it may be used. -/
def Accepts (repository : ApexFileRepository) (fs : FileSystem DirId Content)
    (files : List FilePath) (apex : ApexFile) : Prop :=
  ∃ path ∈ files, openAt fs path = .ok apex ∧ repository.acceptsDataApex apex = true

/-- The data store has the best of the accepted files and of what it had before. -/
structure HasBest (before : ApexFileRepository) (accepted : ApexFile → Prop)
    (after : ApexFileRepository) : Prop where
  preInstalled : after.preInstalledStore = before.preInstalledStore
  present : ∀ name, after.hasDataVersion name = true ↔
    before.hasDataVersion name = true ∨
      ∃ apex, accepted apex ∧ apex.manifest.name = name
  chosen : ∀ name entry, after.getDataApex name = some entry →
    before.getDataApex name = some entry ∨ accepted entry
  highest : ∀ name entry, after.getDataApex name = some entry →
    (∀ prior, before.getDataApex name = some prior →
      prior.manifest.version ≤ entry.manifest.version) ∧
    ∀ apex, accepted apex → apex.manifest.name = name →
      apex.manifest.version ≤ entry.manifest.version
  unchanged : ∀ name, (∀ apex, accepted apex → apex.manifest.name ≠ name) →
    after.getDataApex name = before.getDataApex name

theorem HasBest.nil (repository : ApexFileRepository) (fs : FileSystem DirId Content) :
    repository.HasBest (repository.Accepts fs []) repository where
  preInstalled := rfl
  present name := by simp [Accepts]
  chosen name entry found := .inl found
  highest name entry found := by
    refine ⟨fun prior same => ?_, by simp [Accepts]⟩
    cases found.symm.trans same
    exact Int64.le_refl _
  unchanged name none := rfl

theorem accepts_append {path : FilePath} : repository.Accepts fs (files ++ [path]) apex ↔
    repository.Accepts fs files apex ∨
      (openAt fs path = .ok apex ∧ repository.acceptsDataApex apex = true) := by
  simp only [Accepts, List.mem_append, List.mem_singleton]
  constructor
  · rintro ⟨other, member | rfl, rest⟩
    · exact .inl ⟨other, member, rest⟩
    · exact .inr rest
  · rintro (⟨other, member, rest⟩ | rest)
    · exact ⟨other, .inl member, rest⟩
    · exact ⟨path, .inr rfl, rest⟩

/-- A file that is not used, or no better than what there is. -/
theorem HasBest.skip {path : FilePath} (best : before.HasBest (before.Accepts fs files) after)
    (noBetter : ∀ apex, openAt fs path = .ok apex → before.acceptsDataApex apex = true →
      ∃ entry, after.getDataApex apex.manifest.name = some entry ∧
        apex.manifest.version ≤ entry.manifest.version) :
    before.HasBest (before.Accepts fs (files ++ [path])) after where
  preInstalled := best.preInstalled
  present name := by
    rw [best.present name]
    constructor
    · rintro (prior | ⟨apex, accepted, named⟩)
      · exact .inl prior
      · exact .inr ⟨apex, accepts_append.mpr (.inl accepted), named⟩
    · rintro (prior | ⟨apex, accepted, named⟩)
      · exact .inl prior
      · rcases accepts_append.mp accepted with earlier | ⟨opened, accepts⟩
        · exact .inr ⟨apex, earlier, named⟩
        · obtain ⟨entry, found, _⟩ := noBetter apex opened accepts
          rw [named] at found
          refine (best.present name).mp ?_
          rw [hasDataVersion, ← getDataApex, found]
          rfl
  chosen name entry found := by
    rcases best.chosen name entry found with prior | accepted
    · exact .inl prior
    · exact .inr (accepts_append.mpr (.inl accepted))
  highest name entry found := by
    refine ⟨(best.highest name entry found).1, fun apex accepted named => ?_⟩
    rcases accepts_append.mp accepted with earlier | ⟨opened, accepts⟩
    · exact (best.highest name entry found).2 apex earlier named
    · obtain ⟨existing, found', older⟩ := noBetter apex opened accepts
      rw [named, found] at found'
      cases found'
      exact older
  unchanged name none :=
    best.unchanged name fun apex accepted => none apex (accepts_append.mpr (.inl accepted))

/-- A file that is used and at least as good as what there is. -/
theorem HasBest.take {path : FilePath} {mid : ApexFileRepository} (best : before.HasBest (before.Accepts fs files) mid)
    (opened : openAt fs path = .ok apex) (accepts : before.acceptsDataApex apex = true)
    (better : ∀ entry, mid.getDataApex apex.manifest.name = some entry →
      entry.manifest.version ≤ apex.manifest.version)
    (preInstalled : after.preInstalledStore = mid.preInstalledStore)
    (taken : after.getDataApex apex.manifest.name = some apex)
    (others : ∀ name, name ≠ apex.manifest.name → after.getDataApex name = mid.getDataApex name) :
    before.HasBest (before.Accepts fs (files ++ [path])) after := by
  have itself : before.Accepts fs (files ++ [path]) apex :=
    accepts_append.mpr (.inr ⟨opened, accepts⟩)
  have onlyOne {other : ApexFile} (accepted : before.Accepts fs (files ++ [path]) other) :
      before.Accepts fs files other ∨ other = apex := by
    rcases accepts_append.mp accepted with earlier | ⟨opened', _⟩
    · exact .inl earlier
    · exact .inr (Except.ok.inj (opened'.symm.trans opened))
  refine ⟨preInstalled.trans best.preInstalled, fun name => ?_, fun name entry found => ?_,
    fun name entry found => ?_, fun name none => ?_⟩
  · by_cases same : name = apex.manifest.name
    · have found : after.hasDataVersion name = true := by
        rw [hasDataVersion, ← getDataApex, same, taken]
        rfl
      exact ⟨fun _ => .inr ⟨apex, itself, same.symm⟩, fun _ => found⟩
    · rw [hasDataVersion, ← getDataApex, others name same, getDataApex, ← hasDataVersion,
        best.present name]
      constructor
      · rintro (prior | ⟨other, accepted, named⟩)
        · exact .inl prior
        · exact .inr ⟨other, accepts_append.mpr (.inl accepted), named⟩
      · rintro (prior | ⟨other, accepted, named⟩)
        · exact .inl prior
        · rcases onlyOne accepted with earlier | rfl
          · exact .inr ⟨other, earlier, named⟩
          · exact absurd named.symm same
  · by_cases same : name = apex.manifest.name
    · rw [same, taken] at found
      cases found
      exact .inr itself
    · rw [others name same] at found
      rcases best.chosen name entry found with prior | accepted
      · exact .inl prior
      · exact .inr (accepts_append.mpr (.inl accepted))
  · by_cases same : name = apex.manifest.name
    · rw [same, taken] at found
      cases found
      -- what the store had before or found among the earlier files is at most this version
      have least {version : Int64} (some' : mid.hasDataVersion name = true)
          (bound : ∀ entry, mid.getDataApex name = some entry → version ≤ entry.manifest.version) :
          version ≤ apex.manifest.version := by
        obtain ⟨entry, found⟩ := Option.isSome_iff_exists.mp some'
        exact Int64.le_trans (bound entry found) (better entry (same ▸ found))
      constructor
      · intro prior found
        refine least ((best.present name).mpr (.inl ?_)) fun entry found' =>
          (best.highest name entry found').1 prior found
        exact Option.isSome_iff_exists.mpr ⟨prior, found⟩
      · intro other accepted named
        rcases onlyOne accepted with earlier | rfl
        · exact least ((best.present name).mpr (.inr ⟨other, earlier, named⟩))
            fun entry found' => (best.highest name entry found').2 other earlier named
        · exact Int64.le_refl _
    · rw [others name same] at found
      refine ⟨(best.highest name entry found).1, fun other accepted named => ?_⟩
      rcases onlyOne accepted with earlier | rfl
      · exact (best.highest name entry found).2 other earlier named
      · exact absurd named.symm same
  · have different : name ≠ apex.manifest.name := fun same => none apex itself same.symm
    rw [others name different]
    exact best.unchanged name fun other accepted => none other (accepts_append.mpr (.inl accepted))

/-- One file of the fold. -/
theorem HasBest.withDataFile (best : before.HasBest (before.Accepts fs files) after) (path : FilePath) :
    before.HasBest (before.Accepts fs (files ++ [path])) (after.withDataFile (openAt fs path)) := by
  have sameRule (apex : ApexFile) : after.acceptsDataApex apex = before.acceptsDataApex apex :=
    acceptsDataApex_congr best.preInstalled apex
  unfold ApexFileRepository.withDataFile
  cases opened : openAt fs path with
  | error e =>
    refine best.skip fun apex opened' => ?_
    cases opened.symm.trans opened'
  | ok apex =>
    dsimp only
    split
    · rename_i accepts
      rw [sameRule] at accepts
      cases found : after.dataStore.find apex.manifest.name with
      | none =>
        have added : after.dataStore.emplace apex = after.dataStore.insert apex := by
          rw [ApexStore.emplace, found]
          rfl
        dsimp only
        rw [added]
        refine best.take opened accepts (fun entry found' => ?_) rfl
          (ApexStore.find_insert_self _ _) fun name ne => ApexStore.find_insert_ne _ _ ne
        cases found.symm.trans found'
      | some existing =>
        dsimp only
        split
        · rename_i newer
          refine best.take opened accepts (fun entry found' => ?_) rfl
            (ApexStore.find_insert_self _ _) fun name ne => ApexStore.find_insert_ne _ _ ne
          cases found.symm.trans found'
          exact Int64.le_of_lt newer
        · rename_i older
          refine best.skip fun other opened' _ => ?_
          cases opened.symm.trans opened'
          exact ⟨existing, found, Int64.not_lt.mp older⟩
    · rename_i rejected
      refine best.skip fun other opened' accepts => ?_
      cases opened.symm.trans opened'
      exact absurd (sameRule _ ▸ accepts) rejected

/-- All files of the fold. -/
theorem HasBest.foldl (files : List FilePath) : repository.HasBest (repository.Accepts fs files)
    (files.foldl (fun repository path => repository.withDataFile (openAt fs path)) repository) := by
  induction files using List.reverseRecOn with
  | nil => exact .nil repository fs
  | append_singleton files path ih =>
    rw [List.foldl_append]
    exact ih.withDataFile path

theorem HasBest.congr {accepted accepted' : ApexFile → Prop} (best : before.HasBest accepted after)
    (same : ∀ apex, accepted apex ↔ accepted' apex) : before.HasBest accepted' after := by
  rwa [show accepted' = accepted from funext fun apex => propext (same apex).symm]

/-- The best version of each package is determined. -/
theorem HasBest.version_eq {accepted : ApexFile → Prop} {other : ApexFileRepository}
    (best : before.HasBest accepted after) (best' : before.HasBest accepted other) (name : String) :
    (after.getDataApex name).map (·.manifest.version) =
      (other.getDataApex name).map (·.manifest.version) := by
  have atMost {first second : ApexFileRepository} (best : before.HasBest accepted first)
      (best' : before.HasBest accepted second) {entry entry' : ApexFile}
      (found : first.getDataApex name = some entry) (found' : second.getDataApex name = some entry') :
      entry.manifest.version ≤ entry'.manifest.version := by
    rcases best.chosen name entry found with prior | accepted
    · exact (best'.highest name entry' found').1 entry prior
    · exact (best'.highest name entry' found').2 entry accepted (ApexStore.name_of_find found)
  have both : (after.getDataApex name).isSome = (other.getDataApex name).isSome := by
    rw [Bool.eq_iff_iff]
    exact (best.present name).trans (best'.present name).symm
  cases found : after.getDataApex name with
  | none =>
    rw [found] at both
    rw [Option.isNone_iff_eq_none.mp (Option.isSome_eq_false_iff.mp both.symm)]
  | some entry =>
    rw [found] at both
    obtain ⟨entry', found'⟩ := Option.isSome_iff_exists.mp both.symm
    rw [found', Option.map_some, Option.map_some,
      Int64.le_antisymm (atMost best best' found found') (atMost best' best found' found)]

/-- A file of a directory is acceptable when it opens, its package is pre-installed with the same
public key, and it is not named like a decompressed APEX. -/
def Acceptable (repository : ApexFileRepository) (fs : FileSystem DirId Content) (dir : DirId)
    (apex : ApexFile) : Prop :=
  apex.path.dir = dir ∧ openAt fs apex.path = .ok apex ∧
    (∃ preInstalled, repository.getPreInstalledApex apex.manifest.name = some preInstalled ∧
      apex.archive.bundledPublicKey = preInstalled.archive.bundledPublicKey) ∧
    Text.endsWith (pathText apex.path) kDecompressedApexPackageSuffix = false

/-- The files that `AddDataApex` looks at are those with the suffix. -/
def AcceptableApex (repository : ApexFileRepository) (fs : FileSystem DirId Content) (dir : DirId)
    (apex : ApexFile) : Prop :=
  repository.Acceptable fs dir apex ∧ Text.endsWith apex.path.name kApexPackageSuffix = true

theorem accepts_withSuffix_iff {dir : DirId} {listing : List String}
    (isListing : (fs.files dir).IsListing listing) :
    repository.Accepts fs (withSuffix dir [kApexPackageSuffix] listing) apex ↔
      repository.AcceptableApex fs dir apex := by
  unfold Accepts AcceptableApex Acceptable
  rw [acceptsDataApex_iff]
  constructor
  · rintro ⟨path, member, opened, accepts⟩
    obtain ⟨inDir, _, suffix⟩ := mem_withSuffix.mp member
    obtain ⟨_, same, _⟩ := openAt_eq_ok_iff.mp opened
    rw [same]
    exact ⟨⟨inDir, opened, accepts.1, same ▸ accepts.2⟩, suffix⟩
  · rintro ⟨⟨inDir, opened, accepts⟩, suffix⟩
    refine ⟨apex.path, mem_withSuffix.mpr ⟨inDir, ?_, suffix⟩, opened, accepts⟩
    rw [isListing.mem_iff, ← inDir]
    exact ⟨_, (openAt_eq_ok_iff.mp opened).1⟩

theorem hasBest_of_runs {dir : DirId} {w w' : World}
    (run : Runs device (repository.addDataApex dir) w (.ok after) w') :
    repository.HasBest (repository.AcceptableApex w.fs dir) after := by
  by_cases exists' : w.fs.has dir = true
  · refine wp_runs (wp_addDataApex quiet_anything repository exists'
      (Q := fun result _ => ∀ after, result = .ok after →
        repository.HasBest (repository.AcceptableApex w.fs dir) after)
      fun listing isListing => ?_) run after rfl
    rintro _ ⟨⟩
    exact (HasBest.foldl _).congr fun apex => accepts_withSuffix_iff isListing
  · have absent : w.fs.has dir = false := Bool.not_eq_true _ ▸ exists'
    refine wp_runs (wp_addDataApex_absent quiet_anything repository absent
      (Q := fun result _ => ∀ after, result = .ok after →
        repository.HasBest (repository.AcceptableApex w.fs dir) after) ?_) run after rfl
    rintro _ ⟨⟩
    refine (HasBest.nil repository w.fs).congr fun apex => ⟨?_, ?_⟩
    · rintro ⟨_, member, _⟩
      cases member
    · rintro ⟨⟨inDir, opened, _⟩, _⟩
      have there := FileSystem.has_of_file (openAt_eq_ok_iff.mp opened).1
      rw [inDir] at there
      exact absurd there exists'

/-- `AddDataApex` keeps the best version of each package, whatever the order of the listing. -/
theorem addDataApex_hasBest {dir : DirId} {w w₁ w₂ : World} {other : ApexFileRepository}
    (run : Runs device (repository.addDataApex dir) w (.ok after) w₁)
    (run' : Runs device (repository.addDataApex dir) w (.ok other) w₂) :
    repository.HasBest (repository.AcceptableApex w.fs dir) after ∧
      repository.HasBest (repository.AcceptableApex w.fs dir) other ∧
      ∀ name, (after.getDataApex name).map (·.manifest.version) =
        (other.getDataApex name).map (·.manifest.version) :=
  ⟨hasBest_of_runs run, hasBest_of_runs run',
    (hasBest_of_runs run).version_eq (hasBest_of_runs run')⟩

/-- Version 1 of a package is pre-installed. -/
def withFactoryFoo : ApexFileRepository :=
  { create with preInstalledStore :=
      ApexStore.empty.insert ⟨⟨.other "/system/apex", "foo.apex"⟩, .plain "foo" 1 0⟩ }


/-- A device with two files of version 2, an older one, and some that are not acceptable: of
another key, decompressed, of a package that is not pre-installed, no APEX. -/
def withSomeFoos : World :=
  .ofDirectories [(.active, [("bar@3.apex", .apex (.plain "bar" 3 1)),
    ("foo-again@2.apex", .apex (.plain "foo" 2 2)), ("foo@1.apex", .apex (.plain "foo" 1 3)),
    ("foo@2.apex", .apex (.plain "foo" 2 4)), ("foo@8.decompressed.apex", .apex (.plain "foo" 8 5)),
    ("foo@9.apex", .apex { Archive.plain "foo" 9 6 with bundledPublicKey := "other" }),
    ("note.apex", .data "note")])]

/-- One answer for every call, directories listed backwards. -/
def backwardsDirHandler : Handler apexd String World
  | .fs (.readDir d), w => match w.fs.dir d with
    | none => some (.error FsCall.noSuchFile, w)
    | some dir => some (.ok dir.files.names.reverse, w)
  | request, w => deviceHandler request w

theorem backwardsDirHandler_sound : backwardsDirHandler.Sound device := by
  intro request w reply w' computed
  unfold backwardsDirHandler at computed
  split at computed
  · split at computed
    · rename_i absent
      cases computed
      exact ⟨_, ⟨rfl, by rw [absent]⟩, rfl⟩
    · rename_i there
      cases computed
      exact ⟨_, ⟨rfl, by rw [there]; exact ⟨_, List.reverse_perm _, rfl⟩⟩, rfl⟩
  · exact deviceHandler_sound computed

/-- The file that was picked for the package. -/
def picked (name : String) (result : Except String ApexFileRepository) : Option String :=
  result.toOption.bind fun after => (after.getDataApex name).map fun apex => apex.path.name

/-- The order of the listing decides which of two files of one version is picked, and nothing else. -/
theorem addDataApex_hasBest_foo : ∃ after w₁ other w₂,
    Runs device (withFactoryFoo.addDataApex .active) withSomeFoos (.ok after) w₁ ∧
    Runs device (withFactoryFoo.addDataApex .active) withSomeFoos (.ok other) w₂ ∧
    (after.getDataApex "foo").map (·.path.name) = some "foo-again@2.apex" ∧
    (other.getDataApex "foo").map (·.path.name) = some "foo@2.apex" ∧
    withFactoryFoo.HasBest (withFactoryFoo.AcceptableApex withSomeFoos.fs .active) after ∧
    withFactoryFoo.HasBest (withFactoryFoo.AcceptableApex withSomeFoos.fs .active) other ∧
    ∀ name, (after.getDataApex name).map (·.manifest.version) =
      (other.getDataApex name).map (·.manifest.version) := by
  obtain ⟨result, w₁, run, picks⟩ := exists_runs deviceHandler_sound
    (withFactoryFoo.addDataApex .active) withSomeFoos
    (fun result _ => picked "foo" result = some "foo-again@2.apex") (by decide +kernel)
  obtain ⟨result', w₂, run', picks'⟩ := exists_runs backwardsDirHandler_sound
    (withFactoryFoo.addDataApex .active) withSomeFoos
    (fun result _ => picked "foo" result = some "foo@2.apex") (by decide +kernel)
  cases result with
  | error e => cases picks
  | ok after =>
    cases result' with
    | error e => cases picks'
    | ok other =>
      exact ⟨after, w₁, other, w₂, run, run', of_decide_eq_true picks, of_decide_eq_true picks',
        addDataApex_hasBest run run'⟩

/-- A device with one file in the active directory, version 2 of the package. -/
def withDataFoo (name : String) : World :=
  .ofDirectories [(.active, [(name, .apex (.plain "foo" 2 1))])]

/-- A file without the suffix of an APEX is not looked at, though it may be acceptable. -/
theorem acceptable_file_ignored : ∃ after w',
    Runs device (withFactoryFoo.addDataApex .active) (withDataFoo "foo@2.capex") (.ok after) w' ∧
      withFactoryFoo.Acceptable (withDataFoo "foo@2.capex").fs .active
        ⟨⟨.active, "foo@2.capex"⟩, .plain "foo" 2 1⟩ ∧
      withFactoryFoo.hasDataVersion "foo" = false ∧ after.hasDataVersion "foo" = false := by
  obtain ⟨result, w', run, check⟩ := exists_runs deviceHandler_sound
    (withFactoryFoo.addDataApex .active) (withDataFoo "foo@2.capex")
    (fun result _ => result.toOption.any fun after => !after.hasDataVersion "foo")
    (by decide +kernel)
  cases result with
  | error e => cases check
  | ok after =>
    refine ⟨after, w', run, ⟨rfl, rfl, ⟨_, rfl, rfl⟩, by decide +kernel⟩, rfl, ?_⟩
    simpa [Except.toOption] using check

end ApexFileRepository

end Apexd
