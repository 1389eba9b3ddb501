import Apexd.Model.BlockApex
import Apexd.Verified.Verity

/-! # Root digests of APEXes on block devices

A digest and its hexadecimal text determine each other, so that comparing the texts compares the
digests, and the digest compared is the one that the metadata gives for the very partition.
-/

namespace Apexd

/-! ## Hexadecimal texts and bytes -/

theorem hexToBin_bytesToHex (bytes : List UInt8) : hexToBin (bytesToHex bytes).toList = bytes := by
  rw [bytesToHex, String.toList_ofList, hexToBin_hexDigits]

/-- Two digits make the byte that they are the digits of. -/
theorem hexByte_hexDigitToBin {high low : Char} (highDigit : Text.IsHexDigit high)
    (lowDigit : Text.IsHexDigit low) :
    Text.hexByte ((hexDigitToBin high <<< 4) + hexDigitToBin low) = [high, low] := by
  obtain ⟨m, rfl⟩ := Text.exists_hexDigit highDigit
  obtain ⟨n, rfl⟩ := Text.exists_hexDigit lowDigit
  revert m n
  decide +kernel

theorem hexDigits_hexToBin : ∀ digits : List Char, digits.length % 2 = 0 →
    (∀ c ∈ digits, Text.IsHexDigit c) → Text.hexDigits (hexToBin digits) = digits
  | [], _, _ => rfl
  | [_], odd, _ => by simp at odd
  | high :: low :: rest, even, all => by
    have restEven : rest.length % 2 = 0 := by
      simp only [List.length_cons] at even
      omega
    have ih := hexDigits_hexToBin rest restEven fun c member =>
      all c (List.mem_cons_of_mem _ (List.mem_cons_of_mem _ member))
    have pair := hexByte_hexDigitToBin (all high (by simp)) (all low (by simp))
    simp only [hexToBin, Text.hexDigits, List.flatMap_cons] at ih ⊢
    rw [pair, ih]
    rfl

theorem bytesToHex_inj {first second : List UInt8} :
    bytesToHex first = bytesToHex second ↔ first = second := by
  constructor
  · intro same
    rw [← hexToBin_bytesToHex first, same, hexToBin_bytesToHex]
  · intro same
    rw [same]

/-! ## The overrides -/

namespace BlockApexes

variable {repository repository' : BlockApexes} {devices : BlockDevices}
  {apexPath path diskPath : String} {config : ApexConfig}

theorem lookup_emplaceOverride_ne {overrides : BlockApexOverride} (ne : path ≠ apexPath) :
    (repository.emplaceOverride apexPath overrides).blockApexOverrides.lookup path =
      repository.blockApexOverrides.lookup path := by
  unfold emplaceOverride
  split
  · split
    · rfl
    · exact Finmap.lookup_insert_of_ne _ ne
  · rfl

theorem rootDigest_emplaceOverride (config : ApexConfig)
    (new : apexPath ∉ repository.blockApexOverrides) :
    (repository.emplaceOverride apexPath config.override).getBlockApexRootDigest apexPath =
      config.override.blockApexRootDigest := by
  by_cases something : config.override.lastUpdateSeconds.isSome ∨
      config.override.blockApexRootDigest.isSome
  · simp only [emplaceOverride, if_pos something, if_neg new, getBlockApexRootDigest,
      Finmap.lookup_insert]
  · have nothing : config.override.blockApexRootDigest = none := by
      simpa using (not_or.mp something).2
    rw [emplaceOverride, if_neg something, getBlockApexRootDigest,
      Finmap.lookup_eq_none.mpr new, nothing]

@[simp] theorem overrides_emplaceApex (isFactory : Bool) (name : String) :
    (repository.emplaceApex isFactory name apexPath).blockApexOverrides =
      repository.blockApexOverrides := by
  unfold emplaceApex
  split <;> rfl

@[simp] theorem diskPath_emplaceApex (isFactory : Bool) (name : String) :
    (repository.emplaceApex isFactory name apexPath).blockDiskPath =
      repository.blockDiskPath := by
  unfold emplaceApex
  split <;> rfl

@[simp] theorem diskPath_emplaceOverride (overrides : BlockApexOverride) :
    (repository.emplaceOverride apexPath overrides).blockDiskPath = repository.blockDiskPath := by
  unfold emplaceOverride
  split
  · split <;> rfl
  · rfl

/-- A partition that is accepted is stored, and its override is recorded. -/
theorem addConfig_eq_ok
    (added : addConfig devices apexPath config repository = (.ok (), repository')) :
    ∃ name, repository' = (repository.emplaceOverride apexPath config.override).emplaceApex
      config.isFactory name apexPath := by
  unfold addConfig at added
  split at added
  · cases added
  split at added
  · cases added
  split at added
  · cases added
  next apex _ _ _ =>
    simp only at added
    split at added
    · cases added
    · cases added
      exact ⟨apex.manifest.name, rfl⟩

theorem blockApexPath_inj {i j : Nat} (same : blockApexPath diskPath i = blockApexPath diskPath j) :
    i = j := by
  have decimals := Text.repr_inj (String.append_right_inj _ |>.mp same)
  omega

theorem startsWith_blockApexPath (i : Nat) :
    Text.startsWith (blockApexPath diskPath i) diskPath = true := by
  simp [Text.startsWith, blockApexPath]

/-- What is recorded for the partitions that the rest of the loop adds, from which there was
nothing before.  The induction is on the rest, with the first index of it generalised. -/
theorem addConfigs_overrides : ∀ {configs : List ApexConfig} {i ret count : Nat}
    {repository repository' : BlockApexes},
    addConfigs devices diskPath i ret configs repository = (.ok count, repository') →
    (∀ j, i ≤ j → blockApexPath diskPath j ∉ repository.blockApexOverrides) →
    repository'.blockDiskPath = repository.blockDiskPath ∧
      (∀ j < i, repository'.getBlockApexRootDigest (blockApexPath diskPath j) =
        repository.getBlockApexRootDigest (blockApexPath diskPath j)) ∧
      ∀ j config, configs[j]? = some config →
        repository'.getBlockApexRootDigest (blockApexPath diskPath (i + j)) =
          config.override.blockApexRootDigest
  | [], _, _, _, _, _, added, _ => by
    cases added
    exact ⟨rfl, fun _ _ => rfl, fun _ _ found => by cases found⟩
  | head :: rest, i, ret, count, repository, repository', added, new => by
    unfold addConfigs at added
    split at added
    · cases added
    next middle one =>
      obtain ⟨name, rfl⟩ := addConfig_eq_ok one
      have others : ∀ j, j ≠ i →
          (repository.emplaceOverride (blockApexPath diskPath i) head.override
            ).blockApexOverrides.lookup (blockApexPath diskPath j) =
          repository.blockApexOverrides.lookup (blockApexPath diskPath j) := fun j ne =>
        lookup_emplaceOverride_ne fun same => ne (blockApexPath_inj same)
      obtain ⟨disk, before, after⟩ := addConfigs_overrides added (by
        intro j later
        rw [overrides_emplaceApex, ← Finmap.lookup_eq_none, others j (by omega)]
        exact Finmap.lookup_eq_none.mpr (new j (by omega)))
      refine ⟨by simpa using disk, ?_, ?_⟩
      · intro j earlier
        rw [before j (by omega)]
        simp only [getBlockApexRootDigest, overrides_emplaceApex, others j (by omega)]
      · intro j config found
        cases j with
        | zero =>
          cases found
          rw [Nat.add_zero, before i (by omega)]
          have recorded := rootDigest_emplaceOverride head (new i (by omega))
          simpa only [getBlockApexRootDigest, overrides_emplaceApex] using recorded
        | succ j =>
          have shifted := after j config found
          rwa [show i + 1 + j = i + (j + 1) by omega] at shifted

/-- What `AddBlockApex` read when it did not skip the metadata partition. -/
structure Scanned (devices : BlockDevices) (metadataPartition diskPath : String)
    (configs : List ApexConfig) : Prop where
  ready : devices.waitForFile metadataPartition = .ok ()
  realpath : devices.realpath metadataPartition = some (diskPath ++ "1")
  metadata : devices.readMetadata
    (if devices.payloadMetadataExists then kVmPayloadMetadata else diskPath ++ "1") = .ok configs

theorem consumeSuffix_append (text suffix : String) :
    Text.consumeSuffix (text ++ suffix) suffix = text := by
  rw [Text.consumeSuffix, if_pos (Text.endsWith_append text suffix)]
  simp

theorem addBlockApex_scanned {metadataPartition : String} {configs : List ApexConfig}
    (scanned : Scanned devices metadataPartition diskPath configs) :
    addBlockApex devices metadataPartition repository =
      addConfigs devices diskPath 0 0 configs
        { repository with blockDiskPath := some diskPath } := by
  unfold addBlockApex
  rw [scanned.ready, scanned.realpath]
  simp only [Text.endsWith_append, if_true, consumeSuffix_append, scanned.metadata]

/-- The digest recorded for a partition is the one of its own entry in the metadata. -/
theorem getBlockApexRootDigest_addBlockApex {metadataPartition : String}
    {configs : List ApexConfig} {count i : Nat}
    (scanned : Scanned devices metadataPartition diskPath configs)
    (added : addBlockApex devices metadataPartition create = (.ok count, repository))
    (found : configs[i]? = some config) :
    repository.isBlockApex (blockApexPath diskPath i) = true ∧
      repository.getBlockApexRootDigest (blockApexPath diskPath i) =
        config.override.blockApexRootDigest := by
  rw [addBlockApex_scanned scanned] at added
  obtain ⟨disk, -, recorded⟩ := addConfigs_overrides added fun _ _ => Finmap.notMem_empty
  constructor
  · rw [isBlockApex, disk]
    exact startsWith_blockApexPath i
  · have here := recorded i config found
    rwa [Nat.zero_add] at here

theorem checkRootDigest_eq_ok_iff {fullPath rootDigest : String}
    (isBlock : repository.isBlockApex fullPath = true) :
    repository.checkRootDigest fullPath rootDigest = .ok () ↔
      ∀ specified, repository.getBlockApexRootDigest fullPath = some specified →
        specified = rootDigest := by
  unfold checkRootDigest
  rw [if_pos isBlock]
  cases repository.getBlockApexRootDigest fullPath with
  | none => simp
  | some specified =>
    by_cases same : specified = rootDigest
    · simp [same]
    · simp [same]

end BlockApexes

open BlockApexes

/-- Hexadecimal texts are faithful, and an APEX of the metadata with a root digest is mounted
exactly if the image has that digest. -/
theorem rootDigests_faithful :
    (∀ bytes : List UInt8, hexToBin (bytesToHex bytes).toList = bytes) ∧
      (∀ s : String, s.toList.length % 2 = 0 → (∀ c ∈ s.toList, Text.IsHexDigit c) →
        bytesToHex (hexToBin s.toList) = s) ∧
      (∀ first second : List UInt8, bytesToHex first = bytesToHex second ↔ first = second) ∧
      ∀ {devices : BlockDevices} {metadataPartition diskPath : String}
        {configs : List ApexConfig} {count i : Nat} {repository : BlockApexes}
        {config : ApexConfig}, Scanned devices metadataPartition diskPath configs →
        addBlockApex devices metadataPartition create = (.ok count, repository) →
        configs[i]? = some config → config.rootDigest ≠ [] →
        ∀ rootDigest : List UInt8,
          repository.checkRootDigest (blockApexPath diskPath i) (bytesToHex rootDigest) = .ok () ↔
            config.rootDigest = rootDigest := by
  refine ⟨hexToBin_bytesToHex, ?_, fun _ _ => bytesToHex_inj, ?_⟩
  · intro s even digits
    rw [bytesToHex, hexDigits_hexToBin s.toList even digits, String.ofList_toList]
  · intro devices metadataPartition diskPath configs count i repository config scanned added found
      given rootDigest
    obtain ⟨isBlock, recorded⟩ := getBlockApexRootDigest_addBlockApex scanned added found
    rw [checkRootDigest_eq_ok_iff isBlock, recorded, ApexConfig.override, if_pos given]
    simp only [Option.some.injEq, forall_eq', bytesToHex_inj]

/-- One APEX with a root digest behind the metadata partition. -/
def oneBlockApex : BlockDevices where
  waitForFile _ := .ok ()
  realpath path := some path
  payloadMetadataExists := false
  readMetadata _ := .ok [⟨"", "", 0, 0, [0xAB], false⟩]
  openApex _ := .ok (.plain "a" 1 0)

theorem rootDigests_faithful_oneBlockApex : ∃ count repository,
    addBlockApex oneBlockApex "/dev/block/vdc1" create = (.ok count, repository) ∧
      (bytesToHex (hexToBin "0f".toList) = "0f") ∧
      (repository.checkRootDigest (blockApexPath "/dev/block/vdc" 0) (bytesToHex [0xAB]) = .ok () ↔
        [0xAB] = [(0xAB : UInt8)]) := by
  have scanned : Scanned oneBlockApex "/dev/block/vdc1" "/dev/block/vdc"
      [⟨"", "", 0, 0, [0xAB], false⟩] := ⟨rfl, rfl, rfl⟩
  have count : (addBlockApex oneBlockApex "/dev/block/vdc1" create).1 = .ok 1 := by
    rw [addBlockApex_scanned scanned]
    rfl
  have added : addBlockApex oneBlockApex "/dev/block/vdc1" create =
      (.ok 1, (addBlockApex oneBlockApex "/dev/block/vdc1" create).2) := Prod.ext count rfl
  refine ⟨1, _, added, ?_, ?_⟩
  · have digits : "0f".toList.all (fun c => decide (Text.IsHexDigit c)) = true := by decide +kernel
    exact rootDigests_faithful.2.1 "0f" (by decide +kernel) fun c member =>
      of_decide_eq_true (List.all_eq_true.mp digits c member)
  · exact rootDigests_faithful.2.2.2 (i := 0) scanned added rfl (by simp) [0xAB]

end Apexd
