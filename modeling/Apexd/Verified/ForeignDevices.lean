import Apexd.Model.Lifecycle
import Apexd.Verified.PackageIdMinor

/-! # Devices of other packages

The devices of a package are found by a prefix of their names, without the `@` that ends the name
of the package, so that the devices of a package with a longer name are taken for its own.
-/

namespace Apexd

open Process Storage

/-- A device is named after the package alone, or after a version of it. -/
def BelongsTo (package dmName : String) : Bool :=
  dmName = package || Text.startsWith dmName (package ++ "@")

/-- The device, on which `GetAvailableDevices` gives the devices in this order. -/
def listing (dmDevices : List String) : Semantics apexd String World
  | .kernel .listDevices, w, reply, w' => reply = .ok dmDevices ∧ w' = w
  | request, w, reply, w' => device request w reply w'

/-- The names of the devices of some packages. -/
def devicesOf (packages : Set String) : Set String :=
  {dev | ∃ package ∈ packages, BelongsTo package dev = true}

/-- Lookups are per package, on a device with the packages of an APEX and of `others`: what devices
of other packages there may be has no influence on the minor of the APEX, and a device that is
cleaned up belongs to a pre-installed package. -/
structure LooksUpPerPackage (env : InstallEnvironment) (apex : ApexFile) (others : Set String) :
    Prop where
  minor : ∀ first second : List String, first.Nodup → second.Nodup →
    (∀ dev ∈ first ++ second, dev ∈ devicesOf (insert apex.manifest.name others)) →
    first.filter (BelongsTo apex.manifest.name) = second.filter (BelongsTo apex.manifest.name) →
    ∀ w result w', Runs (listing first) (computePackageIdMinor env apex) w result w' ↔
      Runs (listing second) (computePackageIdMinor env apex) w result w'
  cleanup : ∀ dev ∈ devicesOf (insert apex.manifest.name others),
    isApexDevice env.toEnvironment dev = true →
    ∃ preInstalled ∈ env.repository.preInstalledStore.toList,
      BelongsTo preInstalled.manifest.name dev = true

/-- The name of a package is a prefix of the name of a device that does not belong to it. -/
def Mistaken (package dmName : String) : Prop :=
  Text.startsWith dmName package = true ∧ BelongsTo package dmName = false

variable {env : InstallEnvironment} {apex : ApexFile} {w w' : World} {name : String}
  {dmDevices : List String}

theorem belongsTo_iff {package dmName : String} : BelongsTo package dmName = true ↔
    dmName = package ∨ Text.startsWith dmName (package ++ "@") = true := by
  simp [BelongsTo]

/-- What starts with a device of a version is one of the package too. -/
theorem belongsTo_of_startsWith {package other dmName : String}
    (belongs : BelongsTo package other = true)
    (version : Text.startsWith dmName (other ++ "@") = true) : BelongsTo package dmName = true := by
  refine belongsTo_iff.mpr (.inr ?_)
  rcases belongsTo_iff.mp belongs with rfl | inner
  · exact version
  · exact Text.startsWith_trans (Text.startsWith_trans version (Text.startsWith_append _ _)) inner

theorem not_mistaken_of_belongsTo {dmName : String} (belongs : BelongsTo name dmName = true) :
    ¬ Mistaken name dmName := by
  intro mistaken
  have other := mistaken.2
  rw [belongs] at other
  cases other

/-- A device that does not start with the name of the package is passed over. -/
theorem scanDmDevice_of_not_startsWith {dmName : String} {scan : MinorScan}
    (other : Text.startsWith dmName name = false) :
    scanDmDevice env name scan dmName = .ok scan := by
  simp [scanDmDevice, Text.consumePrefix, other]

theorem foldlM_scanDmDevice_filter (none : ∀ dev ∈ dmDevices, ¬ Mistaken name dev)
    (scan : MinorScan) : dmDevices.foldlM (scanDmDevice env name) scan =
      (dmDevices.filter (BelongsTo name)).foldlM (scanDmDevice env name) scan := by
  induction dmDevices generalizing scan with
  | nil => rfl
  | cons dev rest ih =>
    have later := ih fun dev member => none dev (List.mem_cons_of_mem _ member)
    cases belongs : BelongsTo name dev with
    | true =>
      rw [List.filter_cons_of_pos belongs, List.foldlM_cons, List.foldlM_cons]
      exact congrArg _ (funext later)
    | false =>
      have other : Text.startsWith dev name = false := by
        by_contra starts
        exact none dev (by simp) ⟨by simpa using starts, belongs⟩
      rw [List.filter_cons_of_neg (by simp [belongs]), List.foldlM_cons,
        scanDmDevice_of_not_startsWith other]
      exact later scan

/-! ## Runs -/

theorem runs_computePackageIdMinor {result : Except String UInt64} :
    Runs (listing dmDevices) (computePackageIdMinor env apex) w result w' ↔
      Runs (listing dmDevices) (packageIdMinorAmong env apex dmDevices) w result w' := by
  rw [computePackageIdMinor_eq, runs_bind]
  constructor
  · rintro ⟨first, middle, lists, rest⟩
    obtain ⟨reply, state, ⟨rfl, rfl⟩, ended⟩ := runs_call.mp lists
    obtain ⟨rfl, rfl⟩ := runs_done.mp ended
    exact rest
  · intro rest
    exact ⟨.ok dmDevices, w, runs_call.mpr ⟨.ok dmDevices, w, ⟨rfl, rfl⟩, runs_done.mpr ⟨rfl, rfl⟩⟩, rest⟩

/-- What the search for a free minor asks, which is the same on every `listing`. -/
def Searches : Call → Prop
  | .fs _ | .fatal => True
  | _ => False

theorem agree_listing {first second : List String} (request : Call) (searches : Searches request)
    (w : World) (reply : Except String (apexd.Reply request)) (w' : World) (answer : listing first request w reply w') :
    listing second request w reply w' := by
  cases request with
  | fs request => exact answer
  | fatal => exact answer
  | _ => exact searches.elim

theorem agree_device (request : Call) (searches : Searches request)
    (w : World) (reply : Except String (apexd.Reply request)) (w' : World) (answer : device request w reply w') :
    listing dmDevices request w reply w' := by
  cases request with
  | fs request => exact answer
  | fatal => exact answer
  | _ => exact searches.elim

theorem searches_freeMinor (left : Nat) (nextMinor : UInt64) :
    (freeMinor apex left nextMinor).Within Searches := by
  induction left generalizing nextMinor with
  | zero => exact ⟨trivial, fun reply => by cases reply with
    | ok impossible => exact impossible.elim
    | error e => trivial⟩
  | succ left ih =>
    have looks : (accessible (installTarget apex nextMinor)).Within Searches := by
      refine Program.Within.bind (Program.Within.attempt ⟨trivial, fun _ => trivial⟩) fun found => ?_
      cases found <;> trivial
    refine looks.bind fun found => ?_
    cases found with
    | true => exact ih (nextMinor + 1)
    | false => trivial

theorem searches_packageIdMinorAmong : (packageIdMinorAmong env apex dmDevices).Within Searches := by
  unfold packageIdMinorAmong
  cases dmDevices.foldlM (scanDmDevice env apex.manifest.name) { devices := 0, nextMinor := 1 } with
  | error e => trivial
  | ok scan =>
    simp only [Program.ofExcept, Program.done_ok_bind]
    split
    · trivial
    · exact searches_freeMinor _ _

theorem packageIdMinorAmong_filter (none : ∀ dev ∈ dmDevices, ¬ Mistaken apex.manifest.name dev) :
    packageIdMinorAmong env apex dmDevices =
      packageIdMinorAmong env apex (dmDevices.filter (BelongsTo apex.manifest.name)) := by
  rw [packageIdMinorAmong, packageIdMinorAmong, foldlM_scanDmDevice_filter none]

/-! ## A device that is mistaken for one of the package -/

/-- As many devices as a package may have. -/
def ownDevices (name : String) : List String :=
  [name ++ "@1", name ++ "@2", name ++ "@3"]

theorem belongsTo_version (name version : String) : BelongsTo name (name ++ ("@" ++ version)) = true := by
  have starts : Text.startsWith (name ++ ("@" ++ version)) (name ++ "@") = true :=
    Text.startsWith_iff.mpr ⟨version, by rw [String.append_assoc]⟩
  simp [BelongsTo, starts]

theorem ownDevices_nodup (name : String) : (ownDevices name).Nodup := by
  simp [ownDevices, String.append_right_inj]

theorem ownDevices_belong {dev : String} (member : dev ∈ ownDevices name) :
    BelongsTo name dev = true := by
  simp only [ownDevices, List.mem_cons, List.not_mem_nil, or_false] at member
  rcases member with rfl | rfl | rfl
  · exact belongsTo_version name "1"
  · exact belongsTo_version name "2"
  · exact belongsTo_version name "3"

theorem foldlM_ownDevices : (ownDevices name).foldlM (scanDmDevice env name)
    { devices := 0, nextMinor := 1 } = .ok { devices := 3, nextMinor := 1 } := by
  -- without a minor the device is only counted
  have counted (version : String) (plain : Text.afterLast '_' version = none) (scan : MinorScan) :
      scanDmDevice env name scan (name ++ version) = .ok { scan with devices := scan.devices + 1 } := by
    simp [scanDmDevice, Text.consumePrefix_eq_some.mpr rfl, plain]
  rw [ownDevices, List.foldlM_cons, counted "@1" (by decide +kernel)]
  change [name ++ "@2", name ++ "@3"].foldlM (scanDmDevice env name) _ = _
  rw [List.foldlM_cons, counted "@2" (by decide +kernel)]
  change [name ++ "@3"].foldlM (scanDmDevice env name) _ = _
  rw [List.foldlM_cons, counted "@3" (by decide +kernel)]
  rfl

theorem runs_ownDevices : Runs (listing (ownDevices apex.manifest.name))
    (computePackageIdMinor env apex) (.ofDirectories []) (.ok 1) (.ofDirectories []) := by
  rw [runs_computePackageIdMinor, packageIdMinorAmong, foldlM_ownDevices]
  simp only [Program.ofExcept, Program.done_ok_bind]
  have free : (World.ofDirectories []).fs.file (installTarget apex (1 + .ofNat 0)) = none := rfl
  have enough : 0 < UInt64.size := by decide
  obtain ⟨result, w', run⟩ := (ends_freeMinor enough free).exists_runs
  have found := wp_runs (wp_freeMinor (Q := fun result w' =>
    result = .ok 1 ∧ w' = .ofDirectories []) enough free fun offset least _ => by
      cases Nat.le_zero.mp least
      exact ⟨rfl, rfl⟩) run
  rw [found.1, found.2] at run
  exact run.of_agree (searches_freeMinor _ _) agree_device

theorem scan_mistaken {dev : String} (mistaken : Mistaken name dev) {scan : MinorScan}
    (scanned : (ownDevices name ++ [dev]).foldlM (scanDmDevice env name)
      { devices := 0, nextMinor := 1 } = .ok scan) : scan.devices = 4 := by
  obtain ⟨rest, rfl⟩ := Text.startsWith_iff.mp mistaken.1
  have consumed := Text.consumePrefix_eq_some.mpr (rfl : name ++ rest = _)
  rw [List.foldlM_append, foldlM_ownDevices] at scanned
  change [name ++ rest].foldlM (scanDmDevice env name) { devices := 3, nextMinor := 1 } = _ at scanned
  simp only [List.foldlM_cons, List.foldlM_nil, bind_pure, scanDmDevice, consumed] at scanned
  split at scanned
  · cases scanned
    rfl
  · split at scanned
    · cases scanned
    · cases scanned
      split <;> rfl

/-- With one more device there are too many, if its suffix is one that can be read at all. -/
theorem not_ok_of_mistaken {dev : String} (mistaken : Mistaken apex.manifest.name dev) {minor : UInt64} :
    ¬ Runs (listing (ownDevices apex.manifest.name ++ [dev])) (computePackageIdMinor env apex) w
      (.ok minor) w' := by
  rw [runs_computePackageIdMinor, packageIdMinorAmong]
  cases scanned : (ownDevices apex.manifest.name ++ [dev]).foldlM
      (scanDmDevice env apex.manifest.name) { devices := 0, nextMinor := 1 } with
  | error e =>
    intro run
    cases (runs_done.mp run).1
  | ok scan =>
    simp only [Program.ofExcept, Program.done_ok_bind]
    have many : scan.devices > kMaxVerityDevicesPerApexName := by
      rw [scan_mistaken mistaken scanned]
      decide
    rw [if_pos many]
    intro run
    cases (runs_done.mp run).1

/-! ## The names of packages -/

/-- The name `package` is no prefix of the name of another package, and `other`, with the `@` that
ends it, is none of `package`. -/
structure KeptApart (package other : String) : Prop where
  notPrefix : Text.startsWith other package = true → BelongsTo package other = true
  notInside : Text.startsWith package (other ++ "@") = false

theorem keptApart_self (package : String) : KeptApart package package := by
  refine ⟨fun _ => by simp [BelongsTo], ?_⟩
  rw [← Bool.not_eq_true]
  intro inside
  rw [Text.startsWith, List.isPrefixOf_iff_prefix, String.toList_append] at inside
  have lengths := inside.length_le
  rw [List.length_append] at lengths
  exact absurd lengths (by simp)

/-- A name that goes on in another way than with an `@` is that of another package. -/
theorem not_belongsTo_append {package suffix : String} (some : suffix ≠ "")
    (noAt : '@' ∉ suffix.toList) : BelongsTo package (package ++ suffix) = false := by
  rw [← Bool.not_eq_true]
  intro belongs
  rcases belongsTo_iff.mp belongs with same | version
  · exact some (String.append_right_inj package |>.mp (same.trans (String.append_empty).symm))
  · have inside : Text.startsWith package (package ++ "@") = true :=
      Text.startsWith_of_append rfl noAt version
    rw [(keptApart_self package).notInside] at inside
    cases inside

/-- The names tell whether a device of one package can be mistaken for one of the other. -/
theorem keptApart_iff {package other : String} :
    KeptApart package other ↔ ∀ dev, BelongsTo other dev = true → ¬ Mistaken package dev := by
  constructor
  · rintro ⟨notPrefix, notInside⟩ dev belongs ⟨starts, foreign⟩
    rcases belongsTo_iff.mp belongs with rfl | version
    · rw [notPrefix starts] at foreign
      cases foreign
    · have outside : ¬ Text.startsWith package (other ++ "@") = true := by simp [notInside]
      rcases Text.startsWith_or starts version with short | long
      · rcases (Text.startsWith_mark rfl).mp short with rfl | before
        · exact outside (Text.startsWith_self _)
        · rw [belongsTo_of_startsWith (notPrefix before) version] at foreign
          cases foreign
      · exact outside long
  · intro none
    constructor
    · intro starts
      by_contra foreign
      exact none other (by simp [BelongsTo]) ⟨starts, by simpa using foreign⟩
    · rw [← Bool.not_eq_true]
      intro inside
      have belongs : BelongsTo other (package ++ "x") = true :=
        belongsTo_iff.mpr (.inr (Text.startsWith_trans (Text.startsWith_append _ _) inside))
      exact none _ belongs ⟨Text.startsWith_append _ _,
        not_belongsTo_append (by decide) (by decide)⟩

/-- The devices of `other` that a prefix of their name takes for those of pre-installed packages are
those of pre-installed packages, too. -/
structure Covered (preInstalled : List ApexFile) (other : String) : Prop where
  longer : ∀ apex ∈ preInstalled, Text.startsWith other apex.manifest.name = true →
    ∃ covering ∈ preInstalled, BelongsTo covering.manifest.name other = true
  inside : ∀ apex ∈ preInstalled, Text.startsWith apex.manifest.name (other ++ "@") = true →
    ∃ covering ∈ preInstalled,
      Text.startsWith apex.manifest.name (covering.manifest.name ++ "@") = true

/-- A suffix without `@` with which a name is none of those given. -/
theorem exists_suffix (base : String) (names : List String) : ∃ suffix : String,
    '@' ∉ suffix.toList ∧ base ++ suffix ∉ names := by
  have bounded : ∃ bound, ∀ name ∈ names, name.toList.length ≤ bound := by
    induction names with
    | nil => exact ⟨0, by simp⟩
    | cons name rest ih =>
      obtain ⟨bound, below⟩ := ih
      refine ⟨max name.toList.length bound, fun other member => ?_⟩
      rcases List.mem_cons.mp member with rfl | later
      · exact le_max_left _ _
      · exact (below other later).trans (le_max_right _ _)
  obtain ⟨bound, below⟩ := bounded
  refine ⟨.ofList (List.replicate (bound + 1) 'x'), ?_, fun member => ?_⟩
  · rw [String.toList_ofList, List.mem_replicate]
    exact fun same => absurd same.2 (by decide)
  · have lengths := below _ member
    rw [String.toList_append, String.toList_ofList, List.length_append, List.length_replicate]
      at lengths
    omega

theorem covered_iff {preInstalled : List ApexFile} {other : String} :
    Covered preInstalled other ↔ ∀ dev, BelongsTo other dev = true →
      (∃ apex ∈ preInstalled, Text.startsWith dev apex.manifest.name = true) →
        ∃ apex ∈ preInstalled, BelongsTo apex.manifest.name dev = true := by
  constructor
  · rintro ⟨longer, inside⟩ dev belongs ⟨apex, member, starts⟩
    rcases belongsTo_iff.mp belongs with rfl | version
    · exact longer apex member starts
    · have within (isInside : Text.startsWith apex.manifest.name (other ++ "@") = true) :
          ∃ apex ∈ preInstalled, BelongsTo apex.manifest.name dev = true := by
        obtain ⟨covering, listed, covers⟩ := inside apex member isInside
        exact ⟨covering, listed, belongsTo_iff.mpr (.inr (Text.startsWith_trans starts covers))⟩
      rcases Text.startsWith_or starts version with short | long
      · rcases (Text.startsWith_mark rfl).mp short with same | before
        · exact within (by rw [same]; exact Text.startsWith_self _)
        · obtain ⟨covering, listed, covers⟩ := longer apex member before
          exact ⟨covering, listed, belongsTo_of_startsWith covers version⟩
      · exact within long
  · intro covered
    constructor
    · intro apex member starts
      exact covered other (belongsTo_iff.mpr (.inl rfl)) ⟨apex, member, starts⟩
    · intro apex member isInside
      -- a device that is none of the packages by its whole name
      obtain ⟨suffix, noAt, fresh⟩ :=
        exists_suffix apex.manifest.name (preInstalled.map fun apex => apex.manifest.name)
      have belongs : BelongsTo other (apex.manifest.name ++ suffix) = true :=
        belongsTo_iff.mpr (.inr (Text.startsWith_trans (Text.startsWith_append _ _) isInside))
      obtain ⟨covering, listed, covers⟩ :=
        covered _ belongs ⟨apex, member, Text.startsWith_append _ _⟩
      refine ⟨covering, listed, ?_⟩
      rcases belongsTo_iff.mp covers with same | version
      · rw [same] at fresh
        exact absurd (List.mem_map_of_mem listed) fresh
      · exact Text.startsWith_of_append rfl noAt version

/-! ## Lookups per package -/

variable {others : Set String}

theorem mem_devicesOf_insert {package dev : String} :
    dev ∈ devicesOf (insert package others) ↔
      BelongsTo package dev = true ∨ ∃ other ∈ others, BelongsTo other dev = true := by
  simp [devicesOf]

/-- What the minor of an APEX depends on, when none of the devices can be mistaken for its own. -/
theorem minor_of_keptApart (apart : ∀ other ∈ others, KeptApart apex.manifest.name other)
    {first second : List String}
    (inside : ∀ dev ∈ first ++ second, dev ∈ devicesOf (insert apex.manifest.name others))
    (agree : first.filter (BelongsTo apex.manifest.name) =
      second.filter (BelongsTo apex.manifest.name)) (result : Except String UInt64) :
    Runs (listing first) (computePackageIdMinor env apex) w result w' ↔
      Runs (listing second) (computePackageIdMinor env apex) w result w' := by
  have none {dev : String} (member : dev ∈ first ++ second) :
      ¬ Mistaken apex.manifest.name dev := by
    rcases mem_devicesOf_insert.mp (inside dev member) with belongs | ⟨other, isOther, belongs⟩
    · exact not_mistaken_of_belongsTo belongs
    · exact keptApart_iff.mp (apart other isOther) dev belongs
  have same : packageIdMinorAmong env apex first = packageIdMinorAmong env apex second := by
    rw [packageIdMinorAmong_filter fun dev member => none (List.mem_append_left _ member), agree,
      ← packageIdMinorAmong_filter fun dev member => none (List.mem_append_right _ member)]
  rw [runs_computePackageIdMinor, runs_computePackageIdMinor, same]
  exact ⟨fun run => run.of_agree searches_packageIdMinorAmong agree_listing,
    fun run => run.of_agree searches_packageIdMinorAmong agree_listing⟩

/-- A device that can be mistaken for one of the APEX is one too many. -/
theorem keptApart_of_lookups (perPackage : LooksUpPerPackage env apex others) {other : String}
    (isOther : other ∈ others) : KeptApart apex.manifest.name other := by
  refine keptApart_iff.mpr fun dev belongs mistaken => ?_
  have foreign : dev ∉ ownDevices apex.manifest.name := by
    intro own
    exact not_mistaken_of_belongsTo (ownDevices_belong own) mistaken
  have own := ownDevices_nodup apex.manifest.name
  have oneMore : (ownDevices apex.manifest.name ++ [dev]).Nodup := by
    refine List.nodup_append.mpr ⟨own, by simp, fun first member second last => ?_⟩
    rw [List.mem_singleton.mp last]
    rintro rfl
    exact foreign member
  have named : ∀ listed ∈ ownDevices apex.manifest.name ++ (ownDevices apex.manifest.name ++ [dev]),
      listed ∈ devicesOf (insert apex.manifest.name others) := by
    intro listed member
    rw [mem_devicesOf_insert]
    simp only [List.mem_append, List.mem_singleton] at member
    rcases member with own | own | rfl
    · exact .inl (ownDevices_belong own)
    · exact .inl (ownDevices_belong own)
    · exact .inr ⟨other, isOther, belongs⟩
  have same := perPackage.minor _ _ own oneMore named (by simp [mistaken.2])
  exact not_ok_of_mistaken mistaken ((same _ _ _).mp runs_ownDevices)

/-- Whatever the names of packages may be, a device can be mistaken for one of the APEX. -/
theorem not_looksUpPerPackage_univ : ¬ LooksUpPerPackage env apex Set.univ := by
  intro perPackage
  have apart := keptApart_of_lookups perPackage (Set.mem_univ (apex.manifest.name ++ "x"))
  have belongs := apart.notPrefix (Text.startsWith_append _ _)
  rw [not_belongsTo_append (by decide) (by decide)] at belongs
  cases belongs

/-- Lookups are per package exactly when the name of the package is a prefix of that of no other
package, and every package of whose name that of a pre-installed package is a prefix is
pre-installed (as far as `@` does not make it one version of another). -/
theorem looksUpPerPackage_iff :
    LooksUpPerPackage env apex others ↔
      (∀ other ∈ others, KeptApart apex.manifest.name other) ∧
      ∀ package ∈ insert apex.manifest.name others,
        Covered env.repository.preInstalledStore.toList package := by
  have accepts (dev : String) : isApexDevice env.toEnvironment dev = true ↔
      ∃ preInstalled ∈ env.repository.preInstalledStore.toList,
        Text.startsWith dev preInstalled.manifest.name = true := by
    simp [isApexDevice]
  constructor
  · intro perPackage
    refine ⟨fun other isOther => keptApart_of_lookups perPackage isOther, fun package named => ?_⟩
    refine covered_iff.mpr fun dev belongs starts => ?_
    exact perPackage.cleanup dev ⟨package, named, belongs⟩ ((accepts dev).mpr starts)
  · rintro ⟨apart, covered⟩
    constructor
    · intro first second _ _ inside agree w result w'
      exact minor_of_keptApart apart inside agree result
    · rintro dev ⟨package, named, belongs⟩ accepted
      exact covered_iff.mp (covered package named) dev belongs ((accepts dev).mp accepted)

def artUpdate : ApexFile :=
  ⟨⟨.other "/data/local/tmp", "art.apex"⟩, .plain "com.android.art" 4 1⟩

/-- `com.android.art.debug` is another package than `com.android.art`. -/
theorem debug_device_mistaken :
    ¬ LooksUpPerPackage .plain artUpdate {"com.android.art.debug"} := by
  intro perPackage
  have apart := keptApart_of_lookups perPackage (Set.mem_singleton _)
  exact absurd (apart.notPrefix (by decide +kernel)) (by decide +kernel)

end Apexd
