import Apexd.Model.Install
import Apexd.Process.Termination
import Apexd.Verified.Calls

/-! # The minor of a package id

`ComputePackageIdMinor` takes the first minor above those of the devices of the package for which
there is no file.
-/

namespace Apexd

open Process Storage

variable {env : InstallEnvironment} {apex : ApexFile} {w w' : World}

/-- What `ComputePackageIdMinor` does with the list of devices. -/
def packageIdMinorAmong (env : InstallEnvironment) (apex : ApexFile) (dmDevices : List String) :
    Procedure UInt64 := do
  let scan ← .ofExcept
    (dmDevices.foldlM (scanDmDevice env apex.manifest.name) { devices := 0, nextMinor := 1 })
  if scan.devices > kMaxVerityDevicesPerApexName then
    .throw ("There are too many (" ++ toString scan.devices ++
      ") dm block devices associated with package " ++ apex.manifest.name)
  else freeMinor apex UInt64.size scan.nextMinor

theorem computePackageIdMinor_eq : computePackageIdMinor env apex =
    (kernelCall .listDevices).mapError (fun _ => "Failed to list dm devices") >>=
      packageIdMinorAmong env apex := rfl

/-! ## The devices -/

/-- Every minor of a device is below the next one. -/
structure Above (env : InstallEnvironment) (name : String) (dmDevices : List String)
    (scan : MinorScan) : Prop where
  positive : 0 < scan.nextMinor.toNat
  small : scan.nextMinor.toNat ≤ 2 ^ 63
  above : ∀ dmName ∈ dmDevices, ∀ rest, Text.consumePrefix dmName name = some rest →
    ∀ text, Text.afterLast '_' rest = some text → ∀ minor, env.parseUint text = some minor →
      minor.toNat < scan.nextMinor.toNat

theorem above_scanDmDevice {name dmName : String} {before : List String} {scan scan' : MinorScan}
    (above : Above env name before scan)
    (small : ∀ rest, Text.consumePrefix dmName name = some rest →
      ∀ text, Text.afterLast '_' rest = some text → ∀ minor, env.parseUint text = some minor →
        minor.toNat < 2 ^ 63)
    (scanned : scanDmDevice env name scan dmName = .ok scan') :
    Above env name (before ++ [dmName]) scan' := by
  have extend {next : MinorScan} (least : scan.nextMinor.toNat ≤ next.nextMinor.toNat)
      (most : next.nextMinor.toNat ≤ 2 ^ 63)
      (here : ∀ rest, Text.consumePrefix dmName name = some rest →
        ∀ text, Text.afterLast '_' rest = some text → ∀ minor, env.parseUint text = some minor →
          minor.toNat < next.nextMinor.toNat) :
      Above env name (before ++ [dmName]) next := by
    refine ⟨Nat.lt_of_lt_of_le above.positive least, most, fun other member rest consumed => ?_⟩
    rcases List.mem_append.mp member with earlier | last
    · intro text found minor parsed
      have bound := above.above other earlier rest consumed text found minor parsed
      omega
    · rw [List.mem_singleton] at last
      exact here rest (last ▸ consumed)
  unfold scanDmDevice at scanned
  cases consumed : Text.consumePrefix dmName name with
  | none =>
    simp only [consumed, Except.ok.injEq] at scanned
    rw [← scanned]
    exact extend le_rfl above.small fun rest same => by rw [consumed] at same; cases same
  | some rest =>
    simp only [consumed] at scanned
    cases found : Text.afterLast '_' rest with
    | none =>
      simp only [found, Except.ok.injEq] at scanned
      rw [← scanned]
      refine extend le_rfl above.small fun rest' same text found' => ?_
      cases consumed.symm.trans same
      cases found.symm.trans found'
    | some text =>
      cases parsed : env.parseUint text with
      | none => simp [found, parsed] at scanned
      | some minor =>
        have bound := small rest consumed text found minor parsed
        -- the minor is far from the greatest value, so that adding one does not wrap
        have added : (minor + 1).toNat = minor.toNat + 1 := by
          rw [UInt64.toNat_add]
          have one : (1 : UInt64).toNat = 1 := rfl
          omega
        have here {next : MinorScan} (above' : minor.toNat < next.nextMinor.toNat) :
            ∀ rest, Text.consumePrefix dmName name = some rest →
              ∀ text, Text.afterLast '_' rest = some text → ∀ minor, env.parseUint text = some minor →
                minor.toNat < next.nextMinor.toNat := by
          intro rest' same text' found' minor' parsed'
          cases consumed.symm.trans same
          cases found.symm.trans found'
          cases parsed.symm.trans parsed'
          exact above'
        have least := above.small
        simp only [found, parsed, Except.ok.injEq] at scanned
        rw [← scanned]
        split
        · rename_i less
          rw [UInt64.lt_iff_toNat_lt, added] at less
          exact extend (by simp only [added]; omega) (by simp only [added]; omega)
            (here (by simp only [added]; omega))
        · rename_i notLess
          rw [UInt64.lt_iff_toNat_lt, added] at notLess
          exact extend le_rfl least (here (by simp only; omega))

theorem above_scan {name : String} {dmDevices : List String} {scan : MinorScan}
    (small : ∀ dmName ∈ dmDevices, ∀ rest, Text.consumePrefix dmName name = some rest →
      ∀ text, Text.afterLast '_' rest = some text → ∀ minor, env.parseUint text = some minor →
        minor.toNat < 2 ^ 63)
    (scanned : dmDevices.foldlM (scanDmDevice env name) { devices := 0, nextMinor := 1 } = .ok scan) :
    Above env name dmDevices scan := by
  suffices general : ∀ (rest before : List String) (first : MinorScan),
      Above env name before first → (∀ dmName ∈ rest, dmName ∈ dmDevices) →
      rest.foldlM (scanDmDevice env name) first = .ok scan → Above env name (before ++ rest) scan by
    refine general dmDevices [] _ ⟨by decide, by decide, by simp⟩ (fun _ => id) scanned
  intro rest
  induction rest with
  | nil =>
    intro before first above _ scanned
    cases scanned
    rwa [List.append_nil]
  | cons dmName rest ih =>
    intro before first above inside scanned
    rw [List.foldlM_cons] at scanned
    cases one : scanDmDevice env name first dmName with
    | error e =>
      rw [one] at scanned
      cases scanned
    | ok second =>
      rw [one] at scanned
      have step := above_scanDmDevice above (small dmName (inside dmName (by simp))) one
      rw [show before ++ dmName :: rest = (before ++ [dmName]) ++ rest by simp]
      exact ih _ second step (fun other member => inside other (by simp [member])) scanned

/-! ## The files -/

theorem installTarget_inj {first second : UInt64}
    (same : installTarget apex first = installTarget apex second) : first = second := by
  have names : packageIdWithMinor apex first ++ kApexPackageSuffix =
      packageIdWithMinor apex second ++ kApexPackageSuffix := congrArg Storage.Path.name same
  have ids := (String.append_left_inj _).mp names
  have texts : toString first = toString second := (String.append_right_inj _).mp ids
  exact UInt64.toNat_inj.mp (Text.repr_inj texts)

/-- There are not enough files for all minors. -/
theorem exists_free (apex : ApexFile) (few : (w.files .active).names.length + 1 < 2 ^ 63)
    {nextMinor : UInt64} (small : nextMinor.toNat ≤ 2 ^ 63) :
    ∃ offset ≤ (w.files .active).names.length,
      w.fs.file (installTarget apex (nextMinor + .ofNat offset)) = none := by
  by_contra allThere
  simp only [not_exists, not_and] at allThere
  let candidate (offset : Nat) : String := (installTarget apex (nextMinor + .ofNat offset)).name
  let offsets := List.range ((w.files .active).names.length + 1)
  have bounded {offset : Nat} (member : offset ∈ offsets) :
      offset ≤ (w.files .active).names.length := by
    have := List.mem_range.mp member
    omega
  have value {offset : Nat} (member : offset ∈ offsets) :
      (nextMinor + .ofNat offset).toNat = nextMinor.toNat + offset := by
    have := bounded member
    rw [UInt64.toNat_add, UInt64.toNat_ofNat']
    omega
  have distinct : (offsets.map candidate).Nodup := by
    refine List.Nodup.map_on (fun first memberFirst second memberSecond same => ?_) List.nodup_range
    have minors : nextMinor + .ofNat first = nextMinor + .ofNat second :=
      installTarget_inj (show installTarget apex _ = installTarget apex _ by
        rw [installTarget, installTarget, Storage.Path.mk.injEq]
        exact ⟨rfl, same⟩)
    have values := congrArg UInt64.toNat minors
    rw [value memberFirst, value memberSecond] at values
    omega
  have there : ∀ name ∈ offsets.map candidate, name ∈ (w.files .active).names := by
    intro name member
    obtain ⟨offset, inOffsets, rfl⟩ := List.mem_map.mp member
    obtain ⟨content, found⟩ := Option.ne_none_iff_exists'.mp (allThere offset (bounded inOffsets))
    exact Directory.mem_names.mpr (Finmap.lookup_isSome.mp (Option.isSome_iff_exists.mpr ⟨content, found⟩))
  have tooMany := (List.subperm_of_subset distinct there).length_le
  rw [List.length_map, List.length_range] at tooMany
  omega

theorem offset_succ (nextMinor : UInt64) (offset : Nat) :
    nextMinor + 1 + .ofNat offset = nextMinor + .ofNat (offset + 1) := by
  rw [UInt64.ofNat_add, UInt64.add_assoc, UInt64.add_comm 1]
  rfl

/-- The search finds a minor without a file, at the latest the one that is known. -/
theorem wp_freeMinor {left offset : Nat} {nextMinor : UInt64} (enough : offset < left)
    (free : w.fs.file (installTarget apex (nextMinor + .ofNat offset)) = none)
    {Q : Except String UInt64 → World → Prop}
    (post : ∀ found ≤ offset,
      w.fs.file (installTarget apex (nextMinor + .ofNat found)) = none →
        Q (.ok (nextMinor + .ofNat found)) w) :
    wp device Anything (freeMinor apex left nextMinor) Q w := by
  induction left generalizing offset nextMinor with
  | zero => omega
  | succ left ih =>
    rw [freeMinor, wp_bind]
    apply wp_accessible quiet_anything
    dsimp only
    have here : nextMinor + .ofNat 0 = nextMinor := UInt64.add_zero nextMinor
    cases found : w.fs.file (installTarget apex nextMinor) with
    | none =>
      have result := post 0 (Nat.zero_le _) (by rw [here, found])
      rw [here] at result
      exact result
    | some content =>
      cases offset with
      | zero =>
        rw [here, found] at free
        cases free
      | succ offset =>
        refine ih (by omega : offset < left) ?_ fun later least absent => ?_
        · rw [offset_succ]
          exact free
        · rw [offset_succ] at absent ⊢
          exact post (later + 1) (by omega) absent

theorem ends_freeMinor {left offset : Nat} {nextMinor : UInt64} (enough : offset < left)
    (free : w.fs.file (installTarget apex (nextMinor + .ofNat offset)) = none) :
    Ends device (freeMinor apex left nextMinor) w := by
  induction left generalizing offset nextMinor with
  | zero => omega
  | succ left ih =>
    rw [freeMinor]
    have looks : Ends device (accessible (installTarget apex nextMinor)) w :=
      .of_within (always_accessible _) answered_of_always w
    refine looks.bind ?_
    apply wp_accessible quiet_anything
    rintro there ⟨⟩
    have here : nextMinor + .ofNat 0 = nextMinor := UInt64.add_zero nextMinor
    cases found : w.fs.file (installTarget apex nextMinor) with
    | none => trivial
    | some content =>
      cases offset with
      | zero =>
        rw [here, found] at free
        cases free
      | succ offset =>
        refine ih (by omega : offset < left) ?_
        rw [offset_succ]
        exact free

/-! ## A fresh minor -/

theorem wp_listDevices {Q : Except String (List String) → World → Prop}
    (post : ∀ listing : List String, listing.Perm w.devices → Q (.ok listing) w) :
    wp device Anything
      ((kernelCall .listDevices).mapError fun _ => "Failed to list dm devices") Q w := by
  rw [wp_mapError]
  rintro reply w' ⟨same, listing, perm, answered⟩
  rw [same, answered]
  exact ⟨trivial, post listing perm⟩

theorem ends_listDevices : Ends device
    ((kernelCall .listDevices).mapError fun _ => "Failed to list dm devices") w := by
  have ends : Ends device (kernelCall .listDevices) w :=
    show _ ∧ _ from ⟨⟨.ok w.devices, w, rfl, w.devices, .refl _, rfl⟩, fun _ _ _ => trivial⟩
  exact ends.mapError _

/-- Neither the new version nor, should it be gone back to, the previous one collides with what is
there under a minor. -/
structure FreshMinor (w : World) (apex : ApexFile) (minor : UInt64) : Prop where
  device : packageIdWithMinor apex minor ∉ w.devices
  rollbackDevice : packageIdWithMinor apex (minor + 1) ∉ w.devices
  file : w.fs.file (installTarget apex minor) = none

theorem Above.not_mem {dmDevices : List String} {scan : MinorScan} {minor : UInt64}
    (above : Above env apex.manifest.name dmDevices scan)
    (reads : ∀ minor : UInt64, env.parseUint (toString minor) = some minor)
    (least : scan.nextMinor.toNat ≤ minor.toNat) : packageIdWithMinor apex minor ∉ dmDevices := by
  intro member
  have digits : '_' ∉ (toString minor).toList := by
    intro inside
    exact absurd (Text.isDigit_of_mem_repr (n := minor.toNat) inside) (by decide)
  have split : packageIdWithMinor apex minor =
      apex.manifest.name ++ ("@" ++ toString apex.manifest.version ++ '_'.toString ++ toString minor) := by
    simp only [packageIdWithMinor, getPackageId, String.append_assoc]
    rfl
  have bound := above.above _ member _ (Text.consumePrefix_eq_some.mpr split) _
    (Text.afterLast_separator digits) minor (reads minor)
  omega

/-- `ComputePackageIdMinor` comes to an end, and a minor that it returns is fresh. -/
theorem computePackageIdMinor_fresh
    (reads : ∀ minor : UInt64, env.parseUint (toString minor) = some minor)
    (small : ∀ dmName ∈ w.devices, ∀ text, Text.afterLast '_' dmName = some text →
      ∀ minor, env.parseUint text = some minor → minor.toNat < 2 ^ 63)
    (few : (w.files .active).names.length + 1 < 2 ^ 63) :
    (∀ rest w', Relation.ReflTransGen (Step device) (computePackageIdMinor env apex, w) (rest, w') →
      ∃ result w'', Runs device rest w' result w'') ∧
    ∀ minor w', Runs device (computePackageIdMinor env apex) w (.ok minor) w' →
      FreshMinor w apex minor := by
  have scanned {listing : List String} {scan : MinorScan} (perm : listing.Perm w.devices)
      (isScan : listing.foldlM (scanDmDevice env apex.manifest.name) { devices := 0, nextMinor := 1 } =
        .ok scan) : Above env apex.manifest.name listing scan := by
    refine above_scan (fun dmName member rest consumed text found => ?_) isScan
    rw [Text.consumePrefix_eq_some] at consumed
    refine small dmName (perm.mem_iff.mp member) text ?_
    have inside : '_' ∈ rest.toList := by
      by_contra absent
      simp [Text.afterLast, absent] at found
    rwa [consumed, Text.afterLast_append inside]
  have size : UInt64.size = 2 ^ 64 := rfl
  constructor
  · intro rest w' steps
    refine Ends.completes ?_ steps
    rw [computePackageIdMinor_eq]
    refine ends_listDevices.bind (wp_listDevices ?_)
    rintro listing perm _ ⟨⟩
    unfold packageIdMinorAmong
    cases isScan : listing.foldlM (scanDmDevice env apex.manifest.name)
        { devices := 0, nextMinor := 1 } with
    | error e => trivial
    | ok scan =>
      simp only [Program.ofExcept, Program.done_ok_bind]
      split
      · trivial
      · obtain ⟨offset, least, free⟩ := exists_free apex few (scanned perm isScan).small
        exact ends_freeMinor (by rw [size]; omega) free
  · intro minor w' run
    suffices fresh : wp device Anything (computePackageIdMinor env apex)
        (fun result _ => ∀ minor, result = .ok minor → FreshMinor w apex minor) w from
      wp_runs fresh run minor rfl
    rw [computePackageIdMinor_eq, wp_bind]
    refine wp_listDevices fun listing perm => ?_
    dsimp only
    unfold packageIdMinorAmong
    cases isScan : listing.foldlM (scanDmDevice env apex.manifest.name)
        { devices := 0, nextMinor := 1 } with
    | error e => exact fun _ isOk => by cases isOk
    | ok scan =>
      simp only [Program.ofExcept, Program.done_ok_bind]
      split
      · exact fun _ isOk => by cases isOk
      · have above := scanned perm isScan
        obtain ⟨offset, least, free⟩ := exists_free apex few above.small
        refine wp_freeMinor (by rw [size]; omega) free ?_
        rintro found atMost absent _ ⟨⟩
        have value : (scan.nextMinor + .ofNat found).toNat = scan.nextMinor.toNat + found := by
          have := above.small
          rw [UInt64.toNat_add, UInt64.toNat_ofNat']
          omega
        have next : (scan.nextMinor + .ofNat found + 1).toNat = scan.nextMinor.toNat + found + 1 := by
          have := above.small
          rw [UInt64.toNat_add, value]
          have one : (1 : UInt64).toNat = 1 := rfl
          omega
        refine ⟨fun member => ?_, fun member => ?_, absent⟩
        · exact above.not_mem reads (by omega) (perm.mem_iff.mpr member)
        · exact above.not_mem reads (by omega) (perm.mem_iff.mpr member)

/-- Digits only, and no more than fit. -/
def parseDecimal (text : String) : Option UInt64 :=
  let digits := text.toList
  if digits ≠ [] ∧ digits.all Char.isDigit = true ∧ Nat.ofDigitChars 10 digits 0 < UInt64.size then
    some (.ofNat (Nat.ofDigitChars 10 digits 0))
  else none

theorem parseDecimal_toString (minor : UInt64) : parseDecimal (toString minor) = some minor := by
  have digits : (toString minor).toList = Nat.toDigits 10 minor.toNat := Nat.toList_repr
  have value : Nat.ofDigitChars 10 (Nat.toDigits 10 minor.toNat) 0 = minor.toNat :=
    Nat.ofDigitChars_ten_toDigits
  have all : (Nat.toDigits 10 minor.toNat).all Char.isDigit = true := by
    rw [List.all_eq_true]
    intro c member
    rw [← digits] at member
    exact Text.isDigit_of_mem_repr (n := minor.toNat) member
  rw [parseDecimal]
  simp only [digits, value]
  rw [if_pos ⟨Nat.toDigits_ne_nil, all, minor.toNat_lt_size⟩, UInt64.ofNat_toNat]

def InstallEnvironment.plain : InstallEnvironment :=
  { Environment.plain .create with
    parseUint := parseDecimal
    subdirs := fun _ => .ok [] }

/-- Two devices of a package, and a file under the minor that is next. -/
def withDevices : World :=
  { World.ofDirectories [(.active, [("foo@2_2.apex", .apex (.plain "foo" 2 0))])] with
    devices := ["foo@1", "foo@1_1"] }

def fooUpdate : ApexFile :=
  ⟨⟨.other "/data/local/tmp", "foo.apex"⟩, .plain "foo" 2 1⟩

theorem computePackageIdMinor_fresh_foo : ∃ minor w',
    Runs device (computePackageIdMinor .plain fooUpdate) withDevices (.ok minor) w' ∧
      FreshMinor withDevices fooUpdate minor := by
  obtain ⟨result, w', run, check⟩ := exists_runs deviceHandler_sound
    (computePackageIdMinor .plain fooUpdate) withDevices (fun result _ => result.isOk)
    (by decide +kernel)
  cases result with
  | error e => cases check
  | ok minor =>
    refine ⟨minor, w', run, (computePackageIdMinor_fresh parseDecimal_toString ?_
      (by decide +kernel)).2 minor w' run⟩
    intro dmName member text found minor parsed
    rcases List.mem_pair.mp member with rfl | rfl
    · have none : Text.afterLast '_' "foo@1" = none := by decide +kernel
      cases none.symm.trans found
    · have one : Text.afterLast '_' "foo@1_1" = some "1" := by decide +kernel
      cases one.symm.trans found
      have value : parseDecimal "1" = some 1 := parseDecimal_toString 1
      cases value.symm.trans parsed
      decide

/-- The minors of the package below a count have a file. -/
def withMinors (count : Nat) : World := .ofDirectories [
  (.active, (List.range count).map fun minor =>
    ((installTarget fooUpdate (.ofNat minor)).name, .apex (.plain "foo" 2 0)))]

theorem withMinors_file {count : Nat} {minor : UInt64} (below : minor.toNat < count) :
    (withMinors count).fs.file (installTarget fooUpdate minor) ≠ none := by
  have there : (installTarget fooUpdate minor).name ∈ (withMinors count).files .active := by
    refine Finmap.mem_list_toFinmap _ _ |>.mpr ⟨.apex (.plain "foo" 2 0), ?_⟩
    refine List.mem_map.mpr ⟨_, List.mem_map.mpr ⟨minor.toNat, ?_, rfl⟩, ?_⟩
    · exact List.mem_range.mpr below
    · rw [UInt64.ofNat_toNat]
  exact Option.isSome_iff_ne_none.mp (Finmap.lookup_isSome.mpr there)

/-- Without a free minor the search goes on forever. -/
theorem wp_freeMinor_of_full (full : ∀ minor, w.fs.file (installTarget apex minor) ≠ none)
    {left : Nat} {nextMinor : UInt64} {Q : Except String UInt64 → World → Prop} :
    wp device Anything (freeMinor apex left nextMinor) Q w := by
  induction left generalizing nextMinor with
  | zero =>
    rintro _ _ ⟨⟩
  | succ left ih =>
    rw [freeMinor, wp_bind]
    apply wp_accessible quiet_anything
    dsimp only
    cases found : w.fs.file (installTarget apex nextMinor) with
    | none => exact absurd found (full nextMinor)
    | some content => exact ih

theorem search_without_end : ¬ ∀ rest w',
    Relation.ReflTransGen (Step device)
      (computePackageIdMinor .plain fooUpdate, withMinors UInt64.size) (rest, w') →
        ∃ result w'', Runs device rest w' result w'' := by
  intro ends
  obtain ⟨result, w', run⟩ := ends _ _ .refl
  suffices never : wp device Anything (computePackageIdMinor .plain fooUpdate)
      (fun _ _ => False) (withMinors UInt64.size) from wp_runs never run
  rw [computePackageIdMinor_eq, wp_bind]
  refine wp_listDevices fun listing perm => ?_
  have none : listing = [] := List.perm_nil.mp perm
  rw [none]
  exact wp_freeMinor_of_full fun minor => withMinors_file minor.toNat_lt_size

end Apexd
