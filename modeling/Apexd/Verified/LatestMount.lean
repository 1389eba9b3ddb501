import Apexd.Model.MountDatabase

/-! # The latest mount of a package

`ForallMountedApexes`, `GetLatestMountedApex` and `DoIfLatest` take the last entry of a package's
set for its latest mount, also where they look at mounts that are not temporary only.  They agree
with the order of the entries exactly when the last entry is not a temporary mount.
-/

namespace Apexd

open Storage

namespace MountedSet

variable {set : MountedSet} {data : MountedApexData}

/-- The last entry is the one that is greater than all others. -/
theorem latest_eq_some_iff : set.latest = some data ↔
    data ∈ set.entries ∧ ∀ other ∈ set.entries, other ≠ data → other.lt data = true := by
  have sorted := set.sorted
  rw [latest]
  constructor
  · intro last
    obtain ⟨front, split⟩ := List.getLast?_eq_some_iff.mp last
    rw [split] at sorted ⊢
    refine ⟨by simp, fun other member ne => ?_⟩
    have below := (List.pairwise_append.mp sorted).2.2
    rcases List.mem_append.mp member with inFront | isLast
    · exact decide_eq_true (below other inFront data (by simp))
    · exact absurd (List.mem_singleton.mp isLast) ne
  · rintro ⟨member, greatest⟩
    have found := List.getLast?_eq_some_getLast (List.ne_nil_of_mem member)
    generalize set.entries.getLast _ = last at found
    obtain ⟨front, split⟩ := List.getLast?_eq_some_iff.mp found
    rw [found, Option.some.injEq]
    by_contra ne
    rw [split] at sorted member
    have above := of_decide_eq_true (greatest last (split ▸ by simp) ne)
    rcases List.mem_append.mp member with inFront | isLast
    · exact lt_asymm above ((List.pairwise_append.mp sorted).2.2 data inFront last (by simp))
    · exact ne (List.mem_singleton.mp isLast).symm

theorem map_fst_reversed (set : MountedSet) : set.reversed.map Prod.fst = set.entries.reverse := by
  unfold reversed
  split
  · rename_i nil
    rw [nil]
    rfl
  · rename_i top rest reversed
    rw [reversed]
    simp [Function.comp_def]

/-- Which entries are visited, and which of them as the latest. -/
theorem mem_reversed {top : MountedApexData} (last : set.latest = some top) {flag : Bool} :
    (data, flag) ∈ set.reversed ↔ data ∈ set.entries ∧ flag = decide (data = top) := by
  obtain ⟨front, split⟩ := List.getLast?_eq_some_iff.mp last
  have below := (List.pairwise_append.mp (split ▸ set.sorted)).2.2
  have ne (other : MountedApexData) (member : other ∈ front) : other ≠ top := by
    rintro rfl
    exact lt_irrefl _ (below other member other (by simp))
  have reversed : set.reversed = (top, true) :: front.reverse.map (·, false) := by
    simp [MountedSet.reversed, split]
  rw [reversed, split]
  simp only [List.mem_cons, List.mem_map, List.mem_reverse, Prod.mk.injEq, List.mem_append,
    List.not_mem_nil, or_false]
  constructor
  · rintro (⟨rfl, rfl⟩ | ⟨other, member, rfl, rfl⟩)
    · simp
    · simp [member, ne other member]
  · rintro ⟨member | rfl, rfl⟩
    · exact .inr ⟨data, member, rfl, by simp [ne data member]⟩
    · exact .inl ⟨rfl, by simp⟩

end MountedSet

namespace MountedApexDatabase

/-- The databases that apexd can get to. -/
inductive Reachable : MountedApexDatabase → Prop
  | empty : Reachable ∅
  | add {database added : MountedApexDatabase} {package : String} {data : MountedApexData}
      (reachable : Reachable database) (isAdded : database.addMountedApex package data = some added) :
      Reachable added
  | remove {database : MountedApexDatabase} (package : String) (fullPath : FilePath)
      (matchTempMounts : Bool) (reachable : Reachable database) :
      Reachable (database.removeMountedApex package fullPath matchTempMounts)

/-- The greatest mount of a package that is not temporary. -/
structure IsGreatest (database : MountedApexDatabase) (package : String) (data : MountedApexData) :
    Prop where
  mem : data ∈ (database.mountsOf package).entries
  notTemp : data.isTempMount = false
  greatest : ∀ other ∈ (database.mountsOf package).entries, other.isTempMount = false →
    other ≠ data → other.lt data = true

/-- The functions of the database agree on the latest mount of a package. -/
structure LatestLaw (database : MountedApexDatabase) (package : String) : Prop where
  visits : ((database.forallMountedApexesOf package false).map Prod.fst).Perm
    ((database.mountsOf package).entries.filter fun data => !data.isTempMount)
  visitsInAll : (database.forallMountedApexes false).filter (fun visit => visit.1 = package) =
    (database.forallMountedApexesOf package false).map (package, ·)
  latest : ∃ data, database.IsGreatest package data ∧
    (∀ visit ∈ database.forallMountedApexesOf package false,
      visit.2 = decide (visit.1 = data)) ∧
    database.getLatestMountedApex package = some data ∧
    ∀ fullPath, database.doIfLatest package fullPath =
      some (decide (pathText data.fullPath = pathText fullPath))

variable {database : MountedApexDatabase} {package : String} {data : MountedApexData}

theorem mem_forallMountedApexesOf {visit : MountedApexData × Bool} {matchTempMounts : Bool} :
    visit ∈ database.forallMountedApexesOf package matchTempMounts ↔
      visit ∈ (database.mountsOf package).reversed ∧ visit.1.isTempMount = matchTempMounts := by
  simp [forallMountedApexesOf]

theorem forallMountedApexesOf_visits (database : MountedApexDatabase) (package : String) :
    ((database.forallMountedApexesOf package false).map Prod.fst).Perm
      ((database.mountsOf package).entries.filter fun data => !data.isTempMount) := by
  have mapped : (database.forallMountedApexesOf package false).map Prod.fst =
      ((database.mountsOf package).reversed.map Prod.fst).filter fun data => !data.isTempMount := by
    rw [forallMountedApexesOf, List.filter_map]
    congr 2
    funext visit
    simp
  rw [mapped, MountedSet.map_fst_reversed]
  exact (List.reverse_perm _).filter _

/-- The visits of all packages are those of each. -/
theorem forallMountedApexes_filter (database : MountedApexDatabase) (package : String)
    (matchTempMounts : Bool) :
    (database.forallMountedApexes matchTempMounts).filter (fun visit => visit.1 = package) =
      (database.forallMountedApexesOf package matchTempMounts).map (package, ·) := by
  have visitsOf (names : List String) (nodup : names.Nodup) :
      (names.flatMap fun name => (database.forallMountedApexesOf name matchTempMounts).map
        (name, ·)).filter (fun visit => visit.1 = package) = if package ∈ names then
          (database.forallMountedApexesOf package matchTempMounts).map (package, ·) else [] := by
    induction names with
    | nil => rfl
    | cons name rest ih =>
      obtain ⟨notLater, restNodup⟩ := List.nodup_cons.mp nodup
      rw [List.flatMap_cons, List.filter_append, ih restNodup]
      by_cases same : name = package
      · subst same
        have own : ((database.forallMountedApexesOf name matchTempMounts).map (name, ·)).filter
            (fun visit => visit.1 = name) =
              (database.forallMountedApexesOf name matchTempMounts).map (name, ·) := by
          refine List.filter_eq_self.mpr fun visit member => ?_
          obtain ⟨_, _, rfl⟩ := List.mem_map.mp member
          exact decide_eq_true rfl
        rw [own]
        simp [notLater]
      · have others : ((database.forallMountedApexesOf name matchTempMounts).map (name, ·)).filter
            (fun visit => visit.1 = package) = [] := by
          refine List.filter_eq_nil_iff.mpr fun visit member => ?_
          obtain ⟨_, _, rfl⟩ := List.mem_map.mp member
          simpa using same
        rw [others]
        simp [Ne.symm same]
  rw [forallMountedApexes, visitsOf _ (Directory.nodup_names database)]
  split
  · rfl
  · rename_i notNamed
    have none : database.lookup package = none :=
      Finmap.lookup_eq_none.mpr fun member => notNamed (Directory.mem_names.mpr member)
    simp [forallMountedApexesOf, mountsOf, none, MountedSet.empty, MountedSet.reversed]

/-- The flag says which visit is of the last entry. -/
theorem getLatestMountedApex_eq {top : MountedApexData}
    (last : (database.mountsOf package).latest = some top) :
    database.getLatestMountedApex package = if top.isTempMount then none else some top := by
  have kept {step : Option MountedApexData → MountedApexData × Bool → Option MountedApexData}
      (skips : ∀ ret data, step ret (data, false) = ret) (ret : Option MountedApexData)
      (visits : List (MountedApexData × Bool)) (older : ∀ visit ∈ visits, visit.2 = false) :
      visits.foldl step ret = ret := by
    induction visits with
    | nil => rfl
    | cons visit rest ih =>
      obtain ⟨data, flag⟩ := visit
      obtain rfl : flag = false := older (data, flag) (by simp)
      rw [List.foldl_cons, skips]
      exact ih fun other member => older other (by simp [member])
  obtain ⟨front, split⟩ := List.getLast?_eq_some_iff.mp last
  have reversed : (database.mountsOf package).reversed =
      (top, true) :: front.reverse.map (·, false) := by
    simp [MountedSet.reversed, split]
  have older : ∀ visit ∈ (front.reverse.map (·, false)).filter
      fun visit => visit.1.isTempMount = false, visit.2 = false := by
    intro visit member
    obtain ⟨data, _, rfl⟩ := List.mem_map.mp (List.mem_filter.mp member).1
    rfl
  rw [getLatestMountedApex, forallMountedApexesOf, reversed]
  cases isTemp : top.isTempMount with
  | true =>
    rw [List.filter_cons_of_neg (by simp [isTemp])]
    exact kept (fun _ _ => rfl) none _ older
  | false =>
    rw [List.filter_cons_of_pos (by simp [isTemp]), List.foldl_cons]
    exact kept (fun _ _ => rfl) (some top) _ older

/-- The law holds for a package exactly when its last mount is not a temporary one. -/
theorem latestLaw_of_not_temp {top : MountedApexData}
    (last : (database.mountsOf package).latest = some top) (notTemp : top.isTempMount = false) :
    database.LatestLaw package where
  visits := database.forallMountedApexesOf_visits package
  visitsInAll := database.forallMountedApexes_filter package false
  latest := by
    obtain ⟨member, greatest⟩ := MountedSet.latest_eq_some_iff.mp last
    refine ⟨top, ⟨member, notTemp, fun other inSet _ => greatest other inSet⟩, ?_, ?_, ?_⟩
    · rintro ⟨data, flag⟩ visited
      exact ((MountedSet.mem_reversed last).mp (mem_forallMountedApexesOf.mp visited).1).2
    · simp [getLatestMountedApex_eq last, notTemp]
    · intro fullPath
      rw [doIfLatest, last]
      rfl

/-- Temporary mounts do not hide the latest mount of a package exactly when each of them is
below one that is not temporary. -/
theorem latestLaw_iff (database : MountedApexDatabase) (package : String)
    (mounted : ∃ data ∈ (database.mountsOf package).entries, data.isTempMount = false) :
    database.LatestLaw package ↔ ∀ temp ∈ (database.mountsOf package).entries,
      temp.isTempMount = true → ∃ data ∈ (database.mountsOf package).entries,
        data.isTempMount = false ∧ temp.lt data = true := by
  obtain ⟨some', inSet, -⟩ := mounted
  have last : (database.mountsOf package).latest = some _ :=
    List.getLast?_eq_some_getLast (List.ne_nil_of_mem inSet)
  generalize List.getLast _ _ = top at last
  obtain ⟨member, greatest⟩ := MountedSet.latest_eq_some_iff.mp last
  constructor
  · rintro ⟨-, -, data, -, -, getLatest, -⟩ temp tempInSet isTemp
    rw [getLatestMountedApex_eq last] at getLatest
    split at getLatest
    · cases getLatest
    · rename_i notTemp
      refine ⟨top, member, by simpa using notTemp, greatest temp tempInSet ?_⟩
      rintro rfl
      exact notTemp isTemp
  · intro below
    refine latestLaw_of_not_temp last ?_
    by_contra isTemp
    obtain ⟨data, dataInSet, notTemp, above⟩ := below top member (by simpa using isTemp)
    have ne : data ≠ top := by
      rintro rfl
      exact isTemp notTemp
    exact lt_asymm (of_decide_eq_true above) (of_decide_eq_true (greatest data dataInSet ne))

/-- A mount for the witness and the counterexample. -/
def sampleMount (version : Int32) (isTempMount : Bool) : MountedApexData where
  version := version
  loopName := "/dev/block/loop" ++ toString version
  fullPath := ⟨.active, "foo@" ++ toString version ++ ".apex"⟩
  mountPoint := "/apex/foo@" ++ toString version
  deviceName := ""
  hashtreeLoopName := ""
  deleted := false
  isTempMount := isTempMount

/-- Version 2 of a package, and a temporary mount of another version of it. -/
def withTempMount (version : Int32) : Option MountedApexDatabase :=
  (addMountedApex ∅ "foo" (sampleMount 2 false)).bind fun database =>
    database.addMountedApex "foo" (sampleMount version true)

theorem reachable_of_withTempMount {version : Int32} (built : withTempMount version = some database) :
    database.Reachable := by
  rw [withTempMount, Option.bind_eq_some_iff] at built
  obtain ⟨first, isFirst, isSecond⟩ := built
  exact (Reachable.empty.add isFirst).add isSecond

theorem latestLaw_iff_tempBelow : ∃ database, withTempMount 1 = some database ∧
    database.LatestLaw "foo" := by
  obtain ⟨database, built⟩ : ∃ database, withTempMount 1 = some database :=
    Option.isSome_iff_exists.mp (by decide +kernel)
  have entries : (withTempMount 1).map (fun database => (database.mountsOf "foo").entries) =
      some [sampleMount 1 true, sampleMount 2 false] := by decide +kernel
  rw [built, Option.map_some, Option.some.injEq] at entries
  refine ⟨database, built, (latestLaw_iff database "foo" ?_).mpr ?_⟩ <;> rw [entries] <;>
    decide +kernel

/-- With a temporary mount of a newer version no mount of the package is the latest. -/
theorem no_latest_beside_newer_tempMount : ∃ database, Reachable database ∧
    (∃ data ∈ (database.mountsOf "foo").entries, data.isTempMount = false) ∧
    ¬ database.LatestLaw "foo" := by
  obtain ⟨database, built⟩ : ∃ database, withTempMount 3 = some database :=
    Option.isSome_iff_exists.mp (by decide +kernel)
  have entries : (withTempMount 3).map (fun database => ((database.mountsOf "foo").entries,
      database.getLatestMountedApex "foo")) =
      some ([sampleMount 2 false, sampleMount 3 true], none) := by decide +kernel
  rw [built, Option.map_some, Option.some.injEq, Prod.mk.injEq] at entries
  refine ⟨database, reachable_of_withTempMount built, ?_, ?_⟩
  · rw [entries.1]
    decide +kernel
  · rintro ⟨-, -, data, -, -, getLatest, -⟩
    rw [entries.2] at getLatest
    cases getLatest

end MountedApexDatabase

end Apexd
