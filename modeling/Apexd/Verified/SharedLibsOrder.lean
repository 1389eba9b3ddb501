import Apexd.Model.Activation

/-! # The order in which APEXes contribute to shared libraries

`ActivateApexPackages` sorts with a comparator that looks at one of the two files only where the
versions are the same, so that it orders only APEXes that are all pre-installed.
-/

namespace Apexd

open Storage

/-- What a sort relies on: a comparator that is a strict weak ordering of the elements. -/
structure StrictWeakOrderOn {α : Type} (elements : Set α) (before : α → α → Bool) : Prop where
  irrefl : ∀ a ∈ elements, ¬ before a a
  asymm : ∀ a ∈ elements, ∀ b ∈ elements, before a b → ¬ before b a
  trans : ∀ a ∈ elements, ∀ b ∈ elements, ∀ c ∈ elements, before a b → before b c → before a c
  incomparable_trans : ∀ a ∈ elements, ∀ b ∈ elements, ∀ c ∈ elements,
    ¬ before a b ∧ ¬ before b a → ¬ before b c ∧ ¬ before c b → ¬ before a c ∧ ¬ before c a

/-- A comparator that compares keys, the greater first, is one. -/
theorem StrictWeakOrderOn.of_key {α β : Type} [LinearOrder β] {elements : Set α}
    {before : α → α → Bool} (key : α → β)
    (compares : ∀ a ∈ elements, ∀ b ∈ elements, before a b ↔ key b < key a) :
    StrictWeakOrderOn elements before where
  irrefl a inside := by
    rw [compares a inside a inside]
    exact lt_irrefl _
  asymm a insideA b insideB := by
    rw [compares a insideA b insideB, compares b insideB a insideA]
    exact fun less => less.asymm
  trans a insideA b insideB c insideC := by
    rw [compares a insideA b insideB, compares b insideB c insideC, compares a insideA c insideC]
    exact fun first second => second.trans first
  incomparable_trans a insideA b insideB c insideC := by
    simp only [compares a insideA b insideB, compares b insideB a insideA,
      compares b insideB c insideC, compares c insideC b insideB,
      compares a insideA c insideC, compares c insideC a insideA, not_lt]
    -- incomparable elements have the same key
    rintro ⟨ab, ba⟩ ⟨bc, cb⟩
    exact ⟨ab.trans bc, cb.trans ba⟩

variable {repository : ApexFileRepository} {a b : ApexFile}

/-- An APEX that is not pre-installed contributes before itself. -/
theorem contributesBefore_self :
    contributesBefore repository a a = !repository.isPreInstalledApex a := by
  rw [contributesBefore, if_neg (not_not.mpr rfl)]

/-- Before a pre-installed APEX goes what has a higher version, or the same and an update. -/
theorem contributesBefore_of_preInstalled (preInstalled : repository.isPreInstalledApex a = true) :
    contributesBefore repository a b ↔ b.manifest.version < a.manifest.version := by
  unfold contributesBefore
  split
  · rw [decide_eq_true_eq, gt_iff_lt]
  · rename_i same
    rw [not_not.mp same, preInstalled]
    simp

/-- The comparator is a strict weak ordering of a set of APEXes just when all of them are
pre-installed. -/
theorem contributesBefore_strictWeakOrder_iff (repository : ApexFileRepository)
    (apexes : Set ApexFile) : StrictWeakOrderOn apexes (contributesBefore repository) ↔
      ∀ apex ∈ apexes, repository.isPreInstalledApex apex = true := by
  constructor
  · intro ordered apex member
    have irrefl := ordered.irrefl apex member
    rw [contributesBefore_self] at irrefl
    simpa using irrefl
  · intro preInstalled
    refine .of_key (fun apex => apex.manifest.version.toInt) fun a member b _ => ?_
    rw [← Int64.lt_iff_toInt_lt]
    exact contributesBefore_of_preInstalled (preInstalled a member)

/-- Version 1 of an APEX that provides shared libraries is pre-installed, version 2 an update. -/
def sharedLibsApex (path : FilePath) (version : Int64) : ApexFile :=
  let archive := Archive.plain "com.android.sharedlibs" version 0
  { path := path
    archive := { archive with manifest := { archive.manifest with provideSharedApexLibs := true } } }

def withSharedLibs : ApexFileRepository :=
  let preInstalled := sharedLibsApex ⟨.other "/system/apex", "com.android.sharedlibs.apex"⟩ 1
  { ApexFileRepository.create with
    preInstalledStore := ApexStore.empty.insert preInstalled }

def updatedSharedLibs : ApexFile :=
  sharedLibsApex ⟨.active, "com.android.sharedlibs@2.apex"⟩ 2

/-- An update is not ordered even alone: it would go before itself. -/
theorem not_strictWeakOrder_of_update :
    ¬ StrictWeakOrderOn {updatedSharedLibs} (contributesBefore withSharedLibs) :=
  fun ordered => ordered.irrefl _ (Set.mem_singleton _) (by decide +kernel)

end Apexd
