import Apexd.Model.Boot
import Apexd.Verified.RevertRecovery
import Apexd.Verified.Selection

/-! # What a boot with a resumed revert selects

The data APEXes are collected before an interrupted revert is resumed, so what is selected are
the files of the active directory from before, and not those of the backup that replaces it.
-/

namespace Apexd

open Process Storage

variable {G : Guarantee apexd World} {env : BootEnvironment} {w w' : World}

namespace ApexFileRepository

/-- The repository after one file of a data directory that was opened. -/
def withDataFile (repository : ApexFileRepository) : Except String ApexFile → ApexFileRepository
  | .error _ => repository
  | .ok apex =>
    if repository.acceptsDataApex apex then
      match repository.dataStore.find apex.manifest.name with
      | none => { repository with dataStore := repository.dataStore.emplace apex }
      | some existing =>
        if apex.manifest.version > existing.manifest.version then
          { repository with dataStore := repository.dataStore.insert apex }
        else repository
    else repository

end ApexFileRepository

theorem wp_addDataFile (quiet : Quiet G) (repository : ApexFileRepository) (path : FilePath)
    {Q : Except String ApexFileRepository → World → Prop}
    (post : Q (.ok (repository.withDataFile (openAt w.fs path))) w) :
    wp device G (repository.addDataFile path) Q w := by
  rw [ApexFileRepository.addDataFile, wp_bind, wp_attempt]
  apply wp_apexFile_open quiet
  cases opened : openAt w.fs path with
  | error e =>
    rw [opened] at post
    exact post
  | ok apex =>
    rw [opened] at post
    dsimp only [ApexFileRepository.withDataFile] at post ⊢
    split at post
    · rename_i accepted
      rw [if_pos accepted]
      cases found : repository.dataStore.find apex.manifest.name with
      | none =>
        rw [found] at post
        exact post
      | some existing =>
        rw [found] at post
        dsimp only at post ⊢
        split at post
        · rename_i newer
          rw [if_pos newer]
          exact post
        · rename_i older
          rw [if_neg older]
          exact post
    · rename_i rejected
      rw [if_neg rejected]
      exact post

/-- `AddDataApex` on a directory that is there. -/
theorem wp_addDataApex (quiet : Quiet G) (repository : ApexFileRepository) {dir : DirId}
    (exists' : w.fs.has dir = true) {Q : Except String ApexFileRepository → World → Prop}
    (post : ∀ listing, (w.files dir).IsListing listing →
      Q (.ok ((withSuffix dir [kApexPackageSuffix] listing).foldl
        (fun repository path => repository.withDataFile (openAt w.fs path)) repository)) w) :
    wp device G (repository.addDataApex dir) Q w := by
  rw [ApexFileRepository.addDataApex, wp_bind, wp_attempt]
  apply wp_stat quiet
  obtain ⟨content, found⟩ := Option.isSome_iff_exists.mp exists'
  rw [found]
  change wp device G (findFilesBySuffix dir [kApexPackageSuffix] >>= _) _ w
  rw [wp_bind]
  refine wp_findFilesBySuffix quiet exists' fun listing isListing => ?_
  dsimp only
  refine wp_fold (fun done repository' w₁ => w₁ = w ∧ repository' = done.foldl
    (fun repository path => repository.withDataFile (openAt w.fs path)) repository)
    ⟨rfl, rfl⟩ ?_ ?_
  · rintro before path after repository' w₁ - ⟨unchanged, scanned⟩
    rw [unchanged]
    refine wp_addDataFile quiet repository' path ⟨rfl, ?_⟩
    rw [List.foldl_append, ← scanned]
    rfl
  · rintro repository' w₁ ⟨unchanged, scanned⟩
    rw [unchanged, scanned]
    exact post listing isListing

/-- `AddDataApex` on a directory that is not there. -/
theorem wp_addDataApex_absent (quiet : Quiet G) (repository : ApexFileRepository) {dir : DirId}
    (absent : w.fs.has dir = false) {Q : Except String ApexFileRepository → World → Prop}
    (post : Q (.ok repository) w) : wp device G (repository.addDataApex dir) Q w := by
  rw [ApexFileRepository.addDataApex, wp_bind, wp_attempt]
  apply wp_stat quiet
  rw [Option.isSome_eq_false_iff.mp absent |> Option.isNone_iff_eq_none.mp]
  exact post

/-- A resumed revert restores the active directory: a session is marked and there is a backup. -/
structure World.Restores (w : World) : Prop where
  marked : w.Marked
  active : w.fs.has .active = true
  backup : w.fs.has .backup = true

/-- A boot that comes to `w₁` after staging, resumes a revert from there and hands over what it
selected, on the device `w'`. -/
structure RestoringBoot (env : BootEnvironment) (w w₁ : World) (selected : List ApexFileRef)
    (w' : World) : Prop where
  staging : Runs device (onStartStaging env) w (.ok ()) w₁
  restores : w₁.Restores
  selection : Runs device (onStartSelection env) w₁ (.ok selected) w'

theorem RestoringBoot.runs {w₁ : World} {selected : List ApexFileRef}
    (boot : RestoringBoot env w w₁ selected w') :
    Runs device (onStartUntilSelection env) w (.ok selected) w' :=
  runs_bind.mpr ⟨_, _, boot.staging, boot.selection⟩

/-- A boot with version 1 of a package pre-installed. -/
def bootWithFoo : BootEnvironment where
  toEnvironment := .plain (.ofPackages ["foo"])
  needsRollback := .ok false
  iteration repository := iterate repository.allApexFilesByName
  isIteration _ := isIteration_iterate _
  bootActivationThreads := 0
  rootDigest archive := toString archive.image
  originalApexDigest archive := toString archive.image
  originalApex
    | .apex archive => .ok (.apex { archive with isCompressed := false })
    | .data _ => .error "Invalid file"

end Apexd
