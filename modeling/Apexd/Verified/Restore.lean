import Apexd.Model.Lifecycle
import Apexd.Verified.Calls
import Apexd.Verified.Frames

/-! # Restoring the active directory

A restore empties the active directory and renames the backup over it.  Up to the rename the
backup is whole; from the rename on the active directory is what the backup was.
-/

namespace Apexd

open Process Storage

variable {G : Guarantee apexd World} {w w' w'' : World}

/-- The backup has taken the place of the active directory. -/
structure World.Restored (w w' : World) : Prop where
  rest : w' = w.withFs w'.fs
  has : w'.fs.has .active = true
  files : w'.fs.files .active = w.fs.files .backup
  backup : w'.fs.dir .backup = none
  others : ∀ d, d ≠ .active → d ≠ .backup → w'.fs.dir d = w.fs.dir d

theorem World.OnlyIn.has {d x : DirId} (only : w.OnlyIn d w') (ne : x ≠ d) :
    w'.fs.has x = w.fs.has x := by
  rw [FileSystem.has, only.dir ne, FileSystem.has]

/-- States that a step inside of a directory leads from and to. -/
def World.Within (d : DirId) (w w' : World) : Prop :=
  w.OnlyIn d w' ∧ w'.fs.has d = true

/-- Deleting what is in a directory changes nothing else and leaves it empty. -/
theorem wp_deleteDirContent {d : DirId} (exists' : w.fs.has d = true)
    (guarantee : ∀ request w₁ w₂, w.Within d w₁ → w.Within d w₂ → G request w₁ w₂)
    {Q : Except String Unit → World → Prop}
    (post : ∀ w', w.Within d w' → w'.fs.files d = ∅ → Q (.ok ()) w') :
    wp device G (deleteDirContent d) Q w := by
  have start : w.Within d w := ⟨.refl d w, exists'⟩
  rw [deleteDirContent, wp_bind, wp_mapError]
  rintro reply w₁ ⟨fs', ⟨rfl, answer⟩, rfl⟩
  refine ⟨guarantee _ _ _ start start, ?_⟩
  obtain ⟨dir, found⟩ := Option.isSome_iff_exists.mp exists'
  rw [found] at answer
  obtain ⟨listing, isListing, rfl⟩ := answer
  have files : w.fs.files d = dir.files := by rw [FileSystem.files, found]
  refine wp_forM (fun done w₁ => w.Within d w₁ ∧ ∀ name content,
    (w₁.fs.files d).lookup name = some content →
      name ∉ done ∧ (w.fs.files d).lookup name = some content) ⟨start, by simp⟩ ?_ ?_
  · rintro done name rest w₁ - ⟨within, left⟩
    rw [wp_mapError]
    have removed : w.Within d (w₁.withFs (w₁.fs.remove ⟨d, name⟩)) :=
      ⟨within.1.trans (.remove w₁ ⟨d, name⟩), by rw [← within.2]; exact w₁.fs.has_remove _ _⟩
    refine wp_fsCall (by simp) rfl (guarantee _ _ _ within removed) ⟨removed, ?_⟩
    intro other content found
    rw [show (w₁.withFs (w₁.fs.remove ⟨d, name⟩)).fs.files d = (w₁.fs.files d).erase name from
      w₁.fs.files_remove ⟨d, name⟩] at found
    by_cases same : other = name
    · rw [same, Finmap.lookup_erase] at found
      cases found
    · rw [Finmap.lookup_erase_ne same] at found
      obtain ⟨notDone, before⟩ := left other content found
      exact ⟨by simp [notDone, same], before⟩
  · rintro w' ⟨within, left⟩
    refine post w' within (Finmap.ext_lookup fun name => ?_)
    cases found : (w'.fs.files d).lookup name with
    | none => simp
    | some content =>
      obtain ⟨notListed, before⟩ := left name content found
      rw [files] at before
      exact absurd (isListing.mem_iff.mpr ⟨content, before⟩) notListed

/-- Without a backup a restore does nothing. -/
theorem wp_restoreActivePackages_absent (quiet : Quiet G) (absent : w.fs.has .backup = false)
    {Q : Except String Unit → World → Prop} (post : ∀ e, Q (.error e) w) :
    wp device G restoreActivePackages Q w := by
  rw [restoreActivePackages, wp_bind]
  apply wp_pathExists quiet
  rw [absent]
  exact post _

/-- With one, the active directory is emptied and then becomes what the backup was. -/
theorem wp_restoreActivePackages (backup : w.fs.has .backup = true)
    (active : w.fs.has .active = true)
    (before : ∀ request w₁ w₂, w.Within .active w₁ → w.Within .active w₂ → G request w₁ w₂)
    (rename : ∀ request w₁ w₂, w.Within .active w₁ → w.Restored w₂ → G request w₁ w₂)
    (after : ∀ request w₁ w₂, w.Restored w₁ → w.Restored w₂ → G request w₁ w₂)
    {Q : Except String Unit → World → Prop} (post : ∀ w', w.Restored w' → Q (.ok ()) w') :
    wp device G restoreActivePackages Q w := by
  have start : w.Within .active w := ⟨.refl _ w, active⟩
  obtain ⟨dir, isActive⟩ := Option.isSome_iff_exists.mp active
  rw [restoreActivePackages, wp_bind, pathExists, wp_bind, wp_mapError]
  refine wp_fsCall (by simp) rfl (before _ _ _ start start) ?_
  change wp device G (if !((w.fs.dir .backup).map Dir.mode).isSome then _ else _) Q w
  rw [Option.isSome_map, ← FileSystem.has, backup]
  simp only [Bool.not_true, Bool.false_eq_true, if_false]
  rw [wp_bind]
  apply wp_orErrno
  refine wp_fsCall (by simp) rfl (before _ _ _ start start) ?_
  dsimp only [Except.mapError]
  rw [isActive]
  dsimp only [Option.map_some]
  rw [wp_bind]
  refine wp_deleteDirContent active before fun w₁ within empty => ?_
  dsimp only
  rw [wp_bind]
  apply wp_orErrno
  have backupKept : w₁.fs.dir .backup = w.fs.dir .backup := within.1.dir (by simp)
  obtain ⟨backupDir, isBackup⟩ := Option.isSome_iff_exists.mp backup
  have effect : (FsCall.renameDir .backup .active).effect w₁.fs =
      (.ok (), (w₁.fs.set .backup none).set .active (some backupDir)) := by
    have names : Directory.names (w₁.fs.files .active) = [] := by rw [empty]; rfl
    simp only [FsCall.effect, backupKept, isBackup, names, if_true]
  have restored (mode : Nat) : w.Restored (w₁.withFs ((w₁.fs.set .backup none).set .active
      (some { backupDir with mode := mode }))) := by
    refine ⟨?_, by simp [World.withFs, FileSystem.has], ?_, ?_, fun d ne ne' => ?_⟩
    · obtain ⟨fs', rfl, -⟩ := within.1
      rfl
    · simp [World.withFs, FileSystem.files, isBackup]
    · simp [World.withFs, FileSystem.dir_set_ne]
    · change FileSystem.dir (FileSystem.set _ _ _) d = _
      rw [FileSystem.dir_set_ne _ ne, FileSystem.dir_set_ne _ ne', within.1.dir ne]
  refine wp_fsCall (by simp) effect (rename _ _ _ within (restored backupDir.mode)) ?_
  dsimp only [Except.mapError]
  apply wp_orErrno
  have chmods : (FsCall.chmod .active dir.mode).effect
      ((w₁.fs.set .backup none).set .active (some backupDir)) = (.ok (), (w₁.fs.set .backup none).set
        .active (some { backupDir with mode := dir.mode })) := by
    simp only [FsCall.effect, FileSystem.dir_set_self, FileSystem.set_set]
  refine wp_fsCall (by simp) chmods (after _ _ _ (restored backupDir.mode) (restored dir.mode)) ?_
  exact post _ (restored dir.mode)

end Apexd
