import Apexd.Verified.StagePackages

/-! # The active directory after staging

Of the packages that are staged there are the staged files and no others; the files of other
packages are as before.
-/

namespace Apexd

open Process Storage

/-- `<name>@<version>[_<minor>].apex`, after the manifest of the archive. -/
def IsNamedAfter (archive : Archive) (fileName : String) : Prop :=
  fileName = getPackageId archive.manifest ++ kApexPackageSuffix ∨
  ∃ minor : UInt64,
    fileName = getPackageId archive.manifest ++ "_" ++ toString minor ++ kApexPackageSuffix

/-- The APEX files of the active directory can be opened and are named after their manifests. -/
def World.WellNamed (w : World) : Prop :=
  ∀ fileName content, Text.endsWith fileName kApexPackageSuffix = true →
    w.view .active fileName = some content →
    ∃ archive, content = .apex archive ∧ archive.IsValid ∧ IsNamedAfter archive fileName

/-- What there is in the active directory after the packages were staged. -/
structure ActiveAfterStaging (apexFiles : List ApexFile) (w w' : World) : Prop where
  /-- the files of the staged packages are those at the destination paths -/
  staged : ∀ apexFile ∈ apexFiles, ∀ fileName, Text.endsWith fileName kApexPackageSuffix = true →
    ((∃ archive, w'.view .active fileName = some (.apex archive) ∧
        archive.manifest.name = apexFile.manifest.name) ↔
      ∃ other ∈ apexFiles, other.manifest.name = apexFile.manifest.name ∧
        stageDestPath other = ⟨.active, fileName⟩)
  /-- each with the content of the last input that is staged there -/
  last : ∀ before apexFile after, apexFiles = before ++ apexFile :: after →
    (∀ later ∈ after, stageDestPath later ≠ stageDestPath apexFile) →
    w'.fs.file (stageDestPath apexFile) = some (.apex apexFile.archive)
  /-- the files of other packages -/
  others : ∀ fileName archive, archive.manifest.name ∉ apexFiles.map (·.manifest.name) →
    (w'.view .active fileName = some (.apex archive) ↔
      w.view .active fileName = some (.apex archive))
  /-- and what is no APEX file -/
  noApex : ∀ fileName, Text.endsWith fileName kApexPackageSuffix = false →
    w'.view .active fileName = w.view .active fileName

variable {env : Environment} {apexFile : ApexFile} {apexFiles : List ApexFile} {w w' : World}
  {fileName : String}

theorem endsWith_of_dest (dest : (stageDestPath apexFile).name = fileName) :
    Text.endsWith fileName kApexPackageSuffix = true := by
  rw [← dest]
  exact Text.endsWith_append _ _

/-- A destination is not the name of a file of another package. -/
theorem name_of_dest {archive : Archive} (named : IsNamedAfter archive fileName)
    (dest : (stageDestPath apexFile).name = fileName) :
    archive.manifest.name = apexFile.manifest.name := by
  rw [← dest, stageDestPath] at named
  rcases named with plain | ⟨minor, withMinor⟩
  · exact (getPackageId_inj ((String.append_left_inj _).mp plain)).1.symm
  · have ids := (String.append_left_inj _).mp withMinor
    have digits : '@' ∉ (toString archive.manifest.version ++ "_" ++ toString minor).toList := by
      intro member
      simp only [String.toList_append, List.mem_append] at member
      rcases member with (version | separator) | minor
      · exact at_not_mem_version _ version
      · exact absurd separator (by decide)
      · exact absurd (Text.isDigit_of_mem_repr minor) (by decide)
    have split : apexFile.manifest.name ++ '@'.toString ++ toString apexFile.manifest.version =
        archive.manifest.name ++ '@'.toString ++
          (toString archive.manifest.version ++ "_" ++ toString minor) := by
      simp only [← String.append_assoc]
      exact ids
    exact (Text.append_separator_inj split (at_not_mem_version _) digits).1.symm

theorem stagedAs_last {before after : List ApexFile}
    (noLater : ∀ later ∈ after, stageDestPath later ≠ stageDestPath apexFile) :
    stagedAs (before ++ apexFile :: after) (stageDestPath apexFile).name =
      some (.apex apexFile.archive) := by
  induction after using List.reverseRecOn with
  | nil => rw [stagedAs_append_singleton, if_pos rfl]
  | append_singleton after later ih =>
    rw [← List.cons_append, ← List.append_assoc, stagedAs_append_singleton, if_neg]
    · exact ih fun other member => noLater other (by simp [member])
    · intro same
      refine noLater later (by simp) ?_
      rw [stageDestPath, stageDestPath, Storage.Path.mk.injEq]
      exact ⟨rfl, same⟩

/-- The overwrite leaves what is to be there. -/
theorem activeAfterStaging (named : w.WellNamed)
    (active : w'.view .active = (stagingOverwrite apexFiles).apply (w.view .active)) :
    ActiveAfterStaging apexFiles w w' where
  staged apexFile member fileName suffix := by
    rw [active]
    constructor
    · rintro ⟨archive, found, name⟩
      cases puts : stagedAs apexFiles fileName with
      | some content =>
        obtain ⟨other, member', dest, rfl⟩ := exists_of_stagedAs puts
        rw [Overwrite.apply_of_puts puts] at found
        cases found
        exact ⟨other, member', name, by rw [← dest]; rfl⟩
      | none =>
        -- what was there of the package is dropped
        cases before : w.view .active fileName with
        | none =>
          rw [Overwrite.apply_of_absent puts before] at found
          cases found
        | some content =>
          by_cases drops : (stagingOverwrite apexFiles).drops fileName content
          · rw [Overwrite.apply_of_drops puts before drops] at found
            cases found
          · rw [Overwrite.apply_of_keeps puts before drops] at found
            cases found
            exact absurd ⟨suffix, archive, rfl, apexFile, member, name.symm⟩ drops
    · rintro ⟨other, member', name, dest⟩
      obtain ⟨content, puts⟩ := Option.ne_none_iff_exists'.mp
        (stagedAs_dest_ne_none member')
      rw [show (stageDestPath other).name = fileName by rw [dest]] at puts
      obtain ⟨last, member'', dest', rfl⟩ := exists_of_stagedAs puts
      refine ⟨last.archive, Overwrite.apply_of_puts puts, ?_⟩
      have ids : (stageDestPath last).name = (stageDestPath other).name := by rw [dest', dest]
      exact (getPackageId_inj ((String.append_left_inj _).mp ids)).1.trans name
  last before apexFile after split noLater := by
    have puts : stagedAs apexFiles (stageDestPath apexFile).name = some (.apex apexFile.archive) := by
      rw [split]
      exact stagedAs_last noLater
    exact (congrFun active _).trans (Overwrite.apply_of_puts puts)
  others fileName archive other := by
    rw [active]
    constructor
    · intro found
      cases puts : stagedAs apexFiles fileName with
      | some content =>
        obtain ⟨last, member, -, rfl⟩ := exists_of_stagedAs puts
        rw [Overwrite.apply_of_puts puts] at found
        cases found
        exact absurd (List.mem_map_of_mem member) other
      | none =>
        cases before : w.view .active fileName with
        | none =>
          rw [Overwrite.apply_of_absent puts before] at found
          cases found
        | some content =>
          by_cases drops : (stagingOverwrite apexFiles).drops fileName content
          · rw [Overwrite.apply_of_drops puts before drops] at found
            cases found
          · rw [Overwrite.apply_of_keeps puts before drops] at found
            exact found
    · intro found
      have puts : stagedAs apexFiles fileName = none := by
        refine stagedAs_eq_none.mpr fun last member dest => other ?_
        obtain ⟨_, same, -, isNamed⟩ := named fileName _ (endsWith_of_dest dest) found
        cases same
        rw [name_of_dest isNamed dest]
        exact List.mem_map_of_mem member
      refine Overwrite.apply_of_keeps puts found ?_
      rintro ⟨-, _, same, last, member, name⟩
      cases same
      exact other (name ▸ List.mem_map_of_mem member)
  noApex fileName noSuffix := by
    have puts : stagedAs apexFiles fileName = none := by
      refine stagedAs_eq_none.mpr fun last _ dest => ?_
      rw [endsWith_of_dest dest] at noSuffix
      cases noSuffix
    rw [active]
    cases before : w.view .active fileName with
    | none => exact Overwrite.apply_of_absent puts before
    | some content =>
      refine Overwrite.apply_of_keeps puts before ?_
      rintro ⟨suffix, -⟩
      rw [suffix] at noSuffix
      cases noSuffix

theorem World.WellNamed.openable (named : w.WellNamed) : w.Openable := by
  intro fileName content suffix found
  obtain ⟨archive, same, valid, -⟩ := named fileName content suffix found
  exact ⟨archive, same, valid⟩

/-- When `StagePackages` succeeds, the active directory holds what was staged and what belongs to
other packages. -/
theorem stagePackages_active {paths : List FilePath}
    (outside : ∀ path ∈ paths, path.dir ≠ .active ∧ path.dir ≠ .hashTree) (named : w.WellNamed)
    (run : Runs device (stagePackages env paths) w (.ok ()) w') :
    ∃ apexFiles, List.Forall₂ (fun path apexFile => openAt w.fs path = .ok apexFile) paths apexFiles ∧
      ActiveAfterStaging apexFiles w w' := by
  by_cases empty : paths = []
  · rw [empty, stagePackages, openApexFiles, if_pos rfl] at run
    cases (runs_done.mp run).1
  · cases verified : verifiedPackages env w.fs paths with
    | error e =>
      suffices fails : wp device Anything (stagePackages env paths)
          (fun result _ => result ≠ .ok ()) w from absurd rfl (wp_runs fails run)
      refine wp_stagePackages quiet_anything empty (fun e _ isOk => by cases isOk) fun apexFiles ok => ?_
      rw [verified] at ok
      cases ok
    | ok apexFiles =>
      have opened := collectResults_eq_ok_iff.mp (verifiedPackages_eq_ok verified)
      refine ⟨apexFiles, opened, ?_⟩
      have elsewhere : ∀ apexFile ∈ apexFiles, Elsewhere w.fs apexFile := by
        intro apexFile member
        obtain ⟨path, isPath, openedPath⟩ :=
          exists_of_mem_collectResults (verifiedPackages_eq_ok verified) member
        obtain ⟨present, rfl, valid⟩ := openAt_eq_ok_iff.mp openedPath
        exact ⟨(outside _ isPath).1, (outside _ isPath).2, present, valid⟩
      suffices staged : wp device (Staging apexFiles) (stagePackages env paths)
          (fun _ w' => ActiveAfterStaging apexFiles w w') w from wp_runs staged run
      refine wp_stagePackages quiet_staging empty (fun e failed => ?_) fun others ok => ?_
      · rw [verified] at failed
        cases failed
      · cases verified.symm.trans ok
        exact wp_stageFiles elsewhere named.openable fun w' _ active _ =>
          activeAfterStaging named active

/-- Version 2 of a package waits, version 1 of it and of another package are active. -/
def twoActive : World := .ofDirectories [
  (.active, [("foo@1.apex", .apex (.plain "foo" 1 0)), ("bar@1_2.apex", .apex (.plain "bar" 1 0))]),
  (.staged 1, [("foo.apex", .apex (.plain "foo" 2 1))])]

theorem twoActive_wellNamed : twoActive.WellNamed := by
  intro fileName content _ found
  have member : (⟨fileName, content⟩ : Sigma fun _ : String => Content) ∈
      [⟨"foo@1.apex", .apex (.plain "foo" 1 0)⟩, ⟨"bar@1_2.apex", .apex (.plain "bar" 1 0)⟩] :=
    List.of_mem_dlookup ((Finmap.dlookup_list_toFinmap _ _).symm.trans found)
  rcases List.mem_pair.mp member with same | same
  · cases same
    exact ⟨_, rfl, by decide, .inl (by decide +kernel)⟩
  · cases same
    exact ⟨_, rfl, by decide, .inr ⟨2, by decide +kernel⟩⟩

theorem stagePackages_active_two : ∃ w',
    Runs device (stagePackages (.plain (.ofPackages ["foo"])) [⟨.staged 1, "foo.apex"⟩]) twoActive
      (.ok ()) w' ∧
    ActiveAfterStaging [⟨⟨.staged 1, "foo.apex"⟩, .plain "foo" 2 1⟩] twoActive w' := by
  obtain ⟨result, w', run, ok⟩ := exists_runs deviceHandler_sound
    (stagePackages (.plain (.ofPackages ["foo"])) [⟨.staged 1, "foo.apex"⟩]) twoActive
    (fun result _ => result.isOk) (by decide +kernel)
  cases result with
  | error e => cases ok
  | ok _ =>
    obtain ⟨apexFiles, opened, active⟩ := stagePackages_active (by decide) twoActive_wellNamed run
    obtain ⟨apexFile, rest, same, later, rfl⟩ := List.forall₂_cons_left_iff.mp opened
    cases List.forall₂_nil_left_iff.mp later
    have file : openAt twoActive.fs ⟨.staged 1, "foo.apex"⟩ =
        .ok ⟨⟨.staged 1, "foo.apex"⟩, .plain "foo" 2 1⟩ := by decide +kernel
    cases same.symm.trans file
    exact ⟨w', run, active⟩

/-- A new hash tree file is promoted over the package that is staged. -/
def inHashTreeDir : World := .ofDirectories [
  (.active, []),
  (.hashTree, [("foo@2", .apex (.plain "foo" 2 1)), ("foo@2.new", .apex (.plain "foo" 2 0))])]

theorem staged_from_hashTree_lost : inHashTreeDir.WellNamed ∧ ¬ ∀ w',
    Runs device (stagePackages (.plain (.ofPackages ["foo"])) [⟨.hashTree, "foo@2"⟩]) inHashTreeDir
      (.ok ()) w' →
    w'.fs.file ⟨.active, "foo@2.apex"⟩ = inHashTreeDir.fs.file ⟨.hashTree, "foo@2"⟩ := by
  constructor
  · intro fileName content _ found
    cases found
  intro staged
  obtain ⟨result, w', run, lost⟩ := exists_runs deviceHandler_sound
    (stagePackages (.plain (.ofPackages ["foo"])) [⟨.hashTree, "foo@2"⟩]) inHashTreeDir
    (fun result w' => result.isOk &&
      w'.fs.file ⟨.active, "foo@2.apex"⟩ ≠ inHashTreeDir.fs.file ⟨.hashTree, "foo@2"⟩)
    (by decide +kernel)
  rw [Bool.and_eq_true, decide_eq_true_eq] at lost
  cases result with
  | error e => cases lost.1
  | ok _ => exact lost.2 (staged w' run)

end Apexd
