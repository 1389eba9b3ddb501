import Apexd.Process.Faults
import Apexd.Verified.StagePackages

/-! # Staging that fails

`StagePackages` guards its loop with a clean-up and disables it before it removes old files.
Here one of its calls may fail, at any point, and what is left on disk is compared with what
was there before.
-/

namespace Apexd

open Process Storage

/-- The operations that may fail: those on files, apart from the test whether one exists. -/
def mayFail : Call → Prop
  | .fs (.access _) => False
  | .fs _ => True
  | _ => False

/-- The device with one operation that fails, at most. -/
abbrev faulty : Semantics apexd String (World × Journal apexd) :=
  device.withOneFault mayFail

variable {w w' : World} {journal journal' : Journal apexd}

/-! ## Calls -/

theorem wp_faulty_fsCall {request : FsCall DirId} (notListing : ∀ d, request ≠ .readDir d)
    {Q : Except String (request.Reply Content) → World × Journal apexd → Prop}
    (succeeds : ∀ value fs', request.effect w.fs = (.ok value, fs') →
      Q (.ok value) (w.withFs fs', journal.record (.fs request)))
    (fails : ∀ e, (journal.failed = none ∧ mayFail (.fs request)) ∨
      (request.effect w.fs).1 = .error e → Q (.error e) (w, journal.fail (.fs request))) :
    wp faulty Anything (fsCall request) Q (w, journal) := by
  have answered {reply : Except String (request.Reply Content)}
      {fs' : FileSystem DirId Content} (answer : request.Answers w.fs reply fs') :
      (reply, fs') = request.effect w.fs := by
    cases request with
    | readDir d => exact absurd rfl (notListing d)
    | _ => exact answer
  refine wp_withOneFault ?_ ?_ ?_
  · rintro value _ ⟨fs', answer, rfl⟩
    exact ⟨trivial, succeeds value fs' (answered answer).symm⟩
  · rintro e _ ⟨fs', answer, rfl⟩
    have failed := congrArg Prod.fst (answered answer)
    have unchanged : fs' = w.fs :=
      (congrArg Prod.snd (answered answer)).trans (FsCall.effect_of_error failed.symm)
    subst unchanged
    exact ⟨trivial, fails e (.inr failed.symm)⟩
  · intro running may e
    exact ⟨trivial, fails e (.inl ⟨running, may⟩)⟩

theorem wp_faulty_accessible {path : FilePath}
    {Q : Except String Bool → World × Journal apexd → Prop}
    (post : Q (.ok (w.fs.file path).isSome) (w, journal.record (.fs (.access path)))) :
    wp faulty Anything (accessible path) Q (w, journal) := by
  rw [accessible, wp_bind, wp_attempt]
  refine wp_faulty_fsCall (by simp) ?_ ?_
  · rintro value fs' effect
    cases effect
    exact post
  · rintro e (⟨_, impossible⟩ | impossible)
    · exact impossible.elim
    · cases impossible

theorem wp_faulty_unlink {path : FilePath} {Q : Except String Unit → World × Journal apexd → Prop}
    (succeeds : (w.fs.file path).isSome = true →
      Q (.ok ()) (w.withFs (w.fs.remove path), journal.record (.fs (.unlink path))))
    (fails : ∀ e, journal.failed = none ∨ w.fs.file path = none →
      Q (.error e) (w, journal.fail (.fs (.unlink path)))) :
    wp faulty Anything (unlink path) Q (w, journal) := by
  refine wp_faulty_fsCall (by simp) ?_ ?_
  · rintro _ fs' effect
    simp only [FsCall.effect] at effect
    split at effect
    · cases effect
    · rename_i found
      cases effect
      exact succeeds (by rw [found]; rfl)
  · rintro e (⟨running, _⟩ | absent)
    · exact fails e (.inl running)
    · simp only [FsCall.effect] at absent
      split at absent
      · rename_i found
        exact fails e (.inr found)
      · cases absent

theorem wp_faulty_link {source target : FilePath}
    {Q : Except String Unit → World × Journal apexd → Prop}
    (succeeds : ∀ content, w.fs.file source = some content → w.fs.has target.dir = true →
      Q (.ok ()) (w.withFs (w.fs.write target content), journal.record (.fs (.link source target))))
    (fails : ∀ e, Q (.error e) (w, journal.fail (.fs (.link source target)))) :
    wp faulty Anything (link source target) Q (w, journal) := by
  refine wp_faulty_fsCall (by simp) ?_ fun e _ => fails e
  rintro _ fs' effect
  simp only [FsCall.effect] at effect
  split at effect
  · cases effect
  · rename_i content found
    split at effect
    · cases effect
    · split at effect
      · rename_i exists'
        cases effect
        exact succeeds content found exists'
      · cases effect

theorem wp_faulty_rename {source target : FilePath}
    {Q : Except String Unit → World × Journal apexd → Prop}
    (succeeds : ∀ content, w.fs.file source = some content → w.fs.has target.dir = true →
      Q (.ok ()) (w.withFs ((w.fs.remove source).write target content),
        journal.record (.fs (.rename source target))))
    (fails : ∀ e, Q (.error e) (w, journal.fail (.fs (.rename source target)))) :
    wp faulty Anything (rename source target) Q (w, journal) := by
  refine wp_faulty_fsCall (by simp) ?_ fun e _ => fails e
  rintro _ fs' effect
  simp only [FsCall.effect] at effect
  split at effect
  · cases effect
  · rename_i content found
    split at effect
    · rename_i exists'
      cases effect
      exact succeeds content found exists'
    · cases effect

theorem wp_faulty_readDir {d : DirId}
    {Q : Except String (List String) → World × Journal apexd → Prop}
    (succeeds : ∀ listing, (w.files d).IsListing listing →
      Q (.ok listing) (w, journal.record (.fs (.readDir d))))
    (fails : ∀ e, Q (.error e) (w, journal.fail (.fs (.readDir d)))) :
    wp faulty Anything (readDir d) Q (w, journal) := by
  refine wp_withOneFault ?_ ?_ fun _ _ e => ⟨trivial, fails e⟩
  · rintro value _ ⟨fs', ⟨rfl, answer⟩, rfl⟩
    refine ⟨trivial, succeeds value ?_⟩
    split at answer
    · cases answer
    · rename_i dir found
      obtain ⟨listing, isListing, equal⟩ := answer
      cases equal
      simpa [World.files, FileSystem.files, found] using isListing
  · rintro e _ ⟨fs', ⟨rfl, _⟩, rfl⟩
    exact ⟨trivial, fails e⟩

/-- Opening a file changes nothing, whether it succeeds or not. -/
theorem wp_faulty_open {path : FilePath}
    {Q : Except String ApexFile → World × Journal apexd → Prop}
    (opened : ∀ apexFile, openAt w.fs path = .ok apexFile →
      Q (.ok apexFile) (w, journal.record (.fs (.read path))))
    (unreadable : ∀ e, Q (.error e) (w, journal.fail (.fs (.read path))))
    (noApex : ∀ e, Q (.error e) (w, journal.record (.fs (.read path)))) :
    wp faulty Anything (ApexFile.open path) Q (w, journal) := by
  rw [ApexFile.open, wp_bind, orErrno, wp_mapError]
  refine wp_faulty_fsCall (by simp) ?_ fun e _ => unreadable _
  rintro content fs' effect
  simp only [FsCall.effect] at effect
  split at effect
  · cases effect
  · rename_i found
    cases effect
    change Q (ApexFile.openContent path content) _
    cases outcome : ApexFile.openContent path content with
    | error e => exact noApex e
    | ok apexFile =>
      refine opened apexFile ?_
      rw [openAt, found]
      exact outcome

/-! ## The point of failure -/

def isLink : Call → Bool
  | .fs (.link _ _) => true
  | _ => false

def isUnlink : Call → Bool
  | .fs (.unlink _) => true
  | _ => false

/-- How many packages were linked before the failure. -/
def linkedPackages (journal : Journal apexd) : Nat :=
  journal.calls.countP isLink

/-- A file that was unlinked before the failure. -/
def Unlinked (journal : Journal apexd) (path : FilePath) : Prop :=
  .fs (.unlink path) ∈ journal.calls

/-- Of how many packages the hash tree file had been taken care of. -/
def promotedPackages (journal : Journal apexd) : Nat :=
  match journal.failed with
  | some (.fs (.unlink _)) | some (.fs (.link _ _)) => linkedPackages journal + 1
  | _ => linkedPackages journal

/-- Of how many packages the destination had been cleared. -/
def clearedPackages (journal : Journal apexd) : Nat :=
  match journal.failed with
  | some (.fs (.link _ _)) => linkedPackages journal + 1
  | _ => linkedPackages journal

/-- What happened between two moments without failure, apart from links and unlinks. -/
structure Continues (journal journal' : Journal apexd) : Prop where
  running : journal'.failed = none
  linked : linkedPackages journal' = linkedPackages journal
  unlinked : ∀ path, Unlinked journal' path ↔ Unlinked journal path

theorem Continues.refl (running : journal.failed = none) : Continues journal journal :=
  ⟨running, rfl, fun _ => .rfl⟩

theorem Continues.trans {journal'' : Journal apexd} (first : Continues journal journal')
    (second : Continues journal' journal'') : Continues journal journal'' :=
  ⟨second.running, second.linked.trans first.linked,
    fun path => (second.unlinked path).trans (first.unlinked path)⟩

theorem Continues.record (running : journal.failed = none) {request : Call}
    (noLink : isLink request = false) (noUnlink : isUnlink request = false) :
    Continues journal (journal.record request) where
  running := by rw [Journal.failed_record, running]
  linked := by
    rw [linkedPackages, Journal.calls_record running, List.countP_append]
    simp [linkedPackages, noLink]
  unlinked path := by
    rw [Unlinked, Journal.calls_record running, List.mem_append, List.mem_singleton]
    constructor
    · rintro (earlier | rfl)
      · exact earlier
      · cases noUnlink
    · exact .inl

@[simp] theorem linkedPackages_fail (journal : Journal apexd) (request : Call) :
    linkedPackages (journal.fail request) = linkedPackages journal := by
  rw [linkedPackages, Journal.calls_fail, linkedPackages]

@[simp] theorem unlinked_fail {request : Call} {path : FilePath} :
    Unlinked (journal.fail request) path ↔ Unlinked journal path := by
  rw [Unlinked, Journal.calls_fail, Unlinked]

/-! ## What the loop does to the files -/

/-- What is where. -/
abbrev Files := FilePath → Option Content

variable {apexFile : ApexFile} {apexFiles before : List ApexFile} {f g : Files} {path : FilePath}

def oldHashTreePath (apexFile : ApexFile) : FilePath :=
  ⟨.hashTree, getPackageId apexFile.manifest⟩

def newHashTreePath (apexFile : ApexFile) : FilePath :=
  ⟨.hashTree, newHashTree (getPackageId apexFile.manifest)⟩

/-- After the hash tree file of a package was promoted. -/
def promotedFiles (f : Files) (apexFile : ApexFile) : Files :=
  match f (newHashTreePath apexFile) with
  | some tree => Function.update (Function.update f (newHashTreePath apexFile) none)
      (oldHashTreePath apexFile) (some tree)
  | none => f

/-- After the destination of a package was cleared. -/
def clearedFiles (f : Files) (apexFile : ApexFile) : Files :=
  Function.update f (stageDestPath apexFile) none

/-- After a package was linked to its cleared destination. -/
def linkedFiles (f : Files) (apexFile : ApexFile) : Files :=
  Function.update f (stageDestPath apexFile) (f apexFile.path)

/-- After all packages were linked. -/
def afterLinks (f : Files) (apexFiles : List ApexFile) : Files :=
  apexFiles.foldl (fun f apexFile => linkedFiles (clearedFiles (promotedFiles f apexFile) apexFile)
    apexFile) f

theorem afterLinks_append_singleton (f : Files) (before : List ApexFile) (apexFile : ApexFile) :
    afterLinks f (before ++ [apexFile]) =
      linkedFiles (clearedFiles (promotedFiles (afterLinks f before) apexFile) apexFile)
        apexFile := by
  rw [afterLinks, List.foldl_append]
  rfl

theorem oldHashTreePath_ne_new (apexFile other : ApexFile) :
    oldHashTreePath apexFile ≠ newHashTreePath other := by
  intro same
  exact getPackageId_ne_newHashTree _ _ (congrArg Path.name same)

theorem promotedFiles_of_none (absent : f (newHashTreePath apexFile) = none) :
    promotedFiles f apexFile = f := by
  rw [promotedFiles, absent]

theorem promotedFiles_of_some {tree : Content} (found : f (newHashTreePath apexFile) = some tree) :
    promotedFiles f apexFile = Function.update (Function.update f (newHashTreePath apexFile) none)
      (oldHashTreePath apexFile) (some tree) := by
  rw [promotedFiles, found]

theorem promotedFiles_active (isActive : path.dir = .active) :
    promotedFiles f apexFile path = f path := by
  have notOld : path ≠ oldHashTreePath apexFile := by
    rintro rfl
    cases isActive
  have notNew : path ≠ newHashTreePath apexFile := by
    rintro rfl
    cases isActive
  cases found : f (newHashTreePath apexFile) with
  | none => rw [promotedFiles_of_none found]
  | some tree =>
    rw [promotedFiles_of_some found, Function.update_of_ne notOld, Function.update_of_ne notNew]

theorem promotedFiles_new (f : Files) (apexFile : ApexFile) :
    promotedFiles f apexFile (newHashTreePath apexFile) = none := by
  cases found : f (newHashTreePath apexFile) with
  | none => rw [promotedFiles_of_none found, found]
  | some tree =>
    rw [promotedFiles_of_some found, Function.update_of_ne (oldHashTreePath_ne_new _ _).symm,
      Function.update_self]

theorem promotedFiles_new_of_none {other : ApexFile} (absent : f (newHashTreePath other) = none) :
    promotedFiles f apexFile (newHashTreePath other) = none := by
  by_cases same : newHashTreePath other = newHashTreePath apexFile
  · rw [same, promotedFiles_new]
  · cases found : f (newHashTreePath apexFile) with
    | none => rw [promotedFiles_of_none found, absent]
    | some tree =>
      rw [promotedFiles_of_some found, Function.update_of_ne (oldHashTreePath_ne_new _ _).symm,
        Function.update_of_ne same, absent]

theorem clearedFiles_of_ne (ne : path ≠ stageDestPath apexFile) :
    clearedFiles f apexFile path = f path :=
  Function.update_of_ne ne _ _

theorem clearedFiles_self (f : Files) (apexFile : ApexFile) :
    clearedFiles f apexFile (stageDestPath apexFile) = none :=
  Function.update_self _ _ _

theorem linkedFiles_of_ne (ne : path ≠ stageDestPath apexFile) :
    linkedFiles f apexFile path = f path :=
  Function.update_of_ne ne _ _

theorem ne_stageDestPath (isHashTree : path.dir = .hashTree) : path ≠ stageDestPath apexFile := by
  rintro rfl
  cases isHashTree

/-! ## What the guard leaves -/

/-- The files after the scope guard ran. -/
def guardedFiles (staged : Staged) (g : Files) : Files := fun path =>
  if path ∈ staged.stagedFiles ∨ path ∈ staged.changedHashtreeFiles then none else g path

/-- The active and the hash tree directory are as they were. -/
def Restored (f g : Files) : Prop :=
  ∀ path, path.dir = .active ∨ path.dir = .hashTree → g path = f path

/-- The loop was at work on the packages in `promoted` and `cleared`; it started from `f` and the
guard would start from `g`. -/
structure GuardState (f g : Files) (cleared promoted : List ApexFile) (staged : Staged) :
    Prop where
  others : ∀ path, path.dir = .active → (∀ apexFile ∈ cleared, stageDestPath apexFile ≠ path) →
    g path = f path
  gone : ∀ apexFile ∈ cleared, stageDestPath apexFile ∈ staged.stagedFiles ∨
    g (stageDestPath apexFile) = none
  covered : ∀ path ∈ staged.stagedFiles, ∃ apexFile ∈ cleared, stageDestPath apexFile = path
  hashFiles : ∀ path ∈ staged.changedHashtreeFiles, path.dir = .hashTree
  untouched : (∀ apexFile ∈ promoted, f (newHashTreePath apexFile) = none) →
    staged.changedHashtreeFiles = [] ∧ ∀ path, path.dir = .hashTree → g path = f path
  moved : ∀ apexFile ∈ promoted, g (newHashTreePath apexFile) = none

variable {cleared promoted : List ApexFile} {staged : Staged}

/-- The guard restores what was there if and only if there was nothing to restore. -/
theorem GuardState.restored_iff (state : GuardState f g cleared promoted staged) :
    Restored f (guardedFiles staged g) ↔
      (∀ apexFile ∈ promoted, f (newHashTreePath apexFile) = none) ∧
        ∀ apexFile ∈ cleared, f (stageDestPath apexFile) = none := by
  constructor
  · intro restored
    constructor
    · intro apexFile member
      rw [← restored (newHashTreePath apexFile) (.inr rfl), guardedFiles]
      split
      · rfl
      · exact state.moved apexFile member
    · intro apexFile member
      rw [← restored (stageDestPath apexFile) (.inl rfl), guardedFiles]
      split
      · rfl
      · rename_i notStaged
        exact (state.gone apexFile member).resolve_left fun staged => notStaged (.inl staged)
  · rintro ⟨noNew, noDest⟩ path (isActive | isHashTree)
    · rw [guardedFiles]
      split
      · rename_i removed
        rcases removed with staged | changed
        · obtain ⟨apexFile, member, rfl⟩ := state.covered path staged
          exact (noDest apexFile member).symm
        · rw [state.hashFiles path changed] at isActive
          cases isActive
      · rename_i notStaged
        by_cases isDest : ∀ apexFile ∈ cleared, stageDestPath apexFile ≠ path
        · exact state.others path isActive isDest
        · push Not at isDest
          obtain ⟨apexFile, member, rfl⟩ := isDest
          rw [noDest apexFile member]
          exact (state.gone apexFile member).resolve_left fun staged => notStaged (.inl staged)
    · obtain ⟨noChanges, same⟩ := state.untouched noNew
      rw [guardedFiles, if_neg, same path isHashTree]
      rintro (staged | changed)
      · obtain ⟨apexFile, _, rfl⟩ := state.covered path staged
        cases isHashTree
      · rw [noChanges] at changed
        cases changed

/-- The file that a promotion of the hash tree replaced or made. -/
def changedHashTree (g : Files) (apexFile : ApexFile) : Option FilePath :=
  if (g (newHashTreePath apexFile)).isSome then some (oldHashTreePath apexFile) else none

theorem GuardState.start (f : Files) : GuardState f f [] [] .none :=
  ⟨fun _ _ _ => rfl, by simp, by simp [Staged.none], by simp [Staged.none],
    fun _ => ⟨rfl, fun _ _ => rfl⟩, by simp⟩

theorem GuardState.promote (state : GuardState f g before before staged) :
    GuardState f (promotedFiles g apexFile) before (before ++ [apexFile])
      (staged.promoted (changedHashTree g apexFile)) where
  others path isActive notDest := by
    rw [promotedFiles_active isActive]
    exact state.others path isActive notDest
  gone other member := by
    rw [promotedFiles_active rfl]
    exact state.gone other member
  covered := state.covered
  hashFiles path changed := by
    rcases List.mem_append.mp changed with earlier | last
    · exact state.hashFiles path earlier
    · rw [changedHashTree] at last
      split at last
      · cases List.mem_singleton.mp last
        rfl
      · cases last
  untouched noNew := by
    obtain ⟨noChanges, same⟩ := state.untouched fun other member => noNew other (by simp [member])
    have absent : g (newHashTreePath apexFile) = none := by
      rw [same (newHashTreePath apexFile) rfl]
      exact noNew apexFile (by simp)
    rw [promotedFiles_of_none absent]
    exact ⟨by simp [Staged.promoted, changedHashTree, absent, noChanges], same⟩
  moved other member := by
    rcases List.mem_append.mp member with earlier | last
    · exact promotedFiles_new_of_none (state.moved other earlier)
    · rw [List.mem_singleton.mp last]
      exact promotedFiles_new g apexFile

theorem GuardState.clear (state : GuardState f g before promoted staged) :
    GuardState f (clearedFiles g apexFile) (before ++ [apexFile]) promoted staged where
  others path isActive notDest := by
    rw [clearedFiles_of_ne (notDest apexFile (by simp)).symm]
    exact state.others path isActive fun other member => notDest other (by simp [member])
  gone other member := by
    by_cases same : stageDestPath other = stageDestPath apexFile
    · rw [same, clearedFiles_self]
      exact .inr rfl
    · rcases List.mem_append.mp member with earlier | last
      · rw [clearedFiles_of_ne same]
        exact state.gone other earlier
      · rw [List.mem_singleton.mp last] at same
        exact absurd rfl same
  covered path staged := by
    obtain ⟨other, member, dest⟩ := state.covered path staged
    exact ⟨other, by simp [member], dest⟩
  hashFiles := state.hashFiles
  untouched noNew := by
    obtain ⟨noChanges, same⟩ := state.untouched noNew
    refine ⟨noChanges, fun path isHashTree => ?_⟩
    rw [clearedFiles_of_ne (ne_stageDestPath isHashTree)]
    exact same path isHashTree
  moved other member := by
    rw [clearedFiles_of_ne (ne_stageDestPath rfl)]
    exact state.moved other member

theorem GuardState.link (state : GuardState f g (before ++ [apexFile]) promoted staged) :
    GuardState f (linkedFiles g apexFile) (before ++ [apexFile]) promoted
      (staged.linked apexFile) where
  others path isActive notDest := by
    rw [linkedFiles_of_ne (notDest apexFile (by simp)).symm]
    exact state.others path isActive notDest
  gone other member := by
    simp only [Staged.linked, List.mem_insert_iff]
    by_cases same : stageDestPath other = stageDestPath apexFile
    · exact .inl (.inl same)
    · rw [linkedFiles_of_ne same]
      rcases state.gone other member with staged | absent
      · exact .inl (.inr staged)
      · exact .inr absent
  covered path staged := by
    simp only [Staged.linked, List.mem_insert_iff] at staged
    rcases staged with rfl | earlier
    · exact ⟨apexFile, by simp, rfl⟩
    · exact state.covered path earlier
  hashFiles := state.hashFiles
  untouched noNew := by
    obtain ⟨noChanges, same⟩ := state.untouched noNew
    refine ⟨noChanges, fun path isHashTree => ?_⟩
    rw [linkedFiles_of_ne (ne_stageDestPath isHashTree)]
    exact same path isHashTree
  moved other member := by
    rw [linkedFiles_of_ne (ne_stageDestPath rfl)]
    exact state.moved other member

/-! ## The operations of the loop -/

/-- The guard unlinks what it lists; a file that is gone already is only logged. -/
theorem wp_faulty_unlinkAll (paths : List FilePath) (failed : journal.failed ≠ none)
    {Q : Except String PUnit → World × Journal apexd → Prop}
    (post : ∀ w', (w'.fs.file = fun path => if path ∈ paths then none else w.fs.file path) →
      Q (.ok ()) (w', journal)) :
    wp faulty Anything (paths.forM fun path => (unlink path).ignore) Q (w, journal) := by
  refine wp_forM (fun before state => state.2 = journal ∧
    state.1.fs.file = fun path => if path ∈ before then none else w.fs.file path)
    ⟨rfl, by simp⟩ ?_ ?_
  · rintro before path after ⟨w₁, _⟩ - ⟨rfl, files⟩
    have removed : Function.update w₁.fs.file path none =
        fun other => if other ∈ before ++ [path] then none else w.fs.file other := by
      funext other
      by_cases same : other = path
      · subst same
        simp
      · rw [Function.update_of_ne same, files]
        simp [same]
    rw [wp_ignore]
    refine wp_faulty_unlink (fun _ => ?_) fun e absent => ?_
    · refine ⟨Journal.record_of_failed failed, ?_⟩
      rw [← removed]
      exact w₁.fs.file_remove path
    · refine ⟨Journal.fail_of_failed failed, ?_⟩
      rw [← removed, ← absent.resolve_left failed, Function.update_eq_self]
  · rintro ⟨w', _⟩ ⟨rfl, files⟩
    exact post w' files

theorem wp_faulty_deleter (failed : journal.failed ≠ none)
    {Q : Except String Unit → World × Journal apexd → Prop}
    (post : ∀ w', w'.fs.file = guardedFiles staged w.fs.file → Q (.ok ()) (w', journal)) :
    wp faulty Anything staged.deleter Q (w, journal) := by
  rw [Staged.deleter, wp_bind]
  refine wp_faulty_unlinkAll _ failed fun w₁ files₁ => ?_
  refine wp_faulty_unlinkAll _ failed fun w₂ files₂ => post w₂ ?_
  rw [files₂, files₁]
  funext path
  simp only [guardedFiles]
  grind

theorem wp_faulty_promoteHashtree (running : journal.failed = none)
    {Q : Except String (Option FilePath) → World × Journal apexd → Prop}
    (done : ∀ w' journal', Continues journal journal' →
      w'.fs.file = promotedFiles w.fs.file apexFile →
      Q (.ok (changedHashTree w.fs.file apexFile)) (w', journal'))
    (failed : ∀ e journal' source target, Continues journal journal' →
      Q (.error e) (w, journal'.fail (.fs (.rename source target)))) :
    wp faulty Anything (promoteHashtree apexFile) Q (w, journal) := by
  rw [promoteHashtree, newHashTreeFile, oldHashTreeFile, wp_bind]
  apply wp_faulty_accessible
  have accessed :
      Continues journal (journal.record (.fs (.access (newHashTreePath apexFile)))) :=
    .record running rfl rfl
  cases found : w.fs.file (newHashTreePath apexFile) with
  | none =>
    have result := done w _ accessed (promotedFiles_of_none found).symm
    rw [changedHashTree, found] at result
    change wp _ _ (if (w.fs.file (newHashTreePath apexFile)).isSome = true then _ else _) _ _
    rw [found]
    exact result
  | some tree =>
    have result (w' : World) (journal' : Journal apexd) (continues : Continues journal journal')
        (files : w'.fs.file = promotedFiles w.fs.file apexFile) :
        Q (.ok (some (oldHashTreePath apexFile))) (w', journal') := by
      have outcome := done w' journal' continues files
      rwa [changedHashTree, found] at outcome
    change wp _ _ (if (w.fs.file (newHashTreePath apexFile)).isSome = true then _ else _) _ _
    rw [found]
    change wp _ _ (orErrno (rename _ _) _ >>= fun _ => _) _ _
    rw [wp_bind, orErrno, wp_mapError]
    refine wp_faulty_rename (fun content found' exists' => ?_) fun e => failed _ _ _ _ accessed
    have same : content = tree := Option.some.inj (found'.symm.trans found)
    subst same
    refine result _ _ (accessed.trans (.record accessed.running rfl rfl)) ?_
    rw [promotedFiles_of_some found]
    refine ((w.fs.remove (newHashTreePath apexFile)).file_write (oldHashTreePath apexFile)
      ?_ content).trans ?_
    · exact (FileSystem.has_remove w.fs _ _).trans exists'
    · rw [w.fs.file_remove]

theorem wp_faulty_linkPackage (running : journal.failed = none)
    {Q : Except String Unit → World × Journal apexd → Prop}
    (done : ∀ w' journal', journal'.failed = none →
      linkedPackages journal' = linkedPackages journal + 1 →
      (∀ path, Unlinked journal' path → Unlinked journal path ∨ stageDestPath apexFile = path) →
      w'.fs.file = linkedFiles (clearedFiles w.fs.file apexFile) apexFile →
      Q (.ok ()) (w', journal'))
    (unlinkFailed : ∀ e journal' path, Continues journal journal' →
      Q (.error e) (w, journal'.fail (.fs (.unlink path))))
    (linkFailed : ∀ e w' journal' source target, journal'.failed = none →
      linkedPackages journal' = linkedPackages journal →
      w'.fs.file = clearedFiles w.fs.file apexFile →
      Q (.error e) (w', journal'.fail (.fs (.link source target)))) :
    wp faulty Anything (linkPackage apexFile) Q (w, journal) := by
  -- the link itself, once the destination is free
  have linked (w₁ : World) (journal₁ : Journal apexd) (running₁ : journal₁.failed = none)
      (same : linkedPackages journal₁ = linkedPackages journal)
      (unlinked : ∀ path, Unlinked journal₁ path →
        Unlinked journal path ∨ stageDestPath apexFile = path)
      (files : w₁.fs.file = clearedFiles w.fs.file apexFile) :
      wp faulty Anything (orErrno (link apexFile.path (stageDestPath apexFile))
        ("Unable to link " ++ pathText apexFile.path ++ " to " ++
          pathText (stageDestPath apexFile))) Q (w₁, journal₁) := by
    rw [orErrno, wp_mapError]
    refine wp_faulty_link (fun content found exists' => ?_) fun e => ?_
    · refine done _ _ (by rw [Journal.failed_record, running₁]) ?_ ?_ ?_
      · rw [linkedPackages, Journal.calls_record running₁, List.countP_append, ← same]
        rfl
      · intro path isUnlinked
        rw [Unlinked, Journal.calls_record running₁, List.mem_append] at isUnlinked
        rcases isUnlinked with earlier | last
        · exact unlinked path earlier
        · simp at last
      · refine (w₁.fs.file_write _ exists' content).trans ?_
        rw [linkedFiles, ← files, found]
    · exact linkFailed _ w₁ journal₁ _ _ running₁ same files
  rw [linkPackage]
  dsimp only
  rw [wp_bind]
  apply wp_faulty_accessible
  have accessed : Continues journal (journal.record (.fs (.access (stageDestPath apexFile)))) :=
    .record running rfl rfl
  cases found : w.fs.file (stageDestPath apexFile) with
  | none =>
    refine linked w _ accessed.running accessed.linked ?_ ?_
    · exact fun path isUnlinked => .inl ((accessed.unlinked path).mp isUnlinked)
    · rw [clearedFiles, ← found, Function.update_eq_self]
  | some content =>
    change wp _ _ (orErrno (unlink _) _ >>= fun _ => _) _ _
    rw [wp_bind, orErrno, wp_mapError]
    refine wp_faulty_unlink (fun _ => ?_) fun e _ => unlinkFailed _ _ _ accessed
    refine linked _ _ (by rw [Journal.failed_record, accessed.running]) ?_ ?_ (w.fs.file_remove _)
    · rw [linkedPackages, Journal.calls_record accessed.running, List.countP_append,
        ← accessed.linked]
      rfl
    · intro path isUnlinked
      rw [Unlinked, Journal.calls_record accessed.running, List.mem_append,
        List.mem_singleton] at isUnlinked
      rcases isUnlinked with earlier | last
      · exact .inl ((accessed.unlinked path).mp earlier)
      · cases last
        exact .inr rfl

/-! ## The loop -/

/-- When an operation has failed, whether the directories are as they were before. -/
structure RollsBack (f : Files) (apexFiles : List ApexFile) (journal : Journal apexd) : Prop where
  /-- no package had a new hash tree file that was promoted -/
  noNewHashTree : ∀ apexFile ∈ apexFiles.take (promotedPackages journal),
    f (newHashTreePath apexFile) = none
  /-- while the guard was armed: nothing was at the destinations that were cleared -/
  guarded : linkedPackages journal < apexFiles.length →
    ∀ apexFile ∈ apexFiles.take (clearedPackages journal), f (stageDestPath apexFile) = none
  /-- after it was disabled: what was linked was there before, and no other file was removed -/
  accepted : apexFiles.length ≤ linkedPackages journal →
    (∀ apexFile ∈ apexFiles,
      afterLinks f apexFiles (stageDestPath apexFile) = f (stageDestPath apexFile)) ∧
    ∀ path, Unlinked journal path → ∃ apexFile ∈ apexFiles, stageDestPath apexFile = path

/-- The loop after the packages of `before`, so far without failure. -/
structure LoopTrace (f : Files) (before : List ApexFile) (staged : Staged) (g : Files)
    (journal : Journal apexd) : Prop where
  running : journal.failed = none
  linked : linkedPackages journal = before.length
  unlinked : ∀ path, Unlinked journal path → ∃ apexFile ∈ before, stageDestPath apexFile = path
  kept : ∀ apexFile ∈ before, stageDestPath apexFile ∈ staged.stagedFiles
  files : g = afterLinks f before
  guardState : GuardState f g before before staged

theorem LoopTrace.step {journal₁ journal₂ : Journal apexd}
    (trace : LoopTrace f before staged g journal) (continues : Continues journal journal₁)
    (running : journal₂.failed = none)
    (linked : linkedPackages journal₂ = linkedPackages journal₁ + 1)
    (unlinked : ∀ path, Unlinked journal₂ path →
      Unlinked journal₁ path ∨ stageDestPath apexFile = path) :
    LoopTrace f (before ++ [apexFile]) ((staged.promoted (changedHashTree g apexFile)).linked apexFile)
      (linkedFiles (clearedFiles (promotedFiles g apexFile) apexFile) apexFile) journal₂ where
  running := running
  linked := by
    rw [linked, continues.linked, trace.linked]
    simp
  unlinked path isUnlinked := by
    rcases unlinked path isUnlinked with earlier | dest
    · obtain ⟨other, member, dest⟩ := trace.unlinked path ((continues.unlinked path).mp earlier)
      exact ⟨other, by simp [member], dest⟩
    · exact ⟨apexFile, by simp, dest⟩
  kept other member := by
    simp only [Staged.linked, Staged.promoted, List.mem_insert_iff]
    rcases List.mem_append.mp member with earlier | last
    · exact .inr (trace.kept other earlier)
    · rw [List.mem_singleton.mp last]
      exact .inl rfl
  files := by rw [afterLinks_append_singleton, trace.files]
  guardState := trace.guardState.promote.clear.link

/-- A failure while the guard is armed. -/
theorem GuardState.rollsBack_iff (state : GuardState f g cleared promoted staged)
    (armed : linkedPackages journal < apexFiles.length)
    (isPromoted : apexFiles.take (promotedPackages journal) = promoted)
    (isCleared : apexFiles.take (clearedPackages journal) = cleared) :
    Restored f (guardedFiles staged g) ↔ RollsBack f apexFiles journal := by
  rw [state.restored_iff]
  constructor
  · rintro ⟨noNew, noDest⟩
    exact ⟨isPromoted ▸ noNew, fun _ => isCleared ▸ noDest, fun disabled => by omega⟩
  · rintro rollsBack
    exact ⟨isPromoted ▸ rollsBack.noNewHashTree, isCleared ▸ rollsBack.guarded armed⟩

theorem wp_faulty_stageLoop (rest : List ApexFile) {before : List ApexFile}
    (trace : LoopTrace f before staged w.fs.file journal)
    {Q : Except String Staged → World × Journal apexd → Prop}
    (done : ∀ staged' w' journal', LoopTrace f (before ++ rest) staged' w'.fs.file journal' →
      Q (.ok staged') (w', journal'))
    (failed : ∀ e w' journal',
      (Restored f w'.fs.file ↔ RollsBack f (before ++ rest) journal') →
      Q (.error e) (w', journal')) :
    wp faulty Anything (stageLoop rest staged) Q (w, journal) := by
  induction rest generalizing before staged w journal with
  | nil =>
    rw [List.append_nil] at done
    exact done staged w journal trace
  | cons apexFile rest ih =>
    have takeBefore : (before ++ apexFile :: rest).take before.length = before := by simp
    have takeOne : (before ++ apexFile :: rest).take (before.length + 1) = before ++ [apexFile] := by
      simp [List.take_append]
    have armed : before.length < (before ++ apexFile :: rest).length := by simp
    -- the guard runs after a failure in the round of `apexFile`
    have guarded {e : String} {w₁ : World} {journal₁ : Journal apexd} {request : Call}
        {cleared promoted : List ApexFile} {staged₁ : Staged} (running : journal₁.failed = none)
        (linked : linkedPackages journal₁ = before.length)
        (state : GuardState f w₁.fs.file cleared promoted staged₁)
        (isPromoted : (before ++ apexFile :: rest).take
          (promotedPackages (journal₁.fail request)) = promoted)
        (isCleared : (before ++ apexFile :: rest).take
          (clearedPackages (journal₁.fail request)) = cleared) :
        wp faulty Anything staged₁.deleter (fun _ => Q (.error e)) (w₁, journal₁.fail request) := by
      refine wp_faulty_deleter (by simp [Journal.failed_fail running]) fun w₂ files => ?_
      refine failed e w₂ _ ?_
      rw [files]
      refine state.rollsBack_iff ?_ isPromoted isCleared
      rw [linkedPackages_fail, linked]
      exact armed
    rw [stageLoop, wp_bind, wp_onError]
    refine wp_faulty_promoteHashtree trace.running (fun w₁ journal₁ continues files₁ => ?_)
      fun e journal₁ source target continues => ?_
    · have linked₁ : linkedPackages journal₁ = before.length := continues.linked.trans trace.linked
      have state₁ : GuardState f w₁.fs.file before (before ++ [apexFile])
          (staged.promoted (changedHashTree w.fs.file apexFile)) := by
        rw [files₁]
        exact trace.guardState.promote
      dsimp only
      rw [wp_bind, wp_onError]
      refine wp_faulty_linkPackage continues.running
        (fun w₂ journal₂ running₂ linked₂ unlinked₂ files₂ => ?_)
        (fun e journal₂ path continues₂ => ?_)
        (fun e w₂ journal₂ source target running₂ linked₂ files₂ => ?_)
      · have trace₂ := trace.step continues running₂ linked₂ unlinked₂
        rw [← files₁, ← files₂] at trace₂
        refine ih trace₂ ?_ ?_
        · rw [List.append_assoc]
          exact done
        · rw [List.append_assoc]
          exact failed
      · have linked := continues₂.linked.trans linked₁
        refine guarded continues₂.running linked state₁ ?_ ?_
        · simp [promotedPackages, Journal.failed_fail continues₂.running, linked, takeOne]
        · simp [clearedPackages, Journal.failed_fail continues₂.running, linked]
      · have linked := linked₂.trans linked₁
        refine guarded running₂ linked (files₂ ▸ state₁.clear) ?_ ?_
        · simp [promotedPackages, Journal.failed_fail running₂, linked, takeOne]
        · simp [clearedPackages, Journal.failed_fail running₂, linked, takeOne]
    · have linked := continues.linked.trans trace.linked
      refine guarded continues.running linked trace.guardState ?_ ?_
      · simp [promotedPackages, Journal.failed_fail continues.running, linked]
      · simp [clearedPackages, Journal.failed_fail continues.running, linked]

/-! ## Removing what was active before -/

/-- The removal of old files, from `g` and `journal` on. -/
structure RemovalTrace (keep : List FilePath) (g : Files) (journal : Journal apexd)
    (removed : List FilePath) (g' : Files) (journal' : Journal apexd) : Prop where
  linked : linkedPackages journal' = linkedPackages journal
  unlinked : ∀ path, Unlinked journal' path → Unlinked journal path ∨ path ∈ removed
  isUnlinked : ∀ path ∈ removed, Unlinked journal' path
  old : ∀ path ∈ removed, path.dir = .active ∧ path ∉ keep ∧ g path ≠ none
  files : g' = fun path => if path ∈ removed then none else g path

variable {keep removed : List FilePath} {g' : Files}

theorem RemovalTrace.start (keep : List FilePath) (g : Files) (journal : Journal apexd) :
    RemovalTrace keep g journal [] g journal :=
  ⟨rfl, fun _ => .inl, by simp, by simp, by simp⟩

theorem RemovalTrace.continue {journal'' : Journal apexd}
    (trace : RemovalTrace keep g journal removed g' journal')
    (linked : linkedPackages journal'' = linkedPackages journal')
    (unlinked : ∀ path, Unlinked journal'' path ↔ Unlinked journal' path) :
    RemovalTrace keep g journal removed g' journal'' where
  linked := linked.trans trace.linked
  unlinked path isUnlinked := trace.unlinked path ((unlinked path).mp isUnlinked)
  isUnlinked path member := (unlinked path).mpr (trace.isUnlinked path member)
  old := trace.old
  files := trace.files

theorem RemovalTrace.fail (trace : RemovalTrace keep g journal removed g' journal')
    (request : Call) : RemovalTrace keep g journal removed g' (journal'.fail request) :=
  trace.continue (linkedPackages_fail _ _) fun _ => unlinked_fail

theorem RemovalTrace.remove (trace : RemovalTrace keep g journal removed g' journal')
    (running : journal'.failed = none) (isActive : path.dir = .active) (notKept : path ∉ keep)
    (found : (g' path).isSome = true) :
    RemovalTrace keep g journal (path :: removed) (Function.update g' path none)
      (journal'.record (.fs (.unlink path))) where
  linked := by
    rw [linkedPackages, Journal.calls_record running, List.countP_append, ← trace.linked]
    rfl
  unlinked other isUnlinked := by
    rw [Unlinked, Journal.calls_record running, List.mem_append, List.mem_singleton] at isUnlinked
    rcases isUnlinked with earlier | last
    · rcases trace.unlinked other earlier with before | member
      · exact .inl before
      · exact .inr (by simp [member])
    · cases last
      exact .inr (by simp)
  isUnlinked other member := by
    rw [Unlinked, Journal.calls_record running, List.mem_append, List.mem_singleton]
    rcases List.mem_cons.mp member with rfl | earlier
    · exact .inr rfl
    · exact .inl (trace.isUnlinked other earlier)
  old other member := by
    rcases List.mem_cons.mp member with rfl | earlier
    · refine ⟨isActive, notKept, ?_⟩
      rw [trace.files] at found
      intro absent
      simp [absent] at found
    · exact trace.old other earlier
  files := by
    funext other
    by_cases same : other = path
    · subst same
      simp
    · rw [Function.update_of_ne same, trace.files]
      simp [same]

theorem linkedPackages_le_promoted (journal : Journal apexd) :
    linkedPackages journal ≤ promotedPackages journal := by
  unfold promotedPackages
  split <;> omega

/-- A failure after the guard was disabled. -/
theorem RemovalTrace.rollsBack_iff (trace : RemovalTrace staged.stagedFiles g journal removed g' journal')
    (loop : LoopTrace f apexFiles staged g journal) :
    Restored f g' ↔ RollsBack f apexFiles journal' := by
  have all : linkedPackages journal' = apexFiles.length := trace.linked.trans loop.linked
  have promotedAll : apexFiles.take (promotedPackages journal') = apexFiles := by
    refine List.take_of_length_le ?_
    rw [← all]
    exact linkedPackages_le_promoted journal'
  have notRemoved {apexFile : ApexFile} (member : apexFile ∈ apexFiles) :
      stageDestPath apexFile ∉ removed := fun isRemoved =>
    (trace.old _ isRemoved).2.1 (loop.kept apexFile member)
  constructor
  · intro restored
    have same {path : FilePath} (isActive : path.dir = .active) (stays : path ∉ removed) :
        g path = f path := by
      rw [← restored path (.inl isActive), trace.files]
      exact (if_neg stays).symm
    refine ⟨?_, fun armed => by omega, fun _ => ⟨?_, ?_⟩⟩
    · intro apexFile member
      rw [promotedAll] at member
      have notActive : newHashTreePath apexFile ∉ removed := by
        intro isRemoved
        cases (trace.old _ isRemoved).1
      rw [← restored (newHashTreePath apexFile) (.inr rfl), trace.files]
      exact (if_neg notActive).trans (loop.guardState.moved apexFile member)
    · intro apexFile member
      rw [← loop.files]
      exact same rfl (notRemoved member)
    · intro path isUnlinked
      rcases trace.unlinked path isUnlinked with earlier | isRemoved
      · exact loop.unlinked path earlier
      · by_contra noDest
        obtain ⟨isActive, _, present⟩ := trace.old path isRemoved
        refine present ?_
        rw [loop.guardState.others path isActive fun apexFile member dest =>
          noDest ⟨apexFile, member, dest⟩, ← restored path (.inl isActive), trace.files]
        exact if_pos isRemoved
  · rintro ⟨noNew, _, accepted⟩ path restore
    obtain ⟨sameDest, onlyDest⟩ := accepted (by omega)
    rw [promotedAll] at noNew
    have stays : path ∉ removed := by
      intro isRemoved
      obtain ⟨apexFile, member, rfl⟩ := onlyDest path (trace.isUnlinked path isRemoved)
      exact notRemoved member isRemoved
    rw [trace.files]
    refine (if_neg stays).trans ?_
    rcases restore with isActive | isHashTree
    · by_cases isDest : ∃ apexFile ∈ apexFiles, stageDestPath apexFile = path
      · obtain ⟨apexFile, member, rfl⟩ := isDest
        rw [loop.files]
        exact sameDest apexFile member
      · exact loop.guardState.others path isActive fun apexFile member dest =>
          isDest ⟨apexFile, member, dest⟩
    · exact (loop.guardState.untouched noNew).2 path isHashTree

theorem wp_faulty_removePreviouslyActiveApexFiles {affected : List String}
    (loop : LoopTrace f apexFiles staged w.fs.file journal)
    {Q : Except String Unit → World × Journal apexd → Prop}
    (done : ∀ state, Q (.ok ()) state)
    (failed : ∀ e w' journal', (Restored f w'.fs.file ↔ RollsBack f apexFiles journal') →
      Q (.error e) (w', journal')) :
    wp faulty Anything (removePreviouslyActiveApexFiles affected staged.stagedFiles) Q
      (w, journal) := by
  have fails {e : String} {w' : World} {journal' : Journal apexd} {removed : List FilePath}
      (trace : RemovalTrace staged.stagedFiles w.fs.file journal removed w'.fs.file journal') :
      Q (.error e) (w', journal') :=
    failed e w' journal' (trace.rollsBack_iff loop)
  have start := RemovalTrace.start staged.stagedFiles w.fs.file journal
  rw [removePreviouslyActiveApexFiles, wp_bind, findFilesBySuffix, wp_bind, wp_mapError]
  refine wp_faulty_readDir (fun listing isListing => ?_) fun e => fails (start.fail _)
  have listed : Continues journal (journal.record (.fs (.readDir .active))) :=
    .record loop.running rfl rfl
  change wp _ _ (List.forM _ _) _ _
  refine wp_forM (fun _ state => state.2.failed = none ∧ ∃ removed,
    RemovalTrace staged.stagedFiles w.fs.file journal removed state.1.fs.file state.2)
    ⟨listed.running, [], start.continue listed.linked listed.unlinked⟩ ?_ fun state _ => done state
  rintro before path after ⟨w₁, journal₁⟩ split ⟨running, removed, trace⟩
  have isActive : path.dir = .active := by
    have member : path ∈ withSuffix .active [kApexPackageSuffix] listing := by
      change path ∈ (listing.filter fun name => _).map _
      rw [split]
      simp
    exact (mem_withSuffix.mp member).1
  have opened : Continues journal₁ (journal₁.record (.fs (.read path))) := .record running rfl rfl
  have trace₁ := trace.continue opened.linked opened.unlinked
  rw [wp_bind]
  refine wp_faulty_open (fun apexFile isOpened => ?_) (fun e => fails (trace.fail _))
    fun e => fails trace₁
  obtain ⟨_, rfl, _⟩ := openAt_eq_ok_iff.mp isOpened
  dsimp only
  split
  · rename_i replaced
    simp only [Bool.and_eq_true, Bool.not_eq_true', decide_eq_false_iff_not] at replaced
    rw [orErrno, wp_mapError]
    refine wp_faulty_unlink (fun found => ?_) fun e _ => fails (trace₁.fail _)
    refine ⟨by rw [Journal.failed_record, opened.running], apexFile.path :: removed, ?_⟩
    rw [World.withFs, w₁.fs.file_remove]
    exact trace₁.remove opened.running isActive replaced.2 found
  · exact ⟨opened.running, removed, trace₁⟩

/-! ## The whole -/

/-- Before the loop nothing was linked, unlinked or promoted. -/
structure Early (journal : Journal apexd) : Prop where
  linked : linkedPackages journal = 0
  promoted : promotedPackages journal = 0
  cleared : clearedPackages journal = 0
  unlinked : ∀ path, ¬ Unlinked journal path

theorem Continues.early (continues : Continues .empty journal) : Early journal where
  linked := continues.linked
  promoted := by simp [promotedPackages, continues.running, continues.linked]; rfl
  cleared := by simp [clearedPackages, continues.running, continues.linked]; rfl
  unlinked path isUnlinked := by
    have := (continues.unlinked path).mp isUnlinked
    cases this

theorem Continues.early_fail (continues : Continues .empty journal) {request : Call}
    (noLink : isLink request = false) (noUnlink : isUnlink request = false) :
    Early (journal.fail request) := by
  have linked : linkedPackages (journal.fail request) = 0 :=
    (linkedPackages_fail _ _).trans continues.linked
  refine ⟨linked, ?_, ?_, fun path isUnlinked => ?_⟩
  · rw [promotedPackages, Journal.failed_fail continues.running]
    split
    · rename_i isRequest
      cases isRequest
      cases noUnlink
    · rename_i isRequest
      cases isRequest
      cases noLink
    · exact linked
  · rw [clearedPackages, Journal.failed_fail continues.running]
    split
    · rename_i isRequest
      cases isRequest
      cases noLink
    · exact linked
  · have := (continues.unlinked path).mp (unlinked_fail.mp isUnlinked)
    cases this

theorem Early.rollsBack (early : Early journal) (f : Files) (apexFiles : List ApexFile) :
    RollsBack f apexFiles journal where
  noNewHashTree := by simp [early.promoted]
  guarded _ := by simp [early.cleared]
  accepted done := by
    rw [early.linked, Nat.le_zero, List.length_eq_zero_iff] at done
    subst done
    exact ⟨by simp, fun path isUnlinked => (early.unlinked path isUnlinked).elim⟩

theorem wp_faulty_createDirIfNeeded {d : DirId} {mode : Nat} (running : journal.failed = none)
    {Q : Except String Unit → World × Journal apexd → Prop}
    (done : ∀ w' journal', Continues journal journal' → w'.fs.file = w.fs.file →
      Q (.ok ()) (w', journal'))
    (failed : ∀ e w' journal' request, Continues journal journal' → isLink request = false →
      isUnlink request = false → w'.fs.file = w.fs.file →
      Q (.error e) (w', journal'.fail request)) :
    wp faulty Anything (createDirIfNeeded d mode) Q (w, journal) := by
  have chmodded (w₁ : World) (journal₁ : Journal apexd) (continues : Continues journal journal₁)
      (files : w₁.fs.file = w.fs.file) :
      wp faulty Anything (orErrno (chmod d mode) ("Could not chmod " ++ d.text)) Q
        (w₁, journal₁) := by
    rw [orErrno, wp_mapError]
    refine wp_faulty_fsCall (by simp) (fun value fs' effect => ?_)
      fun e _ => failed _ _ _ _ continues rfl rfl files
    simp only [FsCall.effect] at effect
    split at effect
    · cases effect
    · rename_i dir found
      cases effect
      refine done _ _ (continues.trans (.record continues.running rfl rfl)) ?_
      refine (w₁.fs.file_set ?_).trans files
      simp [FileSystem.files, found]
  rw [createDirIfNeeded, wp_bind, orErrno, wp_mapError]
  refine wp_faulty_fsCall (by simp) (fun value fs' effect => ?_)
    fun e _ => failed _ _ _ _ (.refl running) rfl rfl rfl
  cases effect
  have stated : Continues journal (journal.record (.fs (.stat d))) := .record running rfl rfl
  cases found : w.fs.dir d with
  | some dir => exact chmodded w _ stated rfl
  | none =>
    change wp faulty Anything (orErrno (mkdir d mode) _ >>= fun _ => _) Q _
    rw [wp_bind, orErrno, wp_mapError]
    refine wp_faulty_fsCall (by simp) (fun value fs' effect => ?_)
      fun e _ => failed _ _ _ _ stated rfl rfl rfl
    simp only [FsCall.effect] at effect
    split at effect
    · cases effect
    · cases effect
      refine chmodded _ _ (stated.trans (.record stated.running rfl rfl)) (w.fs.file_set ?_)
      simp [FileSystem.files, found]

theorem wp_faulty_openApexFiles {paths : List FilePath}
    {Q : Except String (List ApexFile) → World × Journal apexd → Prop}
    (done : ∀ apexFiles journal', Continues .empty journal' →
      collectResults (openAt w.fs) paths = .ok apexFiles → Q (.ok apexFiles) (w, journal'))
    (failed : ∀ e journal', Early journal' → Q (.error e) (w, journal')) :
    wp faulty Anything (openApexFiles paths) Q (w, .empty) := by
  have start : Continues .empty (.empty : Journal apexd) := .refl rfl
  rw [openApexFiles]
  split
  · exact failed _ _ start.early
  · refine wp_collect (fun before values state => state.1 = w ∧ Continues .empty state.2 ∧
      collectResults (openAt w.fs) before = .ok values) ⟨rfl, start, rfl⟩ ?_ ?_
    · rintro before path after values ⟨_, journal₁⟩ - ⟨rfl, continues, collected⟩
      have opened : Continues .empty (journal₁.record (.fs (.read path))) :=
        continues.trans (.record continues.running rfl rfl)
      refine wp_faulty_open (fun apexFile isOpened => ?_) (fun e => ?_) fun e => ?_
      · exact ⟨rfl, opened, collectResults_append_singleton collected isOpened⟩
      · exact failed _ _ (continues.early_fail rfl rfl)
      · exact failed _ _ opened.early
    · rintro values ⟨_, journal₁⟩ ⟨rfl, continues, collected⟩
      exact done values journal₁ continues collected

/-- The packages that `StagePackages` opens; none if one of them cannot be opened. -/
def openedFiles (fs : FileSystem DirId Content) (paths : List FilePath) : List ApexFile :=
  match collectResults (openAt fs) paths with
  | .ok apexFiles => apexFiles
  | .error _ => []

theorem noReturn_faulty : NoReturn faulty := by
  rintro state reply state' answer
  cases reply with
  | ok value => exact value.elim
  | error e =>
    rcases answer.1 with answered | ⟨_, impossible, _⟩
    · exact answered
    · exact impossible

theorem wp_faulty_stagePackages (env : Environment) (w : World) (paths : List FilePath) :
    wp faulty Anything (stagePackages env paths) (fun result state => match result with
      | .ok _ => True
      | .error _ => Restored w.fs.file state.1.fs.file ↔
          RollsBack w.fs.file (openedFiles w.fs paths) state.2) (w, .empty) := by
  have early {w' : World} {journal' : Journal apexd} (isEarly : Early journal')
      (files : w'.fs.file = w.fs.file) :
      Restored w.fs.file w'.fs.file ↔ RollsBack w.fs.file (openedFiles w.fs paths) journal' := by
    rw [files]
    exact iff_of_true (fun _ _ => rfl) (isEarly.rollsBack _ _)
  rw [stagePackages, wp_bind]
  refine wp_faulty_openApexFiles (fun apexFiles journal₁ continues collected => ?_)
    fun e journal₁ isEarly => early isEarly rfl
  have isOpened : openedFiles w.fs paths = apexFiles := by rw [openedFiles, collected]
  dsimp only
  rw [wp_bind]
  apply Computes.forM fun apexFile _ => computes_verifyBeforeStaging noReturn_faulty apexFile
  cases checkAll (verifyOutcome env) apexFiles with
  | error e => exact early continues.early rfl
  | ok _ =>
    dsimp only
    rw [wp_bind]
    refine wp_faulty_createDirIfNeeded continues.running (fun w₂ journal₂ continues₂ files₂ => ?_)
      fun e w₂ journal₂ request continues₂ noLink noUnlink files₂ =>
        early ((continues.trans continues₂).early_fail noLink noUnlink) files₂
    have isEarly := (continues.trans continues₂).early
    dsimp only
    rw [wp_bind]
    have start : LoopTrace w.fs.file [] .none w₂.fs.file journal₂ :=
      ⟨continues₂.running, isEarly.linked, fun path isUnlinked => (isEarly.unlinked _ isUnlinked).elim,
        by simp, files₂, files₂ ▸ .start _⟩
    refine wp_faulty_stageLoop apexFiles start (fun staged w₃ journal₃ trace => ?_)
      fun e w₃ journal₃ restored => ?_
    · rw [List.nil_append] at trace
      refine wp_faulty_removePreviouslyActiveApexFiles trace (fun _ => trivial)
        fun e w₄ journal₄ restored => ?_
      rw [isOpened]
      exact restored
    · rw [isOpened]
      exact restored

theorem restored_iff : Restored w.fs.file w'.fs.file ↔
    w'.files .active = w.files .active ∧ w'.files .hashTree = w.files .hashTree := by
  constructor
  · intro restored
    exact ⟨Finmap.ext_lookup fun name => restored ⟨.active, name⟩ (.inl rfl),
      Finmap.ext_lookup fun name => restored ⟨.hashTree, name⟩ (.inr rfl)⟩
  · rintro ⟨active, hashTree⟩ ⟨dir, name⟩ (isActive | isHashTree)
    · cases isActive
      exact congrArg (Finmap.lookup name) active
    · cases isHashTree
      exact congrArg (Finmap.lookup name) hashTree

/-- An error of `StagePackages` leaves the directories as they were if and only if there was
nothing to restore where it happened. -/
theorem stagePackages_restores_iff (env : Environment) (w : World) (paths : List FilePath)
    {e : String} (run : Runs faulty (stagePackages env paths) (w, .empty) (.error e) (w', journal)) :
    (w'.files .active = w.files .active ∧ w'.files .hashTree = w.files .hashTree) ↔
      RollsBack w.fs.file (openedFiles w.fs paths) journal :=
  restored_iff.symm.trans (wp_runs (wp_faulty_stagePackages env w paths) run)

/-! ## A package that is staged again -/

/-- The package to stage is active already. -/
def stagedAgain : World := .ofDirectories [
  (.active, [("foo@2.apex", .apex (.plain "foo" 2 2))]),
  (.staged 1, [("foo.apex", .apex (.plain "foo" 2 2))])]

def stageFoo : Procedure Unit :=
  stagePackages (.plain (.ofPackages ["foo"])) [⟨.staged 1, "foo.apex"⟩]

theorem exists_failedLink : ∃ e w' journal,
    Runs faulty stageFoo (stagedAgain, .empty) (.error e) (w', journal) ∧
      (w'.files .active).names = [] := by
  have mayLink (request : Call) (chosen : isLink request = true) : mayFail request := by
    unfold isLink at chosen
    split at chosen
    · trivial
    · cases chosen
  obtain ⟨result, ⟨w', journal⟩, run, check⟩ := exists_runs
    (deviceHandler.failingAt_sound deviceHandler_sound mayLink "I/O error") stageFoo
    (stagedAgain, .empty)
    (fun result state => match result with
      | .error _ => (state.1.files .active).names = []
      | .ok _ => false) (by decide +kernel)
  cases result with
  | ok value => cases check
  | error e => exact ⟨e, w', journal, run, of_decide_eq_true check⟩

/-- An older version of the one package is active, of the other one nothing. -/
def stagedNewer : World := .ofDirectories [
  (.active, [("foo@1.apex", .apex (.plain "foo" 1 1))]),
  (.staged 1, [("foo.apex", .apex (.plain "foo" 2 2)), ("bar.apex", .apex (.plain "bar" 1 3))])]

def fooAndBar : List FilePath :=
  [⟨.staged 1, "foo.apex"⟩, ⟨.staged 1, "bar.apex"⟩]

def stageFooAndBar : Procedure Unit :=
  stagePackages (.plain (.ofPackages ["foo", "bar"])) fooAndBar

def isLinkOf (source : String) : Call → Bool
  | .fs (.link path _) => path.name = source
  | _ => false

/-- The first package is linked, and unlinked again when the second link fails. -/
theorem exists_failedSecondLink : ∃ e w' journal,
    Runs faulty stageFooAndBar (stagedNewer, .empty) (.error e) (w', journal) ∧
      linkedPackages journal = 1 ∧ w'.files .active = stagedNewer.files .active ∧
      w'.files .hashTree = stagedNewer.files .hashTree := by
  have mayLink (request : Call) (chosen : isLinkOf "bar.apex" request = true) : mayFail request := by
    unfold isLinkOf at chosen
    split at chosen
    · trivial
    · cases chosen
  obtain ⟨result, ⟨w', journal⟩, run, check⟩ := exists_runs
    (deviceHandler.failingAt_sound deviceHandler_sound mayLink "I/O error") stageFooAndBar
    (stagedNewer, .empty)
    (fun result state => result.toOption.isNone && decide (linkedPackages state.2 = 1 ∧
      state.1.files .active = stagedNewer.files .active ∧
      state.1.files .hashTree = stagedNewer.files .hashTree)) (by decide +kernel)
  cases result with
  | ok value => cases check
  | error e => exact ⟨e, w', journal, run, of_decide_eq_true check⟩

/-- What was linked over is lost; what was not there before is taken away again. -/
theorem stagePackages_restores_iff_stagedAgain :
    (∃ e w' journal, Runs faulty stageFoo (stagedAgain, .empty) (.error e) (w', journal) ∧
      ((w'.files .active = stagedAgain.files .active ∧
          w'.files .hashTree = stagedAgain.files .hashTree) ↔
        RollsBack stagedAgain.fs.file (openedFiles stagedAgain.fs [⟨.staged 1, "foo.apex"⟩])
          journal)) ∧
    ∃ e w' journal, Runs faulty stageFooAndBar (stagedNewer, .empty) (.error e) (w', journal) ∧
      (w'.files .active = stagedNewer.files .active ∧
        w'.files .hashTree = stagedNewer.files .hashTree) ∧
      RollsBack stagedNewer.fs.file (openedFiles stagedNewer.fs fooAndBar) journal := by
  refine ⟨?_, ?_⟩
  · obtain ⟨e, w', journal, run, _⟩ := exists_failedLink
    exact ⟨e, w', journal, run, stagePackages_restores_iff _ _ _ run⟩
  · obtain ⟨e, w', journal, run, _, same⟩ := exists_failedSecondLink
    exact ⟨e, w', journal, run, same, (stagePackages_restores_iff _ _ _ run).mp same⟩

/-- When the link fails, the file that was unlinked to make room for it is gone. -/
theorem stagePackages_loses_destination :
    ¬ ∀ (env : Environment) (w : World) (paths : List FilePath) (e : String) (w' : World)
      (journal : Journal apexd),
      Runs faulty (stagePackages env paths) (w, .empty) (.error e) (w', journal) →
      w'.files .active = w.files .active ∧ w'.files .hashTree = w.files .hashTree := by
  intro claim
  obtain ⟨e, w', journal, run, isEmpty⟩ := exists_failedLink
  have same := (claim _ _ _ e w' journal run).1
  rw [same] at isEmpty
  exact absurd isEmpty (by decide +kernel)

end Apexd
