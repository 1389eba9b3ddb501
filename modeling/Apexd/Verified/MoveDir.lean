import Apexd.Model.MoveDir

/-! # Moving a directory in spite of crashes

Whatever happens, every entry stays complete in one of the two directories.  But a regular file
that was copied before a crash is in the way of the next copy.
-/

namespace Apexd

open Process Storage

variable {χ : Type} {before state state' : MoveState χ} {fromDir toDir name : String}
  {path : List String}

/-- What is in both directories at one path is a directory in both. -/
def NoClash (state : MoveState χ) : Prop :=
  ∀ path node node', state.source.lookup path = some node → state.target.lookup path = some node' →
    node = .dir ∧ node' = .dir

/-- Everything at an entry of the original directory is in the tree. -/
def CompleteIn (tree original : FileTree χ) (name : String) : Prop :=
  ∀ path node, [name] <+: path → original.lookup path = some node → tree.lookup path = some node

/-- A regular file of the source is in the way of being copied. -/
def Overlaps (state : MoveState χ) (path : List String) : Prop :=
  (∃ content, state.source.lookup path = some (.file content)) ∧ path ∈ state.target

/-- The directories while entries of `before` are being moved. -/
structure Moving (before state : MoveState χ) : Prop where
  sourceKind : state.sourceKind = some .directory
  targetKind : state.targetKind = some .directory
  closed : state.source.Closed
  source : ∀ path node, state.source.lookup path = some node →
    before.source.lookup path = some node
  target : ∀ path node, state.target.lookup path = some node →
    before.target.lookup path = some node ∨ before.source.lookup path = some node
  kept : ∀ path node, before.target.lookup path = some node →
    state.target.lookup path = some node
  complete : ∀ name, CompleteIn state.source before.source name ∨
    CompleteIn state.target before.source name

/-- Every call leaves the directories so. -/
def KeepsMoving (before : MoveState χ) : Guarantee moves (MoveState χ) :=
  fun _ _ state' => Moving before state'

theorem Moving.start (source : before.sourceKind = some .directory)
    (target : before.targetKind = some .directory) (closed : before.source.Closed) :
    Moving before before where
  sourceKind := source
  targetKind := target
  closed := closed
  source _ _ := id
  target _ _ := .inl
  kept _ _ := id
  complete _ := .inl fun _ _ _ => id

/-- What is in both trees is the same in both. -/
theorem Moving.same_node (moving : Moving before state) (noClash : NoClash before)
    {node node' : Node χ} (inSource : state.source.lookup path = some node)
    (inTarget : state.target.lookup path = some node') : node' = node := by
  have original := moving.source path node inSource
  rcases moving.target path node' inTarget with old | copied
  · obtain ⟨rfl, rfl⟩ := noClash path node node' original old
    rfl
  · rw [original] at copied
    exact (Option.some.inj copied).symm

/-! ## Copying -/

/-- The target has the paths of a list as the source has them, and the others as before. -/
structure Copied (state state' : MoveState χ) (paths : List (List String)) : Prop where
  sourceKind : state'.sourceKind = state.sourceKind
  targetKind : state'.targetKind = state.targetKind
  source : state'.source = state.source
  inTarget : ∀ path ∈ paths, state'.target.lookup path = state.source.lookup path
  others : ∀ path ∉ paths, state'.target.lookup path = state.target.lookup path

theorem Copied.moving {paths : List (List String)} (copied : Copied state state' paths)
    (moving : Moving before state) (noClash : NoClash before)
    (inSource : ∀ path ∈ paths, path ∈ state.source) : Moving before state' := by
  have grows {path : List String} {node : Node χ} (found : state.target.lookup path = some node) :
      state'.target.lookup path = some node := by
    by_cases member : path ∈ paths
    · obtain ⟨node', found'⟩ :=
        Option.isSome_iff_exists.mp (Finmap.lookup_isSome.mpr (inSource path member))
      rw [copied.inTarget path member, found', moving.same_node noClash found' found]
    · rw [copied.others path member, found]
  constructor
  · rw [copied.sourceKind, moving.sourceKind]
  · rw [copied.targetKind, moving.targetKind]
  · rw [copied.source]
    exact moving.closed
  · rw [copied.source]
    exact moving.source
  · intro path node found
    by_cases member : path ∈ paths
    · rw [copied.inTarget path member] at found
      exact .inr (moving.source path node found)
    · rw [copied.others path member] at found
      exact moving.target path node found
  · exact fun path node old => grows (moving.kept path node old)
  · intro name
    rw [copied.source]
    refine (moving.complete name).imp_right fun complete path node isPrefix original => ?_
    exact grows (complete path node isPrefix original)

/-- One step of the copy: only a regular file that is already there makes it fail. -/
theorem Moving.copyEntry_eq (moving : Moving before state) (noClash : NoClash before)
    {node : Node χ} (inSource : state.source.lookup path = some node)
    (parent : MoveState.hasParent state.target path = true) :
    (Overlaps state path ∧ state.copyEntry path = (.error "File exists", state)) ∨
    (¬ Overlaps state path ∧ state.copyEntry path =
      (.ok (), { state with target := state.target.insert path node })) := by
  cases found : state.target.lookup path with
  | none =>
    have absent : path ∉ state.target := by
      rw [← Finmap.lookup_isSome, found]
      nofun
    refine .inr ⟨fun overlaps => absent overlaps.2, ?_⟩
    cases node with
    | dir => simp [MoveState.copyEntry, inSource, found, parent]
    | file content => simp [MoveState.copyEntry, MoveState.copyFile, inSource, found, parent]
  | some node' =>
    obtain rfl := moving.same_node noClash inSource found
    have there : path ∈ state.target := by
      rw [← Finmap.lookup_isSome, found]
      rfl
    cases node' with
    | dir =>
      refine .inr ⟨?_, ?_⟩
      · rintro ⟨⟨content, isFile⟩, -⟩
        rw [inSource] at isFile
        cases isFile
      · rw [insert_same found]
        simp [MoveState.copyEntry, inSource, found]
    | file content =>
      refine .inl ⟨⟨⟨content, inSource⟩, there⟩, ?_⟩
      simp [MoveState.copyEntry, MoveState.copyFile, inSource, found]

/-- The directory of what comes next in a walk has been walked over. -/
theorem parent_in_walk {tree : FileTree χ} (closed : tree.Closed) {done rest : List (List String)}
    (walk : tree.IsWalk [name] (done ++ path :: rest)) :
    path.dropLast = [] ∨ path.dropLast ∈ done ∧ tree.lookup path.dropLast = some .dir := by
  obtain ⟨member, below⟩ := (walk.mem_iff path).mp (by simp)
  induction path using List.reverseRecOn with
  | nil => exact absurd member closed.root
  | append_singleton parent last _ =>
    rw [List.dropLast_concat]
    rcases closed.parent parent last member with isRoot | isDir
    · exact .inl isRoot
    · refine .inr ⟨?_, isDir⟩
      have inTree : parent ∈ tree := Finmap.lookup_isSome.mp (by rw [isDir]; rfl)
      have top : [name] <+: parent := by
        cases parent with
        | nil => exact absurd inTree closed.root
        | cons first others =>
          obtain ⟨rfl, -⟩ := List.cons_prefix_cons.mp below
          exact List.cons_prefix_cons.mpr ⟨rfl, List.nil_prefix⟩
      have inWalk := (walk.mem_iff parent).mpr ⟨inTree, top⟩
      rcases List.mem_append.mp inWalk with earlier | later
      · exact earlier
      · have order := List.pairwise_cons.mp (List.pairwise_append.mp walk.parentsFirst).2.1
        rcases List.mem_cons.mp later with same | later
        · have length := congrArg List.length same
          simp at length
        · exact absurd (List.prefix_append parent [last]) (order.1 parent later)

theorem wp_copyEntry {G : Guarantee moves (MoveState χ)} {reply : Except String Unit}
    (copies : state.copyEntry path = (reply, state')) {Q : Except String Unit → MoveState χ → Prop}
    (guarantee : G (.copyEntry path) state state') (post : Q reply state') :
    wp MoveCall.trees G (moveCall (.copyEntry path)) Q state := by
  intro reply' state'' answer
  cases Eq.trans (show (reply', state'') = state.copyEntry path from answer) copies
  exact ⟨guarantee, post⟩

theorem wp_walk {Q : Except String (List (List String)) → MoveState χ → Prop}
    (moving : Moving before state)
    (post : ∀ paths, state.source.IsWalk path paths → Q (.ok paths) state) :
    wp MoveCall.trees (KeepsMoving before) (moveCall (.walk path)) Q state := by
  rintro reply state'' ⟨rfl, paths, isWalk, rfl⟩
  exact ⟨moving, post paths isWalk⟩

/-- A copy succeeds unless a regular file is in the way; if it does, all is copied. -/
theorem wp_copyRecursive (noClash : NoClash before) (moving : Moving before state)
    {Q : Except String Unit → MoveState χ → Prop}
    (copies : ∀ paths state', state.source.IsWalk [name] paths → Copied state state' paths →
      (∀ path ∈ paths, ¬ Overlaps state path) → Q (.ok ()) state')
    (fails : ∀ done state' path, (∀ path ∈ done, path ∈ state.source ∧ [name] <+: path) →
      Copied state state' done → [name] <+: path → Overlaps state path →
        Q (.error "File exists") state') :
    wp MoveCall.trees (KeepsMoving before) (copyRecursive [name]) Q state := by
  rw [copyRecursive, wp_bind]
  refine wp_walk moving fun paths walk => ?_
  refine wp_forM (fun done state' => Copied state state' done ∧ ∀ path ∈ done, ¬ Overlaps state path)
    ⟨⟨rfl, rfl, rfl, by simp, fun _ _ => rfl⟩, by simp⟩ ?_
    (fun state' copied => copies paths state' walk copied.1 copied.2)
  rintro done path rest state' rfl ⟨copied, free⟩
  have inSource : ∀ path ∈ done, path ∈ state.source ∧ [name] <+: path := fun path member =>
    (walk.mem_iff path).mp (List.mem_append_left _ member)
  have moving' := copied.moving moving noClash fun path member => (inSource path member).1
  obtain ⟨here, below⟩ := (walk.mem_iff path).mp (by simp)
  obtain ⟨node, found⟩ := Option.isSome_iff_exists.mp (Finmap.lookup_isSome.mpr here)
  have fresh : path ∉ done := by
    have distinct := List.nodup_append.mp walk.nodup
    exact fun member => distinct.2.2 path member path (by simp) rfl
  have parent : MoveState.hasParent state'.target path = true := by
    rcases parent_in_walk moving.closed walk with isRoot | ⟨member, isDir⟩
    · simp [MoveState.hasParent, isRoot]
    · simp [MoveState.hasParent, copied.inTarget _ member, isDir]
  have same : Overlaps state' path ↔ Overlaps state path := by
    rw [Overlaps, Overlaps, copied.source, ← Finmap.lookup_isSome, ← Finmap.lookup_isSome,
      copied.others path fresh]
  rcases moving'.copyEntry_eq noClash (by rw [copied.source]; exact found) parent with
    ⟨overlaps, failed⟩ | ⟨absent, done'⟩
  · exact wp_copyEntry failed moving'
      (fails done state' path inSource copied below (same.mp overlaps))
  · have copied' : Copied state { state' with target := state'.target.insert path node }
        (done ++ [path]) := by
      refine ⟨copied.sourceKind, copied.targetKind, copied.source, ?_, ?_⟩
      · intro other member
        by_cases isHere : other = path
        · rw [isHere, Finmap.lookup_insert, found]
        · rw [Finmap.lookup_insert_of_ne _ isHere]
          exact copied.inTarget other (by simpa [isHere] using member)
      · intro other absent
        rw [List.mem_append, List.mem_singleton, not_or] at absent
        rw [Finmap.lookup_insert_of_ne _ absent.2]
        exact copied.others other absent.1
    have moving'' := copied'.moving moving noClash fun other member => by
      rcases List.mem_append.mp member with earlier | last
      · exact (inSource other earlier).1
      · rw [List.mem_singleton.mp last]
        exact here
    refine wp_copyEntry done' moving'' (show _ ∧ _ from ⟨copied', fun other member => ?_⟩)
    rcases List.mem_append.mp member with earlier | last
    · exact free other earlier
    · rw [List.mem_singleton.mp last]
      exact fun overlaps => absent (same.mpr overlaps)

/-! ## Removing -/

/-- The source without the paths of a list. -/
structure Removed (state state' : MoveState χ) (paths : List (List String)) : Prop where
  sourceKind : state'.sourceKind = state.sourceKind
  targetKind : state'.targetKind = state.targetKind
  target : state'.target = state.target
  closed : state'.source.Closed
  removed : ∀ path ∈ paths, state'.source.lookup path = none
  others : ∀ path ∉ paths, state'.source.lookup path = state.source.lookup path

theorem Removed.moving {paths : List (List String)} (removed : Removed state state' paths)
    (moving : Moving before state) (inTarget : CompleteIn state.target before.source name)
    (below : ∀ path ∈ paths, [name] <+: path) : Moving before state' := by
  constructor
  · rw [removed.sourceKind, moving.sourceKind]
  · rw [removed.targetKind, moving.targetKind]
  · exact removed.closed
  · intro path node found
    by_cases member : path ∈ paths
    · rw [removed.removed path member] at found
      cases found
    · rw [removed.others path member] at found
      exact moving.source path node found
  · rw [removed.target]
    exact moving.target
  · rw [removed.target]
    exact moving.kept
  · intro other
    rw [removed.target]
    by_cases here : other = name
    · exact .inr (here ▸ inTarget)
    · refine (moving.complete other).imp_left fun complete path node isPrefix original => ?_
      -- an entry of another name lies elsewhere
      have elsewhere : path ∉ paths := by
        intro member
        obtain ⟨rest, rfl⟩ := isPrefix
        exact here (List.cons_prefix_cons.mp (below _ member)).1.symm
      rw [removed.others path elsewhere]
      exact complete path node isPrefix original

theorem closed_erase {tree : FileTree χ} (closed : tree.Closed)
    (leaf : ∀ other ∈ tree, path <+: other → other = path) : FileTree.Closed (tree.erase path) := by
  constructor
  · exact fun member => closed.root (Finmap.mem_erase.mp member).2
  · intro parent last member
    obtain ⟨differs, inTree⟩ := Finmap.mem_erase.mp member
    refine (closed.parent parent last inTree).imp_right fun isDir => ?_
    rw [Finmap.lookup_erase_ne, isDir]
    rintro rfl
    exact differs (leaf _ inTree (List.prefix_append _ _))

/-- Everything at an entry is removed, without an error. -/
theorem wp_removeAll (moving : Moving before state)
    (inTarget : CompleteIn state.target before.source name)
    {Q : Except String Unit → MoveState χ → Prop}
    (removes : ∀ paths state', state.source.IsWalk [name] paths → Removed state state' paths →
      Q (.ok ()) state') :
    wp MoveCall.trees (KeepsMoving before) (removeAll [name]) Q state := by
  rw [removeAll, wp_bind]
  refine wp_walk moving fun paths walk => ?_
  have below : ∀ path ∈ paths, [name] <+: path := fun path member =>
    ((walk.mem_iff path).mp member).2
  refine wp_forM (fun done state' => Removed state state' done)
    ⟨rfl, rfl, rfl, moving.closed, by simp, fun _ _ => rfl⟩ ?_ (fun state' removed => ?_)
  · intro done path rest state' split removed
    have walked : paths = rest.reverse ++ path :: done.reverse := by
      rw [← List.reverse_reverse paths, split]
      simp
    have top := below path (by rw [walked]; simp)
    -- what is left at the path and below it is the path alone
    have leaf : ∀ other ∈ state'.source, path <+: other → other = path := by
      intro other member isPrefix
      have stays : other ∉ done := by
        intro gone
        have absent := removed.removed other gone
        rw [← Finmap.lookup_isSome, absent] at member
        cases member
      have inSource : other ∈ state.source := by
        rwa [← Finmap.lookup_isSome, removed.others other stays, Finmap.lookup_isSome] at member
      have inWalk := (walk.mem_iff other).mpr ⟨inSource, top.trans isPrefix⟩
      rw [walked] at inWalk
      rcases List.mem_append.mp inWalk with earlier | later
      · have order := walk.parentsFirst
        rw [walked] at order
        exact absurd isPrefix ((List.pairwise_append.mp order).2.2 other earlier path (by simp))
      · rcases List.mem_cons.mp later with same | later
        · exact same
        · exact absurd (List.mem_reverse.mp later) stays
    have empty : (state'.source.walk path).any (· ≠ path) = false := by
      rw [List.any_eq_false]
      intro other member
      obtain ⟨inTree, isPrefix⟩ := ((state'.source.isWalk_walk path).mem_iff other).mp member
      simp [leaf other inTree isPrefix]
    have removed' : Removed state { state' with source := state'.source.erase path }
        (done ++ [path]) := by
      refine ⟨removed.sourceKind, removed.targetKind, removed.target,
        closed_erase removed.closed leaf, ?_, ?_⟩
      · intro other member
        by_cases here : other = path
        · rw [here, Finmap.lookup_erase]
        · rw [Finmap.lookup_erase_ne here]
          exact removed.removed other (by simpa [here] using member)
      · intro other absent
        rw [List.mem_append, List.mem_singleton, not_or] at absent
        rw [Finmap.lookup_erase_ne absent.2]
        exact removed.others other absent.1
    have below' : ∀ other ∈ done ++ [path], [name] <+: other := by
      intro other member
      refine below other ?_
      rw [walked]
      simp only [List.mem_append, List.mem_singleton] at member
      rcases member with gone | rfl <;> simp [*]
    intro reply state'' answer
    have effect : state'.removeEntry path =
        (.ok (), { state' with source := state'.source.erase path }) := by
      rw [MoveState.removeEntry, empty]
      rfl
    cases Eq.trans (show (reply, state'') = state'.removeEntry path from answer) effect
    exact ⟨removed'.moving moving inTarget below', removed'⟩
  · refine removes paths state' walk ⟨removed.sourceKind, removed.targetKind, removed.target,
      removed.closed, ?_, ?_⟩
    · exact fun path member => removed.removed path (List.mem_reverse.mpr member)
    · exact fun path absent => removed.others path (by simpa using absent)

/-! ## Moving -/

/-- The entries of other names are in both directories as they were. -/
def SameOutsideEntry (name : String) (state state' : MoveState χ) : Prop :=
  ∀ path, ¬ [name] <+: path → state'.source.lookup path = state.source.lookup path ∧
    state'.target.lookup path = state.target.lookup path

/-- An entry is moved unless a regular file is in the way. -/
theorem wp_moveEntry (noClash : NoClash before) (moving : Moving before state)
    {Q : Except String Unit → MoveState χ → Prop}
    (moves : ∀ state', Moving before state' → SameOutsideEntry name state state' →
      (∀ path, [name] <+: path → ¬ Overlaps state path) →
      (∀ path, [name] <+: path → state'.source.lookup path = none) → Q (.ok ()) state')
    (fails : ∀ e state' path, [name] <+: path → Overlaps state path → Q (.error e) state') :
    wp MoveCall.trees (KeepsMoving before) (moveEntry fromDir toDir name) Q state := by
  rw [moveEntry, wp_bind, wp_mapError]
  refine wp_copyRecursive noClash moving ?_ fun done state' path _ _ below overlaps =>
    fails _ state' path below overlaps
  intro paths state₁ walk copied free
  have moving₁ := copied.moving moving noClash fun path member =>
    ((walk.mem_iff path).mp member).1
  have inTarget : CompleteIn state₁.target before.source name := by
    rcases moving.complete name with inSource | inTarget
    · intro path node below original
      have found := inSource path node below original
      have member : path ∈ paths := (walk.mem_iff path).mpr
        ⟨Finmap.lookup_isSome.mp (by rw [found]; rfl), below⟩
      rw [copied.inTarget path member, found]
    · intro path node below original
      have found := inTarget path node below original
      by_cases member : path ∈ paths
      · obtain ⟨node', found'⟩ := Option.isSome_iff_exists.mp
          (Finmap.lookup_isSome.mpr ((walk.mem_iff path).mp member).1)
        rw [copied.inTarget path member, found', moving.same_node noClash found' found]
      · rw [copied.others path member, found]
  show wp _ _ _ _ _
  rw [wp_mapError]
  refine wp_removeAll moving₁ inTarget fun paths' state₂ walk' removed => ?_
  have moving₂ := removed.moving moving₁ inTarget fun path member =>
    ((walk'.mem_iff path).mp member).2
  have sameOverlap (path : List String) (below : [name] <+: path) (overlaps : Overlaps state path) :
      path ∈ paths := by
    obtain ⟨content, isFile⟩ := overlaps.1
    exact (walk.mem_iff path).mpr ⟨Finmap.lookup_isSome.mp (by rw [isFile]; rfl), below⟩
  refine moves state₂ moving₂ ?_ (fun path below overlaps =>
    free path (sameOverlap path below overlaps) overlaps) ?_
  · intro path outside
    have notCopied : path ∉ paths := fun member => outside ((walk.mem_iff path).mp member).2
    have notRemoved : path ∉ paths' := fun member => outside ((walk'.mem_iff path).mp member).2
    rw [removed.others path notRemoved, removed.target, copied.source]
    exact ⟨rfl, copied.others path notCopied⟩
  · intro path below
    by_cases member : path ∈ paths'
    · exact removed.removed path member
    · rw [removed.others path member]
      by_contra found
      exact member ((walk'.mem_iff path).mpr
        ⟨Finmap.lookup_isSome.mp (Option.isSome_iff_ne_none.mpr found), below⟩)

theorem overlaps_congr (source : state'.source.lookup path = state.source.lookup path)
    (target : state'.target.lookup path = state.target.lookup path) :
    Overlaps state' path ↔ Overlaps state path := by
  rw [Overlaps, Overlaps, source, ← Finmap.lookup_isSome, target, Finmap.lookup_isSome]

theorem same_top {first second : String} (below : [first] <+: path) (below' : [second] <+: path) :
    first = second := by
  obtain ⟨rest, rfl⟩ := below
  exact (List.cons_prefix_cons.mp below').1.symm

theorem wp_statTarget (moving : Moving before state)
    {Q : Except String FileKind → MoveState χ → Prop} (post : Q (.ok .directory) state) :
    wp MoveCall.trees (KeepsMoving before) (moveCall .statTarget) Q state := by
  intro reply state'' answer
  have effect : MoveCall.effect .statTarget state = (.ok .directory, state) := by
    simp only [MoveCall.effect, moving.targetKind]
  cases Eq.trans (show (reply, state'') = MoveCall.effect .statTarget state from answer) effect
  exact ⟨moving, post⟩

theorem wp_list (moving : Moving before state)
    {Q : Except String (List String) → MoveState χ → Prop}
    (post : ∀ names : List String, names.Nodup → (∀ name, name ∈ names ↔ [name] ∈ state.source) →
      Q (.ok names) state) :
    wp MoveCall.trees (KeepsMoving before) (moveCall .list) Q state := by
  rintro reply state'' ⟨rfl, answer⟩
  simp only [moving.sourceKind] at answer
  obtain ⟨names, ⟨distinct, isListing⟩, rfl⟩ := answer
  exact ⟨moving, post names distinct isListing⟩

/-- `MoveDir` empties the source, unless a regular file is in the way. -/
theorem wp_moveDir (noClash : NoClash before) (moving : Moving before state)
    {Q : Except String Unit → MoveState χ → Prop}
    (moves : ∀ state', Moving before state' → (∀ path, ¬ Overlaps state path) →
      state'.source = ∅ → Q (.ok ()) state')
    (fails : ∀ e state' path, Overlaps state path → Q (.error e) state') :
    wp MoveCall.trees (KeepsMoving before) (moveDir fromDir toDir) Q state := by
  rw [moveDir, wp_bind, wp_mapError]
  refine wp_statTarget moving ?_
  dsimp only [Except.mapError]
  rw [if_neg (not_not.mpr rfl), wp_bind, wp_mapError]
  refine wp_list moving fun names distinct isListing => ?_
  dsimp only [Except.mapError]
  refine wp_forM (fun done state' => Moving before state' ∧
      (∀ path, (∀ name ∈ done, ¬ [name] <+: path) →
        state'.source.lookup path = state.source.lookup path ∧
        state'.target.lookup path = state.target.lookup path) ∧
      ∀ name ∈ done, ∀ path, [name] <+: path →
        state'.source.lookup path = none ∧ ¬ Overlaps state path)
    ⟨moving, fun _ _ => ⟨rfl, rfl⟩, by simp⟩ ?_ ?_
  · rintro done name rest state' rfl ⟨moving', outside, inside⟩
    have fresh : ∀ other ∈ done, other ≠ name := fun other member =>
      (List.nodup_append.mp distinct).2.2 other member name (by simp)
    have untouched {path : List String} (below : [name] <+: path) :
        Overlaps state' path ↔ Overlaps state path := by
      have same := outside path fun other member below' => fresh other member (same_top below' below)
      exact overlaps_congr same.1 same.2
    refine wp_moveEntry noClash moving' ?_ fun e state'' path below overlaps =>
      fails e state'' path ((untouched below).mp overlaps)
    intro state'' moving'' sameOutside free gone
    refine ⟨moving'', ?_, ?_⟩
    · intro path elsewhere
      have same := sameOutside path (elsewhere name (by simp))
      have same' := outside path fun other member => elsewhere other (by simp [member])
      exact ⟨same.1.trans same'.1, same.2.trans same'.2⟩
    · intro other member path below
      by_cases here : other = name
      · rw [here] at below
        exact ⟨gone path below, fun overlaps => free path below ((untouched below).mpr overlaps)⟩
      · have earlier : other ∈ done := by simpa [here] using member
        have before' := inside other earlier path below
        have elsewhere : ¬ [name] <+: path := fun below' => here (same_top below below')
        exact ⟨(sameOutside path elsewhere).1.trans before'.1, before'.2⟩
  · rintro state' ⟨moving', outside, inside⟩
    refine moves state' moving' ?_ ?_
    · intro path overlaps
      obtain ⟨content, isFile⟩ := overlaps.1
      obtain ⟨name, top, below⟩ := moving.closed.exists_top
        (Finmap.lookup_isSome.mp (by rw [isFile]; rfl))
      exact (inside name ((isListing name).mpr top) path below).2 overlaps
    · refine Finmap.ext_lookup fun path => ?_
      rw [Finmap.lookup_empty]
      by_contra found
      obtain ⟨name, top, below⟩ := moving'.closed.exists_top
        (Finmap.lookup_isSome.mp (Option.isSome_iff_ne_none.mpr found))
      by_cases listed : name ∈ names
      · exact found (inside name listed path below).1
      · have elsewhere : ∀ other ∈ names, ¬ [other] <+: [name] := fun other member below' =>
          listed (same_top below' List.prefix_rfl ▸ member)
        rw [← Finmap.lookup_isSome, (outside [name] elsewhere).1, Finmap.lookup_isSome] at top
        exact listed ((isListing name).mpr top)

/-! ## Crashes -/

theorem Moving.of_crashes (noClash : NoClash before) (moving : Moving before before)
    (crashes : Relation.ReflTransGen (Reaches MoveCall.trees (moveDir fromDir toDir)) before state) :
    Moving before state := by
  induction crashes with
  | refl => exact moving
  | tail _ crash ih =>
    have steps := wp_reaches (wp_moveDir (Q := fun _ _ => True) noClash ih
      (fun _ _ _ _ => trivial) (fun _ _ _ _ => trivial)) crash
    rcases steps.cases_tail with rfl | ⟨_, -, _, kept⟩
    · exact ih
    · exact kept

theorem exists_runs_moveDir : ∃ result state',
    Runs MoveCall.trees (moveDir fromDir toDir) state result state' := by
  obtain ⟨result, state', run⟩ : ∃ result state',
      Runs (deterministic MoveCall.effect) (moveDir fromDir toDir) state result state' :=
    exists_runs_deterministic _ _
  have within {α : Type} (p : Program moves String α) : p.Within fun _ => True := by
    induction p with
    | done => trivial
    | call request next ih => exact ⟨trivial, ih⟩
  refine ⟨result, state', run.of_agree (within _) fun request _ state reply state' answer => ?_⟩
  exact MoveCall.handler_sound (congrArg some (Eq.symm answer))

/-- A run moves all entries if no regular file that is still to be moved has been copied, and fails
if one has. -/
theorem Moving.moved_iff (moving : Moving before state) (noClash : NoClash before)
    (closed : before.source.Closed) {result : Except String Unit}
    (run : Runs MoveCall.trees (moveDir fromDir toDir) state result state') :
    (result = .ok () ∧ state'.source = ∅ ∧ ∀ path node,
        before.source.lookup path = some node → state'.target.lookup path = some node) ↔
      ∀ path content, state.source.lookup path = some (.file content) →
        state.target.lookup path = none := by
  have free_iff : (∀ path, ¬ Overlaps state path) ↔ ∀ path content,
      state.source.lookup path = some (.file content) → state.target.lookup path = none := by
    simp only [Overlaps, ← Finmap.lookup_isSome, not_and, Bool.not_eq_true, Option.isSome_eq_false_iff,
      Option.isNone_iff_eq_none, forall_exists_index]
  rw [← free_iff]
  constructor
  · rintro ⟨rfl, -⟩
    suffices free : wp MoveCall.trees (KeepsMoving before) (moveDir fromDir toDir)
        (fun result _ => result = .ok () → ∀ path, ¬ Overlaps state path) state from
      wp_runs free run rfl
    exact wp_moveDir noClash moving (fun _ _ free _ _ => free) nofun
  · intro free
    suffices moved : wp MoveCall.trees (KeepsMoving before) (moveDir fromDir toDir)
        (fun result state' => result = .ok () ∧ Moving before state' ∧ state'.source = ∅) state by
      obtain ⟨ok, moving', empty⟩ := wp_runs moved run
      refine ⟨ok, empty, fun path node original => ?_⟩
      obtain ⟨name, -, below⟩ := closed.exists_top
        (Finmap.lookup_isSome.mp (by rw [original]; rfl))
      rcases moving'.complete name with inSource | inTarget
      · have found := inSource path node below original
        rw [empty, Finmap.lookup_empty] at found
        cases found
      · exact inTarget path node below original
    exact wp_moveDir noClash moving (fun state' moving' _ empty => ⟨rfl, moving', empty⟩)
      fun e state' path overlaps => absurd overlaps (free path)

/-- The migration at boot completes when the sessions were elsewhere and no crash before it fell
between the copy of a regular file and its removal. -/
theorem migrateFromOldSessionsDir_completes (elsewhere : fromDir ≠ toDir)
    (source : before.sourceKind = some .directory) (target : before.targetKind = some .directory)
    (closed : before.source.Closed) (noClash : NoClash before)
    (crashes : Relation.ReflTransGen
      (Reaches MoveCall.trees (migrateFromOldSessionsDir toDir fromDir)) before state)
    (free : ∀ path content, state.source.lookup path = some (.file content) →
      state.target.lookup path = none) :
    ∃ state', Runs MoveCall.trees (migrateFromOldSessionsDir toDir fromDir) state (.ok ()) state' ∧
      state'.source = ∅ ∧ ∀ path node,
        before.source.lookup path = some node → state'.target.lookup path = some node := by
  have isMove : migrateFromOldSessionsDir toDir fromDir = moveDir fromDir toDir := if_neg elsewhere
  rw [isMove] at crashes ⊢
  have moving := Moving.of_crashes noClash (.start source target closed) crashes
  obtain ⟨result, state', run⟩ : ∃ result state',
      Runs MoveCall.trees (moveDir fromDir toDir) state result state' := exists_runs_moveDir
  obtain ⟨rfl, moved⟩ := (moving.moved_iff noClash closed run).mpr free
  exact ⟨state', run, moved⟩

/-- Whatever crashes there were, every entry is complete in one of the directories; and the next
run moves them all if no regular file that is still to be moved has been copied, and fails if one
has. -/
theorem moveDir_after_crashes (source : before.sourceKind = some .directory)
    (target : before.targetKind = some .directory) (closed : before.source.Closed)
    (noClash : NoClash before)
    (crashes : Relation.ReflTransGen (Reaches MoveCall.trees (moveDir fromDir toDir)) before state) :
    (∀ name, CompleteIn state.source before.source name ∨
      CompleteIn state.target before.source name) ∧
    (∃ result state', Runs MoveCall.trees (moveDir fromDir toDir) state result state') ∧
    ∀ result state', Runs MoveCall.trees (moveDir fromDir toDir) state result state' →
      ((result = .ok () ∧ state'.source = ∅ ∧ ∀ path node,
          before.source.lookup path = some node → state'.target.lookup path = some node) ↔
        ∀ path content, state.source.lookup path = some (.file content) →
          state.target.lookup path = none) := by
  have moving := Moving.of_crashes noClash (.start source target closed) crashes
  exact ⟨moving.complete, exists_runs_moveDir, fun result state' run =>
    moving.moved_iff noClash closed run⟩

/-- An old directory with one session, and a new one without any. -/
def oneSession : MoveState String where
  sourceKind := some .directory
  targetKind := some .directory
  source := [⟨["1"], .dir⟩, ⟨["1", "state"], .file "STAGED"⟩].toFinmap
  target := ∅

theorem oneSession_closed : oneSession.source.Closed where
  root := by decide +kernel
  parent path name member := by
    obtain ⟨node, found⟩ := (Finmap.mem_list_toFinmap _ _).mp member
    rcases List.mem_pair.mp found with top | inside
    · left
      have same := congrArg (fun entry => entry.1.dropLast) top
      simpa using same
    · right
      have same := congrArg (fun entry => entry.1.dropLast) inside
      rw [show path = ["1"] by simpa using same]
      decide +kernel

/-- A crash between the copies of a directory and of the file in it; then the session is moved. -/
theorem moveDir_oneSession : ∃ state result state',
    Reaches MoveCall.trees (moveDir "/data/apex/sessions" "/metadata/apex/sessions") oneSession state ∧
    state.target = [⟨["1"], .dir⟩].toFinmap ∧
    Runs MoveCall.trees (moveDir "/data/apex/sessions" "/metadata/apex/sessions") state result
      state' ∧ result = .ok () ∧ state'.source = ∅ ∧
      state'.target.lookup ["1", "state"] = some (.file "STAGED") := by
  -- four calls: the target, the entries, the walk, and the copy of the directory
  obtain ⟨state, crash, copied⟩ := exists_reaches MoveCall.handler_sound 4
    (moveDir "/data/apex/sessions" "/metadata/apex/sessions") oneSession
    (fun state => state.source = oneSession.source ∧ state.target = [⟨["1"], .dir⟩].toFinmap)
    (by decide +kernel)
  obtain ⟨kept, directory⟩ := of_decide_eq_true copied
  obtain ⟨-, ⟨result, state', run⟩, all⟩ := moveDir_after_crashes rfl rfl oneSession_closed
    (fun _ _ _ _ found => by cases found) (.single crash)
  have noFile : ∀ path content, state.source.lookup path = some (.file content) →
      state.target.lookup path = none := by
    intro path content isFile
    rw [kept] at isFile
    rw [directory, Finmap.lookup_eq_none]
    intro member
    obtain ⟨node, found⟩ := (Finmap.mem_list_toFinmap _ _).mp member
    cases List.mem_singleton.mp found
    cases isFile
  have moved := (all result state' run).mpr noFile
  exact ⟨state, result, state', crash, directory, run, moved.1, moved.2.1, moved.2.2 _ _ rfl⟩

/-- After a crash between the copy of a session and its removal the next run fails. -/
theorem copied_session_stuck : ¬ ∀ state,
    Relation.ReflTransGen
      (Reaches MoveCall.trees (moveDir "/data/apex/sessions" "/metadata/apex/sessions"))
      oneSession state →
    ∀ result state',
      Runs MoveCall.trees (moveDir "/data/apex/sessions" "/metadata/apex/sessions") state result
        state' → result = .ok () ∧ state'.source = ∅ := by
  intro survives
  -- five calls: the target, the entries, the walk, and the copies of the directory and the file
  obtain ⟨state, crash, copied⟩ := exists_reaches MoveCall.handler_sound 5
    (moveDir "/data/apex/sessions" "/metadata/apex/sessions") oneSession
    (fun state => state.source.lookup ["1", "state"] = some (.file "STAGED") ∧
      ["1", "state"] ∈ state.target) (by decide +kernel)
  rw [decide_eq_true_eq] at copied
  have noClash : NoClash oneSession := fun _ _ _ _ found => by cases found
  have moving := Moving.of_crashes noClash (.start rfl rfl oneSession_closed) (.single crash)
  obtain ⟨result, state', run⟩ : ∃ result state',
      Runs MoveCall.trees (moveDir "/data/apex/sessions" "/metadata/apex/sessions") state result
        state' := exists_runs_moveDir
  have fails : wp MoveCall.trees (KeepsMoving oneSession)
      (moveDir "/data/apex/sessions" "/metadata/apex/sessions") (fun result _ => result ≠ .ok ())
      state :=
    wp_moveDir noClash moving (fun _ _ free _ => absurd ⟨⟨_, copied.1⟩, copied.2⟩ (free _)) nofun
  exact wp_runs fails run (survives state (.single crash) result state' run).1

end Apexd
