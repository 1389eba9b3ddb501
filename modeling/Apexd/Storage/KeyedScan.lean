import Mathlib.Data.List.Forall2
import Mathlib.Data.List.Induction
import Mathlib.Data.List.Nodup

/-! # Scans that check keys

Directories are scanned for the file of some name.  Each candidate has a key, and the first one
that matches is kept; a directory whose candidates differ in their keys drops what was kept so
far.  The keys are forgotten after each directory, so that the outcome is lawful only where no
difference goes unnoticed.
-/

namespace Storage.KeyedScan

variable {δ κ α : Type} [DecidableEq κ] (key : α → κ) (isMatch : α → Bool)

/-- What a scan knows in a directory: the file it keeps and the keys it has come across. -/
structure Progress (κ α : Type) where
  kept : Option α
  keys : List κ

/-- One candidate. -/
def step (progress : Progress κ α) (x : α) : Progress κ α :=
  let keys := progress.keys.insert (key x)
  if keys.length > 1 then ⟨none, keys⟩
  else if isMatch x then ⟨progress.kept.or (some x), keys⟩
  else ⟨progress.kept, keys⟩

/-- One directory. -/
def scan (kept : Option α) (candidates : List α) : Option α :=
  (candidates.foldl (step key isMatch) ⟨kept, []⟩).kept

/-- Several directories. -/
def scanAll (kept : Option α) (directories : List (List α)) : Option α :=
  directories.foldl (scan key isMatch) kept

/-- Two of the candidates differ in their keys. -/
def Differ (candidates : List α) : Prop :=
  ∃ x ∈ candidates, ∃ y ∈ candidates, key x ≠ key y

variable {key isMatch} {candidates : List α}

theorem keys_step (progress : Progress κ α) (x : α) :
    (step key isMatch progress x).keys = progress.keys.insert (key x) := by
  unfold step
  dsimp only
  split
  · rfl
  · split <;> rfl

/-- The keys are those of the candidates, each once. -/
theorem keys_foldl (kept : Option α) (candidates : List α) :
    (candidates.foldl (step key isMatch) ⟨kept, []⟩).keys.Nodup ∧
    ∀ k, k ∈ (candidates.foldl (step key isMatch) ⟨kept, []⟩).keys ↔
      ∃ x ∈ candidates, key x = k := by
  induction candidates using List.reverseRecOn with
  | nil => simp
  | append_singleton before x ih =>
    rw [List.foldl_append, List.foldl_cons, List.foldl_nil, keys_step]
    refine ⟨ih.1.insert, fun k => ?_⟩
    rw [List.mem_insert_iff, ih.2]
    constructor
    · rintro (rfl | ⟨y, member, same⟩)
      · exact ⟨x, by simp, rfl⟩
      · exact ⟨y, by simp [member], same⟩
    · rintro ⟨y, member, same⟩
      rcases List.mem_append.mp member with inBefore | last
      · exact .inr ⟨y, inBefore, same⟩
      · rw [List.mem_singleton.mp last] at same
        exact .inl same.symm

omit [DecidableEq κ] in
/-- More than one key means that two candidates differ. -/
theorem one_lt_length_iff {keys : List κ} (nodup : keys.Nodup)
    (mem_keys : ∀ k, k ∈ keys ↔ ∃ x ∈ candidates, key x = k) :
    keys.length > 1 ↔ Differ key candidates := by
  constructor
  · intro two
    obtain ⟨first, second, rest, rfl⟩ : ∃ first second rest, keys = first :: second :: rest := by
      match keys, two with
      | first :: second :: rest, _ => exact ⟨first, second, rest, rfl⟩
    obtain ⟨x, inX, sameX⟩ := (mem_keys first).mp (by simp)
    obtain ⟨y, inY, sameY⟩ := (mem_keys second).mp (by simp)
    refine ⟨x, inX, y, inY, fun same => ?_⟩
    rw [sameX, sameY] at same
    simp [same] at nodup
  · rintro ⟨x, inX, y, inY, differ⟩
    have memX : key x ∈ keys := (mem_keys _).mpr ⟨x, inX, rfl⟩
    have memY : key y ∈ keys := (mem_keys _).mpr ⟨y, inY, rfl⟩
    match keys, memX, memY with
    | [k], memX, memY =>
      rw [List.mem_singleton] at memX memY
      exact absurd (memX.trans memY.symm) differ
    | _ :: _ :: _, _, _ => simp

omit [DecidableEq κ] in
theorem Differ.append (differ : Differ key candidates) (x : α) :
    Differ key (candidates ++ [x]) := by
  obtain ⟨y, inY, z, inZ, ne⟩ := differ
  exact ⟨y, by simp [inY], z, by simp [inZ], ne⟩

/-- A directory whose candidates differ drops the file, and one whose candidates agree adds its
first match. -/
theorem scan_eq (kept : Option α) (candidates : List α) :
    (Differ key candidates → scan key isMatch kept candidates = none) ∧
    (¬ Differ key candidates →
      scan key isMatch kept candidates = kept.or (candidates.find? isMatch)) := by
  unfold scan
  induction candidates using List.reverseRecOn with
  | nil =>
    refine ⟨fun differ => ?_, fun _ => by simp⟩
    obtain ⟨x, inX, -⟩ := differ
    cases inX
  | append_singleton before x ih =>
    have keys : ((before.foldl (step key isMatch) ⟨kept, []⟩).keys.insert (key x)).Nodup ∧
        ∀ k, k ∈ (before.foldl (step key isMatch) ⟨kept, []⟩).keys.insert (key x) ↔
          ∃ y ∈ before ++ [x], key y = k := by
      have whole := @keys_foldl _ _ _ key isMatch kept (before ++ [x])
      rwa [List.foldl_append, List.foldl_cons, List.foldl_nil, keys_step] at whole
    have length := one_lt_length_iff keys.1 keys.2
    rw [List.foldl_append, List.foldl_cons, List.foldl_nil, step]
    constructor
    · intro differ
      rw [if_pos (length.mpr differ)]
    · intro agree
      rw [if_neg (agree ∘ length.mp), List.find?_append, ← Option.or_assoc,
        ← ih.2 fun differ => agree (differ.append x)]
      by_cases match' : isMatch x = true
      · rw [if_pos match', List.find?_singleton, if_pos match']
      · rw [if_neg match', List.find?_singleton, if_neg match', Option.or_none]

/-! ## Several directories -/

variable {kept : Option α} {directories : List (List α)}

theorem scanAll_cons (kept : Option α) (candidates : List α) (rest : List (List α)) :
    scanAll key isMatch kept (candidates :: rest) =
      scanAll key isMatch (scan key isMatch kept candidates) rest := rfl

theorem scanAll_append (kept : Option α) (before after : List (List α)) :
    scanAll key isMatch kept (before ++ after) =
      scanAll key isMatch (scanAll key isMatch kept before) after :=
  List.foldl_append

/-- What is kept stays until candidates differ. -/
theorem scanAll_some {x : α} (agree : ∀ candidates ∈ directories, ¬ Differ key candidates) :
    scanAll key isMatch (some x) directories = some x := by
  induction directories with
  | nil => rfl
  | cons candidates rest ih =>
    rw [scanAll_cons, (scan_eq _ _).2 (agree candidates (by simp)), Option.some_or]
    exact ih fun others member => agree others (by simp [member])

/-- What is kept in the end was kept before or is a match. -/
theorem match_of_scanAll {x : α} (found : scanAll key isMatch kept directories = some x) :
    kept = some x ∨ ∃ candidates ∈ directories, x ∈ candidates ∧ isMatch x = true := by
  induction directories generalizing kept with
  | nil => exact .inl found
  | cons candidates rest ih =>
    rcases ih found with here | ⟨others, member, isIn, isX⟩
    · by_cases differ : Differ key candidates
      · rw [(scan_eq _ _).1 differ] at here
        cases here
      · rw [(scan_eq _ _).2 differ, Option.or_eq_some_iff] at here
        rcases here with before | ⟨-, here⟩
        · exact .inl before
        · exact .inr ⟨candidates, by simp, List.mem_of_find?_eq_some here,
            List.find?_some here⟩
    · exact .inr ⟨others, by simp [member], isIn, isX⟩

/-- A match stays if no candidates differ from its directory on. -/
theorem scanAll_ne_none {before after : List (List α)} {x : α} (member : x ∈ candidates)
    (isX : isMatch x = true) (agree : ∀ others ∈ candidates :: after, ¬ Differ key others) :
    scanAll key isMatch kept (before ++ candidates :: after) ≠ none := by
  rw [scanAll_append, scanAll_cons, (scan_eq _ _).2 (agree candidates (by simp))]
  have matches' : (candidates.find? isMatch).isSome = true :=
    List.find?_isSome.mpr ⟨x, member, isX⟩
  obtain ⟨y, kept'⟩ : ∃ y, (scanAll key isMatch kept before).or (candidates.find? isMatch) =
      some y := Option.isSome_iff_exists.mp (by simp [matches'])
  rw [kept', scanAll_some fun others member => agree others (by simp [member])]
  exact Option.some_ne_none y

/-! ## Directories in any order -/

variable (key isMatch) (contents : δ → α → Prop)

/-- The candidates of a directory, each once and in some order. -/
structure Enumerates (d : δ) (candidates : List α) : Prop where
  nodup : candidates.Nodup
  mem_iff : ∀ x, x ∈ candidates ↔ contents d x

def HasMatch (d : δ) : Prop :=
  ∃ x, contents d x ∧ isMatch x = true

def Differs (d : δ) : Prop :=
  ∃ x y, contents d x ∧ contents d y ∧ key x ≠ key y

/-- All candidates of all directories have one key. -/
def OneKey (dirs : List δ) : Prop :=
  ∀ d ∈ dirs, ∀ d' ∈ dirs, ∀ x y, contents d x → contents d' y → key x = key y

/-- The law of a selection among candidates with keys, for what may be kept in the end: with one
key it is a match, if there is one; with several keys it is nothing; and there is only one
outcome. -/
structure Lawful (dirs : List δ) (outcome : Option α → Prop) : Prop where
  selected : OneKey key contents dirs → ∀ kept, outcome kept →
    (∀ x, kept = some x → (∃ d ∈ dirs, contents d x) ∧ isMatch x = true) ∧
    ((∃ d ∈ dirs, HasMatch isMatch contents d) → kept ≠ none)
  differing : ¬ OneKey key contents dirs → ∀ kept, outcome kept → kept = none
  orderIrrelevant : ∀ kept kept', outcome kept → outcome kept' → kept = kept'

/-- With one key, the first directory with a match has only one.  With several keys, each
directory with a match is followed by, or is itself, one whose candidates differ. -/
structure Settles (dirs : List δ) : Prop where
  unique : OneKey key contents dirs → ∀ before d after, dirs = before ++ d :: after →
    (∀ d' ∈ before, ¬ HasMatch isMatch contents d') →
    ∀ x y, contents d x → isMatch x = true → contents d y → isMatch y = true → x = y
  noticed : ¬ OneKey key contents dirs → ∀ before d after, dirs = before ++ d :: after →
    HasMatch isMatch contents d → ∃ d' ∈ d :: after, Differs key contents d'

/-- What a scan that starts with nothing may keep in the end. -/
def Outcome (dirs : List δ) (kept : Option α) : Prop :=
  ∃ directories, List.Forall₂ (Enumerates contents) dirs directories ∧
    kept = scanAll key isMatch none directories

variable {key isMatch contents} {dirs : List δ} {d : δ}

omit [DecidableEq κ] in
theorem Enumerates.differ_iff (enumerates : Enumerates contents d candidates) :
    Differ key candidates ↔ Differs key contents d := by
  constructor
  · rintro ⟨x, inX, y, inY, ne⟩
    exact ⟨x, y, (enumerates.mem_iff x).mp inX, (enumerates.mem_iff y).mp inY, ne⟩
  · rintro ⟨x, y, isX, isY, ne⟩
    exact ⟨x, (enumerates.mem_iff x).mpr isX, y, (enumerates.mem_iff y).mpr isY, ne⟩

omit [DecidableEq κ] in
theorem OneKey.not_differs (oneKey : OneKey key contents dirs) (member : d ∈ dirs) :
    ¬ Differs key contents d := by
  rintro ⟨x, y, isX, isY, ne⟩
  exact ne (oneKey d member d member x y isX isY)

/-- A candidate can come first. -/
theorem Enumerates.first [DecidableEq α] (enumerates : Enumerates contents d candidates) {x : α}
    (isX : contents d x) : Enumerates contents d (x :: candidates.erase x) := by
  have perm : candidates.Perm (x :: candidates.erase x) :=
    List.perm_cons_erase ((enumerates.mem_iff x).mpr isX)
  exact ⟨perm.nodup_iff.mp enumerates.nodup,
    fun y => perm.mem_iff.symm.trans (enumerates.mem_iff y)⟩

omit [DecidableEq κ] in
theorem agree_of_forall₂ {directories : List (List α)}
    (enumerate : List.Forall₂ (Enumerates contents) dirs directories)
    (agree : ∀ d ∈ dirs, ¬ Differs key contents d) :
    ∀ candidates ∈ directories, ¬ Differ key candidates := by
  induction enumerate with
  | nil => simp
  | cons enumerates _ ih =>
    intro candidates member
    rcases List.mem_cons.mp member with rfl | inRest
    · exact fun differ => agree _ (by simp) (enumerates.differ_iff.mp differ)
    · exact ih (fun d inDirs => agree d (by simp [inDirs])) candidates inRest

theorem forall₂_split {β : Type} {R : δ → β → Prop} {before after : List δ} {values : List β}
    (related : List.Forall₂ R (before ++ d :: after) values) :
    ∃ first value rest, values = first ++ value :: rest ∧ List.Forall₂ R before first ∧
      R d value ∧ List.Forall₂ R after rest := by
  induction before generalizing values with
  | nil =>
    cases related with
    | cons here rest => exact ⟨[], _, _, rfl, .nil, here, rest⟩
  | cons d' before ih =>
    cases related with
    | cons here rest =>
      obtain ⟨first, value, rest', rfl, inFirst, isD, inRest⟩ := ih rest
      exact ⟨_ :: first, value, rest', rfl, .cons here inFirst, isD, inRest⟩

theorem exists_of_forall₂ {β : Type} {R : δ → β → Prop} {values : List β} {value : β}
    (related : List.Forall₂ R dirs values) (member : value ∈ values) : ∃ d ∈ dirs, R d value := by
  induction related with
  | nil => cases member
  | cons here _ ih =>
    rcases List.mem_cons.mp member with rfl | inRest
    · exact ⟨_, by simp, here⟩
    · obtain ⟨d, inDirs, isValue⟩ := ih inRest
      exact ⟨d, by simp [inDirs], isValue⟩

/-- The directories up to a match keep nothing. -/
theorem scanAll_of_no_match {directories : List (List α)}
    (enumerate : List.Forall₂ (Enumerates contents) dirs directories)
    (noMatch : ∀ d ∈ dirs, ¬ HasMatch isMatch contents d) :
    scanAll key isMatch none directories = none := by
  cases found : scanAll key isMatch none directories with
  | none => rfl
  | some x =>
    obtain ⟨candidates, member, isIn, isX⟩ := (match_of_scanAll found).resolve_left nofun
    obtain ⟨d, inDirs, enumerates⟩ := exists_of_forall₂ enumerate member
    exact absurd ⟨x, (enumerates.mem_iff x).mp isIn, isX⟩ (noMatch d inDirs)

/-- Where the first match is unique, the order of the candidates does not matter. -/
theorem scanAll_unique {directories directories' : List (List α)}
    (enumerate : List.Forall₂ (Enumerates contents) dirs directories)
    (enumerate' : List.Forall₂ (Enumerates contents) dirs directories')
    (agree : ∀ d ∈ dirs, ¬ Differs key contents d)
    (unique : kept = none → ∀ before d after, dirs = before ++ d :: after →
      (∀ d' ∈ before, ¬ HasMatch isMatch contents d') →
      ∀ x y, contents d x → isMatch x = true → contents d y → isMatch y = true → x = y) :
    scanAll key isMatch kept directories = scanAll key isMatch kept directories' := by
  induction enumerate generalizing directories' kept with
  | nil =>
    cases enumerate'
    rfl
  | @cons d candidates dirs rest here others ih =>
    cases enumerate' with
    | @cons _ candidates' _ rest' here' others' =>
      have agrees := agree d (by simp)
      have agreeRest : ∀ d ∈ dirs, ¬ Differs key contents d := fun d member =>
        agree d (by simp [member])
      rw [scanAll_cons, scanAll_cons, (scan_eq _ _).2 (agrees ∘ here.differ_iff.mp),
        (scan_eq _ _).2 (agrees ∘ here'.differ_iff.mp)]
      cases kept with
      | some x => exact ih others' agreeRest nofun
      | none =>
        rw [Option.none_or, Option.none_or]
        cases found : candidates.find? isMatch with
        | some x =>
          have isX := List.find?_some found
          have inX := (here.mem_iff x).mp (List.mem_of_find?_eq_some found)
          obtain ⟨y, found'⟩ := Option.isSome_iff_exists.mp
            (List.find?_isSome.mpr ⟨x, (here'.mem_iff x).mpr inX, isX⟩)
          have same := unique rfl [] d dirs rfl (by simp) x y inX isX
            ((here'.mem_iff y).mp (List.mem_of_find?_eq_some found')) (List.find?_some found')
          rw [found', same]
          exact ih others' agreeRest nofun
        | none =>
          have noMatch : ¬ HasMatch isMatch contents d := fun ⟨x, inX, isX⟩ =>
            List.find?_eq_none.mp found x ((here.mem_iff x).mpr inX) isX
          have found' : candidates'.find? isMatch = none :=
            List.find?_eq_none.mpr fun x inX isX => noMatch ⟨x, (here'.mem_iff x).mp inX, isX⟩
          rw [found']
          refine ih others' agreeRest fun _ before d' after split none => ?_
          refine unique rfl (d :: before) d' after (by rw [split]; rfl) fun other member => ?_
          rcases List.mem_cons.mp member with rfl | inBefore
          · exact noMatch
          · exact none other inBefore

/-- Where every match is noticed to differ, nothing is kept. -/
theorem scanAll_noticed {directories : List (List α)}
    (enumerate : List.Forall₂ (Enumerates contents) dirs directories)
    (dropped : kept ≠ none → ∃ d ∈ dirs, Differs key contents d)
    (noticed : ∀ before d after, dirs = before ++ d :: after → HasMatch isMatch contents d →
      ∃ d' ∈ d :: after, Differs key contents d') :
    scanAll key isMatch kept directories = none := by
  induction enumerate generalizing kept with
  | nil =>
    by_contra keeps
    obtain ⟨d, member, -⟩ := dropped keeps
    cases member
  | @cons d candidates dirs rest here others ih =>
    have noticedRest : ∀ before d' after, dirs = before ++ d' :: after →
        HasMatch isMatch contents d' → ∃ other ∈ d' :: after, Differs key contents other :=
      fun before d' after split => noticed (d :: before) d' after (by rw [split]; rfl)
    rw [scanAll_cons]
    refine ih (fun keeps => ?_) noticedRest
    by_cases differ : Differ key candidates
    · exact absurd ((scan_eq _ _).1 differ) keeps
    · -- what is kept was kept before or is a match here, and this directory does not differ
      obtain ⟨other, member, differs⟩ : ∃ d' ∈ d :: dirs, Differs key contents d' := by
        rw [(scan_eq _ _).2 differ] at keeps
        cases kept with
        | some x => exact dropped nofun
        | none =>
          obtain ⟨x, found⟩ := Option.ne_none_iff_exists'.mp keeps
          rw [Option.none_or] at found
          exact noticed [] d dirs rfl
            ⟨x, (here.mem_iff x).mp (List.mem_of_find?_eq_some found), List.find?_some found⟩
      rcases List.mem_cons.mp member with rfl | inRest
      · exact absurd (here.differ_iff.mpr differs) differ
      · exact ⟨other, inRest, differs⟩

theorem exists_enumerate (finite : ∀ d ∈ dirs, ∃ candidates, Enumerates contents d candidates) :
    ∃ directories, List.Forall₂ (Enumerates contents) dirs directories := by
  induction dirs with
  | nil => exact ⟨[], .nil⟩
  | cons d dirs ih =>
    obtain ⟨candidates, enumerates⟩ := finite d (by simp)
    obtain ⟨directories, enumerate⟩ := ih fun d member => finite d (by simp [member])
    exact ⟨candidates :: directories, .cons enumerates enumerate⟩

/-- Every match of the first directory with one can be what is kept. -/
theorem outcome_of_first [DecidableEq α] {before after : List δ} {x : α}
    (oneKey : OneKey key contents (before ++ d :: after))
    (finite : ∀ d' ∈ before ++ d :: after, ∃ candidates, Enumerates contents d' candidates)
    (noMatch : ∀ d' ∈ before, ¬ HasMatch isMatch contents d') (inX : contents d x)
    (isX : isMatch x = true) : Outcome key isMatch contents (before ++ d :: after) (some x) := by
  obtain ⟨candidates, enumerates⟩ := finite d (by simp)
  obtain ⟨first, enumerate⟩ : ∃ first, List.Forall₂ (Enumerates contents) before first :=
    exists_enumerate fun d' member => finite d' (by simp [member])
  obtain ⟨rest, enumerate'⟩ : ∃ rest, List.Forall₂ (Enumerates contents) after rest :=
    exists_enumerate fun d' member => finite d' (by simp [member])
  have here := enumerates.first inX
  refine ⟨first ++ (x :: candidates.erase x) :: rest, ?_, ?_⟩
  · exact List.rel_append enumerate (.cons here enumerate')
  · have agree : ¬ Differ key (x :: candidates.erase x) := fun differ =>
      oneKey.not_differs (by simp) (here.differ_iff.mp differ)
    have agreeRest := agree_of_forall₂ enumerate' fun d' member =>
      oneKey.not_differs (show d' ∈ before ++ d :: after by simp [member])
    rw [scanAll_append, scanAll_cons, scanAll_of_no_match enumerate noMatch, (scan_eq _ _).2 agree,
      Option.none_or, List.find?_cons_of_pos isX, scanAll_some agreeRest]

/-- The scan obeys the law exactly where the first match is unique and every difference is
noticed. -/
theorem lawful_iff [DecidableEq α]
    (finite : ∀ d ∈ dirs, ∃ candidates, Enumerates contents d candidates) :
    Lawful key isMatch contents dirs (Outcome key isMatch contents dirs) ↔
      Settles key isMatch contents dirs := by
  constructor
  · intro lawful
    constructor
    · rintro oneKey before d after rfl noMatch x y inX isX inY isY
      exact Option.some.inj (lawful.orderIrrelevant _ _
        (outcome_of_first oneKey finite noMatch inX isX)
        (outcome_of_first oneKey finite noMatch inY isY))
    · rintro severalKeys before d after rfl ⟨x, inX, isX⟩
      by_contra unnoticed
      obtain ⟨directories, enumerate⟩ := exists_enumerate finite
      have kept := lawful.differing severalKeys _ ⟨directories, enumerate, rfl⟩
      obtain ⟨first, candidates, rest, rfl, -, here, others⟩ := forall₂_split enumerate
      have agree := agree_of_forall₂ (.cons here others) fun d' member differs =>
        unnoticed ⟨d', member, differs⟩
      exact scanAll_ne_none ((here.mem_iff x).mpr inX) isX agree kept
  · intro settles
    constructor
    · rintro oneKey _ ⟨directories, enumerate, rfl⟩
      constructor
      · intro x found
        obtain ⟨candidates, member, isIn, isX⟩ := (match_of_scanAll found).resolve_left nofun
        obtain ⟨d, inDirs, enumerates⟩ := exists_of_forall₂ enumerate member
        exact ⟨⟨d, inDirs, (enumerates.mem_iff x).mp isIn⟩, isX⟩
      · rintro ⟨d, inDirs, x, inX, isX⟩
        obtain ⟨before, after, rfl⟩ := List.append_of_mem inDirs
        obtain ⟨first, candidates, rest, rfl, -, here, others⟩ := forall₂_split enumerate
        have agree := agree_of_forall₂ (.cons here others) fun d' member =>
          oneKey.not_differs (List.mem_append_right before member)
        exact scanAll_ne_none ((here.mem_iff x).mpr inX) isX agree
    · rintro severalKeys _ ⟨directories, enumerate, rfl⟩
      exact scanAll_noticed enumerate (absurd rfl) (settles.noticed severalKeys)
    · rintro _ _ ⟨directories, enumerate, rfl⟩ ⟨directories', enumerate', rfl⟩
      by_cases oneKey : OneKey key contents dirs
      · exact scanAll_unique enumerate enumerate' (fun d => oneKey.not_differs)
          fun _ => settles.unique oneKey
      · rw [scanAll_noticed enumerate (absurd rfl) (settles.noticed oneKey),
          scanAll_noticed enumerate' (absurd rfl) (settles.noticed oneKey)]

end Storage.KeyedScan
