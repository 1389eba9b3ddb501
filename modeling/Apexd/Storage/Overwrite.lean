import Mathlib.Logic.Basic
import Mathlib.Logic.Function.Basic

/-! # Overwriting a directory

An `Overwrite` binds some names to contents and drops contents it does not bind, as an
installation does that links its files and deletes those they replace.  Several compatible ones
have one common result, whatever the order they take effect in and however often each is begun
again: `merge` is that result, and a state that an overwrite was partly applied to is as good
a start as the one before.
-/

namespace Storage

variable {ι κ ν : Type}

/-- Names to bind, and contents under other names to drop. -/
structure Overwrite (κ ν : Type) where
  puts : κ → Option ν
  drops : κ → ν → Prop

namespace Overwrite

/-- Do nothing. -/
def skip : Overwrite κ ν where
  puts _ := none
  drops _ _ := False

open Classical in
/-- The state after the overwrite. -/
noncomputable def apply (o : Overwrite κ ν) (f : κ → Option ν) : κ → Option ν := fun k =>
  match o.puts k with
  | some v => some v
  | none => match f k with
    | some v => if o.drops k v then none else some v
    | none => none

variable {o : Overwrite κ ν} {f g : κ → Option ν} {k : κ} {v : ν}

theorem apply_of_puts (puts : o.puts k = some v) : o.apply f k = some v := by
  simp [apply, puts]

theorem apply_of_drops (puts : o.puts k = none) (found : f k = some v) (drops : o.drops k v) :
    o.apply f k = none := by
  simp [apply, puts, found, drops]

theorem apply_of_keeps (puts : o.puts k = none) (found : f k = some v) (keeps : ¬ o.drops k v) :
    o.apply f k = some v := by
  simp [apply, puts, found, keeps]

theorem apply_of_absent (puts : o.puts k = none) (absent : f k = none) : o.apply f k = none := by
  simp [apply, puts, absent]

@[simp] theorem apply_skip (f : κ → Option ν) : skip.apply f = f := by
  funext k
  cases found : f k with
  | none => exact apply_of_absent rfl found
  | some v => exact apply_of_keeps rfl found (fun drops => drops)

/-! ## Partial effects -/

/-- A state in which the overwrite has nothing left to do. -/
def Fixes (o : Overwrite κ ν) (f : κ → Option ν) : Prop :=
  o.apply f = f

/-- Changes that the overwrite makes up for: under the names it binds, or dropping what it
drops. -/
def Absorbs (o : Overwrite κ ν) (f g : κ → Option ν) : Prop :=
  ∀ k, o.puts k = none → g k = f k ∨ (∃ v, f k = some v ∧ o.drops k v) ∧ g k = none

theorem Absorbs.apply_eq (absorbs : o.Absorbs f g) : o.apply g = o.apply f := by
  funext k
  cases puts : o.puts k with
  | some v => rw [apply_of_puts puts, apply_of_puts puts]
  | none =>
    rcases absorbs k puts with same | ⟨⟨v, found, drops⟩, gone⟩
    · simp only [apply, puts, same]
    · rw [apply_of_absent puts gone, apply_of_drops puts found drops]

/-- A change under a name that the overwrite binds. -/
theorem apply_update_of_puts [DecidableEq κ] (puts : o.puts k ≠ none) (x : Option ν) :
    o.apply (Function.update f k x) = o.apply f := by
  apply Absorbs.apply_eq
  intro k' free
  have ne : k' ≠ k := fun same => puts (same ▸ free)
  exact .inl (Function.update_of_ne ne _ _)

/-- The removal of a content that the overwrite drops. -/
theorem apply_update_of_drops [DecidableEq κ] (found : f k = some v) (drops : o.drops k v) :
    o.apply (Function.update f k none) = o.apply f := by
  apply Absorbs.apply_eq
  intro k' _
  by_cases same : k' = k
  · subst same
    exact .inr ⟨⟨v, found, drops⟩, Function.update_self _ _ _⟩
  · exact .inl (Function.update_of_ne same _ _)

theorem fixes_apply (o : Overwrite κ ν) (f : κ → Option ν) : o.Fixes (o.apply f) := by
  funext k
  cases puts : o.puts k with
  | some v => rw [apply_of_puts puts, apply_of_puts puts]
  | none =>
    cases found : f k with
    | none =>
      have absent := apply_of_absent puts found
      rw [apply_of_absent puts absent, absent]
    | some v =>
      by_cases drops : o.drops k v
      · have gone := apply_of_drops puts found drops
        rw [apply_of_absent puts gone, gone]
      · have kept := apply_of_keeps puts found drops
        rw [apply_of_keeps puts kept drops, kept]

theorem fixes_iff : o.Fixes f ↔
    (∀ k v, o.puts k = some v → f k = some v) ∧
      ∀ k v, o.puts k = none → f k = some v → ¬ o.drops k v := by
  constructor
  · intro fixes
    constructor
    · intro k v puts
      rw [← congrFun fixes k, apply_of_puts puts]
    · intro k v puts found drops
      have gone := congrFun fixes k
      rw [apply_of_drops puts found drops, found] at gone
      cases gone
  · rintro ⟨bound, kept⟩
    funext k
    cases puts : o.puts k with
    | some v => rw [apply_of_puts puts, bound k v puts]
    | none =>
      cases found : f k with
      | none => exact apply_of_absent puts found
      | some v => exact apply_of_keeps puts found (kept k v puts found)

/-! ## Several overwrites -/

/-- What one binds, the other neither binds nor drops. -/
def Spares (o o' : Overwrite κ ν) : Prop :=
  ∀ k v, o'.puts k = some v → o.puts k = none ∧ ¬ o.drops k v

/-- A family of overwrites that spare each other. -/
def Compatible (op : ι → Overwrite κ ν) : Prop :=
  ∀ i j, i ≠ j → (op i).Spares (op j)

/-- Applying another overwrite does not undo one that took effect. -/
theorem Fixes.apply {o' : Overwrite κ ν} (fixes : o.Fixes f) (spares : o.Spares o')
    (spares' : o'.Spares o) : o.Fixes (o'.apply f) := by
  obtain ⟨bound, kept⟩ := fixes_iff.mp fixes
  refine fixes_iff.mpr ⟨?_, ?_⟩
  · intro k v puts
    obtain ⟨puts', keeps'⟩ := spares' k v puts
    exact apply_of_keeps puts' (bound k v puts) keeps'
  · intro k v puts found
    cases puts' : o'.puts k with
    | some v' =>
      rw [apply_of_puts puts'] at found
      cases found
      exact (spares k v puts').2
    | none =>
      cases before : f k with
      | none =>
        rw [apply_of_absent puts' before] at found
        cases found
      | some v' =>
        by_cases drops' : o'.drops k v'
        · rw [apply_of_drops puts' before drops'] at found
          cases found
        · rw [apply_of_keeps puts' before drops'] at found
          cases found
          exact kept k v puts before

open Classical in
/-- The common effect of a family. -/
noncomputable def merge (op : ι → Overwrite κ ν) : Overwrite κ ν where
  puts k := if bound : ∃ i, (op i).puts k ≠ none then (op bound.choose).puts k else none
  drops k v := ∃ i, (op i).drops k v

variable {op op' : ι → Overwrite κ ν}

theorem merge_puts_eq_none : (merge op).puts k = none ↔ ∀ i, (op i).puts k = none := by
  simp only [merge]
  constructor
  · intro none i
    by_contra bound
    have exists' : ∃ i, (op i).puts k ≠ Option.none := ⟨i, bound⟩
    rw [dif_pos exists'] at none
    exact exists'.choose_spec none
  · intro none
    rw [dif_neg]
    rintro ⟨i, bound⟩
    exact bound (none i)

theorem exists_puts_of_merge (puts : (merge op).puts k = some v) : ∃ i, (op i).puts k = some v := by
  simp only [merge] at puts
  split at puts
  · exact ⟨_, puts⟩
  · cases puts

theorem merge_puts_of_compatible (compatible : Compatible op) {i : ι}
    (puts : (op i).puts k = some v) : (merge op).puts k = some v := by
  cases merged : (merge op).puts k with
  | none =>
    rw [merge_puts_eq_none.mp merged i] at puts
    cases puts
  | some v' =>
    obtain ⟨j, puts'⟩ := exists_puts_of_merge merged
    by_cases same : i = j
    · subst same
      exact puts'.symm.trans puts
    · rw [(compatible j i (Ne.symm same) k v puts).1] at puts'
      cases puts'

/-- A member that took effect already leaves the common result as it is. -/
theorem apply_merge_apply (op : ι → Overwrite κ ν) (i : ι) (f : κ → Option ν) :
    (merge op).apply ((op i).apply f) = (merge op).apply f := by
  apply Absorbs.apply_eq
  intro k puts
  have puts' := merge_puts_eq_none.mp puts i
  cases found : f k with
  | none => exact .inl (apply_of_absent puts' found)
  | some v =>
    by_cases drops : (op i).drops k v
    · exact .inr ⟨⟨v, rfl, i, drops⟩, apply_of_drops puts' found drops⟩
    · exact .inl (apply_of_keeps puts' found drops)

/-- What one member makes up for, the family does. -/
theorem apply_merge_of_apply_eq {i : ι} (same : (op i).apply g = (op i).apply f) :
    (merge op).apply g = (merge op).apply f := by
  rw [← apply_merge_apply op i g, same, apply_merge_apply]

/-- A state that every member fixes is the common result. -/
theorem apply_merge_of_fixes (fixes : ∀ i, (op i).Fixes f) : (merge op).apply f = f := by
  refine fixes_iff.mpr ⟨?_, ?_⟩
  · intro k v puts
    obtain ⟨i, puts'⟩ := exists_puts_of_merge puts
    exact (fixes_iff.mp (fixes i)).1 k v puts'
  · rintro k v puts found ⟨i, drops⟩
    exact (fixes_iff.mp (fixes i)).2 k v (merge_puts_eq_none.mp puts i) found drops

/-- A member that has nothing left to do can leave the family. -/
theorem apply_merge_retire (compatible : Compatible op) {i : ι} (fixes : (op i).Fixes f)
    (retired : op' i = skip) (others : ∀ j, j ≠ i → op' j = op j) :
    (merge op').apply f = (merge op).apply f := by
  obtain ⟨bound, kept⟩ := fixes_iff.mp fixes
  have member (j : ι) : op' j = skip ∨ op' j = op j := by
    by_cases same : j = i
    · exact .inl (same ▸ retired)
    · exact .inr (others j same)
  funext k
  cases puts : (merge op).puts k with
  | some v =>
    rw [apply_of_puts puts]
    obtain ⟨j, puts'⟩ := exists_puts_of_merge puts
    by_cases same : j = i
    · -- the retired member has put its content there, and nobody else touches it
      subst same
      have unbound : (merge op').puts k = none := by
        refine merge_puts_eq_none.mpr fun m => ?_
        by_cases self : m = j
        · rw [self, retired]
          rfl
        · rw [others m self]
          exact (compatible m j self k v puts').1
      refine apply_of_keeps unbound (bound k v puts') ?_
      rintro ⟨m, drops⟩
      by_cases self : m = j
      · rw [self, retired] at drops
        exact drops
      · rw [others m self] at drops
        exact (compatible m j self k v puts').2 drops
    · have stays : (op' j).puts k = some v := by rw [others j same, puts']
      have compatible' : Compatible op' := by
        intro a b ne k v puts
        rcases member b with isSkip | isOp
        · rw [isSkip] at puts
          cases puts
        · rw [isOp] at puts
          rcases member a with isSkip | isOp'
          · rw [isSkip]
            exact ⟨rfl, fun drops => drops⟩
          · rw [isOp']
            exact compatible a b ne k v puts
      exact apply_of_puts (merge_puts_of_compatible compatible' stays)
  | none =>
    have unbound (j : ι) : (op' j).puts k = none := by
      rcases member j with isSkip | isOp
      · rw [isSkip]
        rfl
      · rw [isOp]
        exact merge_puts_eq_none.mp puts j
    have puts' : (merge op').puts k = none := merge_puts_eq_none.mpr unbound
    cases found : f k with
    | none => rw [apply_of_absent puts found, apply_of_absent puts' found]
    | some v =>
      have sameDrops : (merge op').drops k v ↔ (merge op).drops k v := by
        constructor
        · rintro ⟨j, drops⟩
          rcases member j with isSkip | isOp
          · rw [isSkip] at drops
            exact drops.elim
          · exact ⟨j, isOp ▸ drops⟩
        · rintro ⟨j, drops⟩
          by_cases same : j = i
          · subst same
            exact (kept k v (merge_puts_eq_none.mp puts j) found drops).elim
          · exact ⟨j, (others j same) ▸ drops⟩
      by_cases drops : (merge op).drops k v
      · rw [apply_of_drops puts found drops, apply_of_drops puts' found (sameDrops.mpr drops)]
      · rw [apply_of_keeps puts found drops,
          apply_of_keeps puts' found fun other => drops (sameDrops.mp other)]

end Overwrite

end Storage
