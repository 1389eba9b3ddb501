import Mathlib.Logic.Basic
import Mathlib.Logic.Function.Basic

/-! # Promoting new versions of files

A file that is to replace another one is prepared under a name of its own, and promoted by
renaming it.  Promoting several files has one result, whichever of them were promoted before.
-/

namespace Storage

variable {κ ν : Type}

open Classical in
/-- For every name in `names`, what is under its new name moves to it. -/
noncomputable def promote (new : κ → κ) (names : κ → Prop) (f : κ → Option ν) : κ → Option ν :=
  fun k =>
    if ∃ i, names i ∧ k = new i then none
    else if names k then
      match f (new k) with
      | some v => some v
      | none => f k
    else f k

/-- No name is the new name of another one. -/
def Separate (new : κ → κ) (names : κ → Prop) : Prop :=
  ∀ i j, names i → names j → i ≠ new j

variable {new : κ → κ} {names names' : κ → Prop} {f : κ → Option ν} {k i : κ}

theorem promote_new (member : names i) : promote new names f (new i) = none := by
  have isNew : ∃ j, names j ∧ new i = new j := ⟨i, member, rfl⟩
  simp [promote, isNew]

theorem promote_old (separate : Separate new names) (member : names k) :
    promote new names f k = match f (new k) with
      | some v => some v
      | none => f k := by
  have notNew : ¬ ∃ i, names i ∧ k = new i := by
    rintro ⟨i, other, same⟩
    exact separate k i member other same
  simp only [promote, if_neg notNew, if_pos member]

theorem promote_other (notNew : ∀ i, names i → k ≠ new i) (notOld : ¬ names k) :
    promote new names f k = f k := by
  have notNew' : ¬ ∃ i, names i ∧ k = new i := by
    rintro ⟨i, member, same⟩
    exact notNew i member same
  simp only [promote, if_neg notNew', if_neg notOld]

theorem Separate.subset (separate : Separate new names) (fewer : ∀ j, names' j → names j) :
    Separate new names' :=
  fun a b memberA memberB => separate a b (fewer a memberA) (fewer b memberB)

/-- Promoting some of the names first makes no difference. -/
theorem promote_promote (injective : Function.Injective new) (separate : Separate new names)
    (fewer : ∀ j, names' j → names j) :
    promote new names (promote new names' f) = promote new names f := by
  have separate' : Separate new names' := separate.subset fewer
  funext k
  by_cases isNew : ∃ j, names j ∧ k = new j
  · obtain ⟨j, member, rfl⟩ := isNew
    rw [promote_new member, promote_new member]
  · have notNew (j : κ) (member : names' j) : k ≠ new j := fun same => isNew ⟨j, fewer j member, same⟩
    by_cases isOld : names k
    · rw [promote_old separate isOld, promote_old separate isOld]
      by_cases moved : names' k
      · rw [promote_new moved, promote_old separate' moved]
      · have keptNew : promote new names' f (new k) = f (new k) := by
          refine promote_other ?_ ?_
          · intro j member same
            exact moved (injective same ▸ member)
          · intro member
            exact separate (new k) k (fewer _ member) isOld rfl
        rw [keptNew, promote_other notNew moved]
    · have notOld : ¬ names' k := fun member => isOld (fewer k member)
      have notNew' (j : κ) (member : names j) : k ≠ new j := fun same => isNew ⟨j, member, same⟩
      rw [promote_other notNew' isOld, promote_other notNew' isOld, promote_other notNew notOld]

/-- What promoting some of the names makes up for, promoting all of them does. -/
theorem promote_of_promote_eq {g : κ → Option ν} (injective : Function.Injective new)
    (separate : Separate new names) (fewer : ∀ j, names' j → names j)
    (same : promote new names' g = promote new names' f) :
    promote new names g = promote new names f := by
  rw [← promote_promote injective separate fewer, same, promote_promote injective separate fewer]

/-- Names without a new version need not be promoted. -/
theorem promote_retire (separate : Separate new names) (fewer : ∀ j, names' j → names j)
    (nothingNew : ∀ j, names j → ¬ names' j → f (new j) = none) :
    promote new names' f = promote new names f := by
  have separate' : Separate new names' := separate.subset fewer
  funext k
  by_cases isNew' : ∃ j, names' j ∧ k = new j
  · obtain ⟨j, member, rfl⟩ := isNew'
    rw [promote_new member, promote_new (fewer j member)]
  · have notNew' (j : κ) (member : names' j) : k ≠ new j := fun same => isNew' ⟨j, member, same⟩
    by_cases isNew : ∃ j, names j ∧ k = new j
    · obtain ⟨j, member, rfl⟩ := isNew
      have retired : ¬ names' j := fun member' => notNew' j member' rfl
      have notOld : ¬ names' (new j) := fun old => separate (new j) j (fewer _ old) member rfl
      rw [promote_other notNew' notOld, promote_new member, nothingNew j member retired]
    · have notNew (j : κ) (member : names j) : k ≠ new j := fun same => isNew ⟨j, member, same⟩
      by_cases isOld : names k
      · rw [promote_old separate isOld]
        by_cases isOld' : names' k
        · rw [promote_old separate' isOld']
        · rw [promote_other notNew' isOld', nothingNew k isOld isOld']
      · have notOld' : ¬ names' k := fun old => isOld (fewer k old)
        rw [promote_other notNew' notOld', promote_other notNew isOld]

/-- Promotion makes no new version. -/
theorem promote_new_of_none (separate : ∀ j, names j → j ≠ new i) (absent : f (new i) = none) :
    promote new names f (new i) = none := by
  by_cases isNew : ∃ j, names j ∧ new i = new j
  · obtain ⟨j, member, same⟩ := isNew
    rw [same, promote_new member]
  · rw [promote_other (fun j member same => isNew ⟨j, member, same⟩)
      fun member => separate _ member rfl]
    exact absent

theorem promote_none : promote new (fun _ => False) f = f := by
  funext k
  exact promote_other (fun _ impossible => impossible.elim) (fun impossible => impossible)

/-- Without any new version, promotion changes nothing. -/
theorem promote_of_nothingNew (separate : Separate new names)
    (nothingNew : ∀ j, names j → f (new j) = none) : promote new names f = f := by
  have none : ∀ j, (fun _ => False) j → names j := fun _ impossible => impossible.elim
  rw [← promote_retire separate none fun j member _ => nothingNew j member, promote_none]

/-- Promoting one file is renaming it. -/
theorem promote_one [DecidableEq κ] (separate : i ≠ new i) {v : ν} (found : f (new i) = some v) :
    promote new (· = i) f = Function.update (Function.update f (new i) none) i (some v) := by
  have single : Separate new (· = i) := by
    rintro a b rfl rfl
    exact separate
  funext k
  by_cases isOld : k = i
  · subst isOld
    rw [promote_old single rfl, found, Function.update_self]
  · rw [Function.update_of_ne isOld]
    by_cases isNew : k = new i
    · subst isNew
      rw [@promote_new _ _ new (· = i) f i rfl, Function.update_self]
    · rw [Function.update_of_ne isNew]
      exact promote_other (by rintro j rfl; exact isNew) isOld

theorem promote_one_of_none (separate : i ≠ new i) (absent : f (new i) = none) :
    promote new (· = i) f = f := by
  refine promote_of_nothingNew ?_ ?_
  · rintro a b rfl rfl
    exact separate
  · rintro j rfl
    exact absent

end Storage
