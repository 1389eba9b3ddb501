import Mathlib.Data.List.Basic
import Mathlib.Data.String.Basic

/-! # Numbers and separators in texts

Decimal notation is injective and uses only digits and the minus sign, so a text made of a
name, a separator and a number can be taken apart again.
-/

namespace Text

/-- `text` ends with `suffix`. -/
def endsWith (text suffix : String) : Bool :=
  suffix.toList.isSuffixOf text.toList

/-- `text` starts with `start`. -/
def startsWith (text start : String) : Bool :=
  start.toList.isPrefixOf text.toList

/-- `text` without `suffix` at its end, if it is there. -/
def consumeSuffix (text suffix : String) : String :=
  if endsWith text suffix then
    String.ofList (text.toList.take (text.toList.length - suffix.toList.length))
  else text

/-- What follows `start` in `text`, if `text` starts with it. -/
def consumePrefix (text start : String) : Option String :=
  if startsWith text start then some (String.ofList (text.toList.drop start.toList.length)) else none

/-- `text` in quotes, with a backslash before each quote and backslash in it. -/
def quoted (text : String) : String :=
  let escaped := text.toList.flatMap fun c => if c = '"' ∨ c = '\\' then ['\\', c] else [c]
  "\"" ++ .ofList escaped ++ "\""

/-- What follows the last `c` in `text`, if there is one. -/
def afterLast (c : Char) (text : String) : Option String :=
  if c ∈ text.toList then some (String.ofList (text.toList.reverse.takeWhile (· ≠ c)).reverse)
  else none

theorem consumePrefix_eq_some {text start rest : String} :
    consumePrefix text start = some rest ↔ text = start ++ rest := by
  unfold consumePrefix startsWith
  constructor
  · intro consumed
    split at consumed
    · rename_i isPrefix
      obtain ⟨back, same⟩ := List.isPrefixOf_iff_prefix.mp isPrefix
      cases consumed
      rw [← String.toList_inj, String.toList_append, String.toList_ofList, ← same,
        List.drop_left]
    · cases consumed
  · rintro rfl
    simp

theorem startsWith_iff {text start : String} :
    startsWith text start = true ↔ ∃ rest, text = start ++ rest := by
  rw [startsWith, List.isPrefixOf_iff_prefix]
  constructor
  · rintro ⟨rest, same⟩
    refine ⟨.ofList rest, String.toList_inj.mp ?_⟩
    rw [String.toList_append, String.toList_ofList, same]
  · rintro ⟨rest, rfl⟩
    exact ⟨rest.toList, (String.toList_append ..).symm⟩

theorem startsWith_append (text rest : String) : startsWith (text ++ rest) text = true :=
  startsWith_iff.mpr ⟨rest, rfl⟩

theorem startsWith_self (text : String) : startsWith text text = true :=
  startsWith_iff.mpr ⟨"", by simp⟩

theorem startsWith_trans {text middle start : String} (outer : startsWith text middle = true)
    (inner : startsWith middle start = true) : startsWith text start = true := by
  obtain ⟨rest, rfl⟩ := startsWith_iff.mp outer
  obtain ⟨rest', rfl⟩ := startsWith_iff.mp inner
  exact startsWith_iff.mpr ⟨rest' ++ rest, String.append_assoc ..⟩

/-- Of two beginnings of a text one is a beginning of the other. -/
theorem startsWith_or {text first second : String} (begins : startsWith text first = true)
    (begins' : startsWith text second = true) :
    startsWith second first = true ∨ startsWith first second = true := by
  simp only [startsWith, List.isPrefixOf_iff_prefix] at begins begins' ⊢
  exact List.prefix_or_prefix_of_prefix begins begins'

theorem startsWith_mark {text start mark : String} {c : Char} (single : mark.toList = [c]) :
    startsWith (text ++ mark) start = true ↔ start = text ++ mark ∨ startsWith text start = true := by
  simp only [startsWith, List.isPrefixOf_iff_prefix, String.toList_append, single,
    List.prefix_concat_iff, ← String.toList_inj]

/-- A beginning that ends with a character which the rest of the text does not have. -/
theorem startsWith_of_append {text start rest mark : String} {c : Char} (single : mark.toList = [c])
    (fresh : c ∉ rest.toList) (begins : startsWith (text ++ rest) (start ++ mark) = true) :
    startsWith text (start ++ mark) = true := by
  simp only [startsWith, List.isPrefixOf_iff_prefix, String.toList_append, single] at begins ⊢
  rcases List.prefix_or_prefix_of_prefix begins (List.prefix_append _ _) with short | long
  · exact short
  · obtain ⟨more, same⟩ := long
    rw [← same, List.prefix_append_right_inj] at begins
    rcases List.eq_nil_or_concat more with rfl | ⟨front, last, rfl⟩
    · have whole : text.toList = start.toList ++ [c] := by simpa using same
      exact whole ▸ List.prefix_rfl
    · rw [List.concat_eq_append, ← List.append_assoc] at same
      have isLast : last = c := (List.append_singleton_inj.mp same).2
      subst isLast
      exact absurd (begins.subset (by simp)) fresh

theorem endsWith_append (text suffix : String) : endsWith (text ++ suffix) suffix = true := by
  simp [endsWith]

/-! ## Decimal notation -/

theorem isDigit_of_mem_repr {n : Nat} {c : Char} (member : c ∈ n.repr.toList) :
    c.isDigit = true := by
  rw [Nat.toList_repr] at member
  exact Nat.isDigit_of_mem_toDigits (by decide) (by decide) member

theorem repr_ne_nil (n : Nat) : n.repr.toList ≠ [] := by
  rw [Nat.toList_repr]
  exact Nat.toDigits_ne_nil

theorem repr_inj {m n : Nat} (same : m.repr = n.repr) : m = n := by
  have digits : Nat.toDigits 10 m = Nat.toDigits 10 n := by
    rw [← Nat.toList_repr, ← Nat.toList_repr, same]
  rw [← Nat.ofDigitChars_ten_toDigits (n := m), digits, Nat.ofDigitChars_ten_toDigits]

theorem eq_minus_or_isDigit_of_mem {i : Int} {c : Char} (member : c ∈ (toString i).toList) :
    c = '-' ∨ c.isDigit = true := by
  rw [Int.toString_eq_repr, Int.repr_eq_if] at member
  split at member
  · exact .inr (isDigit_of_mem_repr member)
  · rw [String.toList_append, List.mem_append] at member
    rcases member with minus | digit
    · exact .inl (by simpa using minus)
    · exact .inr (isDigit_of_mem_repr digit)

theorem toString_int_inj {i j : Int} (same : toString i = toString j) : i = j := by
  have noMinus (m n : Nat) : m.repr ≠ "-" ++ n.repr := by
    intro equal
    have minus : '-' ∈ m.repr.toList := by simp [equal]
    exact absurd (isDigit_of_mem_repr minus) (by decide)
  simp only [Int.toString_eq_repr, Int.repr_eq_if] at same
  split at same <;> split at same
  · have := repr_inj same
    omega
  · exact absurd same (noMinus _ _)
  · exact absurd same.symm (noMinus _ _)
  · have := repr_inj ((String.append_right_inj _).mp same)
    omega

/-- The last character of a number is a digit. -/
theorem getLast_isDigit (i : Int) :
    ∃ front c, (toString i).toList = front ++ [c] ∧ c.isDigit = true := by
  have last (n : Nat) : ∃ front c, n.repr.toList = front ++ [c] ∧ c.isDigit = true := by
    refine ⟨n.repr.toList.dropLast, n.repr.toList.getLast (repr_ne_nil n), ?_, ?_⟩
    · exact (List.dropLast_append_getLast _).symm
    · exact isDigit_of_mem_repr (List.getLast_mem _)
  rw [Int.toString_eq_repr, Int.repr_eq_if]
  split
  · exact last _
  · obtain ⟨front, c, split, digit⟩ := last (-i).toNat
    exact ⟨'-' :: front, c, by simp [split], digit⟩

/-! ## Separators -/

theorem append_cons_inj {α : Type} {c : α} {front front' back back' : List α}
    (same : front ++ c :: back = front' ++ c :: back') (fresh : c ∉ back) (fresh' : c ∉ back') :
    front = front' ∧ back = back' := by
  rcases List.append_eq_append_iff.mp same with ⟨gap, rfl, split⟩ | ⟨gap, rfl, split⟩
  · cases gap with
    | nil =>
      simp only [List.nil_append, List.cons.injEq, true_and] at split
      simp [split]
    | cons head tail =>
      simp only [List.cons_append, List.cons.injEq] at split
      exact absurd (by simp [split.2]) fresh
  · cases gap with
    | nil =>
      simp only [List.nil_append, List.cons.injEq, true_and] at split
      simp [split]
    | cons head tail =>
      simp only [List.cons_append, List.cons.injEq] at split
      exact absurd (by simp [split.2]) fresh'

theorem afterLast_append {c : Char} {front back : String} (inside : c ∈ back.toList) :
    afterLast c (front ++ back) = afterLast c back := by
  obtain ⟨before, after, split, fresh⟩ := List.eq_append_cons_of_mem (List.mem_reverse.mpr inside)
  have stops (more : List Char) : ((before ++ c :: after) ++ more).takeWhile (· ≠ c) = before := by
    rw [List.append_assoc, List.takeWhile_append_of_pos fun x member => by
      simpa using fun same : x = c => fresh (same ▸ member)]
    simp
  have here := stops []
  rw [List.append_nil] at here
  simp only [afterLast, String.toList_append, List.mem_append, inside, or_true, if_true,
    List.reverse_append, split, stops, here]

theorem afterLast_separator {c : Char} {front back : String} (fresh : c ∉ back.toList) :
    afterLast c (front ++ c.toString ++ back) = some back := by
  have taken : (back.toList.reverse ++ c :: front.toList.reverse).takeWhile (· ≠ c) =
      back.toList.reverse := by
    rw [List.takeWhile_append_of_pos fun x member => by
      simpa using fun same : x = c => fresh (List.mem_reverse.mp (same ▸ member))]
    simp
  have inside : c ∈ (front ++ c.toString ++ back).toList := by simp
  have reversed : (front ++ c.toString ++ back).toList.reverse =
      back.toList.reverse ++ c :: front.toList.reverse := by simp
  rw [afterLast, if_pos inside, reversed, taken, List.reverse_reverse, String.ofList_toList]

/-- What stands before and after the last separator is determined by the text. -/
theorem append_separator_inj {c : Char} {name name' number number' : String}
    (same : name ++ c.toString ++ number = name' ++ c.toString ++ number')
    (fresh : c ∉ number.toList) (fresh' : c ∉ number'.toList) :
    name = name' ∧ number = number' := by
  have lists : name.toList ++ c :: number.toList = name'.toList ++ c :: number'.toList := by
    simpa using congrArg String.toList same
  obtain ⟨front, back⟩ := append_cons_inj lists fresh fresh'
  exact ⟨String.toList_inj.mp front, String.toList_inj.mp back⟩

end Text
