import Mathlib.Data.List.Basic
import Mathlib.Data.String.Basic

/-! # Hexadecimal texts

Bytes as two lower-case digits each.  A prefix of the bytes is a prefix of the digits, and bytes
can be read back from their digits.
-/

namespace Text

def hexDigit (nibble : UInt8) : Char :=
  if nibble < 10 then .ofNat ('0'.toNat + nibble.toNat) else .ofNat ('a'.toNat + nibble.toNat - 10)

/-- The digits of a byte, the higher one first. -/
def hexByte (byte : UInt8) : List Char :=
  [hexDigit (byte >>> 4), hexDigit (byte &&& 0x0F)]

def hexDigits (bytes : List UInt8) : List Char :=
  bytes.flatMap hexByte

/-- A digit as it is written here; upper-case ones are not. -/
def IsHexDigit (c : Char) : Prop :=
  ('0' ≤ c ∧ c ≤ '9') ∨ ('a' ≤ c ∧ c ≤ 'f')

instance (c : Char) : Decidable (IsHexDigit c) :=
  inferInstanceAs (Decidable (_ ∨ _))

theorem length_hexDigits (bytes : List UInt8) : (hexDigits bytes).length = 2 * bytes.length := by
  induction bytes with
  | nil => rfl
  | cons byte rest ih =>
    simp only [hexDigits, List.flatMap_cons, List.length_append] at ih ⊢
    simp only [ih, hexByte, List.length_cons, List.length_nil]
    omega

theorem forall_byte {P : UInt8 → Prop} (all : ∀ n : Fin 256, P (.ofNat n)) (byte : UInt8) :
    P byte := by
  have this := all ⟨byte.toNat, byte.toNat_lt⟩
  rwa [UInt8.ofNat_toNat] at this

theorem nul_notMem_hexDigits (bytes : List UInt8) : '\x00' ∉ hexDigits bytes := by
  have digits := forall_byte (P := fun byte => '\x00' ∉ hexByte byte) (by decide +kernel)
  intro member
  obtain ⟨byte, -, inside⟩ := List.mem_flatMap.mp member
  exact digits byte inside

/-- Every digit is written for some nibble. -/
theorem exists_hexDigit {c : Char} (digit : IsHexDigit c) :
    ∃ nibble : Fin 16, c = hexDigit (.ofNat nibble) := by
  have bounded : ∀ n : Fin 103, IsHexDigit (.ofNat n) →
      ∃ nibble : Fin 16, Char.ofNat n = hexDigit (.ofNat nibble) := by
    decide +kernel
  have small : c.toNat < 103 := by
    rcases digit with ⟨_, upper⟩ | ⟨_, upper⟩
    · exact Nat.lt_of_le_of_lt (Char.le_def.mp upper) (by decide)
    · exact Nat.lt_of_le_of_lt (Char.le_def.mp upper) (by decide)
  have same : Char.ofNat c.toNat = c := Char.ofNat_toNat c
  rw [← same]
  exact bounded ⟨c.toNat, small⟩ (same.symm ▸ digit)

theorem hexDigits_append (first second : List UInt8) :
    hexDigits (first ++ second) = hexDigits first ++ hexDigits second :=
  List.flatMap_append

end Text
