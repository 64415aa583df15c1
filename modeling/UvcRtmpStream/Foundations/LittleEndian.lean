import Mathlib.Order.Basic
import Mathlib.Data.Nat.Bitwise

/-!
# Little-endian words

A 16-bit or 32-bit word put together from its bytes with shifts and `|||`, least significant byte
first, and the bytes of a word. `joinDw_bytes` and `joinSw_bytes` read a written word back.
-/

set_option autoImplicit false
set_option relaxedAutoImplicit false

namespace UvcRtmpStream.Foundations.LittleEndian

/-- The 32-bit word of four bytes, least significant first. -/
def joinDw (first second third fourth : UInt8) : UInt32 :=
  first.toUInt32 ||| second.toUInt32 <<< 8 ||| third.toUInt32 <<< 16 ||| fourth.toUInt32 <<< 24

/-- The 16-bit word of two bytes, least significant first. -/
def joinSw (first second : UInt8) : UInt16 := first.toUInt16 ||| second.toUInt16 <<< 8

/-- The bytes of a 32-bit word, least significant first. -/
def splitDw (value : UInt32) : List UInt8 :=
  [value.toUInt8, (value >>> 8).toUInt8, (value >>> 16).toUInt8, (value >>> 24).toUInt8]

/-- The bytes of a 16-bit word, least significant first. -/
def splitSw (value : UInt16) : List UInt8 := [value.toUInt8, (value >>> 8).toUInt8]

@[simp] theorem length_splitDw (value : UInt32) : (splitDw value).length = 4 := rfl

@[simp] theorem length_splitSw (value : UInt16) : (splitSw value).length = 2 := rfl

/-- A 32-bit word from its own bytes. -/
theorem joinDw_bytes (value : UInt32) :
    joinDw value.toUInt8 (value >>> 8).toUInt8 (value >>> 16).toUInt8 (value >>> 24).toUInt8 =
      value := by
  have hshift : (8 : UInt32).toNat = 8 ∧ (16 : UInt32).toNat = 16 ∧ (24 : UInt32).toNat = 24 :=
    ⟨rfl, rfl, rfl⟩
  apply UInt32.toNat_inj.mp
  simp only [joinDw, UInt32.toNat_or, UInt32.toNat_shiftLeft, UInt8.toNat_toUInt32,
    UInt32.toNat_toUInt8, UInt32.toNat_shiftRight, hshift.1, hshift.2.1, hshift.2.2]
  apply Nat.eq_of_testBit_eq
  intro place
  have htop : 32 ≤ place → value.toNat.testBit place = false := fun hplace ↦
    Nat.testBit_lt_two_pow (lt_of_lt_of_le value.toNat_lt (Nat.pow_le_pow_right (by decide) hplace))
  simp only [Nat.testBit_or, Nat.testBit_mod_two_pow, Nat.testBit_shiftLeft,
    Nat.testBit_shiftRight]
  -- each bit comes from the byte it is in
  have hbyte : place < 8 ∨ (8 ≤ place ∧ place < 16) ∨ (16 ≤ place ∧ place < 24) ∨
      (24 ≤ place ∧ place < 32) ∨ 32 ≤ place := by omega
  rcases hbyte with h | h | h | h | h <;> grind

/-- A 16-bit word from its own bytes. -/
theorem joinSw_bytes (value : UInt16) :
    joinSw value.toUInt8 (value >>> 8).toUInt8 = value := by
  have hshift : (8 : UInt16).toNat = 8 := rfl
  apply UInt16.toNat_inj.mp
  simp only [joinSw, UInt16.toNat_or, UInt16.toNat_shiftLeft, UInt8.toNat_toUInt16,
    UInt16.toNat_toUInt8, UInt16.toNat_shiftRight, hshift]
  apply Nat.eq_of_testBit_eq
  intro place
  have htop : 16 ≤ place → value.toNat.testBit place = false := fun hplace ↦
    Nat.testBit_lt_two_pow (lt_of_lt_of_le value.toNat_lt (Nat.pow_le_pow_right (by decide) hplace))
  simp only [Nat.testBit_or, Nat.testBit_mod_two_pow, Nat.testBit_shiftLeft,
    Nat.testBit_shiftRight]
  have hbyte : place < 8 ∨ (8 ≤ place ∧ place < 16) ∨ 16 ≤ place := by omega
  rcases hbyte with h | h | h <;> grind

end UvcRtmpStream.Foundations.LittleEndian
