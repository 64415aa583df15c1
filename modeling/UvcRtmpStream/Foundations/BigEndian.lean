import Mathlib.Data.List.Induction
import Mathlib.Tactic.Ring

/-!
# Big-endian numbers of a fixed width

A natural number written as a fixed number of bytes, most significant byte first, and the number a
byte string stands for. `ofBytes_toBytes` and `toBytes_ofBytes` are the two round trips: a number
below `256 ^ width` is read back unchanged, and a byte string is rewritten unchanged from the
number it stands for.
-/

set_option autoImplicit false
set_option relaxedAutoImplicit false

namespace UvcRtmpStream.Foundations.BigEndian

/-- The `width` low bytes of a number, most significant first. -/
def toBytes : ℕ → ℕ → List UInt8
  | 0, _ => []
  | width + 1, value => toBytes width (value / 256) ++ [UInt8.ofNat value]

/-- The number a byte string stands for, most significant byte first. -/
def ofBytes (bytes : List UInt8) : ℕ := bytes.foldl (fun value byte ↦ value * 256 + byte.toNat) 0

@[simp] theorem length_toBytes (width value : ℕ) : (toBytes width value).length = width := by
  induction width generalizing value with
  | zero => rfl
  | succ width ih => simp [toBytes, ih]

/-- The last byte of a byte string is its lowest digit. -/
theorem ofBytes_concat (bytes : List UInt8) (byte : UInt8) :
    ofBytes (bytes ++ [byte]) = ofBytes bytes * 256 + byte.toNat := by
  simp [ofBytes, List.foldl_append]

/-- Reading a written number gives the number modulo `256 ^ width`. -/
theorem ofBytes_toBytes (width value : ℕ) :
    ofBytes (toBytes width value) = value % 256 ^ width := by
  induction width generalizing value with
  | zero => simp [toBytes, ofBytes, Nat.mod_one]
  | succ width ih =>
    have hdigit : (UInt8.ofNat value).toNat = value % 256 := by simp
    rw [toBytes, ofBytes_concat, ih, hdigit, pow_succ, Nat.mul_comm (256 ^ width) 256,
      Nat.mod_mul]
    ring

/-- Writing the number a byte string stands for gives the byte string back. -/
theorem toBytes_ofBytes (bytes : List UInt8) : toBytes bytes.length (ofBytes bytes) = bytes := by
  induction bytes using List.reverseRecOn with
  | nil => rfl
  | append_singleton bytes byte ih =>
    have hbyte : byte.toNat < 256 := byte.toNat_lt
    have hhigh : (ofBytes bytes * 256 + byte.toNat) / 256 = ofBytes bytes := by omega
    have hlow : UInt8.ofNat (ofBytes bytes * 256 + byte.toNat) = byte := by
      apply UInt8.toNat.inj
      rw [UInt8.toNat_ofNat']
      omega
    rw [List.length_append, List.length_singleton, ofBytes_concat, toBytes, hhigh, hlow, ih]

theorem ofBytes_lt (bytes : List UInt8) : ofBytes bytes < 256 ^ bytes.length := by
  induction bytes using List.reverseRecOn with
  | nil => simp [ofBytes]
  | append_singleton bytes byte ih =>
    have hbyte : byte.toNat < 256 := byte.toNat_lt
    rw [ofBytes_concat, List.length_append, List.length_singleton, pow_succ]
    omega

end UvcRtmpStream.Foundations.BigEndian
