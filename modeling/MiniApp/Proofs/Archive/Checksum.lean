import Mathlib.Logic.Function.Basic
import Mathlib.Tactic.Common
import MiniApp.Archive.Basic

set_option autoImplicit false

namespace MiniApp

namespace Checksum

theorem toNat_shiftRight_one (r : UInt32) : (r >>> 1).toNat = r.toNat / 2 := by
  simp [Nat.shiftRight_eq_div_pow]

theorem xor_ne_polynomial (r s : UInt32) : (r >>> 1) ^^^ (s >>> 1) ≠ polynomial := by
  intro h
  have bound (t : UInt32) : (t >>> 1).toNat < 2 ^ 31 := by
    rw [toNat_shiftRight_one]
    have := t.toNat_lt
    omega
  have low : ((r >>> 1) ^^^ (s >>> 1)).toNat < 2 ^ 31 := by
    rw [UInt32.toNat_xor]
    exact Nat.xor_lt_two_pow (bound r) (bound s)
  rw [h] at low
  exact absurd low (by decide)

theorem and_one_eq_one_iff (r : UInt32) : r &&& 1 = 1 ↔ r.toNat % 2 = 1 := by
  rw [← UInt32.toNat_inj, UInt32.toNat_and, UInt32.toNat_one, Nat.and_one_is_mod]

theorem shiftRight_one_inj {r s : UInt32} (low : r &&& 1 = 1 ↔ s &&& 1 = 1)
    (h : r >>> 1 = s >>> 1) : r = s := by
  have high := congrArg UInt32.toNat h
  rw [toNat_shiftRight_one, toNat_shiftRight_one] at high
  rw [and_one_eq_one_iff, and_one_eq_one_iff] at low
  apply UInt32.toNat_inj.1
  omega

theorem shiftBit_injective : Function.Injective shiftBit := by
  intro r s h
  rw [shiftBit, shiftBit] at h
  split at h
  case isTrue hr =>
    split at h
    case isTrue hs => exact shiftRight_one_inj (iff_of_true hr hs) ((UInt32.xor_left_inj _).1 h)
    case isFalse hs =>
      refine absurd ?_ (xor_ne_polynomial r s)
      rw [← h, ← UInt32.xor_assoc, UInt32.xor_self, UInt32.zero_xor]
  case isFalse hr =>
    split at h
    case isTrue hs =>
      refine absurd ?_ (xor_ne_polynomial r s)
      rw [h, UInt32.xor_comm, ← UInt32.xor_assoc, UInt32.xor_self, UInt32.zero_xor]
    case isFalse hs => exact shiftRight_one_inj (iff_of_false hr hs) h

theorem repeat_shiftBit_injective (n : Nat) : Function.Injective (Nat.repeat shiftBit n) := by
  induction n with
  | zero => exact Function.injective_id
  | succ n ih => exact shiftBit_injective.comp ih

theorem shiftByte_left_injective (byte : UInt8) :
    Function.Injective fun r => shiftByte r byte := by
  intro r s h
  exact (UInt32.xor_left_inj _).1 (repeat_shiftBit_injective 8 h)

theorem shiftByte_right_injective (r : UInt32) : Function.Injective (shiftByte r) := by
  intro b b' h
  have bytes := (UInt32.xor_right_inj _).1 (repeat_shiftBit_injective 8 h)
  exact UInt8.toUInt32_inj.1 bytes

theorem foldl_shiftByte_injective (bytes : List UInt8) :
    Function.Injective (bytes.foldl shiftByte) := by
  induction bytes with
  | nil => exact Function.injective_id
  | cons byte bytes ih => exact ih.comp (shiftByte_left_injective byte)

theorem ofBytes_ne {b b' : UInt8} (differ : b ≠ b') (before behind : List UInt8) :
    ofBytes (before ++ b :: behind) ≠ ofBytes (before ++ b' :: behind) := by
  intro h
  rw [ofBytes, ofBytes, UInt32.not_inj, List.foldl_append, List.foldl_append, List.foldl_cons,
    List.foldl_cons] at h
  exact differ (shiftByte_right_injective _ (foldl_shiftByte_injective behind h))

end Checksum

/-- Entries whose contents differ in one byte have different checksums. -/
theorem ArchiveEntry.checksum_ne {e e' : ArchiveEntry} {before behind : List UInt8} {b b' : UInt8}
    (written : e.content.toUTF8.toList = before ++ b :: behind)
    (written' : e'.content.toUTF8.toList = before ++ b' :: behind) (differ : b ≠ b') :
    e.checksum ≠ e'.checksum := by
  rw [checksum, checksum, Checksum.ofText, Checksum.ofText, written, written']
  exact Checksum.ofBytes_ne differ before behind

end MiniApp
