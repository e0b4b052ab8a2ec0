import MiniApp.Proofs.Number.Accuracy

set_option autoImplicit false

namespace MiniApp

namespace Double

theorem isMagnitude_mul_scale {n : Nat} (h : n < 2 ^ 53) : IsMagnitude (n * scale) := by
  have below := Nat.mul_lt_mul_of_pos_right h scale_pos
  have fine := pow_mul_spacing_dvd_scale (j := 0) rfl below
  rw [Nat.pow_zero, Nat.one_mul] at fine
  exact Nat.dvd_trans fine (Nat.dvd_mul_left ..)

theorem pow_mul_scale_le_limit : 2 ^ 61 * scale ≤ limit := by decide +kernel

theorem ofInt_eq {n : Int} (h : n.natAbs < 2 ^ 53) :
    ofInt n = .finite (n < 0) (n.natAbs * scale) := by
  have room := pow_mul_scale_le_limit
  have below := Nat.mul_lt_mul_of_pos_right h scale_pos
  rw [ofInt, ofRatio, (isMagnitude_mul_scale h).nearestUnits_eq, if_pos (by omega)]

end Double

namespace Numeral

open Double

variable {n : Nat}

theorem product_eq_of_isMagnitude {u : Nat} (h : IsMagnitude (100 * u)) : product u = 100 * u :=
  h.nearestUnits_eq

theorem whole_mul_scale_product (n : Nat) :
    whole (product (n * scale)) * scale = product (n * scale) := by
  rcases Nat.lt_or_ge (100 * n) (2 ^ 53) with small | large
  · have exact := product_eq_of_isMagnitude (u := n * scale) (by
      rw [← Nat.mul_assoc]
      exact isMagnitude_mul_scale small)
    rw [exact, ← Nat.mul_assoc, whole_mul]
  · have much := Nat.mul_le_mul_right scale large
    exact whole_mul_scale_of_le (by rw [← Nat.mul_assoc]; omega)

theorem quotient_eq_of_product_eq (h : product (n * scale) = 100 * (n * scale))
    (small : n < 2 ^ 53) : quotient (n * scale) = n * scale := by
  have same := nearestUnits_mul (n * scale) 1 (k := 100) (by decide)
  rw [(isMagnitude_mul_scale small).nearestUnits_eq] at same
  rw [quotient, whole_mul_scale_product, h, Nat.mul_comm 100]
  exact same

theorem within_iff_quotient_eq (h : n < 2 ^ 53) :
    Within (n * scale) ↔ quotient (n * scale) = n * scale := by
  rcases Nat.lt_or_ge n (2 ^ 46) with small | large
  · have exact := product_eq_of_isMagnitude (u := n * scale) (by
      rw [← Nat.mul_assoc]
      exact isMagnitude_mul_scale (by omega))
    have back := quotient_eq_of_product_eq exact h
    exact iff_of_true (within_of_quotient back) back
  · exact within_iff_of_le (isMagnitude_mul_scale h) (Nat.mul_le_mul_right scale large)

/-- A whole number shows its own hundredths when it is right to half a hundredth. -/
theorem within_iff_shown_eq (n : Nat) : Within (n * scale) ↔ shown (n * scale) = 100 * n := by
  have positive := scale_pos
  have regroup : 100 * (n * scale) = 100 * n * scale := (Nat.mul_assoc ..).symm
  rw [Within, regroup]
  constructor
  · rintro ⟨lo, hi⟩
    rcases Nat.lt_trichotomy (shown (n * scale)) (100 * n) with less | same | more
    · have apart := Nat.mul_le_mul_right scale less
      rw [Nat.succ_mul] at apart
      omega
    · exact same
    · have apart := Nat.mul_le_mul_right scale more
      rw [Nat.succ_mul] at apart
      omega
  · intro same
    rw [same]
    omega

theorem product_lt_limit {n : Nat} (h : n < 2 ^ 53) : product (n * scale) < limit := by
  have below := Nat.mul_lt_mul_of_pos_right h scale_pos
  have near := (product_bounds (n * scale)).2
  have fine := spacing_le (100 * (n * scale))
  have room := pow_mul_scale_le_limit
  omega

theorem isMagnitude_hundred_mul {n : Nat} (h : 25 * n ≤ 2 ^ 53) :
    IsMagnitude (100 * (n * scale)) := by
  obtain ⟨places, -, eq⟩ := exists_scale_eq
  have regroup : 100 * (n * scale) = 25 * n * 2 ^ (places + 2) := by
    rw [eq, Nat.pow_add]
    ring
  have below : 25 * n * 2 ^ (places + 2) < 2 ^ 53 * 2 ^ (places + 2) :=
    Nat.mul_lt_mul_of_pos_right (by omega) (Nat.two_pow_pos _)
  rw [← Nat.pow_add, Nat.add_comm 53] at below
  rw [regroup]
  exact isMagnitude_of_dvd below (Nat.dvd_mul_left ..)

section Int

variable {i : Int} (small : i.natAbs < 2 ^ 53)
include small

theorem text_ofInt_iff_shown_eq : text (.ofInt i) = toString i ↔
    shown (i.natAbs * scale) = 100 * i.natAbs := by
  rw [ofInt_eq small, (writes_text _ (product_lt_limit small)).eq_toString_iff]
  generalize shown (i.natAbs * scale) = hundredths
  rcases Int.lt_or_le i 0 with negative | positive
  · rw [decide_eq_true negative, signed, if_pos rfl]
    omega
  · rw [decide_eq_false (Int.not_lt.2 positive), signed, if_neg Bool.false_ne_true]
    omega

theorem text_ofInt_iff : text (.ofInt i) = toString i ↔
    ((Double.ofInt i).mul hundred).div hundred = .ofInt i := by
  rw [text_ofInt_iff_shown_eq small, ← within_iff_shown_eq, within_iff_quotient_eq small,
    ofInt_eq small, div_mul_hundred (product_lt_limit small) (whole_mul_scale_product _)]
  simp

theorem text_ofInt (exact : 25 * i.natAbs ≤ 2 ^ 53) : text (.ofInt i) = toString i := by
  rw [text_ofInt_iff_shown_eq small, ← within_iff_shown_eq, within_iff_quotient_eq small]
  exact quotient_eq_of_product_eq (isMagnitude_hundred_mul exact).nearestUnits_eq small

end Int

end Numeral

end MiniApp
