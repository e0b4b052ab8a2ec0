import Mathlib.Algebra.Order.Ring.Nat
import Mathlib.Tactic.Linarith
import Mathlib.Tactic.Ring
import MiniApp.Proofs.Number.Zero

set_option autoImplicit false

namespace MiniApp.Double

section HalfEven

variable {num den : Nat}

theorem roundHalfEven_mul (num den : Nat) {k : Nat} (hk : 0 < k) :
    roundHalfEven (num * k) (den * k) = roundHalfEven num den := by
  have below : 2 * (num * k % (den * k)) < den * k ↔ 2 * (num % den) < den := by
    rw [Nat.mul_mod_mul_right, ← Nat.mul_assoc, Nat.mul_lt_mul_right hk]
  have above : den * k < 2 * (num * k % (den * k)) ↔ den < 2 * (num % den) := by
    rw [Nat.mul_mod_mul_right, ← Nat.mul_assoc, Nat.mul_lt_mul_right hk]
  simp only [roundHalfEven, below, above, Nat.mul_div_mul_right num den hk]

/-- The whole number that a ratio is closer to than half a step. -/
theorem roundHalfEven_eq {n : Nat} (lo : 2 * (den * n) < 2 * num + den)
    (hi : 2 * num < 2 * (den * n) + den) : roundHalfEven num den = n := by
  have positive : 0 < den := by omega
  have bounds := roundHalfEven_bounds num den positive
  rw [Nat.mul_assoc] at bounds
  rcases Nat.lt_trichotomy (roundHalfEven num den) n with less | same | more
  · have step : den * (roundHalfEven num den + 1) ≤ den * n := Nat.mul_le_mul_left den less
    rw [Nat.mul_add, Nat.mul_one] at step
    omega
  · exact same
  · have step : den * (n + 1) ≤ den * roundHalfEven num den := Nat.mul_le_mul_left den more
    rw [Nat.mul_add, Nat.mul_one] at step
    omega

end HalfEven

section Spacing

theorem spacing_eq (u : Nat) : spacing u = 2 ^ (u.log2 - 52) := rfl

theorem spacing_pos (u : Nat) : 0 < spacing u := Nat.two_pow_pos _

theorem spacing_dvd {u k : Nat} (h : u < 2 ^ (k + 53)) : spacing u ∣ 2 ^ k := by
  refine Nat.pow_dvd_pow 2 ?_
  rcases Nat.eq_zero_or_pos u with rfl | positive
  · simp
  · have := (Nat.log2_lt (Nat.pos_iff_ne_zero.1 positive)).2 h
    omega

theorem spacing_le (u : Nat) : spacing u = 1 ∨ 2 ^ 52 * spacing u ≤ u := by
  rcases Nat.lt_or_ge u (2 ^ 52) with small | large
  · refine .inl (Nat.dvd_one.1 (spacing_dvd (k := 0) (Nat.lt_of_lt_of_le small ?_)))
    exact Nat.pow_le_pow_right (by decide) (by decide)
  · have positive : u ≠ 0 := by
      have := Nat.two_pow_pos 52
      omega
    have places : 52 ≤ u.log2 := (Nat.le_log2 positive).2 large
    refine .inr ?_
    rw [spacing_eq, ← Nat.pow_add, Nat.add_sub_of_le places]
    exact Nat.log2_self_le positive

end Spacing

section Nearest

variable {num den : Nat}

theorem nearestUnits_eq (num den : Nat) : nearestUnits num den =
    roundHalfEven num (den * spacing (num / den)) * spacing (num / den) := rfl

theorem nearestUnits_mul (num den : Nat) {k : Nat} (hk : 0 < k) :
    nearestUnits (num * k) (den * k) = nearestUnits num den := by
  rw [nearestUnits_eq, nearestUnits_eq, Nat.mul_div_mul_right num den hk, Nat.mul_right_comm,
    roundHalfEven_mul num _ hk]

theorem spacing_dvd_nearestUnits (num den : Nat) : spacing (num / den) ∣ nearestUnits num den :=
  Nat.dvd_mul_left ..

variable (positive : 0 < den)
include positive

theorem nearestUnits_bounds (num : Nat) :
    2 * num ≤ 2 * (den * nearestUnits num den) + den * spacing (num / den) ∧
      2 * (den * nearestUnits num den) ≤ 2 * num + den * spacing (num / den) := by
  have bounds := roundHalfEven_bounds num (den * spacing (num / den))
    (Nat.mul_pos positive (spacing_pos _))
  have regroup : 2 * (den * spacing (num / den)) * roundHalfEven num (den * spacing (num / den)) =
      2 * (den * nearestUnits num den) := by
    rw [nearestUnits_eq]
    ring
  rwa [regroup] at bounds

omit positive in
theorem nearestUnits_eq_of_close {x : Nat} (point : spacing (num / den) ∣ x)
    (lo : 2 * (den * x) < 2 * num + den * spacing (num / den))
    (hi : 2 * num < 2 * (den * x) + den * spacing (num / den)) : nearestUnits num den = x := by
  obtain ⟨n, rfl⟩ := point
  have regroup : den * (spacing (num / den) * n) = den * spacing (num / den) * n :=
    (Nat.mul_assoc ..).symm
  rw [regroup] at lo hi
  rw [nearestUnits_eq, roundHalfEven_eq lo hi, Nat.mul_comm]

theorem le_nearestUnits {x : Nat} (point : spacing (num / den) ∣ x) (h : den * x ≤ num) :
    x ≤ nearestUnits num den := by
  have bounds := (nearestUnits_bounds positive num).1
  obtain ⟨m, rounded⟩ := spacing_dvd_nearestUnits num den
  obtain ⟨n, rfl⟩ := point
  rw [rounded] at bounds ⊢
  refine Nat.mul_le_mul_left _ (Nat.le_of_not_lt fun less => ?_)
  have step : den * (spacing (num / den) * (m + 1)) ≤ den * (spacing (num / den) * n) :=
    Nat.mul_le_mul_left den (Nat.mul_le_mul_left _ less)
  rw [Nat.mul_add, Nat.mul_one, Nat.mul_add] at step
  have grid := Nat.mul_pos positive (spacing_pos (num / den))
  omega

theorem nearestUnits_le {x : Nat} (point : spacing (num / den) ∣ x) (h : num ≤ den * x) :
    nearestUnits num den ≤ x := by
  have bounds := (nearestUnits_bounds positive num).2
  obtain ⟨m, rounded⟩ := spacing_dvd_nearestUnits num den
  obtain ⟨n, rfl⟩ := point
  rw [rounded] at bounds ⊢
  refine Nat.mul_le_mul_left _ (Nat.le_of_not_lt fun less => ?_)
  have step : den * (spacing (num / den) * (n + 1)) ≤ den * (spacing (num / den) * m) :=
    Nat.mul_le_mul_left den (Nat.mul_le_mul_left _ less)
  rw [Nat.mul_add, Nat.mul_one, Nat.mul_add] at step
  have grid := Nat.mul_pos positive (spacing_pos (num / den))
  omega

end Nearest

/-- What numbers count: a multiple of the spacing around it. -/
def IsMagnitude (u : Nat) : Prop := spacing u ∣ u

theorem IsMagnitude.nearestUnits_eq {u : Nat} (h : IsMagnitude u) : nearestUnits u 1 = u := by
  have grid := spacing_pos u
  refine nearestUnits_eq_of_close ?_ ?_ ?_ <;> rw [Nat.div_one]
  · exact h
  all_goals omega

theorem isMagnitude_of_dvd {u k : Nat} (small : u < 2 ^ (k + 53)) (h : 2 ^ k ∣ u) :
    IsMagnitude u := (spacing_dvd small).trans h

/-- Rounding gives a magnitude, also where it leads to the next grid. -/
theorem isMagnitude_nearestUnits (num : Nat) {den : Nat} (positive : 0 < den) :
    IsMagnitude (nearestUnits num den) := by
  have grid := spacing_dvd_nearestUnits num den
  have below : num / den < 2 ^ ((num / den).log2 + 1) := Nat.lt_log2_self
  have point : spacing (num / den) ∣ 2 ^ ((num / den).log2 + 1) :=
    Nat.pow_dvd_pow 2 (by omega)
  have top : nearestUnits num den ≤ 2 ^ ((num / den).log2 + 1) :=
    nearestUnits_le positive point (Nat.le_of_lt ((Nat.div_lt_iff_lt_mul positive).1 below |>.trans_eq
      (Nat.mul_comm ..)))
  rcases Nat.lt_or_eq_of_le top with same | next
  · refine (spacing_dvd (k := (num / den).log2 - 52) (Nat.lt_of_lt_of_le same ?_)).trans grid
    exact Nat.pow_le_pow_right (by decide) (by omega)
  · rw [next]
    exact isMagnitude_of_dvd (Nat.pow_lt_pow_right (by decide) (by omega)) (Nat.dvd_refl _)

end MiniApp.Double
