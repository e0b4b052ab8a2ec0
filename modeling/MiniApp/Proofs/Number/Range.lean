import MiniApp.Proofs.Number.Integers

set_option autoImplicit false

namespace MiniApp

namespace Numeral

theorem whole_zero : whole 0 = 0 := by
  have none := whole_mul 0
  rwa [Nat.zero_mul] at none

theorem whole_mono {u v : Nat} (h : u ≤ v) : whole u ≤ whole v := Nat.div_le_div_right (by omega)

end Numeral

namespace Double

/-- Finite or not, but a number. -/
inductive IsNumber : Double → Prop
  | finite (negative : Bool) (units : Nat) : IsNumber (.finite negative units)
  | infinite (negative : Bool) : IsNumber (.infinite negative)

/-- Finite, and at most so many units in either direction. -/
inductive IsAtMost (most : Nat) : Double → Prop
  | finite (negative : Bool) {units : Nat} (h : units ≤ most) : IsAtMost most (.finite negative units)

theorem IsAtMost.mono {a b : Nat} (h : a ≤ b) {d : Double} (atMost : d.IsAtMost a) :
    d.IsAtMost b := by
  cases atMost with
  | finite negative most => exact .finite negative (Nat.le_trans most h)

theorem isNumber_ofRatio (negative : Bool) (num den : Nat) :
    (ofRatio negative num den).IsNumber := by
  cases Nat.lt_or_ge (nearestUnits num den) limit with
  | inl small =>
    rw [ofRatio, if_pos small]
    exact .finite ..
  | inr large =>
    rw [ofRatio, if_neg (Nat.not_lt.2 large)]
    exact .infinite _

theorem isNumber_of_isFinite {d : Double} (h : d.isFinite = true) : d.IsNumber := by
  cases d with
  | finite negative u => exact .finite negative u
  | _ => cases h

theorem ofNat_eq {n : Nat} (h : n < 2 ^ 53) : ofNat n = .finite false (n * scale) := by
  have room := pow_mul_scale_le_limit
  have below := Nat.mul_lt_mul_of_pos_right h scale_pos
  rw [ofNat, ofRatio, (isMagnitude_mul_scale h).nearestUnits_eq, if_pos (by omega)]

/-- Finite, and from one whole number to another. -/
def IsWithin (lo hi : Nat) (d : Double) : Prop :=
  d.isFinite = true ∧ (lo : ℚ) ≤ d.value ∧ d.value ≤ hi

section Within

variable {lo hi : Nat} {d : Double}

theorem isWithin_finite {negative : Bool} {u : Nat} :
    (finite negative u).IsWithin lo hi ↔
      ((lo * scale : Nat) : Int) ≤ signed negative u ∧
        signed negative u ≤ ((hi * scale : Nat) : Int) := by
  have positive := scale_cast_pos
  have cast (n : Nat) : (n : ℚ) * scale = ((n * scale : Nat) : Int) := by
    rw [Int.cast_natCast, Nat.cast_mul]
  rw [IsWithin, value_finite, le_div_iff₀ positive, div_le_iff₀ positive, cast, cast, Int.cast_le,
    Int.cast_le, isFinite, eq_self_iff_true, true_and]

/-- A number comes to lie in the range that it is moved into. -/
theorem isWithin_clamp (h : d.IsNumber) (range : lo ≤ hi) :
    (d.clamp (.finite false (lo * scale)) (.finite false (hi * scale))).IsWithin lo hi := by
  have ordered : ((lo * scale : Nat) : Int) ≤ ((hi * scale : Nat) : Int) :=
    Int.ofNat_le.2 (Nat.mul_le_mul_right scale range)
  have least : (finite false (lo * scale)).IsWithin lo hi := isWithin_finite.2 ⟨le_rfl, ordered⟩
  have most : (finite false (hi * scale)).IsWithin lo hi := isWithin_finite.2 ⟨ordered, le_rfl⟩
  rw [clamp]
  split
  · split
    · exact most
    · exact least
  · next above =>
    split
    · exact most
    · next below =>
      cases h with
      | infinite negative => cases negative <;> simp [lt] at above below
      | finite negative u =>
        rw [lt_finite] at above below
        exact isWithin_finite.2 ⟨Int.not_lt.1 above, Int.not_lt.1 below⟩

theorem IsWithin.units {negative : Bool} {u : Nat} (h : (finite negative u).IsWithin lo hi) :
    lo * scale ≤ u ∧ u ≤ hi * scale ∧ (negative = true → u = 0) := by
  rw [isWithin_finite] at h
  cases negative with
  | false => exact ⟨Int.ofNat_le.1 h.1, Int.ofNat_le.1 h.2, nofun⟩
  | true =>
    simp only [signed, if_true] at h
    omega

theorem IsWithin.isAtMost (h : d.IsWithin lo hi) : d.IsAtMost (hi * scale) := by
  cases d with
  | nan | infinite => exact absurd h.1 Bool.false_ne_true
  | finite negative u => exact .finite negative h.units.2.1

theorem IsWithin.round (h : d.IsWithin lo hi) :
    ∃ negative n, lo ≤ n ∧ n ≤ hi ∧ (negative = true → n = 0) ∧
      d.round = .finite negative (n * scale) := by
  cases d with
  | nan | infinite => exact absurd h.1 Bool.false_ne_true
  | finite negative u =>
    obtain ⟨least, most, sign⟩ := h.units
    have below := Numeral.whole_mono least
    have above := Numeral.whole_mono most
    rw [Numeral.whole_mul] at below above
    refine ⟨negative, Numeral.whole u, below, above, fun minus => ?_, rfl⟩
    rw [sign minus, Numeral.whole_zero]

theorem IsWithin.toNat_round (h : d.IsWithin lo hi) : lo ≤ d.round.toNat ∧ d.round.toNat ≤ hi := by
  obtain ⟨negative, n, least, most, -, same⟩ := h.round
  rw [same, toNat, Nat.mul_div_cancel _ scale_pos]
  exact ⟨least, most⟩

theorem IsWithin.div {m : Nat} (h : d.IsWithin (m * lo) (m * hi)) (positive : 0 < m) (nonzero : 0 < lo)
    (few : m * hi < 2 ^ 53) : (d.div (.finite false (m * scale))).IsWithin lo hi := by
  cases d with
  | nan | infinite => exact absurd h.1 Bool.false_ne_true
  | finite negative u =>
    obtain ⟨least, most, sign⟩ := h.units
    have unit := scale_pos
    have plus : negative = false := by
      refine Bool.eq_false_iff.2 fun minus => ?_
      have much := Nat.mul_pos (Nat.mul_pos positive nonzero) unit
      have none := sign minus
      omega
    have below : u / m < 2 ^ 53 * scale := by
      have fewer := Nat.mul_lt_mul_of_pos_right few unit
      exact Nat.lt_of_le_of_lt (Nat.div_le_self u m) (by omega)
    have point (n : Nat) : spacing (u / m) ∣ n * scale := by
      have fine := pow_mul_spacing_dvd_scale (j := 0) rfl below
      rw [Nat.pow_zero, Nat.one_mul] at fine
      exact Nat.dvd_trans fine (Nat.dvd_mul_left ..)
    rw [Nat.mul_assoc] at least most
    have lowest := le_nearestUnits positive (point lo) least
    have highest := nearestUnits_le positive (point hi) most
    have room : nearestUnits u m < limit := by
      have enough := pow_mul_scale_le_limit
      have small : hi ≤ m * hi := Nat.le_mul_of_pos_left hi positive
      have fewer := Nat.mul_le_mul_right scale (show hi ≤ 2 ^ 60 by omega)
      omega
    rw [Double.div, if_neg (Nat.ne_of_gt (Nat.mul_pos positive unit)), ofRatio,
      nearestUnits_mul u m unit, if_pos room, plus]
    exact isWithin_finite.2 ⟨Int.ofNat_le.2 lowest, Int.ofNat_le.2 highest⟩

end Within

theorem mul_ofNat {m n : Nat} (few : m * n < 2 ^ 53) :
    (finite false (n * scale)).mul (.finite false (m * scale)) = .finite false (m * n * scale) := by
  have unit := scale_pos
  have regroup : n * scale * (m * scale) = m * n * scale * scale := by ring
  have same := nearestUnits_mul (m * n * scale) 1 unit
  have room := pow_mul_scale_le_limit
  have below := Nat.mul_lt_mul_of_pos_right few unit
  rw [Nat.one_mul, (isMagnitude_mul_scale few).nearestUnits_eq] at same
  rw [mul, regroup, ofRatio, same, if_pos (by omega)]
  rfl

theorem isAtMost_round {d : Double} {most : Nat} (h : d.IsAtMost most) :
    d.round.IsAtMost (most + scale) := by
  cases h with
  | @finite negative u h =>
    have near := (Numeral.whole_bounds u).1
    exact .finite negative (show Numeral.whole u * scale ≤ most + scale by omega)

theorem spacing_le_succ (u : Nat) : spacing u ≤ u + 1 := by
  have fine := spacing_le u
  omega

theorem mul_nearestUnits_le (num : Nat) {den : Nat} (positive : 0 < den) :
    den * nearestUnits num den ≤ 2 * num + den := by
  have near := (nearestUnits_bounds positive num).2
  have step : den * spacing (num / den) ≤ num + den :=
    calc
      den * spacing (num / den) ≤ den * (num / den + 1) :=
        Nat.mul_le_mul_left den (spacing_le_succ _)
      _ = den * (num / den) + den := Nat.mul_succ ..
      _ ≤ num + den := Nat.add_le_add_right (Nat.mul_div_le num den) den
  omega

theorem mul_scale_lt_limit {n : Nat} (few : n < 2 ^ 61) : n * scale < limit :=
  Nat.lt_of_lt_of_le (Nat.mul_lt_mul_of_pos_right few scale_pos) pow_mul_scale_le_limit

section Operations

variable {d e : Double} {a b most : Nat} (small : most < limit)
include small

theorem isAtMost_ofRatio (negative : Bool) {num den : Nat} (positive : 0 < den)
    (h : 2 * num + den ≤ den * most) : (ofRatio negative num den).IsAtMost most := by
  have within : nearestUnits num den ≤ most :=
    Nat.le_of_mul_le_mul_left (Nat.le_trans (mul_nearestUnits_le num positive) h) positive
  rw [ofRatio, if_pos (Nat.lt_of_le_of_lt within small)]
  exact .finite negative within

theorem isAtMost_mul (hd : d.IsAtMost a) (he : e.IsAtMost b)
    (h : 2 * (a * b) + scale ≤ scale * most) : (d.mul e).IsAtMost most := by
  cases hd with
  | @finite negative u hu =>
    cases he with
    | @finite negative' v hv =>
      have area : u * v ≤ a * b := Nat.mul_le_mul hu hv
      rw [mul]
      exact isAtMost_ofRatio small _ scale_pos (by omega)

end Operations

end Double

namespace Numeral

open Double

theorem whole_lt_of_le {u : Nat} (h : u ≤ 60000 * scale) :
    product u < limit ∧ whole (product u) < 100 * 2 ^ 46 := by
  have near := (product_bounds u).2
  have fine := spacing_le (100 * u)
  have room := pow_mul_scale_le_limit
  have positive := scale_pos
  refine ⟨by omega, Nat.lt_of_not_le fun large => ?_⟩
  have high := le_of_whole_le large
  omega

theorem writes_of_isAtMost {d : Double} (h : d.IsAtMost (60000 * scale)) :
    Writes (hundredths d) (text d) ∧ (IsAccurate d ↔ ¬ IsRoundedOutward d) := by
  cases h with
  | finite negative within =>
    obtain ⟨small, few⟩ := whole_lt_of_le within
    refine ⟨writes_text negative small, ?_⟩
    rw [isAccurate_iff, isRoundedOutward_iff small, within_iff_of_lt few]

end Numeral

end MiniApp
