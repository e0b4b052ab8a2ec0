import Mathlib.Algebra.Order.Field.Basic
import Mathlib.Data.Rat.Cast.Order
import Mathlib.Tactic.FieldSimp
import Mathlib.Tactic.NormNum
import MiniApp.Proofs.Number.Spelling

set_option autoImplicit false

namespace MiniApp

namespace Double

def value : Double → ℚ
  | .finite negative units => signed negative units / scale
  | _ => 0

inductive IsRepresentable : Double → Prop
  | finite (negative : Bool) {units : Nat} (magnitude : IsMagnitude units) (small : units < limit) :
      IsRepresentable (.finite negative units)

theorem IsRepresentable.isFinite {d : Double} (h : d.IsRepresentable) : d.isFinite = true := by
  cases h with
  | finite => rfl

theorem isRepresentable_zero (negative : Bool) : (finite negative 0).IsRepresentable :=
  .finite negative (Nat.dvd_zero _) limit_pos

theorem isRepresentable_ofRatio (negative : Bool) {num den : Nat} (positive : 0 < den)
    (finite : (ofRatio negative num den).isFinite = true) :
    (ofRatio negative num den).IsRepresentable := by
  cases Nat.lt_or_ge (nearestUnits num den) limit with
  | inl small =>
    rw [ofRatio, if_pos small]
    exact .finite negative (isMagnitude_nearestUnits num positive) small
  | inr large =>
    rw [ofRatio, if_neg (Nat.not_lt.2 large)] at finite
    cases finite

section Value

variable (negative : Bool) (h u : Nat)

theorem scale_cast_pos : (0 : ℚ) < scale := Nat.cast_pos.2 scale_pos

theorem value_finite : (finite negative u).value = signed negative u / scale := rfl

theorem abs_signed : |(signed negative h : ℚ)| = h := by
  cases negative <;> simp [signed]

theorem abs_value : |(finite negative u).value| = (u : ℚ) / scale := by
  rw [value_finite, abs_div, abs_of_pos scale_cast_pos, abs_signed]

theorem abs_sub_value : |(signed negative h : ℚ) / 100 - (finite negative u).value| =
    |(h : ℚ) / 100 - u / scale| := by
  rw [value_finite]
  generalize (scale : ℚ) = k
  cases negative with
  | false => simp [signed]
  | true =>
    have opposite : -(h : ℚ) / 100 - -(u : ℚ) / k = -((h : ℚ) / 100 - u / k) := by ring
    simp only [signed, if_true, Int.cast_neg, Int.cast_natCast]
    rw [opposite, abs_neg]

theorem abs_sub_le_iff (e : ℚ) : |(h : ℚ) / 100 - u / scale| ≤ 1 / 200 + e ↔
    2 * (100 * u : ℚ) ≤ 2 * (h * scale) + scale + 200 * e * scale ∧
      2 * (h * scale : ℚ) ≤ 2 * (100 * u) + scale + 200 * e * scale := by
  have positive := scale_cast_pos
  -- the scale is a numeral of a thousand places, which `field_simp` would compute
  generalize (scale : ℚ) = k at positive ⊢
  have joined : (h : ℚ) / 100 - u / k = (2 * (h * k) - 2 * (100 * u)) / (200 * k) := by
    field_simp
    ring
  have bound : (1 / 200 + e) * (200 * k) = k + 200 * e * k := by ring
  rw [joined, abs_div, abs_of_pos (by positivity : (0 : ℚ) < 200 * k),
    div_le_iff₀ (by positivity), bound, abs_le]
  constructor
  · rintro ⟨lo, hi⟩
    constructor <;> linarith
  · rintro ⟨lo, hi⟩
    constructor <;> linarith

end Value

end Double

namespace Numeral

open Double

/-- The hundredths that the numeral of a number shows. -/
def hundredths : Double → Int
  | .finite negative units => signed negative (shown units)
  | _ => 0

/-- The product by a hundred is rounded away from zero onto a half. -/
def IsRoundedOutward (d : Double) : Prop :=
  |100 * d.value| < |(d.mul hundred).value| ∧ ∃ m : Nat, |(d.mul hundred).value| = m + 1 / 2

/-- The numeral is right to half a hundredth. -/
def IsAccurate (d : Double) : Prop := |(hundredths d : ℚ) / 100 - d.value| ≤ 1 / 200

variable {negative : Bool} {u : Nat}

theorem isAccurate_iff : IsAccurate (.finite negative u) ↔ Within u := by
  have bound := abs_sub_le_iff (shown u) u 0
  rw [add_zero, mul_zero, zero_mul, add_zero, add_zero] at bound
  rw [IsAccurate, hundredths, abs_sub_value, bound, Within]
  norm_cast

theorem isRoundedOutward_iff (h : product u < limit) :
    IsRoundedOutward (.finite negative u) ↔ RoundsUpToHalf u := by
  have positive := scale_cast_pos
  rw [IsRoundedOutward, mul_hundred, if_pos h, abs_mul, abs_value, abs_value, abs_of_pos (by norm_num),
    RoundsUpToHalf, mul_div_assoc', div_lt_div_iff_of_pos_right positive]
  refine and_congr (by rw [← Nat.cast_lt (α := ℚ), Nat.cast_mul, Nat.cast_ofNat]) ?_
  refine exists_congr fun m => ?_
  rw [div_eq_iff (ne_of_gt positive)]
  constructor
  · intro half
    have doubled : (2 * product u : ℚ) = (2 * m + 1) * scale := by linarith
    exact_mod_cast doubled
  · intro half
    have doubled : (2 * product u : ℚ) = (2 * m + 1) * scale := by exact_mod_cast half
    linarith

theorem abs_hundredths_sub_le (d : Double) :
    |(hundredths d : ℚ) / 100 - d.value| ≤ 1 / 200 + |d.value| / 2 ^ 51 := by
  cases d with
  | finite negative u =>
    have positive := scale_cast_pos
    obtain ⟨lo, hi⟩ := shown_near u
    have lo' : (2 ^ 51 * (2 * (100 * u)) : ℚ) ≤
        2 ^ 51 * (2 * (shown u * scale) + scale) + 2 * (100 * u) := by exact_mod_cast lo
    have hi' : (2 ^ 51 * (2 * (shown u * scale)) : ℚ) ≤
        2 ^ 51 * (2 * (100 * u) + scale) + 2 * (100 * u) := by exact_mod_cast hi
    have loss : 200 * ((u : ℚ) / scale / 2 ^ 51) * scale = 200 * u / 2 ^ 51 := by field_simp
    rw [hundredths, abs_sub_value, abs_value, abs_sub_le_iff, loss]
    constructor <;> linarith
  | _ => norm_num [hundredths, value]

theorem lt_pow_iff : |(Double.finite negative u).value| < 2 ^ 46 ↔ u < 2 ^ 46 * scale := by
  rw [abs_value, div_lt_iff₀ scale_cast_pos]
  norm_cast

theorem product_lt_limit_iff :
    ((Double.finite negative u).mul hundred).isFinite = true ↔ product u < limit := by
  rw [mul_hundred]
  constructor
  · refine fun finite => Nat.lt_of_not_le fun large => ?_
    rw [if_neg (Nat.not_lt.2 large)] at finite
    cases finite
  · intro small
    rw [if_pos small]
    rfl

theorem div_mul_hundred (h : product u < limit) (plain : whole (product u) * scale = product u) :
    ((Double.finite negative u).mul hundred).div hundred = .finite negative (quotient u) := by
  have rounded := round_div_hundred negative h
  rw [Double.round, ← whole, plain] at rounded
  rw [mul_hundred, if_pos h, rounded]

section Finite

variable {d : Double} (small : (d.mul hundred).isFinite = true)
include small

theorem writes_hundredths (finite : d.isFinite = true) : Writes (hundredths d) (text d) := by
  cases d with
  | finite negative u => exact writes_text negative (product_lt_limit_iff.1 small)
  | _ => cases finite

variable (exact : d.IsRepresentable)
include exact

/-- Below 2^46 only the product can lead too far. -/
theorem isAccurate_iff_of_lt (h : |d.value| < 2 ^ 46) : IsAccurate d ↔ ¬ IsRoundedOutward d := by
  cases exact with
  | finite negative magnitude =>
    rw [isAccurate_iff, isRoundedOutward_iff (product_lt_limit_iff.1 small)]
    exact within_iff_of_lt (whole_lt magnitude (lt_pow_iff.1 h))

/-- From 2^46 on the quotient has to give the number back. -/
theorem isAccurate_iff_of_le (h : 2 ^ 46 ≤ |d.value|) :
    IsAccurate d ↔ (d.mul hundred).div hundred = d := by
  cases exact with
  | @finite negative u magnitude =>
    have large : 2 ^ 46 * scale ≤ u := Nat.le_of_not_lt fun less => not_lt.2 h (lt_pow_iff.2 less)
    have plain := whole_mul_scale_of_le (u := u) (by omega)
    rw [isAccurate_iff, within_iff_of_le magnitude large,
      div_mul_hundred (product_lt_limit_iff.1 small) plain]
    simp

end Finite

theorem text_of_infinite {d : Double} (finite : d.isFinite = true)
    (large : (d.mul hundred).isFinite = false) :
    ∃ negative, d.mul hundred = .infinite negative ∧ text d = signText negative ++ "inf" := by
  cases d with
  | finite negative u =>
    have beyond : limit ≤ product u := Nat.le_of_not_lt fun small => by
      rw [product_lt_limit_iff.2 small] at large
      cases large
    exact ⟨negative, (mul_hundred negative u).trans (if_neg (Nat.not_lt.2 beyond)),
      text_of_limit_le negative beyond⟩
  | _ => cases finite

/-- What the numeral of a number shows, and how far that is from the number. -/
structure Tells (d : Double) (s : String) : Prop where
  near : |(hundredths d : ℚ) / 100 - d.value| ≤ 1 / 200 + |d.value| / 2 ^ 51
  writes : (d.mul hundred).isFinite = true → Writes (hundredths d) s
  below : (d.mul hundred).isFinite = true → |d.value| < 2 ^ 46 →
    (IsAccurate d ↔ ¬ IsRoundedOutward d)
  above : (d.mul hundred).isFinite = true → 2 ^ 46 ≤ |d.value| →
    (IsAccurate d ↔ (d.mul hundred).div hundred = d)
  beyond : (d.mul hundred).isFinite = false →
    ∃ negative, d.mul hundred = .infinite negative ∧ s = signText negative ++ "inf"

theorem tells_text {d : Double} (h : d.IsRepresentable) : Tells d (text d) where
  near := abs_hundredths_sub_le d
  writes small := writes_hundredths small h.isFinite
  below small := isAccurate_iff_of_lt small h
  above small := isAccurate_iff_of_le small h
  beyond := text_of_infinite h.isFinite

end Numeral

end MiniApp
