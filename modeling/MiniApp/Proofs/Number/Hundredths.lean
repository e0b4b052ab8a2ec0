import MiniApp.Proofs.Number.Rounding

/-!
# The hundredths of a magnitude

A numeral is rounded three times on its way: a hundredfold is taken, rounded to a whole number and
divided again, and the quotient is shown in hundredths. Below 2^53 hundredths only the first rounding
can do harm, where it leads onto a half; from there on the quotient either gives the magnitude back or
is too far off.
-/

set_option autoImplicit false

namespace MiniApp

namespace Double

section Grid

variable {u i j : Nat}

theorem exists_scale_eq : ∃ places, 53 ≤ places ∧ scale = 2 ^ places := by
  unfold scale
  generalize same : 1074 = places
  exact ⟨places, by omega, rfl⟩

theorem pow_le_scale : 2 ^ 53 ≤ scale := by
  obtain ⟨places, enough, eq⟩ := exists_scale_eq
  rw [eq]
  exact Nat.pow_le_pow_right (by decide) enough

/-- The larger a magnitude is, the fewer parts of one are on its grid: 53 places are shared out. -/
theorem pow_mul_spacing_dvd_scale (shared : i + j = 53) (h : u < 2 ^ i * scale) :
    2 ^ j * spacing u ∣ scale := by
  obtain ⟨places, enough, eq⟩ := exists_scale_eq
  rw [eq, ← Nat.pow_add] at h
  rw [eq, spacing_eq, ← Nat.pow_add]
  refine Nat.pow_dvd_pow 2 ?_
  rcases Nat.eq_zero_or_pos u with rfl | positive
  · rw [Nat.log2_zero]
    omega
  · have := (Nat.log2_lt (Nat.pos_iff_ne_zero.1 positive)).2 h
    omega

theorem scale_dvd_pow_mul_spacing (shared : i + j = 52) (h : 2 ^ i * scale ≤ u) :
    scale ∣ 2 ^ j * spacing u := by
  obtain ⟨places, enough, eq⟩ := exists_scale_eq
  rw [eq, ← Nat.pow_add] at h
  rw [eq, spacing_eq, ← Nat.pow_add]
  refine Nat.pow_dvd_pow 2 ?_
  have positive : u ≠ 0 := by
    have := Nat.two_pow_pos (i + places)
    omega
  have := (Nat.le_log2 positive).2 h
  omega

end Grid

end Double

namespace Numeral

open Double

def product (units : Nat) : Nat := nearestUnits (100 * units) 1

/-- The whole number nearest to so many units, a half to the larger one. -/
def whole (units : Nat) : Nat := (2 * units + scale) / (2 * scale)

/-- The units of a hundredth of the rounded product. -/
def quotient (units : Nat) : Nat := nearestUnits (whole (product units) * scale) 100

/-- The hundredths that the numeral of so many units shows. -/
def shown (units : Nat) : Nat := roundHalfEven (100 * quotient units) scale

variable {u : Nat}

section Steps

theorem product_bounds (u : Nat) : 2 * (100 * u) ≤ 2 * product u + spacing (100 * u) ∧
    2 * product u ≤ 2 * (100 * u) + spacing (100 * u) := by
  simpa [product] using nearestUnits_bounds Nat.one_pos (100 * u)

theorem whole_bounds (p : Nat) : 2 * (whole p * scale) ≤ 2 * p + scale ∧
    2 * p + scale < 2 * (whole p * scale) + 2 * scale := by
  have positive : 0 < 2 * scale := Nat.mul_pos Nat.two_pos scale_pos
  have parts := Nat.div_add_mod (2 * p + scale) (2 * scale)
  have rest := Nat.mod_lt (2 * p + scale) positive
  have regroup : 2 * scale * whole p = 2 * (whole p * scale) := by ring
  rw [← whole, regroup] at parts
  omega

theorem whole_mul (n : Nat) : whole (n * scale) = n := by
  have positive := scale_pos
  have bounds := whole_bounds (n * scale)
  refine Nat.le_antisymm (Nat.le_of_not_lt fun more => ?_) (Nat.le_of_not_lt fun less => ?_)
  · have := Nat.mul_le_mul_right scale more
    rw [Nat.succ_mul] at this
    omega
  · have := Nat.mul_le_mul_right scale less
    rw [Nat.succ_mul] at this
    omega

theorem whole_mul_scale {p : Nat} (h : scale ∣ p) : whole p * scale = p := by
  obtain ⟨n, eq⟩ := exists_eq_mul_left_of_dvd h
  rw [eq, whole_mul]

theorem scale_dvd_product (h : scale ∣ spacing (100 * u)) : scale ∣ product u := by
  have grid := spacing_dvd_nearestUnits (100 * u) 1
  rw [Nat.div_one, ← product] at grid
  exact Nat.dvd_trans h grid

theorem quotient_bounds (u : Nat) :
    2 * (whole (product u) * scale) ≤
        2 * (100 * quotient u) + 100 * spacing (whole (product u) * scale / 100) ∧
      2 * (100 * quotient u) ≤
        2 * (whole (product u) * scale) + 100 * spacing (whole (product u) * scale / 100) :=
  nearestUnits_bounds (by decide) _

theorem shown_bounds (u : Nat) : 2 * (100 * quotient u) ≤ 2 * (shown u * scale) + scale ∧
    2 * (shown u * scale) ≤ 2 * (100 * quotient u) + scale := by
  have bounds := roundHalfEven_bounds (100 * quotient u) scale scale_pos
  have regroup : 2 * scale * shown u = 2 * (shown u * scale) := by ring
  rwa [← shown, regroup] at bounds

theorem shown_eq_whole (h : whole (product u) < 100 * 2 ^ 46) :
    shown u = whole (product u) := by
  have positive := scale_pos
  have small : whole (product u) * scale / 100 < 2 ^ 46 * scale := by
    have := Nat.mul_lt_mul_of_pos_right h positive
    exact Nat.div_lt_of_lt_mul (by rwa [← Nat.mul_assoc])
  have step := Nat.le_of_dvd positive (pow_mul_spacing_dvd_scale (j := 7) rfl small)
  have grid := spacing_pos (whole (product u) * scale / 100)
  have near := quotient_bounds u
  refine roundHalfEven_eq ?_ ?_ <;> rw [Nat.mul_comm scale] <;> omega

theorem shown_pos (h : 0 < whole (product u)) : 0 < shown u := by
  have positive := scale_pos
  rcases Nat.lt_or_ge (whole (product u)) (100 * 2 ^ 46) with small | large
  · rw [shown_eq_whole small]
    exact h
  · have much : 100 * 2 ^ 46 * scale ≤ whole (product u) * scale := Nat.mul_le_mul_right _ large
    have near := (quotient_bounds u).1
    have close := (shown_bounds u).1
    have fine := spacing_le (whole (product u) * scale / 100)
    refine Nat.pos_of_ne_zero fun none => ?_
    rw [none, Nat.zero_mul] at close
    omega

end Steps

section Fine

/-- The grid has all halves, or it has whole ones only. -/
theorem exists_half_or (u : Nat) :
    (∃ half, 2 * half = scale ∧ ∀ m, spacing u ∣ m * scale + half) ∨ scale ∣ spacing u := by
  rcases Nat.lt_or_ge u (2 ^ 52 * scale) with small | large
  · obtain ⟨f, halves⟩ := pow_mul_spacing_dvd_scale (j := 1) rfl small
    refine .inl ⟨spacing u * f, by rw [halves]; ring, fun m => ?_⟩
    exact Nat.dvd_add ⟨m * (2 * f), by rw [halves]; ring⟩ (Nat.dvd_mul_right ..)
  · exact .inr (by simpa only [Nat.pow_zero, Nat.one_mul] using
      scale_dvd_pow_mul_spacing (j := 0) rfl large)

theorem spacing_le_scale (h : u < 2 ^ 53 * scale) : spacing u ≤ scale := by
  simpa only [Nat.pow_zero, Nat.one_mul] using
    Nat.le_of_dvd scale_pos (pow_mul_spacing_dvd_scale (j := 0) rfl h)

theorem le_whole (h : 100 * u < 2 ^ 53 * scale) :
    2 * (100 * u) ≤ 2 * (whole (product u) * scale) + scale := by
  have bounds := whole_bounds (product u)
  rcases exists_half_or (100 * u) with ⟨half, two, point⟩ | ones
  · -- that half is on the grid, so the product would have reached it
    refine Nat.le_of_not_lt fun above => ?_
    have reached : whole (product u) * scale + half ≤ product u :=
      le_nearestUnits Nat.one_pos (by rw [Nat.div_one]; exact point _) (by omega)
    omega
  · have near := (product_bounds u).1
    have step := spacing_le_scale h
    rw [whole_mul_scale (scale_dvd_product ones)]
    omega

/-- The product is rounded away from zero onto a half, and then once more. -/
def RoundsUpToHalf (u : Nat) : Prop :=
  100 * u < product u ∧ ∃ m, 2 * product u = (2 * m + 1) * scale

theorem half_add (m : Nat) : (2 * m + 1) * scale + scale = 2 * ((m + 1) * scale) := by ring

theorem whole_eq_of_half {p m : Nat} (half : 2 * p = (2 * m + 1) * scale) : whole p = m + 1 := by
  rw [whole, half, half_add, Nat.mul_comm (m + 1), ← Nat.mul_assoc,
    Nat.mul_div_cancel_left _ (Nat.mul_pos Nat.two_pos scale_pos)]

theorem whole_le_or (h : 100 * u < 2 ^ 53 * scale) :
    2 * (whole (product u) * scale) ≤ 2 * (100 * u) + scale ∨ RoundsUpToHalf u := by
  have bounds := whole_bounds (product u)
  rcases exists_half_or (100 * u) with ⟨half, two, point⟩ | ones
  · rcases Nat.lt_or_ge (2 * (100 * u) + scale) (2 * (whole (product u) * scale)) with below | within
    · obtain ⟨m, next⟩ : ∃ m, whole (product u) = m + 1 :=
        Nat.exists_eq_succ_of_ne_zero fun none => by rw [none, Nat.zero_mul] at below; omega
      rw [next] at below bounds
      have between := half_add m
      have split : (m + 1) * scale = m * scale + scale := Nat.succ_mul m scale
      have kept : product u ≤ m * scale + half :=
        nearestUnits_le Nat.one_pos (by rw [Nat.div_one]; exact point _) (by omega)
      exact .inr ⟨by omega, m, by omega⟩
    · exact .inl within
  · have near := (product_bounds u).2
    have step := spacing_le_scale h
    rw [whole_mul_scale (scale_dvd_product ones)]
    omega

end Fine

section Coarse

theorem whole_mul_scale_of_le (h : 2 ^ 52 * scale ≤ 100 * u) :
    whole (product u) * scale = product u := by
  refine whole_mul_scale (scale_dvd_product ?_)
  simpa only [Nat.pow_zero, Nat.one_mul] using scale_dvd_pow_mul_spacing (j := 0) rfl h

theorem scale_dvd_of_le {v w : Nat} (h : 2 ^ 46 * scale ≤ v) (grid : spacing v ∣ w) :
    scale ∣ 64 * w :=
  Nat.dvd_trans (scale_dvd_pow_mul_spacing (j := 6) rfl h) (Nat.mul_dvd_mul_left _ grid)

end Coarse

section Within

theorem le_of_whole_le (h : 100 * 2 ^ 46 ≤ whole (product u)) : 2 ^ 52 * scale ≤ 100 * u := by
  have large : 100 * 2 ^ 46 * scale ≤ whole (product u) * scale := Nat.mul_le_mul_right _ h
  have bounds := (whole_bounds (product u)).1
  have near := (product_bounds u).2
  have fine := spacing_le (100 * u)
  have much := pow_le_scale
  omega

theorem le_whole_of_le (h : 2 ^ 46 * scale ≤ u) : 100 * 2 ^ 46 ≤ whole (product u) := by
  refine Nat.le_of_not_lt fun small => ?_
  have less : whole (product u) * scale ≤ (100 * 2 ^ 46 - 1) * scale :=
    Nat.mul_le_mul_right _ (by omega)
  have near := (product_bounds u).1
  have fine := spacing_le (100 * u)
  have much := pow_le_scale
  rw [whole_mul_scale_of_le (by omega)] at less
  omega

theorem lt_of_whole_lt (h : whole (product u) < 100 * 2 ^ 46) : 100 * u < 2 ^ 53 * scale := by
  have small : whole (product u) * scale ≤ 100 * 2 ^ 46 * scale := Nat.mul_le_mul_right _ h.le
  have bounds := (whole_bounds (product u)).2
  have near := (product_bounds u).1
  have fine := spacing_le (100 * u)
  have much := pow_le_scale
  omega

/-- What is shown differs by half a hundredth at most, and by what 51 places do not hold. -/
theorem shown_near (u : Nat) :
    2 ^ 51 * (2 * (100 * u)) ≤ 2 ^ 51 * (2 * (shown u * scale) + scale) + 2 * (100 * u) ∧
      2 ^ 51 * (2 * (shown u * scale)) ≤ 2 ^ 51 * (2 * (100 * u) + scale) + 2 * (100 * u) := by
  have fine := spacing_le (100 * u)
  rcases Nat.lt_or_ge (whole (product u)) (100 * 2 ^ 46) with small | large
  · have low := lt_of_whole_lt small
    have upper := le_whole low
    have near := (product_bounds u).2
    rw [shown_eq_whole small]
    rcases whole_le_or low with lower | ⟨up, m, half⟩
    · omega
    · have between := half_add m
      rw [whole_eq_of_half half] at upper ⊢
      omega
  · have high := le_of_whole_le large
    have near := product_bounds u
    have quotient := quotient_bounds u
    have close := shown_bounds u
    have step := spacing_le (whole (product u) * scale / 100)
    have much := pow_le_scale
    rw [whole_mul_scale_of_le high] at quotient step
    omega

/-- What is shown is right to half a hundredth. -/
def Within (u : Nat) : Prop :=
  2 * (100 * u) ≤ 2 * (shown u * scale) + scale ∧ 2 * (shown u * scale) ≤ 2 * (100 * u) + scale

theorem within_of_quotient (h : quotient u = u) : Within u := by
  have close := shown_bounds u
  rwa [h] at close

theorem within_iff_of_lt (small : whole (product u) < 100 * 2 ^ 46) :
    Within u ↔ ¬ RoundsUpToHalf u := by
  have low := lt_of_whole_lt small
  rw [Within, shown_eq_whole small]
  constructor
  · rintro ⟨-, hi⟩ ⟨up, m, half⟩
    have between := half_add m
    rw [whole_eq_of_half half] at hi
    omega
  · exact fun other => ⟨le_whole low, (whole_le_or low).resolve_right other⟩

variable (magnitude : IsMagnitude u)
include magnitude

theorem whole_lt (h : u < 2 ^ 46 * scale) : whole (product u) < 100 * 2 ^ 46 := by
  refine Nat.lt_of_not_le fun large => ?_
  have much : 100 * 2 ^ 46 * scale ≤ whole (product u) * scale := Nat.mul_le_mul_right _ large
  have high := le_of_whole_le large
  have step := spacing_le_scale (u := 100 * u) (by omega)
  have near := (product_bounds u).2
  rw [whole_mul_scale_of_le high] at much
  -- below 2^46 the last magnitude is a 128th less, which makes 100 128ths of a hundredth
  obtain ⟨n, parts⟩ : scale ∣ 2 ^ 7 * u :=
    Nat.dvd_trans (scale_dvd_pow_mul_spacing (i := 45) rfl (by omega))
      (Nat.mul_dvd_mul_left _ magnitude)
  have last : n ≤ 2 ^ 53 - 1 := Nat.le_of_not_lt fun more => by
    have := Nat.mul_le_mul_left scale more
    omega
  have below := Nat.mul_le_mul_left scale last
  omega

theorem within_iff_of_le (h : 2 ^ 46 * scale ≤ u) : Within u ↔ quotient u = u := by
  refine ⟨fun within => ?_, within_of_quotient⟩
  have large : 100 * 2 ^ 46 * scale ≤ whole (product u) * scale :=
    Nat.mul_le_mul_right _ (le_whole_of_le h)
  obtain ⟨m, other⟩ : scale ∣ 64 * quotient u :=
    scale_dvd_of_le (by omega) (spacing_dvd_nearestUnits _ 100)
  obtain ⟨n, own⟩ := scale_dvd_of_le h magnitude
  have close := shown_bounds u
  have positive := scale_pos
  obtain ⟨lo, hi⟩ := within
  rcases Nat.lt_trichotomy m n with less | rfl | more
  · have apart := Nat.mul_le_mul_left scale less
    rw [Nat.mul_succ] at apart
    omega
  · omega
  · have apart := Nat.mul_le_mul_left scale more
    rw [Nat.mul_succ] at apart
    omega

end Within

end Numeral

end MiniApp
