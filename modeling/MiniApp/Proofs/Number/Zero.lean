import Mathlib.Tactic.Common
import MiniApp.Number.Numeral

set_option autoImplicit false

namespace MiniApp

namespace Double

/-- The same number: the same double, or zero twice. -/
def Alike (a b : Double) : Prop := a = b ∨ a.isZero = true ∧ b.isZero = true

theorem isZero_iff {d : Double} : d.isZero = true ↔ ∃ negative, d = .finite negative 0 := by
  cases d <;> simp [isZero]

theorem alike_of_equals {a b : Double} (h : a.equals b = true) : a.Alike b := by
  cases a <;> cases b <;> simp only [equals, Bool.false_eq_true, beq_iff_eq] at h
  · exact .inl (congrArg infinite h)
  · next negative units negative' units' =>
    have same : negative = negative' ∧ units = units' ∨ units = 0 ∧ units' = 0 := by
      cases negative <;> cases negative' <;> simp [signed] at h ⊢ <;> omega
    rcases same with ⟨rfl, rfl⟩ | ⟨rfl, rfl⟩
    · exact .inl rfl
    · exact .inr ⟨rfl, rfl⟩

theorem scale_pos : 0 < scale := by decide +kernel

theorem limit_pos : 0 < limit := by decide +kernel

section Zero

variable {d e : Double}

theorem nearestUnits_zero (den : Nat) : nearestUnits 0 den = 0 := by
  simp [nearestUnits, roundHalfEven]

theorem ofRatio_zero (negative : Bool) (den : Nat) :
    ofRatio negative 0 den = .finite negative 0 := by
  rw [ofRatio, nearestUnits_zero]
  exact if_pos limit_pos

theorem isZero_mul (hd : d.isZero = true) (he : e.isFinite = true) : (d.mul e).isZero = true := by
  obtain ⟨negative, rfl⟩ := isZero_iff.1 hd
  cases e with
  | nan | infinite => cases he
  | finite negative' units =>
    rw [mul, Nat.zero_mul, ofRatio_zero]
    rfl

theorem isZero_div (hd : d.isZero = true) (he : e.isNormal = true) : (d.div e).isZero = true := by
  obtain ⟨negative, rfl⟩ := isZero_iff.1 hd
  cases e with
  | nan | infinite => cases he
  | finite negative' units =>
    have large : Nat.pow 2 52 ≤ units := of_decide_eq_true he
    have apart : units ≠ 0 := by
      rintro rfl
      exact absurd large (by decide)
    rw [div, if_neg apart, Nat.zero_mul, ofRatio_zero]
    rfl

theorem isZero_round (h : d.isZero = true) : d.round.isZero = true := by
  obtain ⟨negative, rfl⟩ := isZero_iff.1 h
  have positive := scale_pos
  have none : (2 * 0 + scale) / (2 * scale) * scale = 0 := by
    rw [Nat.div_eq_of_lt (by omega), Nat.zero_mul]
  rw [round, none]
  rfl

theorem isFinite_of_isNormal (h : d.isNormal = true) : d.isFinite = true := by
  cases d with
  | nan | infinite => cases h
  | finite => rfl

theorem toNat_of_isZero (h : d.isZero = true) : d.toNat = 0 := by
  obtain ⟨negative, rfl⟩ := isZero_iff.1 h
  exact Nat.zero_div _

theorem nearestUnits_pos {num : Nat} (h : 0 < num) : 0 < nearestUnits num 1 := by
  have power : 2 ^ (num.log2 - 52) ≤ 2 ^ num.log2 :=
    Nat.pow_le_pow_right (by decide) (Nat.sub_le ..)
  have small : spacing num ≤ num := Nat.le_trans power (Nat.log2_self_le (by omega))
  have step : 0 < spacing num := Nat.two_pow_pos _
  have once : 1 ≤ num / spacing num := (Nat.one_le_div_iff step).2 small
  have rounded : num / spacing num ≤ roundHalfEven num (spacing num) := by
    rw [roundHalfEven]
    split_ifs <;> omega
  rw [nearestUnits, Nat.div_one, Nat.one_mul]
  exact Nat.mul_pos (by omega) step

theorem lt_ofNat_of_isZero (h : d.isZero = true) {n : Nat} (hn : 0 < n) :
    d.lt (.ofNat n) = true := by
  obtain ⟨negative, rfl⟩ := isZero_iff.1 h
  have positive : 0 < nearestUnits (n * scale) 1 :=
    nearestUnits_pos (Nat.mul_pos hn scale_pos)
  rw [ofNat, ofRatio]
  split_ifs
  · rw [lt_finite]
    cases negative <;> simpa [signed] using positive
  · rfl

end Zero

theorem Alike.refl (d : Double) : d.Alike d := .inl rfl

variable {a b : Double}

theorem Alike.lt_left (h : a.Alike b) (c : Double) : a.lt c = b.lt c := by
  rcases h with rfl | ⟨ha, hb⟩
  · rfl
  · obtain ⟨negative, rfl⟩ := isZero_iff.1 ha
    obtain ⟨negative', rfl⟩ := isZero_iff.1 hb
    cases c <;> cases negative <;> cases negative' <;> rfl

theorem Alike.lt_right (h : a.Alike b) (c : Double) : c.lt a = c.lt b := by
  rcases h with rfl | ⟨ha, hb⟩
  · rfl
  · obtain ⟨negative, rfl⟩ := isZero_iff.1 ha
    obtain ⟨negative', rfl⟩ := isZero_iff.1 hb
    cases c <;> cases negative <;> cases negative' <;> rfl

theorem Alike.isZero_eq (h : a.Alike b) : a.isZero = b.isZero := by
  rcases h with rfl | ⟨ha, hb⟩
  · rfl
  · rw [ha, hb]

theorem Alike.isFinite_eq (h : a.Alike b) : a.isFinite = b.isFinite := by
  rcases h with rfl | ⟨ha, hb⟩
  · rfl
  · obtain ⟨negative, rfl⟩ := isZero_iff.1 ha
    obtain ⟨negative', rfl⟩ := isZero_iff.1 hb
    rfl

theorem Alike.clamp (h : a.Alike b) (lo hi : Double) : (a.clamp lo hi).Alike (b.clamp lo hi) := by
  have raised : (if a.lt lo then lo else a).Alike (if b.lt lo then lo else b) := by
    rw [h.lt_left]
    split_ifs
    · exact .refl lo
    · exact h
  rw [Double.clamp, Double.clamp]
  generalize (if a.lt lo then lo else a) = c at raised
  generalize (if b.lt lo then lo else b) = d at raised
  rw [raised.lt_right]
  split_ifs
  · exact .refl hi
  · exact raised

theorem Alike.clamp_eq (h : a.Alike b) {lo : Nat} (positive : 0 < lo) (hi : Double) :
    a.clamp (.ofNat lo) hi = b.clamp (.ofNat lo) hi := by
  rcases h with rfl | ⟨ha, hb⟩
  · rfl
  · rw [Double.clamp, Double.clamp, if_pos (lt_ofNat_of_isZero ha positive),
      if_pos (lt_ofNat_of_isZero hb positive)]

theorem Alike.round (h : a.Alike b) : a.round.Alike b.round :=
  h.imp (congrArg Double.round) fun zeros => ⟨isZero_round zeros.1, isZero_round zeros.2⟩

theorem Alike.toNat_eq (h : a.Alike b) : a.toNat = b.toNat := by
  rcases h with rfl | ⟨ha, hb⟩
  · rfl
  · rw [toNat_of_isZero ha, toNat_of_isZero hb]

end Double

namespace Numeral

theorem isNormal_hundred : hundred.isNormal = true := by decide +kernel

theorem text_of_isZero {d : Double} (h : d.isZero = true) : text d = "0" := by
  have rounded : (((d.mul hundred).round).div hundred).isZero = true :=
    Double.isZero_div (Double.isZero_round
      (Double.isZero_mul h (Double.isFinite_of_isNormal isNormal_hundred))) isNormal_hundred
  obtain ⟨sign, found⟩ := Double.isZero_iff.1 rounded
  obtain ⟨negative, rfl⟩ := Double.isZero_iff.1 h
  have whole : 0 / Double.scale = 0 := Nat.zero_div _
  have below : 0 < wholeLimit := Nat.pow_pos (by decide)
  have digit : toString 0 = "0" := rfl
  rw [text, found, Double.isFinite]
  simp [whole, below, signText, digit]

theorem text_congr {a b : Double} (h : a.Alike b) : text a = text b := by
  rcases h with rfl | ⟨ha, hb⟩
  · rfl
  · rw [text_of_isZero ha, text_of_isZero hb]

end Numeral

end MiniApp
