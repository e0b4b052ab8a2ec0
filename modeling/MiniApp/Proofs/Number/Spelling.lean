import MiniApp.Proofs.Number.Hundredths
import MiniApp.Proofs.Number.Reading

set_option autoImplicit false

namespace MiniApp.Numeral

open Double

/-- Hundredths in digits, with no zeros at the end of a fraction. -/
inductive Spells : Nat → List Char → Prop
  | whole (n : Nat) : Spells (100 * n) (Nat.toDigits 10 n)
  | tenths (n : Nat) {t : Nat} (some : 0 < t) (digit : t < 10) :
      Spells (100 * n + 10 * t) (Nat.toDigits 10 n ++ ['.', Nat.digitChar t])
  | hundredths (n : Nat) {t h : Nat} (first : t < 10) (some : 0 < h) (digit : h < 10) :
      Spells (100 * n + 10 * t + h) (Nat.toDigits 10 n ++ ['.', Nat.digitChar t, Nat.digitChar h])

def Writes (hundredths : Int) (s : String) : Prop :=
  ∃ digits, Spells hundredths.natAbs digits ∧
    s.toList = (signText (hundredths < 0)).toList ++ digits

section Digits

theorem digitChar_ne_point {t : Nat} (digit : t < 10) : Nat.digitChar t ≠ '.' := by
  revert t
  decide

theorem digitChar_eq_zero_iff {t : Nat} (digit : t < 10) : Nat.digitChar t = '0' ↔ t = 0 := by
  revert t
  decide

theorem spells_dropZeros (n : Nat) {t h : Nat} (first : t < 10) (second : h < 10) :
    Spells (100 * n + 10 * t + h)
      (dropZeros (toString n ++ "." ++ toString t ++ toString h)).toList := by
  have parts : (toString n ++ "." ++ toString t ++ toString h).toList.reverse =
      Nat.digitChar h :: Nat.digitChar t :: '.' :: (Nat.toDigits 10 n).reverse := by
    simp [Nat.toDigits_of_lt_base first, Nat.toDigits_of_lt_base second]
  have whole := dropWhile_point_append (List.reverse_ne_nil_iff.2 Nat.toDigits_ne_nil)
    (fun c hc => isDigit_of_mem_toDigits (n := n) c (List.mem_reverse.1 hc)) []
  rw [List.append_nil] at whole
  have zero : Nat.digitChar 0 = '0' := rfl
  rw [dropZeros, String.toList_ofList, parts]
  rcases Nat.eq_zero_or_pos h with rfl | some
  · rcases Nat.eq_zero_or_pos t with rfl | some
    · simpa [zero, whole] using Spells.whole n
    · have shown := mt (digitChar_eq_zero_iff first).1 (Nat.ne_of_gt some)
      simpa [zero, shown, digitChar_ne_point first] using Spells.tenths n some first
  · have shown := mt (digitChar_eq_zero_iff second).1 (Nat.ne_of_gt some)
    simpa [shown, digitChar_ne_point second] using Spells.hundredths n first some second

theorem spells_twoPlaces (units : Nat) :
    Spells (roundHalfEven (100 * units) scale) (dropZeros (twoPlaces units)).toList := by
  have parts (h : Nat) : 100 * (h / 100) + 10 * (h % 100 / 10) + h % 100 % 10 = h := by omega
  have spelled := spells_dropZeros (roundHalfEven (100 * units) scale / 100)
    (t := roundHalfEven (100 * units) scale % 100 / 10)
    (h := roundHalfEven (100 * units) scale % 100 % 10) (by omega) (by omega)
  rwa [parts] at spelled

end Digits

section Whole

theorem Spells.shown {hundredths : Nat} {digits : List Char} (h : Spells hundredths digits) :
    Shown digits := by
  have isDigit {t : Nat} (small : t < 10) : (Nat.digitChar t).isDigit = true :=
    isDigit_of_mem_toDigits (n := t) _ (by simp [Nat.toDigits_of_lt_base small])
  cases h with
  | whole n => exact .whole n
  | tenths n _ digit =>
    exact .fraction n (List.cons_ne_nil _ _) (List.forall_mem_singleton.2 (isDigit digit))
  | hundredths n first _ digit =>
    refine .fraction n (List.cons_ne_nil _ _) (List.forall_mem_cons.2 ⟨isDigit first, ?_⟩)
    exact List.forall_mem_singleton.2 (isDigit digit)

theorem Spells.eq_toDigits_iff {hundredths : Nat} {digits : List Char} (h : Spells hundredths digits)
    (m : Nat) : digits = Nat.toDigits 10 m ↔ hundredths = 100 * m := by
  have pointed (front behind : List Char) : front ++ '.' :: behind ≠ Nat.toDigits 10 m := fun same =>
    absurd (isDigit_of_mem_toDigits (n := m) '.' (by rw [← same]; simp)) (by decide)
  cases h with
  | whole n =>
    constructor
    · intro same
      have value := congrArg (Nat.ofDigitChars 10 · 0) same
      simpa using value
    · intro same
      rw [Nat.eq_of_mul_eq_mul_left (by decide) same]
  | tenths n some digit => exact iff_of_false (pointed _ _) (by omega)
  | hundredths n first some digit => exact iff_of_false (pointed _ _) (by omega)

theorem toList_toString_int (i : Int) :
    (toString i).toList = (signText (i < 0)).toList ++ Nat.toDigits 10 i.natAbs := by
  cases i with
  | ofNat m =>
    change (toString m).toList = _
    rw [toList_toString]
    rfl
  | negSucc m =>
    change ("-" ++ toString (m + 1)).toList = _
    rw [String.toList_append, toList_toString, decide_eq_true (Int.negSucc_lt_zero m)]
    rfl

theorem Writes.eq_toString_iff {h : Int} {s : String} (writes : Writes h s) (i : Int) :
    s = toString i ↔ h = 100 * i := by
  obtain ⟨digits, spells, parts⟩ := writes
  have own := toList_toString_int i
  rw [← String.toList_inj, parts, own]
  constructor
  · intro same
    obtain ⟨c, cs, front, digit⟩ := spells.shown.exists_digit
    obtain ⟨c', cs', front', digit'⟩ := (Shown.whole i.natAbs).exists_digit
    have signs := congrArg Decimal.takeSign same
    rw [front, front', takeSign_append _ digit, takeSign_append _ digit', ← front, ← front',
      Prod.mk.injEq, decide_eq_decide, spells.eq_toDigits_iff] at signs
    omega
  · rintro rfl
    have sign : decide (100 * i < 0) = decide (i < 0) := decide_eq_decide.2 (by omega)
    rw [sign, (spells.eq_toDigits_iff i.natAbs).2 (by omega)]

end Whole

section Text

theorem hundred_eq : hundred = .finite false (100 * scale) := by decide +kernel

theorem scale_le_limit : scale + 100 ≤ limit := by decide +kernel

variable (negative : Bool) {u : Nat}

theorem mul_hundred (u : Nat) : (Double.finite negative u).mul hundred =
    if product u < limit then .finite negative (product u) else .infinite negative := by
  have regroup : u * (100 * scale) = 100 * u * scale := by ring
  have same : nearestUnits (u * (100 * scale)) scale = product u := by
    have reduced := nearestUnits_mul (100 * u) 1 scale_pos
    rw [Nat.one_mul] at reduced
    rw [regroup, reduced, product]
  rw [hundred_eq, Double.mul, ofRatio, same, Bool.bne_false]

theorem quotient_lt_limit (h : product u < limit) : quotient u < limit := by
  have bounds := (whole_bounds (product u)).1
  have near := (quotient_bounds u).2
  have fine := spacing_le (whole (product u) * scale / 100)
  have room := scale_le_limit
  omega

theorem round_div_hundred (h : product u < limit) :
    ((Double.finite negative (product u)).round).div hundred = .finite negative (quotient u) := by
  have apart : 100 * scale ≠ 0 := Nat.ne_of_gt (Nat.mul_pos (by decide) scale_pos)
  have same : nearestUnits (whole (product u) * scale * scale) (100 * scale) = quotient u :=
    nearestUnits_mul _ 100 scale_pos
  rw [hundred_eq, Double.round, ← whole, Double.div, if_neg apart, ofRatio, same, Bool.bne_false,
    if_pos (quotient_lt_limit h)]

theorem natAbs_signed (u : Nat) : (signed negative u).natAbs = u := by
  cases negative
  · exact Int.natAbs_natCast u
  · exact (Int.natAbs_neg u).trans (Int.natAbs_natCast u)

theorem decide_signed_neg (u : Nat) : decide (signed negative u < 0) = (negative && u != 0) := by
  cases negative with
  | false => simp [signed]
  | true =>
    rw [Bool.true_and, Bool.eq_iff_iff, decide_eq_true_iff, bne_iff_ne, signed, if_pos rfl]
    omega

theorem text_eq (h : product u < limit) : text (.finite negative u) =
    if quotient u % scale = 0 ∧ quotient u / scale < wholeLimit then
      signText (negative && quotient u / scale != 0) ++ toString (quotient u / scale)
    else signText negative ++ dropZeros (twoPlaces (quotient u)) := by
  rw [text, if_neg (by simp [Double.isFinite]), mul_hundred, if_pos h, round_div_hundred negative h]

theorem shown_eq_mul {n : Nat} (h : quotient u = n * scale) : shown u = 100 * n := by
  have positive := scale_pos
  have regroup : scale * (100 * n) = 100 * (n * scale) := by ring
  refine roundHalfEven_eq ?_ ?_ <;> rw [h, regroup] <;> omega

/-- A numeral writes what is shown, if a hundred times the number is not too large. -/
theorem writes_text (h : product u < limit) :
    Writes (signed negative (shown u)) (text (.finite negative u)) := by
  rw [text_eq negative h, Writes, natAbs_signed, decide_signed_neg]
  split_ifs with plain
  · have exact := (Nat.div_mul_cancel (Nat.dvd_of_mod_eq_zero plain.1)).symm
    have digits := shown_eq_mul exact
    have sign : (shown u != 0) = (quotient u / scale != 0) := by
      rw [digits, Bool.eq_iff_iff, bne_iff_ne, bne_iff_ne]
      omega
    refine ⟨Nat.toDigits 10 (quotient u / scale), ?_, ?_⟩
    · rw [digits]
      exact .whole _
    · rw [String.toList_append, toList_toString, sign]
  · have some : quotient u ≠ 0 := by
      intro none
      refine plain ?_
      rw [none, Nat.zero_mod, Nat.zero_div]
      exact ⟨rfl, Nat.pow_pos (by decide)⟩
    have more : 0 < whole (product u) := Nat.pos_of_ne_zero fun none => some (by
      rw [quotient, none, Nat.zero_mul, nearestUnits_zero])
    have sign : (shown u != 0) = true := bne_iff_ne.2 (Nat.ne_of_gt (shown_pos more))
    refine ⟨_, spells_twoPlaces _, ?_⟩
    rw [String.toList_append, sign, Bool.and_true]

theorem text_of_limit_le (h : limit ≤ product u) :
    text (.finite negative u) = signText negative ++ "inf" := by
  have infinite : ((Double.infinite negative).round).div hundred = .infinite negative := by
    rw [hundred_eq, Double.round, Double.div, Bool.bne_false]
    exact fun _ _ no => by cases no
  rw [text, if_neg (by simp [Double.isFinite]), mul_hundred, if_neg (Nat.not_lt.2 h), infinite]

end Text

end MiniApp.Numeral
