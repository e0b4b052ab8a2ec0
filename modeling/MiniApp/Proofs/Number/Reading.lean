import Mathlib.Data.List.TakeWhile
import MiniApp.Proofs.Number.Numeral
import MiniApp.Proofs.Text.Runs

set_option autoImplicit false

namespace MiniApp

namespace Numeral

/-- The number that a decimal numeral of a script stands for. It starts with a zero only before the
point, since another numeral that does may stand for a number in base eight. -/
def value? (word : List Char) : Option Double :=
  match (Decimal.takeSign word).2 with
  | '0' :: c :: _ => if c.isDigit then none else (Decimal.read? word).map Decimal.toDouble
  | _ => (Decimal.read? word).map Decimal.toDouble

section Digits

theorem toList_toString (n : Nat) : (toString n).toList = Nat.toDigits 10 n := by
  rw [Nat.toString_eq_ofList_toDigits, String.toList_ofList]

theorem isDigit_of_mem_toDigits {n : Nat} : ∀ c ∈ Nat.toDigits 10 n, c.isDigit = true :=
  fun _ hc => Nat.isDigit_of_mem_toDigits (by decide) (Nat.le_refl 10) hc

theorem exists_toDigits_eq_cons (n : Nat) : ∃ c cs, Nat.toDigits 10 n = c :: cs :=
  List.exists_cons_of_ne_nil Nat.toDigits_ne_nil

theorem toDigits_eq_zero_cons {n : Nat} {rest : List Char} (h : Nat.toDigits 10 n = '0' :: rest) :
    rest = [] := by
  induction n using Nat.strongRecOn generalizing rest with
  | ind n ih =>
    rcases Nat.lt_or_ge n 10 with small | large
    · rw [Nat.toDigits_of_lt_base small, List.cons.injEq] at h
      exact h.2.symm
    · rw [Nat.toDigits_of_base_le (by decide) large] at h
      obtain ⟨c, cs, front⟩ := exists_toDigits_eq_cons (n / 10)
      rw [front, List.cons_append, List.cons.injEq] at h
      obtain ⟨rfl, -⟩ := h
      -- nothing but zero has a zero in front, and the part before the last digit is not zero
      have alone := ih (n / 10) (by omega) front
      subst alone
      have value := Nat.ofDigitChars_ten_toDigits (n := n / 10)
      rw [front] at value
      have zero : n / 10 = 0 := value.symm
      omega

end Digits

section Shape

inductive Shown : List Char → Prop
  | whole (n : Nat) : Shown (Nat.toDigits 10 n)
  | fraction (n : Nat) {ds : List Char} (some : ds ≠ []) (digits : ∀ c ∈ ds, c.isDigit = true) :
      Shown (Nat.toDigits 10 n ++ '.' :: ds)

/-- The texts of infinity and of what is not a number. -/
def unreadable : List String := ["inf", "-inf", "NaN"]

theorem dropWhile_point_append {cs : List Char} (some : cs ≠ [])
    (digits : ∀ c ∈ cs, c.isDigit = true) (rest : List Char) :
    (cs ++ rest).dropWhile (· == '.') = cs ++ rest := by
  obtain ⟨c, cs, rfl⟩ := List.exists_cons_of_ne_nil some
  have other : c ≠ '.' := by
    rintro rfl
    exact absurd (digits _ List.mem_cons_self) (by decide)
  exact List.dropWhile_cons_of_neg fun point => other (beq_iff_eq.1 point)

theorem shown_dropZeros (n : Nat) {fraction : String}
    (digits : ∀ c ∈ fraction.toList, c.isDigit = true) :
    Shown (dropZeros (toString n ++ "." ++ fraction)).toList := by
  have parts : (toString n ++ "." ++ fraction).toList.reverse =
      fraction.toList.reverse ++ '.' :: (Nat.toDigits 10 n).reverse := by simp
  rw [dropZeros, String.toList_ofList, parts, List.dropWhile_append]
  split
  · have whole := dropWhile_point_append (List.reverse_ne_nil_iff.2 Nat.toDigits_ne_nil)
      (fun c hc => isDigit_of_mem_toDigits (n := n) c (List.mem_reverse.1 hc)) []
    rw [List.append_nil] at whole
    rw [List.dropWhile_cons_of_neg (by decide), List.dropWhile_cons_of_pos rfl, whole,
      List.reverse_reverse]
    exact .whole n
  · next dropped =>
    have kept := fun nil => dropped (List.isEmpty_iff.2 nil)
    have left : ∀ c ∈ fraction.toList.reverse.dropWhile (· == '0'), c.isDigit = true :=
      fun c hc => digits c (List.mem_reverse.1 ((List.dropWhile_sublist _).subset hc))
    rw [dropWhile_point_append kept left, List.reverse_append, List.reverse_cons,
      List.reverse_reverse, List.append_assoc]
    exact .fraction n (List.reverse_ne_nil_iff.2 kept) fun c hc => left c (List.mem_reverse.1 hc)

theorem shown_text {d : Double} (h : text d ∉ unreadable) :
    ∃ negative shown, Shown shown ∧ (text d).toList = (signText negative).toList ++ shown := by
  have whole (negative : Bool) (n : Nat) :
      ∃ sign shown, Shown shown ∧
        (signText negative ++ toString n).toList = (signText sign).toList ++ shown :=
    ⟨negative, _, .whole n, by rw [String.toList_append, toList_toString]⟩
  unfold text at h ⊢
  split at h
  · next infinite =>
    rw [if_pos infinite]
    exact ⟨false, _, .whole 0, rfl⟩
  · next finite =>
    rw [if_neg finite]
    cases rounded : ((d.mul hundred).round).div hundred with
    | finite negative units =>
      dsimp only
      split
      · exact whole _ _
      · refine ⟨negative, _, ?_, String.toList_append⟩
        rw [twoPlaces, String.append_assoc]
        refine shown_dropZeros _ ?_
        rw [String.toList_append, List.forall_mem_append]
        exact ⟨forall_toString (fun _ h => h) _, forall_toString (fun _ h => h) _⟩
    | infinite negative =>
      rw [rounded] at h
      exact absurd (by cases negative <;> decide) h
    | nan =>
      rw [rounded] at h
      exact absurd (List.mem_of_getElem? (i := 2) rfl) h

end Shape

section Reader

theorem takeSign_append (negative : Bool) {c : Char} (digit : c.isDigit = true) (cs : List Char) :
    Decimal.takeSign ((signText negative).toList ++ c :: cs) = (negative, c :: cs) := by
  cases negative with
  | true => rfl
  | false =>
    change Decimal.takeSign (c :: cs) = (false, c :: cs)
    unfold Decimal.takeSign
    split
    · next same => exact absurd digit (by rw [(List.cons.inj same).1]; decide)
    · next same => exact absurd digit (by rw [(List.cons.inj same).1]; decide)
    · rfl

theorem Shown.exists_digit {shown : List Char} (h : Shown shown) :
    ∃ c cs, shown = c :: cs ∧ c.isDigit = true := by
  have first (n : Nat) (rest : List Char) :
      ∃ c cs, Nat.toDigits 10 n ++ rest = c :: cs ∧ c.isDigit = true := by
    obtain ⟨c, cs, digits⟩ := exists_toDigits_eq_cons n
    exact ⟨c, cs ++ rest, by rw [digits, List.cons_append],
      isDigit_of_mem_toDigits c (digits ▸ List.mem_cons_self)⟩
  cases h with
  | whole n => simpa using first n []
  | fraction n => exact first n _

theorem Shown.isDigit_eq_false {c : Char} {cs : List Char} (h : Shown ('0' :: c :: cs)) :
    c.isDigit = false := by
  generalize same : '0' :: c :: cs = shown at h
  cases h with
  | whole n => cases toDigits_eq_zero_cons same.symm
  | @fraction n ds =>
    obtain ⟨d, front, digits⟩ := exists_toDigits_eq_cons n
    rw [digits, List.cons_append, List.cons.injEq] at same
    obtain ⟨rfl, same⟩ := same
    rw [toDigits_eq_zero_cons digits, List.nil_append, List.cons.injEq] at same
    exact same.1 ▸ rfl

theorem isSome_read? {word shown : List Char} {negative : Bool}
    (sign : Decimal.takeSign word = (negative, shown)) (h : Shown shown) :
    (Decimal.read? word).isSome = true := by
  have nonempty (n : Nat) : (Nat.toDigits 10 n).isEmpty = false :=
    List.isEmpty_eq_false_iff.2 Nat.toDigits_ne_nil
  cases h with
  | whole n =>
    have run := Text.run_append (isDigit_of_mem_toDigits (n := n)) [] (by simp)
    rw [List.append_nil] at run
    simp [Decimal.read?, sign, run, nonempty, Decimal.readExponent]
  | @fraction n ds _ digits =>
    have run := Text.run_append (isDigit_of_mem_toDigits (n := n)) ('.' :: ds) (by simp)
    have behind := Text.run_append digits [] (by simp)
    rw [List.append_nil] at behind
    simp [Decimal.read?, sign, run, behind, nonempty, Decimal.readExponent]

/-- Every numeral that is not one of infinity or of no number stands for a number. -/
theorem isSome_value? {d : Double} (h : text d ∉ unreadable) :
    (value? (text d).toList).isSome = true := by
  obtain ⟨negative, shown, shape, parts⟩ := shown_text h
  obtain ⟨c, cs, rfl, digit⟩ := shape.exists_digit
  have sign := takeSign_append negative digit cs
  rw [← parts] at sign
  have read := isSome_read? sign shape
  rw [value?, sign]
  split
  · next d rest same =>
    have shape : Shown ('0' :: d :: rest) := same ▸ shape
    rw [shape.isDigit_eq_false, if_neg Bool.false_ne_true, Option.isSome_map, read]
  · rw [Option.isSome_map, read]

end Reader

end Numeral

end MiniApp
