import Mathlib.Data.List.DropRight
import Mathlib.Data.List.TakeWhile
import Mathlib.Tactic.Common
import MiniApp.Proofs.Archive.Path

set_option autoImplicit false

namespace MiniApp.Text

theorem isAlphanum_iff (c : Char) : c.isAlphanum = true ↔
    (65 ≤ c.toNat ∧ c.toNat ≤ 90 ∨ 97 ≤ c.toNat ∧ c.toNat ≤ 122) ∨
      48 ≤ c.toNat ∧ c.toNat ≤ 57 := by
  have classes : c.isAlphanum = ((decide (65 ≤ c.val ∧ c.val ≤ 90) ||
      decide (97 ≤ c.val) && decide (c.val ≤ 122)) ||
        decide (48 ≤ c.val) && decide (c.val ≤ 57)) := rfl
  simp only [classes, Bool.or_eq_true, Bool.and_eq_true, decide_eq_true_eq,
    UInt32.le_iff_toNat_le]
  rfl

theorem isAlphanum_of_isDigit {c : Char} (h : c.isDigit = true) : c.isAlphanum = true := by
  rw [Char.isAlphanum, h, Bool.or_true]

theorem isAlphanum_of_isLower {c : Char} (h : c.isLower = true) : c.isAlphanum = true := by
  change (c.isUpper || c.isLower || c.isDigit) = true
  rw [h, Bool.or_true, Bool.true_or]

theorem isBlank_of_isAlphanum {c : Char} (h : c.isAlphanum = true) : isBlank c = false := by
  rw [isAlphanum_iff] at h
  by_contra blank
  simp only [Bool.not_eq_false, isBlank, Bool.or_eq_true, Bool.and_eq_true, decide_eq_true_eq,
    beq_iff_eq] at blank
  omega

theorem eq_of_toLower_eq {c d : Char} (other : d.isLower = false) (h : c.toLower = d) : c = d := by
  delta Char.toLower at h
  split at h
  · next upper =>
    have lo : 65 ≤ c.toNat := UInt32.le_iff_toNat_le.1 upper.1
    have hi : c.toNat ≤ 90 := UInt32.le_iff_toNat_le.1 upper.2
    have code : (c.toNat + 32) % 4294967296 = d.toNat := by simpa using congrArg Char.toNat h
    have lower : d.isLower = true := by
      change (decide (97 ≤ d.val) && decide (d.val ≤ 122)) = true
      rw [Bool.and_eq_true, decide_eq_true_eq, decide_eq_true_eq, UInt32.le_iff_toNat_le,
        UInt32.le_iff_toNat_le]
      change 97 ≤ d.toNat ∧ d.toNat ≤ 122
      omega
    rw [other] at lower
    cases lower
  · exact h

theorem run_append {p : Char → Bool} {run : List Char} (inside : ∀ c ∈ run, p c = true)
    (rest : List Char) (outside : ∀ c ∈ rest.head?, p c = false) :
    (run ++ rest).takeWhile p = run ∧ (run ++ rest).dropWhile p = rest := by
  rw [List.takeWhile_append_of_pos inside, List.dropWhile_append_of_pos inside]
  cases rest with
  | nil => simp
  | cons c rest =>
    have stop := Bool.eq_false_iff.1 (outside c rfl)
    rw [List.takeWhile_cons_of_neg stop, List.dropWhile_cons_of_neg stop, List.append_nil]
    exact ⟨rfl, rfl⟩

theorem strip_eq_rdropWhile (p : Char → Bool) (cs : List Char) :
    strip p cs = (cs.dropWhile p).rdropWhile p := rfl

theorem dropWhile_strip (p : Char → Bool) (cs : List Char) :
    (strip p cs).dropWhile p = strip p cs := by
  rw [strip_eq_rdropWhile]
  obtain ⟨behind, whole⟩ := List.rdropWhile_prefix p (l := cs.dropWhile p)
  cases left : (cs.dropWhile p).rdropWhile p with
  | nil => rfl
  | cons c rest =>
    rw [left, List.cons_append] at whole
    have first := List.head?_dropWhile_not p cs
    rw [← whole, List.head?_cons] at first
    exact List.dropWhile_cons_of_neg (Bool.eq_false_iff.1 first)

theorem strip_strip (p : Char → Bool) (cs : List Char) : strip p (strip p cs) = strip p cs := by
  rw [strip_eq_rdropWhile p (strip p cs), dropWhile_strip, strip_eq_rdropWhile,
    List.rdropWhile_idempotent]

theorem trim_trim (s : String) : trim (trim s) = trim s := by
  rw [trim, trim, String.toList_ofList, trimmed, trimmed, strip_strip]

theorem forall_of_splitWhere {p : Char → Bool} {q : Char → Prop} {cs : List Char}
    (h : ∀ piece ∈ splitWhere p cs, ∀ c ∈ piece, q c) : ∀ c ∈ cs, q c ∨ p c = true := by
  induction cs with
  | nil => exact List.forall_mem_nil _
  | cons c cs ih =>
    obtain ⟨piece, rest, pieces⟩ := List.exists_cons_of_ne_nil (splitWhere_ne_nil p cs)
    rw [splitWhere_cons, pieces] at h
    rw [pieces] at ih
    by_cases parts : p c = true
    · rw [if_pos parts] at h
      exact List.forall_mem_cons.2
        ⟨.inr parts, ih fun piece hp => h piece (List.mem_cons_of_mem _ hp)⟩
    · rw [if_neg parts] at h
      simp only [List.forall_mem_cons] at h
      exact List.forall_mem_cons.2 ⟨.inl h.1.1, ih (List.forall_mem_cons.2 ⟨h.1.2, h.2⟩)⟩

end MiniApp.Text
