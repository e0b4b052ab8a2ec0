import Mathlib.Data.List.Infix
import Mathlib.Tactic.Common

set_option autoImplicit false

namespace MiniApp.Text

/-- At how many places a text starts inside another one. -/
def occurrences (needle : List Char) : List Char → Nat
  | [] => 0
  | c :: cs => (if needle.isPrefixOf (c :: cs) then 1 else 0) + occurrences needle cs

variable {needle : List Char}

theorem occurrences_eq_zero_iff (h : needle ≠ []) (cs : List Char) :
    occurrences needle cs = 0 ↔ ¬ needle <:+: cs := by
  induction cs with
  | nil => simpa [occurrences] using h
  | cons c cs ih =>
    rw [occurrences, List.infix_cons_iff, Nat.add_eq_zero_iff, ih, not_or,
      ← List.isPrefixOf_iff_prefix]
    simp

theorem prefix_append_cons_iff {c : Char} (hc : c ∉ needle) (xs ys : List Char) :
    needle <+: xs ++ c :: ys ↔ needle <+: xs := by
  induction needle generalizing xs with
  | nil => simp
  | cons d needle ih =>
    rw [List.mem_cons, not_or] at hc
    cases xs with
    | nil => simp [Ne.symm hc.1]
    | cons x xs => simp only [List.cons_append, List.cons_prefix_cons, ih hc.2]

theorem occurrences_append_cons {c : Char} (hc : c ∉ needle) (h : needle ≠ []) (xs ys : List Char) :
    occurrences needle (xs ++ c :: ys) = occurrences needle xs + occurrences needle ys := by
  induction xs with
  | nil =>
    have first : ¬ needle <+: c :: ys := fun hp =>
      h (List.prefix_nil.1 ((prefix_append_cons_iff hc [] ys).1 hp))
    simp [occurrences, first]
  | cons x xs ih =>
    have first := prefix_append_cons_iff hc (x :: xs) ys
    rw [List.cons_append] at first
    rw [List.cons_append, occurrences, occurrences, ih, Nat.add_assoc]
    simp only [List.isPrefixOf_iff_prefix, first]

theorem infix_append_cons_iff {c : Char} (hc : c ∉ needle) (h : needle ≠ []) (xs ys : List Char) :
    needle <:+: xs ++ c :: ys ↔ needle <:+: xs ∨ needle <:+: ys := by
  rw [← not_iff_not, not_or, ← occurrences_eq_zero_iff h, ← occurrences_eq_zero_iff h,
    ← occurrences_eq_zero_iff h, occurrences_append_cons hc h, Nat.add_eq_zero_iff]

end MiniApp.Text
