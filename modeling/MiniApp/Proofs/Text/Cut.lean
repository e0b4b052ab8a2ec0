import Mathlib.Tactic.Common
import MiniApp.Proofs.Text.Opens

set_option autoImplicit false

namespace MiniApp.Text

/-- What stands before the first place where a mark starts, and what stands behind the mark. -/
def cut? (mark : List Char) : List Char → Option (List Char × List Char)
  | [] => none
  | c :: cs =>
    if mark.isPrefixOf (c :: cs) then some ([], (c :: cs).drop mark.length)
    else (cut? mark cs).map fun r => (c :: r.1, r.2)

/-- No mark starts in the text, not even one that ends behind it. -/
def Passes (mark cs : List Char) : Prop :=
  ∀ rest, cut? mark (cs ++ rest) = (cut? mark rest).map fun r => (cs ++ r.1, r.2)

section Cut

variable {mark as bs cs : List Char} {c : Char}

theorem cut?_of_prefix (h : mark ≠ []) (rest : List Char) : cut? mark (mark ++ rest) = some ([], rest) := by
  obtain ⟨c, tail, rfl⟩ := List.exists_cons_of_ne_nil h
  have first : (c :: tail).isPrefixOf (c :: (tail ++ rest)) = true :=
    List.isPrefixOf_iff_prefix.2 (List.prefix_append (c :: tail) rest)
  rw [List.cons_append, cut?, if_pos first, ← List.cons_append, List.drop_left]

theorem cut?_of_not_prefix (h : ¬ mark <+: c :: cs) :
    cut? mark (c :: cs) = (cut? mark cs).map fun r => (c :: r.1, r.2) := by
  rw [cut?, if_neg (by rwa [List.isPrefixOf_iff_prefix])]

theorem eq_append_of_cut? {before behind : List Char} (h : cut? mark cs = some (before, behind)) :
    cs = before ++ (mark ++ behind) := by
  induction cs generalizing before with
  | nil => cases h
  | cons c cs ih =>
    rw [cut?] at h
    split at h
    · next first =>
      cases h
      exact (List.prefix_iff_eq_append.1 (List.isPrefixOf_iff_prefix.1 first)).symm
    · obtain ⟨⟨before, behind⟩, below, same⟩ := Option.map_eq_some_iff.1 h
      cases same
      rw [List.cons_append, ← ih below]

theorem exists_cut {p : List Char × List Char → Bool} (h : (cut? mark cs).any p = true) :
    ∃ before behind, cs = before ++ (mark ++ behind) ∧ p (before, behind) = true := by
  obtain ⟨⟨before, behind⟩, found, holds⟩ := (Option.any_eq_true _ _).1 h
  exact ⟨before, behind, eq_append_of_cut? found, holds⟩

end Cut

section Passes

variable {mark as bs cs : List Char}

theorem passes_nil : Passes mark [] := fun rest => by simp

theorem Passes.cut?_append (h : Passes mark as) (nonempty : mark ≠ []) (rest : List Char) :
    cut? mark (as ++ (mark ++ rest)) = some (as, rest) := by
  rw [h, cut?_of_prefix nonempty]
  simp

theorem passes_cons {c : Char} (here : ∀ rest, ¬ mark <+: c :: (cs ++ rest)) (below : Passes mark cs) :
    Passes mark (c :: cs) := by
  intro rest
  rw [List.cons_append, cut?_of_not_prefix (here rest), below, Option.map_map]
  rfl

theorem passes_of_notMem {c : Char} {tail : List Char} (h : c ∉ cs) : Passes (c :: tail) cs := by
  induction cs with
  | nil => exact passes_nil
  | cons d cs ih =>
    rw [List.mem_cons, not_or] at h
    exact passes_cons (fun rest first => h.1 (List.cons_prefix_cons.1 first).1) (ih h.2)

theorem Opens.passes {words : List (List Char)} {tail : List Char}
    (apart : ∀ w ∈ words, ¬ w <+: tail ∧ ¬ tail <+: w) (h : Opens words cs) :
    Passes ('<' :: tail) cs := by
  induction h with
  | nil => exact passes_nil
  | @cons c cs here _ ih =>
    refine passes_cons (fun rest first => ?_) ih
    obtain ⟨bracket, starts⟩ := List.cons_prefix_cons.1 first
    obtain ⟨w, hw, opened⟩ := here bracket.symm
    rcases List.prefix_or_prefix_of_prefix (opened.trans (List.prefix_append cs rest)) starts with
      short | long
    · exact (apart w hw).1 short
    · exact (apart w hw).2 long

end Passes

end MiniApp.Text
