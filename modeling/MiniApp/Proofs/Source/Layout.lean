import Mathlib.Data.List.TakeWhile
import Mathlib.Tactic.Common
import MiniApp.Component.Registry

set_option autoImplicit false

namespace MiniApp

theorem finishLines_eq_empty_iff (lines : List String) :
    finishLines lines = "" ↔ ∀ line ∈ lines, ∀ c ∈ line.toList, c = '\n' := by
  rw [finishLines, ← String.toList_inj, String.toList_ofList, String.toList_empty,
    List.reverse_eq_nil_iff, List.dropWhile_eq_nil_iff]
  simp only [List.mem_reverse, String.toList_join, List.mem_flatMap, List.mem_map, beq_iff_eq]
  constructor
  · intro h line hline c hc
    exact h c ⟨_, ⟨line, hline, rfl⟩, by simp [hc]⟩
  · rintro h c ⟨-, ⟨line, hline, rfl⟩, hc⟩
    rw [String.toList_append, List.mem_append] at hc
    rcases hc with hc | hc
    · exact h line hline c hc
    · simpa using hc

theorem mem_toList_indented {level : Nat} {line : String} {c : Char} (h : c ∈ line.toList) :
    c ∈ (indented level line).toList := by
  rw [indented]
  split
  · next hline => simp [hline] at h
  · simp [h]

namespace Tree

variable {α σ : Type}

variable (d : Dialect α σ) (level : Nat) {head : Head α σ}

theorem lines_of_isVoid (hv : head.isVoid = true) (children : List (Tree α σ)) :
    lines d level (.element head children) = [indented level (d.childless head)] := by
  rcases children with - | ⟨s | f | ⟨h, cs⟩, - | ⟨u, ts⟩⟩ <;> simp [lines, hv]

theorem lines_nil : lines d level (.element head []) = [indented level (d.childless head)] := by
  simp [lines]

theorem lines_text (hv : head.isVoid = false) (s : String) :
    lines d level (.element head [.text s]) =
      [indented level (d.opening head ++ ">" ++ d.text s ++ closing head)] := by
  simp [lines, hv]

theorem lines_block (hv : head.isVoid = false) {children : List (Tree α σ)}
    (hc : children ≠ []) (ht : ∀ s, children ≠ [.text s]) :
    lines d level (.element head children) =
      indented level (d.opening head ++ ">") ::
        (linesOfAll d (level + 1) children ++ [indented level (closing head)]) := by
  rcases children with - | ⟨s | f | ⟨h, cs⟩, - | ⟨u, ts⟩⟩
  · exact absurd rfl hc
  · exact absurd rfl (ht s)
  all_goals simp [lines, hv]

theorem lines_element (head : Head α σ) (children : List (Tree α σ)) :
    ∃ line rest, lines d level (.element head children) = indented level line :: rest ∧
      (line = d.childless head ∨ ∃ more, line = d.opening head ++ more) := by
  cases hv : head.isVoid with
  | true => exact ⟨_, _, lines_of_isVoid d level hv children, .inl rfl⟩
  | false =>
    by_cases hc : children = []
    · exact ⟨_, _, hc ▸ lines_nil d level, .inl rfl⟩
    by_cases ht : ∃ s, children = [.text s]
    · obtain ⟨s, rfl⟩ := ht
      refine ⟨_, _, lines_text d level hv s, .inr ⟨">" ++ d.text s ++ closing head, ?_⟩⟩
      simp only [String.append_assoc]
    · exact ⟨_, _, lines_block d level hv hc (not_exists.1 ht), .inr ⟨">", rfl⟩⟩

theorem render_element_ne_empty (head : Head α σ) (children : List (Tree α σ))
    (opens : '<' ∈ (d.opening head).toList) (stands : '<' ∈ (d.childless head).toList) :
    render d (.element head children) ≠ "" := by
  obtain ⟨line, rest, hlines, hline⟩ := lines_element d 0 head children
  have hmem : '<' ∈ line.toList := by
    rcases hline with rfl | ⟨more, rfl⟩
    · exact stands
    · simp [opens]
  intro h
  rw [render, finishLines_eq_empty_iff, hlines] at h
  exact absurd (h _ List.mem_cons_self _ (mem_toList_indented hmem)) (by decide)

end Tree

end MiniApp
