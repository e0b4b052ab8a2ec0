import Mathlib.Data.List.TakeWhile
import Mathlib.Tactic.Common
import Mathlib.Tactic.SplitIfs
import MiniApp.Number.Numeral

set_option autoImplicit false

namespace MiniApp.Numeral

def marks : List Char := ['-', '.', 'i', 'n', 'f', 'N', 'a']

section

variable {p : Char → Prop} (digits : ∀ c, c.isDigit = true → p c)
include digits

theorem forall_toString (n : Nat) : ∀ c ∈ (toString n).toList, p c := by
  rw [Nat.toString_eq_ofList_toDigits, String.toList_ofList]
  exact fun c hc => digits c (Nat.isDigit_of_mem_toDigits (by decide) (by decide) hc)

variable (signs : ∀ c ∈ marks, p c)
include signs

omit digits in
theorem forall_signText (negative : Bool) : ∀ c ∈ (signText negative).toList, p c := by
  cases negative with
  | false => exact List.forall_mem_nil _
  | true => exact List.forall_mem_singleton.2 (signs _ (by decide))

theorem forall_twoPlaces (units : Nat) : ∀ c ∈ (twoPlaces units).toList, p c := by
  have point : ∀ c ∈ ".".toList, p c := List.forall_mem_singleton.2 (signs _ (by decide))
  simp only [twoPlaces, String.toList_append, List.forall_mem_append]
  exact ⟨⟨⟨forall_toString digits _, point⟩, forall_toString digits _⟩, forall_toString digits _⟩

omit digits signs in
theorem forall_dropZeros {s : String} (h : ∀ c ∈ s.toList, p c) :
    ∀ c ∈ (dropZeros s).toList, p c := by
  rw [dropZeros, String.toList_ofList]
  intro c hc
  have kept := (List.dropWhile_sublist _).subset (List.mem_reverse.1 hc)
  exact h c (List.mem_reverse.1 ((List.dropWhile_sublist _).subset kept))

theorem forall_text (d : Double) : ∀ c ∈ (text d).toList, p c := by
  have sign := forall_signText signs
  have inf : "inf".toList ⊆ marks := by decide
  have nan : "NaN".toList ⊆ marks := by decide
  rw [text]
  split
  · exact List.forall_mem_singleton.2 (digits _ rfl)
  · split
    · dsimp only
      split <;> rw [String.toList_append, List.forall_mem_append]
      · exact ⟨sign _, forall_toString digits _⟩
      · exact ⟨sign _, forall_dropZeros (forall_twoPlaces digits signs _)⟩
    · rw [String.toList_append, List.forall_mem_append]
      exact ⟨sign _, fun c hc => signs c (inf hc)⟩
    · exact fun c hc => signs c (nan hc)

end

section Shows

theorem toString_ne_empty (n : Nat) : toString n ≠ "" := by
  rw [Nat.toString_eq_ofList_toDigits]
  exact fun empty => Nat.toDigits_ne_nil (String.ofList_eq_empty_iff.1 empty)

theorem dropZeros_ne_empty {whole fraction : String} (shows : whole ≠ "")
    (digits : ∀ c ∈ whole.toList, c.isDigit = true) : dropZeros (whole ++ "." ++ fraction) ≠ "" := by
  intro empty
  have kept : ∃ front, (whole ++ "." ++ fraction).toList.reverse.dropWhile (· == '0') =
      front ++ '.' :: whole.toList.reverse := by
    have parts : (whole ++ "." ++ fraction).toList.reverse =
        fraction.toList.reverse ++ '.' :: whole.toList.reverse := by simp
    rw [parts, List.dropWhile_append]
    split
    · exact ⟨[], rfl⟩
    · exact ⟨_, rfl⟩
  obtain ⟨front, kept⟩ := kept
  obtain ⟨c, hc⟩ := List.exists_mem_of_ne_nil _ fun nil => shows (String.toList_inj.1 nil)
  rw [dropZeros, kept, String.ofList_eq_empty_iff, List.reverse_eq_nil_iff,
    List.dropWhile_eq_nil_iff] at empty
  have point := empty c (by simp [hc])
  exact absurd (digits c hc) (by rw [beq_iff_eq.1 point]; decide)

theorem text_ne_empty (d : Double) : text d ≠ "" := by
  have behind {s t : String} (h : t ≠ "") : s ++ t ≠ "" := fun empty =>
    h (String.append_eq_empty_iff.1 empty).2
  rw [text]
  split
  · decide
  · split
    · dsimp only
      split
      · exact behind (toString_ne_empty _)
      · refine behind ?_
        dsimp only [twoPlaces]
        rw [String.append_assoc]
        exact dropZeros_ne_empty (toString_ne_empty _) (forall_toString (fun _ h => h) _)
    · exact behind (by decide)
    · decide

end Shows

end MiniApp.Numeral
