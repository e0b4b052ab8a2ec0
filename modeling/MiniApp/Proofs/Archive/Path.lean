import Mathlib.Tactic.Common
import MiniApp.Archive.Path

set_option autoImplicit false

namespace MiniApp.Text

theorem splitWhere_cons (p : Char → Bool) (c : Char) (cs : List Char) :
    splitWhere p (c :: cs) = if p c then [] :: splitWhere p cs
      else match splitWhere p cs with
        | [] => [[c]]
        | piece :: rest => (c :: piece) :: rest := rfl

theorem splitWhere_append_cons {p : Char → Bool} {c : Char} (hc : p c = true) (xs ys : List Char) :
    splitWhere p (xs ++ c :: ys) = splitWhere p xs ++ splitWhere p ys := by
  induction xs with
  | nil => simp [splitWhere, hc]
  | cons x xs ih =>
    obtain ⟨piece, rest, hs⟩ := List.exists_cons_of_ne_nil (splitWhere_ne_nil p xs)
    rw [List.cons_append, splitWhere_cons, splitWhere_cons, ih, hs]
    split <;> rfl

theorem splitWhere_of_forall {p : Char → Bool} {cs : List Char} (h : ∀ c ∈ cs, p c = false) :
    splitWhere p cs = [cs] := by
  induction cs with
  | nil => rfl
  | cons c cs ih =>
    rw [List.forall_mem_cons] at h
    rw [splitWhere_cons, ih h.2, h.1]
    rfl

end MiniApp.Text

namespace MiniApp.ArchivePath

theorem componentFault?_nil : componentFault? [] = some .emptyComponent := rfl

theorem components_append (folder path : List Char) :
    components (folder ++ '/' :: path) = components folder ++ components path :=
  Text.splitWhere_append_cons rfl folder path

theorem faultIn?_eq_none_iff (path : List Char) :
    faultIn? path = none ↔
      ':' ∉ path ∧ '\\' ∉ path ∧ ∀ c ∈ components path, componentFault? c = none := by
  cases path with
  | nil => simp [faultIn?, components, Text.splitWhere_nil, componentFault?_nil]
  | cons c cs =>
    -- A path that starts with a slash has an empty first component.
    have slash : c = '/' → ¬ ∀ d ∈ components (c :: cs), componentFault? d = none := by
      rintro rfl sound
      rw [show '/' :: cs = [] ++ '/' :: cs from rfl, components_append] at sound
      exact absurd (sound [] List.mem_cons_self) (by decide)
    rw [faultIn?, if_neg (List.cons_ne_nil c cs), List.head?_cons]
    by_cases colon : ':' ∈ c :: cs
    · simp [colon]
    by_cases back : '\\' ∈ c :: cs
    · simp only [back, not_true_eq_false, false_and, and_false, iff_false, if_true]
      split <;> exact Option.some_ne_none _
    by_cases first : c = '/'
    · simp [first] at slash ⊢
      exact fun _ _ => slash
    · have start : c ≠ '\\' := fun h => back (h ▸ List.mem_cons_self)
      simp [colon, back, first, start]

theorem faultIn?_join_eq_none_iff (folder path : List Char) :
    faultIn? (folder ++ '/' :: path) = none ↔ faultIn? folder = none ∧ faultIn? path = none := by
  rw [faultIn?_eq_none_iff, faultIn?_eq_none_iff, faultIn?_eq_none_iff, components_append,
    List.forall_mem_append]
  simp only [List.mem_append, List.mem_cons, not_or]
  constructor
  · rintro ⟨⟨colon, -, colon'⟩, ⟨back, -, back'⟩, sound, sound'⟩
    exact ⟨⟨colon, back, sound⟩, colon', back', sound'⟩
  · rintro ⟨⟨colon, back, sound⟩, colon', back', sound'⟩
    exact ⟨⟨colon, by decide, colon'⟩, ⟨back, by decide, back'⟩, sound, sound'⟩

theorem toList_join (folder path : String) :
    (folder ++ "/" ++ path).toList = folder.toList ++ '/' :: path.toList := by
  simp

theorem fault?_join_eq_none_iff (folder path : String) :
    fault? (folder ++ "/" ++ path) = none ↔ fault? folder = none ∧ fault? path = none := by
  rw [fault?, toList_join, faultIn?_join_eq_none_iff, fault?, fault?]

theorem join_inj {folder path path' : String} :
    folder ++ "/" ++ path = folder ++ "/" ++ path' ↔ path = path' := by
  rw [← String.toList_inj, toList_join, toList_join, List.append_cancel_left_eq, List.cons_inj_right,
    String.toList_inj]

/-- A path goes on from a folder by one component or more, none of which leads out again. -/
def Inside (folder path : String) : Prop :=
  ∃ below, below ≠ [] ∧ (∀ c ∈ below, componentFault? c = none) ∧
    components path.toList = components folder.toList ++ below

theorem inside_join (folder : String) {path : String} (sound : fault? path = none) :
    Inside folder (folder ++ "/" ++ path) := by
  refine ⟨components path.toList, Text.splitWhere_ne_nil _ _,
    ((faultIn?_eq_none_iff _).1 sound).2.2, ?_⟩
  rw [toList_join, components_append]

end MiniApp.ArchivePath
