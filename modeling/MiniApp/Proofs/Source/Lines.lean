import Mathlib.Data.List.Basic
import MiniApp.Proofs.Source.Layout
import MiniApp.Proofs.Source.Scanner

set_option autoImplicit false

namespace MiniApp

open Scanner (lineChars lineChars_cons)

/-- A line that is found again when a text is cut into lines. -/
structure Solid (line : String) : Prop where
  shows : line ≠ ""
  unbroken : '\n' ∉ line.toList
  ends : line.toList.getLast? ≠ some '\r'

/-- A line, possibly empty, that is found again when another one stands behind it. -/
structure Whole (line : String) : Prop where
  unbroken : '\n' ∉ line.toList
  ends : line.toList.getLast? ≠ some '\r'

theorem Solid.whole {line : String} (h : Solid line) : Whole line := ⟨h.unbroken, h.ends⟩

namespace Text

theorem lines_append_newline {cs : List Char} (unbroken : '\n' ∉ cs)
    (ends : cs.getLast? ≠ some '\r') (rest : List Char) :
    lines (cs ++ '\n' :: rest) = cs :: lines rest := by
  induction cs with
  | nil => exact lines_newline rest
  | cons c cs ih =>
    rw [List.mem_cons, not_or] at unbroken
    have below : lines (cs ++ '\n' :: rest) = cs :: lines rest := by
      refine ih unbroken.2 ?_
      cases cs with
      | nil => exact fun h => nomatch h
      | cons => rwa [List.getLast?_cons_cons] at ends
    -- A carriage return right before the break would be the last character.
    have inside : ¬ (c = '\r' ∧ (cs ++ '\n' :: rest).head? = some '\n') := by
      rintro ⟨rfl, next⟩
      cases cs with
      | nil => exact ends rfl
      | cons d cs => exact unbroken.2 (Option.some.inj next ▸ List.mem_cons_self)
    rw [List.cons_append, lines_cons, if_neg (Ne.symm unbroken.1), if_neg inside, below]

theorem lines_concat_ne_nil (cs : List Char) : lines (cs ++ ['\n']) ≠ [] := by
  induction cs with
  | nil => exact List.cons_ne_nil _ _
  | cons c cs ih =>
    rw [List.cons_append, lines_cons]
    split
    · exact List.cons_ne_nil _ _
    split
    · exact ih
    · split <;> exact List.cons_ne_nil _ _

theorem lines_append_cons_newline (cs rest : List Char) :
    lines (cs ++ '\n' :: rest) = lines (cs ++ ['\n']) ++ lines rest := by
  induction cs with
  | nil => rfl
  | cons c cs ih =>
    have head : (cs ++ '\n' :: rest).head? = (cs ++ ['\n']).head? := by cases cs <;> rfl
    rw [List.cons_append, List.cons_append, lines_cons, lines_cons, head, ih]
    split
    · rfl
    split
    · rfl
    · cases below : lines (cs ++ ['\n']) with
      | nil => exact absurd below (lines_concat_ne_nil cs)
      | cons => rfl

theorem lines_of_notMem {cs : List Char} (shows : cs ≠ []) (unbroken : '\n' ∉ cs) :
    lines cs = [cs] := by
  induction cs with
  | nil => exact absurd rfl shows
  | cons c cs ih =>
    rw [List.mem_cons, not_or] at unbroken
    have inside : ¬ (c = '\r' ∧ cs.head? = some '\n') :=
      fun h => unbroken.2 (List.mem_of_head? h.2)
    rw [lines_cons, if_neg (Ne.symm unbroken.1), if_neg inside]
    cases cs with
    | nil => rfl
    | cons => rw [ih (List.cons_ne_nil _ _) unbroken.2]

end Text

section Indented

theorem indented_indented (m n : Nat) (line : String) :
    indented m (indented n line) = indented (m + n) line := by
  by_cases blank : line = ""
  · rw [blank]
    rfl
  · have more : spaces (2 * n) ++ line ≠ "" := fun h => blank (String.append_eq_empty_iff.1 h).2
    have width : spaces (2 * m) ++ spaces (2 * n) = spaces (2 * (m + n)) := by
      rw [spaces, spaces, spaces, ← String.ofList_append, List.replicate_append_replicate,
        Nat.mul_add]
    rw [indented, indented, indented, if_neg blank, if_neg blank, if_neg more,
      ← String.append_assoc, width]

theorem Solid.indented {line : String} (h : Solid line) (level : Nat) :
    Solid (indented level line) := by
  have written : MiniApp.indented level line = spaces (2 * level) ++ line := if_neg h.shows
  have nonempty : line.toList ≠ [] := fun nil => h.shows (String.toList_inj.1 nil)
  rw [written]
  constructor
  · exact fun empty => h.shows (String.append_eq_empty_iff.1 empty).2
  · rw [String.toList_append, List.mem_append, not_or, spaces, String.toList_ofList]
    exact ⟨fun hm => absurd (List.eq_of_mem_replicate hm) (by decide), h.unbroken⟩
  · rw [String.toList_append, List.getLast?_append_of_ne_nil _ nonempty]
    exact h.ends

end Indented

section Finished

variable {ls ls' : List String}

theorem toList_finishLines (front : List String) {last : String} (solid : Solid last) :
    (finishLines (front ++ [last])).toList = lineChars front ++ last.toList := by
  have written : (String.join ((front ++ [last]).map (· ++ "\n"))).toList =
      lineChars front ++ last.toList ++ ['\n'] := by
    simp [lineChars, List.flatMap_map]
  have kept : (lineChars front ++ last.toList).reverse.dropWhile (· == '\n') =
      (lineChars front ++ last.toList).reverse := by
    have nonempty : last.toList.reverse ≠ [] := fun nil =>
      solid.shows (String.toList_inj.1 (List.reverse_eq_nil_iff.1 nil))
    obtain ⟨c, cs, reversed⟩ := List.exists_cons_of_ne_nil nonempty
    have other : c ≠ '\n' := by
      rintro rfl
      exact solid.unbroken (List.mem_reverse.1 (reversed ▸ List.mem_cons_self))
    rw [List.reverse_append, reversed, List.cons_append,
      List.dropWhile_cons_of_neg (by simpa using other)]
  rw [finishLines, written, String.toList_ofList, List.reverse_append, List.reverse_singleton,
    List.singleton_append, List.dropWhile_cons_of_pos rfl, kept, List.reverse_reverse]

theorem lines_lineChars_append (front : List String) (whole : ∀ l ∈ front, Whole l)
    (cs : List Char) : Text.lines (lineChars front ++ cs) = front.map String.toList ++ Text.lines cs := by
  induction front with
  | nil => rfl
  | cons l front ih =>
    rw [List.forall_mem_cons] at whole
    rw [lineChars_cons, List.append_assoc, List.cons_append,
      Text.lines_append_newline whole.1.unbroken whole.1.ends, ih whole.2, List.map_cons,
      List.cons_append]

theorem linesOf_finishLines_concat {front : List String} (whole : ∀ l ∈ front, Whole l)
    {last : String} (solid : Solid last) :
    Text.linesOf (finishLines (front ++ [last])) = front ++ [last] := by
  have nonempty : last.toList ≠ [] := fun nil => solid.shows (String.toList_inj.1 nil)
  rw [Text.linesOf, toList_finishLines front solid, lines_lineChars_append front whole,
    Text.lines_of_notMem nonempty solid.unbroken, List.map_append, List.map_map,
    List.map_singleton, String.ofList_toList]
  simp [Function.comp_def]

/-- Solid lines are found again in the text that they make. -/
theorem linesOf_finishLines (solid : ∀ l ∈ ls, Solid l) : Text.linesOf (finishLines ls) = ls := by
  rcases List.eq_nil_or_concat' ls with rfl | ⟨front, last, rfl⟩
  · rfl
  rw [List.forall_mem_append, List.forall_mem_singleton] at solid
  exact linesOf_finishLines_concat (fun l hl => (solid.1 l hl).whole) solid.2

theorem blockLines_finishLines (solid : ∀ l ∈ ls, Solid l) (level : Nat) :
    blockLines level (finishLines ls) = ls.map (indented level) := by
  rw [blockLines, linesOf_finishLines solid]

theorem finishLines_ne_empty (solid : ∀ l ∈ ls, Solid l) (shows : ls ≠ []) :
    finishLines ls ≠ "" := by
  intro empty
  have none := linesOf_finishLines solid
  rw [empty] at none
  exact shows none.symm

/-- Texts of solid lines, one below the other, are the text of all the lines. -/
theorem finishLines_append (solid : ∀ l ∈ ls, Solid l) (solid' : ∀ l ∈ ls', Solid l)
    (shows : ls ≠ []) (shows' : ls' ≠ []) :
    finishLines (ls ++ ls') = finishLines ls ++ "\n" ++ finishLines ls' := by
  obtain ⟨front, last, rfl⟩ := (List.eq_nil_or_concat' ls).resolve_left shows
  obtain ⟨front', last', rfl⟩ := (List.eq_nil_or_concat' ls').resolve_left shows'
  rw [List.forall_mem_append, List.forall_mem_singleton] at solid solid'
  rw [← String.toList_inj, ← List.append_assoc, toList_finishLines _ solid'.2,
    String.toList_append, String.toList_append, toList_finishLines _ solid.2,
    toList_finishLines _ solid'.2]
  simp [lineChars]

end Finished

end MiniApp
