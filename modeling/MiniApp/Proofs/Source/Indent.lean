import MiniApp.Proofs.Source.Lines

set_option autoImplicit false

namespace MiniApp

open Scanner (lineChars lineChars_cons)

def outdented (line : String) : String := String.ofList (line.toList.dropWhile Text.isBlank)

/-- The lines between the first and the last, without the blanks that they start with. -/
def linesInside (content : String) : List String :=
  (((Text.linesOf content).drop 1).dropLast).map outdented

def placed (width : Nat) (line : String) : String :=
  if Text.isBlankText line then "" else spaces width ++ line

section Line

theorem outdented_eq {line : String} (h : ∀ c ∈ line.toList.head?, Text.isBlank c = false) :
    outdented line = line := by
  rw [outdented]
  cases hl : line.toList with
  | nil => rw [List.dropWhile_nil, ← hl, String.ofList_toList]
  | cons c cs =>
    have shown : ¬ Text.isBlank c = true := by
      rw [h c (by rw [hl]; rfl)]
      exact Bool.false_ne_true
    rw [List.dropWhile_cons_of_neg shown, ← hl, String.ofList_toList]

theorem outdented_spaces_append (n : Nat) (line : String) :
    outdented (spaces n ++ line) = outdented line := by
  have blank : ∀ c ∈ List.replicate n ' ', Text.isBlank c = true := by
    intro c hc
    rw [List.eq_of_mem_replicate hc]
    rfl
  rw [outdented, String.toList_append, spaces, String.toList_ofList, List.dropWhile_append_of_pos blank,
    outdented]

theorem outdented_indented (level : Nat) (line : String) :
    outdented (indented level line) = outdented line := by
  rw [indented]
  split
  · next h => rw [h]
  · exact outdented_spaces_append _ line

theorem outdented_placed (width : Nat) (line : String) : outdented (placed width line) = outdented line := by
  rw [placed]
  split
  · next blank =>
    rw [Text.isBlankText, List.all_eq_true] at blank
    rw [outdented, outdented, List.dropWhile_eq_nil_iff.2 blank]
    rfl
  · exact outdented_spaces_append width line

theorem Whole.spaces_append {line : String} (h : Whole line) (n : Nat) : Whole (spaces n ++ line) := by
  have blanks : ∀ c ∈ (spaces n).toList, c = ' ' := fun c hc => by
    rw [spaces, String.toList_ofList] at hc
    exact List.eq_of_mem_replicate hc
  constructor
  · rw [String.toList_append, List.mem_append, not_or]
    exact ⟨fun hm => absurd (blanks _ hm) (by decide), h.unbroken⟩
  · intro last
    rw [String.toList_append] at last
    by_cases empty : line.toList = []
    · rw [empty, List.append_nil] at last
      exact absurd (blanks _ (List.mem_of_getLast? last)) (by decide)
    · rw [List.getLast?_append_of_ne_nil _ empty] at last
      exact h.ends last

theorem whole_empty : Whole "" := ⟨by decide, by decide⟩

theorem Whole.placed {line : String} (h : Whole line) (width : Nat) : Whole (placed width line) := by
  rw [MiniApp.placed]
  split
  · exact whole_empty
  · exact h.spaces_append width

theorem Whole.indented {line : String} (h : Whole line) (level : Nat) : Whole (indented level line) := by
  rw [MiniApp.indented]
  split
  · exact whole_empty
  · exact h.spaces_append _

end Line

section Block

theorem toList_intercalate_newline {ls : List String} (shows : ls ≠ []) :
    ("\n".intercalate ls).toList ++ ['\n'] = lineChars ls := by
  induction ls with
  | nil => exact absurd rfl shows
  | cons l ls ih =>
    cases ls with
    | nil => simp [lineChars]
    | cons l' ls =>
      rw [String.intercalate_cons_cons, String.toList_append, String.toList_append, List.append_assoc,
        ih (List.cons_ne_nil _ _), lineChars_cons l]
      simp

theorem toList_indentBlock {text : String} (shows : Text.linesOf text ≠ []) (width : Nat) :
    (indentBlock text width).toList ++ ['\n'] = lineChars ((Text.linesOf text).map (placed width)) :=
  toList_intercalate_newline fun nil => shows (List.map_eq_nil_iff.1 nil)

theorem linesInside_block {ls : List String} (whole : ∀ l ∈ ls, Whole l) {n : Nat} (hn : n ≠ 0) :
    linesInside (String.ofList ('\n' :: (lineChars ls ++ List.replicate n ' '))) = ls.map outdented := by
  have last : Text.lines (List.replicate n ' ') = [List.replicate n ' '] :=
    Text.lines_of_notMem (fun nil => hn (by simpa using nil))
      fun hm => absurd (List.eq_of_mem_replicate hm) (by decide)
  have all : Text.linesOf (String.ofList ('\n' :: (lineChars ls ++ List.replicate n ' '))) =
      "" :: (ls ++ [spaces n]) := by
    rw [Text.linesOf, String.toList_ofList, Text.lines_newline, lines_lineChars_append ls whole, last]
    simp [Function.comp_def, spaces]
  rw [linesInside, all, List.drop_succ_cons, List.drop_zero, List.dropLast_concat]

end Block

end MiniApp
