set_option autoImplicit false

namespace MiniApp.Text

/-- One step from the right: the lines of what follows, and whether that starts with a break. -/
def lineStep (c : Char) (below : List (List Char) × Bool) : List (List Char) × Bool :=
  if c = '\n' then ([] :: below.1, true)
  else if c = '\r' ∧ below.2 = true then (below.1, false)
  else match below.1 with
    | [] => ([[c]], false)
    | line :: rest => ((c :: line) :: rest, false)

def lines (cs : List Char) : List (List Char) := (cs.foldr lineStep ([], false)).1

theorem lines_nil : lines [] = [] := rfl

theorem lines_newline (cs : List Char) : lines ('\n' :: cs) = [] :: lines cs := rfl

theorem snd_foldr_lineStep (cs : List Char) :
    (cs.foldr lineStep ([], false)).2 = true ↔ cs.head? = some '\n' := by
  cases cs with
  | nil => simp
  | cons c cs =>
    rw [List.foldr_cons, lineStep]
    split
    · next h => simp [h]
    · next h =>
      have hc : ¬ (c :: cs).head? = some '\n' := by simpa using h
      split
      · exact iff_of_false Bool.false_ne_true hc
      · split <;> exact iff_of_false Bool.false_ne_true hc

theorem lines_cons (c : Char) (cs : List Char) :
    lines (c :: cs) =
      if c = '\n' then [] :: lines cs
      else if c = '\r' ∧ cs.head? = some '\n' then lines cs
      else match lines cs with
        | [] => [[c]]
        | line :: rest => (c :: line) :: rest := by
  simp only [← snd_foldr_lineStep]
  rw [lines, List.foldr_cons, lineStep]
  split
  · rfl
  · split
    · rfl
    · rw [lines]
      split <;> rfl

def linesOf (s : String) : List String := (lines s.toList).map String.ofList

def joinBreaks : List Char → List Char
  | [] => []
  | '\r' :: '\n' :: cs => '\n' :: joinBreaks cs
  | c :: cs => c :: joinBreaks cs

theorem joinBreaks_sublist (cs : List Char) : (joinBreaks cs).Sublist cs := by
  induction cs using joinBreaks.induct with
  | case1 => exact .slnil
  | case2 cs ih => exact .cons _ (.cons_cons _ ih)
  | case3 c cs hnot ih =>
    rw [joinBreaks.eq_3 c cs hnot]
    exact .cons_cons _ ih

def occursIn (needle : List Char) : List Char → Bool
  | [] => needle.isEmpty
  | c :: cs => needle.isPrefixOf (c :: cs) || occursIn needle cs

theorem occursIn_iff (p cs : List Char) : occursIn p cs = true ↔ p <:+: cs := by
  induction cs with
  | nil => simp [occursIn]
  | cons c cs ih =>
    rw [occursIn, Bool.or_eq_true, List.isPrefixOf_iff_prefix, ih, List.infix_cons_iff]

end MiniApp.Text
