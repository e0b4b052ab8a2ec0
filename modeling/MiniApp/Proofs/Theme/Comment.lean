import Mathlib.Data.List.TakeWhile
import MiniApp.Proofs.Text.Search
import MiniApp.Theme

set_option autoImplicit false

namespace MiniApp

namespace Escape

def commentEnd : List Char := ['*', '/']

def isDropped (c : Char) : Bool := c == '<' || c == '>' || Text.isControl c

/-- The characters that comments keep, of a text whose comment ends are parted. -/
def commentChars (cs : List Char) : List Char :=
  (partCommentEnd cs).filter fun c => !isDropped c

theorem toList_comment (s : String) : (comment s).toList = commentChars s.toList := by
  rw [comment, String.toList_ofList, commentChars]
  refine List.filter_congr fun c _ => ?_
  cases hc : Text.isControl c <;> simp [isDropped, hc, beq_eq_decide]

theorem isDropped_of_mem_commentChars {c : Char} {cs : List Char} (h : c ∈ commentChars cs) :
    isDropped c = false := by
  simpa using (List.mem_filter.1 h).2

/-- A star and a slash with nothing between them but characters that are left out, and at least one
of those. -/
def JoinsEnd (cs : List Char) : Prop :=
  ∃ before between after, cs = before ++ '*' :: (between ++ '/' :: after) ∧ between ≠ [] ∧
    ∀ c ∈ between, isDropped c = true

theorem head?_partCommentEnd (cs : List Char) : (partCommentEnd cs).head? = cs.head? := by
  cases cs with
  | nil => rfl
  | cons c cs =>
    rw [partCommentEnd, List.foldr_cons]
    split
    · next h => simp [h.1]
    · rfl

theorem partCommentEnd_cons (c : Char) (cs : List Char) :
    partCommentEnd (c :: cs) =
      if c = '*' ∧ cs.head? = some '/' then '*' :: ' ' :: partCommentEnd cs
      else c :: partCommentEnd cs := by
  rw [← head?_partCommentEnd cs]
  rfl

theorem commentChars_cons (c : Char) (cs : List Char) :
    commentChars (c :: cs) =
      if isDropped c then commentChars cs
      else if c = '*' ∧ cs.head? = some '/' then '*' :: ' ' :: commentChars cs
      else c :: commentChars cs := by
  rw [commentChars, partCommentEnd_cons]
  by_cases hstar : c = '*' ∧ cs.head? = some '/'
  · have blank : isDropped ' ' = false := by decide
    have star : isDropped '*' = false := by decide
    simp [hstar, blank, star, commentChars]
  · cases hc : isDropped c <;> simp [hstar, hc, commentChars]

theorem head?_commentChars (cs : List Char) :
    (commentChars cs).head? = (cs.dropWhile isDropped).head? := by
  induction cs with
  | nil => rfl
  | cons c cs ih =>
    rw [commentChars_cons]
    split_ifs with hc hstar
    · rw [ih, List.dropWhile_cons_of_pos hc]
    · rw [List.dropWhile_cons_of_neg hc, hstar.1]
      rfl
    · rw [List.dropWhile_cons_of_neg hc]
      rfl

theorem joinsEnd_cons (c : Char) (cs : List Char) :
    JoinsEnd (c :: cs) ↔
      (c = '*' ∧ cs.head? ≠ some '/' ∧ (cs.dropWhile isDropped).head? = some '/') ∨
        JoinsEnd cs := by
  constructor
  · rintro ⟨before, between, after, h, hne, hb⟩
    cases before with
    | cons b before =>
      cases h
      exact .inr ⟨before, between, after, rfl, hne, hb⟩
    | nil =>
      cases h
      refine .inl ⟨rfl, ?_, ?_⟩
      · cases between with
        | nil => exact absurd rfl hne
        | cons b between =>
          rintro h
          cases h
          exact absurd (hb '/' List.mem_cons_self) (by decide)
      · rw [List.dropWhile_append_of_pos hb]
        rfl
  · rintro (⟨rfl, hnext, hslash⟩ | ⟨before, between, after, rfl, hne, hb⟩)
    · cases hrest : cs.dropWhile isDropped with
      | nil => simp [hrest] at hslash
      | cons d after =>
        rw [hrest] at hslash
        cases hslash
        refine ⟨[], cs.takeWhile isDropped, after, ?_, fun hnil => hnext ?_, ?_⟩
        · rw [← hrest, List.takeWhile_append_dropWhile]
          rfl
        · rw [← List.takeWhile_append_dropWhile (p := isDropped) (l := cs), hnil, hrest]
          rfl
        · exact fun c hc => List.mem_takeWhile_imp hc
    · exact ⟨c :: before, between, after, rfl, hne, hb⟩

/-- A comment holds an end just when its title joins one. -/
theorem commentEnd_infix_iff (cs : List Char) : commentEnd <:+: commentChars cs ↔ JoinsEnd cs := by
  induction cs with
  | nil => simp [commentEnd, commentChars, partCommentEnd, JoinsEnd]
  | cons c cs ih =>
    rw [commentChars_cons, joinsEnd_cons, ← ih]
    split_ifs with hc hstar
    · have other : c ≠ '*' := by
        rintro rfl
        exact absurd hc (by decide)
      simp [other]
    · simp [List.infix_cons_iff, commentEnd, hstar.2]
    · rw [List.infix_cons_iff, ← head?_commentChars]
      have first : commentEnd <+: c :: commentChars cs ↔
          c = '*' ∧ (commentChars cs).head? = some '/' := by
        cases commentChars cs <;> simp [commentEnd, eq_comm]
      rw [first]
      by_cases hcs : c = '*'
      · simp [hcs, show cs.head? ≠ some '/' from fun h => hstar ⟨hcs, h⟩]
      · simp [hcs]

end Escape

namespace Theme

open Escape (commentEnd JoinsEnd)

/-- What follows the comment: the tokens and the rules of the components. -/
def sheetRules (isDark : Bool) : String :=
  "\n\n" ++ rootRule isDark ++ "\n\n" ++ "\n".intercalate Asset.componentRules

theorem stylesheet_eq (title : String) (isDark : Bool) :
    stylesheet title isDark = "/* " ++ Escape.comment title ++ " */" ++ sheetRules isDark := by
  rw [stylesheet, sheetRules]
  simp only [String.append_assoc]
  rfl

/-- The comment up to the slash that is meant to close it. -/
def openComment (title : String) : String := "/* " ++ Escape.comment title ++ " *"

theorem commentEnd_infix_openComment (title : String) :
    commentEnd <:+: (openComment title).toList ↔ JoinsEnd title.toList := by
  have blank : ' ' ∉ commentEnd := by decide
  have ne : commentEnd ≠ [] := by decide
  have written : (openComment title).toList =
      ['/', '*'] ++ ' ' :: (Escape.commentChars title.toList ++ ' ' :: ['*']) := by
    simp [openComment, Escape.toList_comment]
  rw [written, Text.infix_append_cons_iff blank ne, Text.infix_append_cons_iff blank ne,
    Escape.commentEnd_infix_iff]
  have before : ¬ commentEnd <:+: ['/', '*'] := by decide
  have behind : ¬ commentEnd <:+: ['*'] := by decide
  simp [before, behind]

/-- The comment of a sheet keeps no angle bracket and no control character of the title, the rules
behind it are the same for all titles, and nothing but its own end closes it unless the title joins
an end. -/
theorem stylesheet_comment (title : String) (isDark : Bool) :
    (∀ c ∈ (Escape.comment title).toList, c ≠ '<' ∧ c ≠ '>' ∧ Text.isControl c = false) ∧
    stylesheet title isDark = openComment title ++ "/" ++ sheetRules isDark ∧
    (commentEnd <:+: (Escape.comment title).toList ↔ JoinsEnd title.toList) ∧
    (commentEnd <:+: (openComment title).toList ↔ JoinsEnd title.toList) := by
  refine ⟨fun c hc => ?_, ?_, ?_, commentEnd_infix_openComment title⟩
  · rw [Escape.toList_comment] at hc
    simpa [Escape.isDropped, and_assoc] using Escape.isDropped_of_mem_commentChars hc
  · rw [stylesheet_eq, openComment]
    simp only [String.append_assoc]
    rfl
  · rw [Escape.toList_comment, Escape.commentEnd_infix_iff]

/-- A bracket between a star and a slash is left out, and the comment ends inside of the title. -/
theorem stylesheet_closed_early :
    commentEnd <:+: (Escape.comment "*</").toList ∧
      stylesheet "*</" false = "/* */ */" ++ sheetRules false := by
  have joined : Escape.comment "*</" = "*/" := by decide
  refine ⟨by rw [joined]; decide, ?_⟩
  rw [stylesheet_eq, joined]
  rfl

end Theme

end MiniApp
