import Mathlib.Data.List.TakeWhile
import MiniApp.Proofs.Text.Runs
import MiniApp.Proofs.Text.Search
import MiniApp.Source.Writer
import MiniApp.Text.Case
import Mathlib.Tactic.SplitIfs

/-!
Texts in which every angle bracket opens one of some known words. Such a text can be cut into lines,
indented and joined with others of its kind, as long as no word holds a line break, and nothing
that starts with a bracket and goes on differently is found in it, in whatever case it is written.
-/

set_option autoImplicit false

namespace MiniApp.Text

/-- Behind every opening bracket stands one of the words. -/
inductive Opens (words : List (List Char)) : List Char → Prop
  | nil : Opens words []
  | cons {c : Char} {cs : List Char} (here : c = '<' → ∃ w ∈ words, w <+: cs)
      (rest : Opens words cs) : Opens words (c :: cs)

def Unbroken (words : List (List Char)) : Prop := ∀ w ∈ words, '\n' ∉ w ∧ '\r' ∉ w

variable {words : List (List Char)}

theorem opens_cons_iff {c : Char} {cs : List Char} :
    Opens words (c :: cs) ↔ (c = '<' → ∃ w ∈ words, w <+: cs) ∧ Opens words cs := by
  constructor
  · rintro ⟨⟩
    exact ⟨‹_›, ‹_›⟩
  · exact fun h => .cons h.1 h.2

def opens (words : List (List Char)) : List Char → Bool
  | [] => true
  | c :: cs => (c != '<' || words.any fun w => w.isPrefixOf cs) && opens words cs

theorem opens_eq_true_iff {cs : List Char} : opens words cs = true ↔ Opens words cs := by
  induction cs with
  | nil => exact iff_of_true rfl .nil
  | cons c cs ih =>
    rw [opens, opens_cons_iff, Bool.and_eq_true, ih]
    simp [Classical.or_iff_not_imp_left]

instance (cs : List Char) : Decidable (Opens words cs) := decidable_of_iff _ opens_eq_true_iff

theorem Opens.append {as bs : List Char} (ha : Opens words as) (hb : Opens words bs) :
    Opens words (as ++ bs) := by
  induction ha with
  | nil => exact hb
  | cons here _ ih =>
    refine .cons (fun hc => ?_) ih
    obtain ⟨w, hw, hp⟩ := here hc
    exact ⟨w, hw, hp.trans (List.prefix_append ..)⟩

theorem opens_of_notMem {cs : List Char} (h : '<' ∉ cs) : Opens words cs := by
  induction cs with
  | nil => exact .nil
  | cons c cs ih =>
    rw [List.mem_cons, not_or] at h
    exact .cons (fun hc => absurd hc.symm h.1) (ih h.2)

theorem Opens.mono {more : List (List Char)} (h : ∀ w ∈ words, w ∈ more) {cs : List Char}
    (hcs : Opens words cs) : Opens more cs := by
  induction hcs with
  | nil => exact .nil
  | cons here _ ih =>
    refine .cons (fun hc => ?_) ih
    obtain ⟨w, hw, hp⟩ := here hc
    exact ⟨w, h w hw, hp⟩

theorem opens_flatMap {α : Type} {f : α → List Char} {xs : List α}
    (h : ∀ x ∈ xs, Opens words (f x)) : Opens words (xs.flatMap f) := by
  induction xs with
  | nil => exact .nil
  | cons x xs ih =>
    rw [List.forall_mem_cons] at h
    exact h.1.append (ih h.2)

theorem opens_intercalate {sep : String} {parts : List String} (hs : Opens words sep.toList)
    (hp : ∀ p ∈ parts, Opens words p.toList) : Opens words (sep.intercalate parts).toList := by
  induction parts with
  | nil => exact .nil
  | cons p parts ih =>
    rw [List.forall_mem_cons] at hp
    cases parts with
    | nil => simpa using hp.1
    | cons q parts =>
      rw [String.intercalate_cons_cons, String.toList_append, String.toList_append]
      exact (hp.1.append hs).append (ih hp.2)

theorem prefix_headD_lines {w cs : List Char} (hw : '\n' ∉ w ∧ '\r' ∉ w) (h : w <+: cs) :
    w <+: (lines cs).headD [] := by
  induction w generalizing cs with
  | nil => exact List.nil_prefix
  | cons d w ih =>
    simp only [List.mem_cons, not_or] at hw
    cases cs with
    | nil => simp at h
    | cons c cs =>
      obtain ⟨rfl, hp⟩ := List.cons_prefix_cons.1 h
      have rest := ih ⟨hw.1.2, hw.2.2⟩ hp
      rw [lines_cons, if_neg (Ne.symm hw.1.1), if_neg fun hr => hw.2.1 hr.1.symm]
      cases hl : lines cs with
      | nil => simpa [hl] using rest
      | cons line more => simpa [hl] using rest

section Unbroken

variable (unbroken : Unbroken words)
include unbroken

theorem Opens.lines {cs : List Char} (h : Opens words cs) :
    ∀ line ∈ Text.lines cs, Opens words line := by
  induction h with
  | nil => simp [lines_nil]
  | @cons c cs here _ below =>
    rw [lines_cons]
    split_ifs with hlf hcr
    · exact List.forall_mem_cons.2 ⟨.nil, below⟩
    · exact below
    · have first (line : List Char) (hl : (Text.lines cs).headD [] = line)
          (ho : Opens words line) : Opens words (c :: line) := by
        refine .cons (fun hc => ?_) ho
        obtain ⟨w, hw, hp⟩ := here hc
        exact ⟨w, hw, hl ▸ prefix_headD_lines (unbroken w hw) hp⟩
      cases hl : Text.lines cs with
      | nil => exact List.forall_mem_singleton.2 (first [] (by rw [hl]; rfl) .nil)
      | cons line rest =>
        rw [hl, List.forall_mem_cons] at below
        exact List.forall_mem_cons.2 ⟨first line (by rw [hl]; rfl) below.1, below.2⟩

theorem Opens.of_append_break {cs : List Char} (breaks : List Char) (hb : ∀ c ∈ breaks, c = '\n')
    (h : Opens words (cs ++ breaks)) : Opens words cs := by
  induction cs with
  | nil => exact .nil
  | cons c cs ih =>
    rw [List.cons_append, opens_cons_iff] at h
    refine .cons (fun hc => ?_) (ih h.2)
    obtain ⟨w, hw, hp⟩ := h.1 hc
    refine ⟨w, hw, ?_⟩
    cases breaks with
    | nil => simpa using hp
    | cons b breaks =>
      obtain rfl := hb b List.mem_cons_self
      exact (prefix_append_cons_iff (unbroken w hw).1 cs breaks).1 hp

end Unbroken

section Counting

/-- No word starts what is looked for, nor goes on from it. -/
def Apart (words : List (List Char)) (tail : List Char) : Prop :=
  ∀ w ∈ words, ¬ lowerAscii w <+: tail ∧ ¬ tail <+: lowerAscii w

instance (tail : List Char) : Decidable (Apart words tail) :=
  inferInstanceAs (Decidable (∀ w ∈ words, _))

theorem lowerAscii_append (as bs : List Char) :
    lowerAscii (as ++ bs) = lowerAscii as ++ lowerAscii bs := List.map_append

/-- What starts with a bracket and goes on like no word is not found where brackets open words. -/
theorem occurrences_opens_append {tail cs : List Char} (apart : Apart words tail)
    (h : Opens words cs) (rest : List Char) :
    occurrences ('<' :: tail) (lowerAscii (cs ++ rest)) =
      occurrences ('<' :: tail) (lowerAscii rest) := by
  induction h with
  | nil => rfl
  | @cons c cs here _ below =>
    have first : ¬ '<' :: tail <+: lowerAscii (c :: (cs ++ rest)) := by
      rw [lowerAscii, List.map_cons, List.cons_prefix_cons]
      rintro ⟨hc, ht⟩
      obtain ⟨w, hw, hp⟩ := here (eq_of_toLower_eq rfl hc.symm)
      have hw' : lowerAscii w <+: lowerAscii (cs ++ rest) :=
        (hp.trans (List.prefix_append ..)).map _
      rcases List.prefix_or_prefix_of_prefix hw' ht with hcmp | hcmp
      · exact (apart w hw).1 hcmp
      · exact (apart w hw).2 hcmp
    rw [List.cons_append, lowerAscii, List.map_cons, ← lowerAscii, occurrences, below]
    rw [lowerAscii, List.map_cons, ← lowerAscii, ← List.isPrefixOf_iff_prefix] at first
    simp [first]

end Counting

end MiniApp.Text

namespace MiniApp

open Text (Opens Unbroken opens_flatMap opens_of_notMem)

variable {words : List (List Char)}

theorem opens_spaces (n : Nat) : Opens words (spaces n).toList := by
  refine opens_of_notMem fun h => ?_
  rw [spaces, String.toList_ofList] at h
  exact absurd (List.eq_of_mem_replicate h) (by decide)

theorem opens_indented {line : String} (h : Opens words line.toList) (level : Nat) :
    Opens words (indented level line).toList := by
  rw [indented]
  split
  · exact .nil
  · rw [String.toList_append]
    exact (opens_spaces _).append h

section Unbroken

variable (unbroken : Unbroken words)
include unbroken

theorem opens_linesOf {text : String} (h : Opens words text.toList) :
    ∀ line ∈ Text.linesOf text, Opens words line.toList := by
  rw [Text.linesOf, List.forall_mem_map]
  intro line hl
  rw [String.toList_ofList]
  exact h.lines unbroken line hl

theorem opens_blockLines {fragment : String} (h : Opens words fragment.toList) (level : Nat) :
    ∀ line ∈ blockLines level fragment, Opens words line.toList := by
  rw [blockLines, List.forall_mem_map]
  exact fun line hl => opens_indented (opens_linesOf unbroken h line hl) level

theorem opens_indentBlock {text : String} (h : Opens words text.toList) (width : Nat) :
    Opens words (indentBlock text width).toList := by
  refine Text.opens_intercalate (opens_of_notMem (by decide)) (List.forall_mem_map.2 ?_)
  intro line hl
  split
  · exact .nil
  · rw [String.toList_append]
    exact (opens_spaces width).append (opens_linesOf unbroken h line hl)

theorem opens_finishLines {lines : List String} (h : ∀ line ∈ lines, Opens words line.toList) :
    Opens words (finishLines lines).toList := by
  have all : Opens words (String.join (lines.map (· ++ "\n"))).toList := by
    rw [String.toList_join]
    refine opens_flatMap (List.forall_mem_map.2 fun line hl => ?_)
    rw [String.toList_append]
    exact (h line hl).append (opens_of_notMem (by decide))
  rw [finishLines, String.toList_ofList]
  generalize (String.join (lines.map (· ++ "\n"))).toList = cs at all ⊢
  refine Opens.of_append_break unbroken (cs.reverse.takeWhile (· == '\n')).reverse ?_ ?_
  · intro c hc
    simpa using List.mem_takeWhile_imp (List.mem_reverse.1 hc)
  · rwa [← List.reverse_append, List.takeWhile_append_dropWhile, List.reverse_reverse]

end Unbroken

end MiniApp
