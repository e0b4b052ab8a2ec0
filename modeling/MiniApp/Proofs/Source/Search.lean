import MiniApp.Proofs.Source.Reading
import MiniApp.Proofs.Text.Opens

set_option autoImplicit false

namespace MiniApp

namespace Text

/-- A text that stands within one line, from a character on that no indentation holds. -/
structure Findable (needle : List Char) : Prop where
  starts : ∃ c, needle.head? = some c ∧ c ≠ ' '
  unbroken : '\n' ∉ needle ∧ '\r' ∉ needle

variable {needle : List Char}

theorem Findable.ne_nil (h : Findable needle) : needle ≠ [] := by
  obtain ⟨c, starts, -⟩ := h.starts
  rintro rfl
  exact Option.some_ne_none c starts.symm

theorem infix_append_of_notMem {c : Char} (starts : needle.head? = some c) {xs : List Char}
    (h : c ∉ xs) (ys : List Char) : needle <:+: xs ++ ys ↔ needle <:+: ys := by
  obtain ⟨rest, rfl⟩ := List.head?_eq_some_iff.1 starts
  induction xs with
  | nil => rfl
  | cons x xs ih =>
    rw [List.mem_cons, not_or] at h
    rw [List.cons_append, List.infix_cons_iff, ih h.2, List.cons_prefix_cons]
    exact or_iff_right fun here => h.1 here.1

theorem lines_cons_of_ne {c : Char} {cs : List Char} (feed : c ≠ '\n')
    (before : ¬ (c = '\r' ∧ cs.head? = some '\n')) :
    lines (c :: cs) = (c :: (lines cs).headD []) :: (lines cs).tail := by
  rw [lines_cons, if_neg feed, if_neg before]
  cases lines cs <;> rfl

theorem headD_lines_prefix (cs : List Char) : (lines cs).headD [] <+: cs := by
  induction cs with
  | nil => exact List.nil_prefix
  | cons c cs ih =>
    by_cases feed : c = '\n'
    · rw [lines_cons, if_pos feed]
      exact List.nil_prefix
    by_cases before : c = '\r' ∧ cs.head? = some '\n'
    · obtain ⟨rest, rfl⟩ : ∃ rest, cs = '\n' :: rest := by
        cases cs with
        | nil => exact absurd before.2 (by simp)
        | cons d cs => exact ⟨cs, by rw [Option.some.inj before.2]⟩
      rw [lines_cons, if_neg feed, if_pos before, lines_newline]
      exact List.nil_prefix
    · rw [lines_cons_of_ne feed before]
      exact List.cons_prefix_cons.2 ⟨rfl, ih⟩

/-- A text without line breaks is found in a line or not at all. -/
theorem infix_lines_iff (h : Findable needle) (cs : List Char) :
    (∃ line ∈ lines cs, needle <:+: line) ↔ needle <:+: cs := by
  have nowhere : ¬ needle <:+: [] := fun none => h.ne_nil (List.infix_nil.1 none)
  have skip {c : Char} (hc : c ∉ needle) (cs : List Char) :
      needle <:+: c :: cs ↔ needle <:+: cs := by
    rw [← List.nil_append (c :: cs), infix_append_cons_iff hc h.ne_nil, or_iff_right nowhere]
  induction cs with
  | nil => exact iff_of_false (fun found => absurd found.choose_spec.1 List.not_mem_nil) nowhere
  | cons c cs below =>
    have ih : (∃ line ∈ lines cs, needle <:+: line) ↔ needle <:+: cs := below
    by_cases feed : c = '\n'
    · rw [feed, lines_newline, skip h.unbroken.1, ← ih]
      simp only [List.exists_mem_cons_iff, or_iff_right nowhere]
    by_cases before : c = '\r' ∧ cs.head? = some '\n'
    · rw [lines_cons, if_neg feed, if_pos before, before.1, skip h.unbroken.2]
      exact ih
    · have shape := lines_cons_of_ne feed before
      have rest : (∃ line ∈ lines cs, needle <:+: line) ↔
          needle <:+: (lines cs).headD [] ∨ ∃ line ∈ (lines cs).tail, needle <:+: line := by
        cases lines cs with
        | nil => simpa using nowhere
        | cons line rest => exact List.exists_mem_cons_iff ..
      have here : needle <+: c :: cs ↔ needle <+: c :: (lines cs).headD [] := by
        have whole : needle <+: c :: cs → needle <+: (lines (c :: cs)).headD [] :=
          prefix_headD_lines h.unbroken
        have part := headD_lines_prefix (c :: cs)
        rw [shape, List.headD_cons] at whole part
        exact ⟨whole, fun found => found.trans part⟩
      rw [shape, List.exists_mem_cons_iff, List.infix_cons_iff, List.infix_cons_iff, or_assoc,
        ← rest, ih, here]

end Text

open Text (Findable infix_append_cons_iff)

variable {needle : List Char}

/-- The text is found somewhere in some source. -/
def FoundIn (needle : List Char) (s : String) : Prop := needle <:+: s.toList

section Lines

variable (h : Findable needle)
include h

theorem not_foundIn_empty : ¬ FoundIn needle "" := fun none => h.ne_nil (List.infix_nil.1 none)

theorem foundIn_indented (level : Nat) (line : String) :
    FoundIn needle (indented level line) ↔ FoundIn needle line := by
  rw [indented]
  split
  · next none => rw [none]
  · obtain ⟨c, starts, blank⟩ := h.starts
    have apart : c ∉ (spaces (2 * level)).toList := by
      rw [spaces, String.toList_ofList]
      exact fun hc => blank (List.eq_of_mem_replicate hc)
    rw [FoundIn, FoundIn, String.toList_append, Text.infix_append_of_notMem starts apart]

theorem foundIn_blockLines (level : Nat) (fragment : String) :
    (∃ line ∈ blockLines level fragment, FoundIn needle line) ↔ FoundIn needle fragment := by
  rw [FoundIn, ← Text.infix_lines_iff h, blockLines, Text.linesOf]
  simp only [List.mem_map, exists_exists_and_eq_and, foundIn_indented h]
  simp only [FoundIn, String.toList_ofList]

theorem foundIn_join_breaks (lines : List String) :
    FoundIn needle (String.join (lines.map (· ++ "\n"))) ↔ ∃ line ∈ lines, FoundIn needle line := by
  induction lines with
  | nil => exact iff_of_false (not_foundIn_empty h) (by simp)
  | cons line lines ih =>
    have written : (String.join ((line :: lines).map (· ++ "\n"))).toList =
        line.toList ++ '\n' :: (String.join (lines.map (· ++ "\n"))).toList := by
      simp [String.toList_join]
    rw [FoundIn, written, infix_append_cons_iff h.unbroken.1 h.ne_nil, List.exists_mem_cons_iff]
    exact or_congr Iff.rfl ih

theorem infix_append_breaks (cs breaks : List Char) (hb : ∀ c ∈ breaks, c = '\n') :
    needle <:+: cs ++ breaks ↔ needle <:+: cs := by
  cases breaks with
  | nil => rw [List.append_nil]
  | cons b breaks =>
    have feed : b = '\n' := hb b List.mem_cons_self
    have nowhere : ¬ needle <:+: breaks := by
      intro found
      obtain ⟨c, starts, -⟩ := h.starts
      have first : c ∈ needle := List.mem_of_mem_head? starts
      have same : c = '\n' := hb c (List.mem_cons_of_mem b (found.subset first))
      exact h.unbroken.1 (same ▸ first)
    rw [feed, infix_append_cons_iff h.unbroken.1 h.ne_nil, or_iff_left nowhere]

theorem foundIn_finishLines (lines : List String) :
    FoundIn needle (finishLines lines) ↔ ∃ line ∈ lines, FoundIn needle line := by
  rw [← foundIn_join_breaks h, finishLines, FoundIn, FoundIn, String.toList_ofList]
  generalize (String.join (lines.map (· ++ "\n"))).toList = cs
  have ends : ∀ c ∈ (cs.reverse.takeWhile (· == '\n')).reverse, c = '\n' := by
    intro c hc
    simpa using List.mem_takeWhile_imp (List.mem_reverse.1 hc)
  rw [← infix_append_breaks h _ _ ends, ← List.reverse_append, List.takeWhile_append_dropWhile,
    List.reverse_reverse]

theorem foundIn_intercalate (fragments : List String) :
    FoundIn needle ("\n".intercalate fragments) ↔ ∃ f ∈ fragments, FoundIn needle f := by
  induction fragments with
  | nil => exact iff_of_false (not_foundIn_empty h) (by simp)
  | cons f fragments ih =>
    cases fragments with
    | nil => simp
    | cons f' fragments =>
      have written : ("\n".intercalate (f :: f' :: fragments)).toList =
          f.toList ++ '\n' :: ("\n".intercalate (f' :: fragments)).toList := by
        simp [String.intercalate_cons_cons]
      rw [FoundIn, written, infix_append_cons_iff h.unbroken.1 h.ne_nil, List.exists_mem_cons_iff]
      exact or_congr Iff.rfl ih

end Lines

section Trees

variable {α σ : Type}

/-- Some head or some fragment that is laid out is of a kind. -/
inductive Tree.Has (head : Head α σ → Prop) (raw : String → Prop) : Tree α σ → Prop
  | raw {fragment : String} (h : raw fragment) : Has head raw (.raw fragment)
  | head {h : Head α σ} {children : List (Tree α σ)} (here : head h) :
      Has head raw (.element h children)
  | child {h : Head α σ} {children : List (Tree α σ)} {t : Tree α σ} (void : h.isVoid = false)
      (mem : t ∈ children) (there : Has head raw t) : Has head raw (.element h children)

/-- How a text is found in the elements of a dialect: in opening tags of one kind it always is, and
outside of those of another kind it never is. -/
structure Detects (d : Dialect α σ) (needle : List Char) (safe always only : Head α σ → Prop) :
    Prop where
  findable : Findable needle
  opened : ∀ {h}, safe h → always h → FoundIn needle (d.opening h)
  childless : ∀ {h}, safe h → always h → FoundIn needle (d.childless h)
  text : ∀ s, ¬ FoundIn needle (d.text s)
  closing : ∀ {h : Head α σ}, safe h → ¬ FoundIn needle (Tree.closing h)
  openedBlock : ∀ {h}, safe h → FoundIn needle (d.opening h ++ ">") → only h
  openedText : ∀ {h}, safe h → ∀ s,
    FoundIn needle (d.opening h ++ ">" ++ d.text s ++ Tree.closing h) → only h
  openedNone : ∀ {h}, safe h → FoundIn needle (d.childless h) → only h

namespace Detects

variable {d : Dialect α σ} {safe always only : Head α σ → Prop}
  (laws : Detects d needle safe always only)
include laws

theorem has_of_foundIn_lines {t : Tree α σ} (ht : t.All safe fun _ => True) {level : Nat}
    (found : ∃ line ∈ t.lines d level, FoundIn needle line) : t.Has only (FoundIn needle) := by
  have single {level : Nat} {s : String}
      (found : ∃ line ∈ [indented level s], FoundIn needle line) : FoundIn needle s := by
    obtain ⟨line, hline, found⟩ := found
    rw [List.mem_singleton.1 hline, foundIn_indented laws.findable] at found
    exact found
  induction ht generalizing level with
  | text value => exact absurd (single found) (laws.text value)
  | raw => exact .raw ((foundIn_blockLines laws.findable level _).1 found)
  | @element h children heads _ ih =>
    cases void : h.isVoid with
    | true =>
      rw [Tree.lines_of_isVoid _ level void] at found
      exact .head (laws.openedNone heads (single found))
    | false =>
      by_cases none : children = []
      · subst none
        rw [Tree.lines_nil] at found
        exact .head (laws.openedNone heads (single found))
      by_cases text : ∃ s, children = [.text s]
      · obtain ⟨s, rfl⟩ := text
        rw [Tree.lines_text _ level void] at found
        exact .head (laws.openedText heads s (single found))
      · have block := Tree.lines_block d level void none (not_exists.1 text)
        rw [block, List.exists_mem_cons_iff] at found
        rcases found with found | ⟨line, hline, found⟩
        · exact .head (laws.openedBlock heads ((foundIn_indented laws.findable level _).1 found))
        rw [List.mem_append, Tree.linesOfAll_eq_flatMap, List.mem_flatMap] at hline
        rcases hline with ⟨t, mem, hline⟩ | hline
        · exact .child void mem (ih t mem ⟨line, hline, found⟩)
        · exact absurd (single ⟨line, hline, found⟩) (laws.closing heads)

/-- What is found in an opening tag or in a fragment is found in a line of the tree. -/
theorem foundIn_lines_of_has {t : Tree α σ} (ht : t.All safe fun _ => True)
    (has : t.Has always (FoundIn needle)) (level : Nat) :
    ∃ line ∈ t.lines d level, FoundIn needle line := by
  have part {a b : String} (found : FoundIn needle a) : FoundIn needle (a ++ b) := by
    rw [FoundIn, String.toList_append]
    exact found.trans (List.prefix_append ..).isInfix
  have line {s : String} (found : FoundIn needle s) (level : Nat) :
      FoundIn needle (indented level s) := (foundIn_indented laws.findable level s).2 found
  induction has generalizing level with
  | raw found => exact (foundIn_blockLines laws.findable level _).2 found
  | @head h children here =>
    cases ht with
    | element heads _ =>
      have opened := laws.opened heads here
      have childless := line (laws.childless heads here) level
      cases void : h.isVoid with
      | true =>
        rw [Tree.lines_of_isVoid _ level void]
        exact ⟨_, List.mem_singleton_self _, childless⟩
      | false =>
        by_cases none : children = []
        · subst none
          rw [Tree.lines_nil]
          exact ⟨_, List.mem_singleton_self _, childless⟩
        by_cases text : ∃ s, children = [.text s]
        · obtain ⟨s, rfl⟩ := text
          rw [Tree.lines_text _ level void]
          exact ⟨_, List.mem_singleton_self _, line (part (part (part opened))) level⟩
        · rw [Tree.lines_block _ level void none (not_exists.1 text)]
          exact ⟨_, List.mem_cons_self, line (part opened) level⟩
  | @child h children t void mem there ih =>
    cases ht with
    | element heads safe =>
      have none : children ≠ [] := List.ne_nil_of_mem mem
      have text (s : String) : children ≠ [.text s] := by
        rintro rfl
        obtain rfl := List.mem_singleton.1 mem
        cases there
      obtain ⟨found, hline, here⟩ := ih (safe t mem) (level + 1)
      rw [Tree.lines_block _ level void none text, Tree.linesOfAll_eq_flatMap]
      refine ⟨found, List.mem_cons_of_mem _ (List.mem_append_left _ ?_), here⟩
      exact List.mem_flatMap.2 ⟨t, mem, hline⟩

variable {t : Tree α σ} (ht : t.All safe fun _ => True)
include ht

theorem has_of_foundIn (found : FoundIn needle (t.render d)) : t.Has only (FoundIn needle) :=
  laws.has_of_foundIn_lines ht ((foundIn_finishLines laws.findable _).1 found)

theorem foundIn_of_has (has : t.Has always (FoundIn needle)) : FoundIn needle (t.render d) :=
  (foundIn_finishLines laws.findable _).2 (laws.foundIn_lines_of_has ht has 0)

end Detects

end Trees

end MiniApp
