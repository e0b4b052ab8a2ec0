import MiniApp.Proofs.Source.Fill
import MiniApp.Proofs.Source.Indent

set_option autoImplicit false

namespace MiniApp

variable {α σ : Type}

namespace Text

theorem forall_mem_lines (cs : List Char) : ∀ line ∈ lines cs, ∀ c ∈ line, c ∈ cs ∧ c ≠ '\n' := by
  induction cs with
  | nil => exact List.forall_mem_nil _
  | cons c cs ih =>
    have kept : ∀ line ∈ lines cs, ∀ d ∈ line, d ∈ c :: cs ∧ d ≠ '\n' :=
      fun line hl d hd => (ih line hl d hd).imp_left (List.mem_cons_of_mem c)
    rw [lines_cons]
    split
    · exact List.forall_mem_cons.2 ⟨List.forall_mem_nil _, kept⟩
    · next feed =>
      have own : c ∈ c :: cs ∧ c ≠ '\n' := ⟨List.mem_cons_self, feed⟩
      split
      · exact kept
      · cases below : lines cs with
        | nil => exact List.forall_mem_singleton.2 (List.forall_mem_singleton.2 own)
        | cons line rest =>
          rw [below, List.forall_mem_cons] at kept
          exact List.forall_mem_cons.2 ⟨List.forall_mem_cons.2 ⟨own, kept.1⟩, kept.2⟩

end Text

theorem whole_of_notMem {line : String} (feed : '\n' ∉ line.toList) (carriage : '\r' ∉ line.toList) :
    Whole line := ⟨feed, fun last => carriage (List.mem_of_getLast? last)⟩

theorem whole_of_mem_linesOf {fragment : String} (carriage : '\r' ∉ fragment.toList) :
    ∀ line ∈ Text.linesOf fragment, Whole line := by
  rw [Text.linesOf, List.forall_mem_map]
  intro line hl
  have chars := Text.forall_mem_lines _ line hl
  apply whole_of_notMem <;> rw [String.toList_ofList]
  · exact fun hm => (chars _ hm).2 rfl
  · exact fun hm => carriage (chars _ hm).1

namespace Tree

/-- No text and no fragment has a carriage return, and all heads are of one kind. -/
inductive ReturnFree (head : Head α σ → Prop) : Tree α σ → Prop
  | text {value : String} (carriage : '\r' ∉ value.toList) : ReturnFree head (.text value)
  | raw {fragment : String} (carriage : '\r' ∉ fragment.toList) : ReturnFree head (.raw fragment)
  | element {h : Head α σ} {children : List (Tree α σ)} (heads : head h)
      (below : ∀ t ∈ children, ReturnFree head t) : ReturnFree head (.element h children)

/-- Some elements of a tree, at any depth, are fragments of their text, and these may have been made
from such a tree in their turn. -/
inductive Prerendered (d : Dialect α σ) (head : Head α σ → Prop) : Tree α σ → Tree α σ → Prop
  | same (t : Tree α σ) : Prerendered d head t t
  | trans {t u v : Tree α σ} (first : Prerendered d head t u) (next : Prerendered d head u v) :
      Prerendered d head t v
  | inside (h : Head α σ) (before behind : List (Tree α σ)) {t u : Tree α σ}
      (child : Prerendered d head t u) :
      Prerendered d head (.element h (before ++ t :: behind)) (.element h (before ++ u :: behind))
  | rendered {h : Head α σ} {children : List (Tree α σ)} {u : Tree α σ}
      (free : (Tree.element h children).ReturnFree head)
      (made : Prerendered d head (.element h children) u) :
      Prerendered d head (.element h children) (.raw (render d u))

variable {d : Dialect α σ} {head : Head α σ → Prop}

section Element

variable (laws : d.OnOneLine head) {h : Head α σ} (heads : head h) (children : List (Tree α σ))
include laws heads

theorem exists_solid_last (level : Nat) :
    ∃ front last, lines d level (.element h children) = front ++ [last] ∧ Solid last := by
  have childless := (solid_childless laws heads).indented level
  cases hv : h.isVoid with
  | true => exact ⟨[], _, lines_of_isVoid d level hv children, childless⟩
  | false =>
    by_cases hc : children = []
    · exact ⟨[], _, hc ▸ lines_nil d level, childless⟩
    by_cases ht : ∃ s, children = [.text s]
    · obtain ⟨s, rfl⟩ := ht
      exact ⟨[], _, lines_text d level hv s, (solid_words laws heads s).indented level⟩
    · refine ⟨indented level (d.opening h ++ ">") :: linesOfAll d (level + 1) children,
        indented level (closing h), ?_, (solid_closing laws heads).indented level⟩
      rw [lines_block d level hv hc (not_exists.1 ht), List.cons_append]

theorem render_ne_empty : render d (.element h children) ≠ "" := by
  obtain ⟨front, last, written, solid⟩ := exists_solid_last laws heads children 0
  intro empty
  have chars := toList_finishLines front solid
  rw [← written, ← render, empty] at chars
  exact solid.shows (String.toList_inj.1 (List.append_eq_nil_iff.1 chars.symm).2)

end Element

section ReturnFree

variable (laws : d.OnOneLine head)
  (returns : ∀ s : String, '\r' ∉ s.toList → '\r' ∉ (d.text s).toList)
include laws returns

theorem ReturnFree.whole_lines {t : Tree α σ} (free : t.ReturnFree head) (level : Nat) :
    ∀ line ∈ lines d level t, Whole line := by
  induction free generalizing level with
  | @text value carriage =>
    have whole := whole_of_notMem (laws.text value) (returns value carriage)
    exact List.forall_mem_singleton.2 (whole.indented level)
  | raw carriage =>
    exact List.forall_mem_map.2 fun line hl => (whole_of_mem_linesOf carriage line hl).indented level
  | element heads _ ih =>
    refine forall_mem_lines_element laws heads (fun _ solid => solid.whole) fun _ line hl => ?_
    rw [linesOfAll_eq_flatMap] at hl
    obtain ⟨t, ht, hl⟩ := List.mem_flatMap.1 hl
    exact ih t ht (level + 1) line hl

theorem ReturnFree.linesOf_render {h : Head α σ} {children : List (Tree α σ)}
    (free : (Tree.element h children).ReturnFree head) :
    Text.linesOf (render d (.element h children)) = lines d 0 (.element h children) := by
  have whole := free.whole_lines laws returns 0
  cases free with
  | element heads below =>
    obtain ⟨front, last, written, solid⟩ := exists_solid_last laws heads children 0
    rw [written, List.forall_mem_append] at whole
    rw [render, written, linesOf_finishLines_concat whole.1 solid]

theorem ReturnFree.blockLines_render {h : Head α σ} {children : List (Tree α σ)}
    (free : (Tree.element h children).ReturnFree head) (level : Nat) :
    blockLines level (render d (.element h children)) = lines d level (.element h children) := by
  rw [blockLines, free.linesOf_render laws returns, ← lines_add, Nat.add_zero]

end ReturnFree

section Prerendered

theorem Prerendered.eq_text_iff {t u : Tree α σ} (p : t.Prerendered d head u) (s : String) :
    u = .text s ↔ t = .text s := by
  induction p with
  | same => rfl
  | trans _ _ first next => exact next.trans first
  | inside => simp
  | rendered => simp

theorem lines_replace (h : Head α σ) (before behind : List (Tree α σ)) {t u : Tree α σ}
    (text : ∀ s, u = .text s ↔ t = .text s) (same : ∀ level, lines d level u = lines d level t)
    (level : Nat) : lines d level (.element h (before ++ u :: behind)) =
      lines d level (.element h (before ++ t :: behind)) := by
  have shows (t : Tree α σ) : before ++ t :: behind ≠ [] := by simp
  have words (s : String) : before ++ u :: behind = [.text s] ↔ before ++ t :: behind = [.text s] := by
    cases before <;> simp [text]
  have below (level : Nat) :
      linesOfAll d level (before ++ u :: behind) = linesOfAll d level (before ++ t :: behind) := by
    simp [linesOfAll_eq_flatMap, same]
  cases hv : h.isVoid with
  | true => rw [lines_of_isVoid d level hv, lines_of_isVoid d level hv]
  | false =>
    by_cases ht : ∃ s, before ++ t :: behind = [.text s]
    · obtain ⟨s, ht⟩ := ht
      rw [ht, (words s).2 ht]
    · have ht := not_exists.1 ht
      rw [lines_block d level hv (shows u) fun s hu => ht s ((words s).1 hu),
        lines_block d level hv (shows t) ht, below]

/-- The same lines are written, by induction on what was rendered first: a fragment was made from the
lines of its element, however many of its own elements were fragments then. -/
theorem Prerendered.lines_eq (laws : d.OnOneLine head)
    (returns : ∀ s : String, '\r' ∉ s.toList → '\r' ∉ (d.text s).toList) {t u : Tree α σ}
    (p : t.Prerendered d head u) (level : Nat) : lines d level u = lines d level t := by
  induction p generalizing level with
  | same => rfl
  | trans _ _ first next => rw [next, first]
  | inside h before behind child ih => exact lines_replace h before behind child.eq_text_iff ih level
  | rendered free _ ih => rw [lines, render, ih, ← render, free.blockLines_render laws returns]

end Prerendered

end Tree

/-- It makes no difference whether elements stand in a tree themselves or as fragments of their text:
not for one child among any others of any parent, and not for elements at any depth, in whichever
order they were rendered. -/
structure Dialect.NestsText (d : Dialect α σ) (head : Head α σ → Prop) : Prop where
  child : ∀ {h : Head α σ} {children : List (Tree α σ)},
    (Tree.element h children).ReturnFree head →
    ∀ (parent : Head α σ) (before behind : List (Tree α σ)) (w : Writer),
      Tree.write d (.element parent
        (before ++ Tree.raws [Tree.render d (.element h children)] ++ behind)) w =
      Tree.write d (.element parent (before ++ .element h children :: behind)) w
  nested : ∀ {t u v : Tree α σ}, t.Prerendered d head u → t.Prerendered d head v →
    (∀ w : Writer, Tree.write d u w = Tree.write d v w) ∧ Tree.render d u = Tree.render d v

theorem Dialect.OnOneLine.nestsText {d : Dialect α σ} {head : Head α σ → Prop}
    (laws : d.OnOneLine head)
    (returns : ∀ s : String, '\r' ∉ s.toList → '\r' ∉ (d.text s).toList) : d.NestsText head where
  child {h children} free parent before behind w := by
    have shows : Tree.render d (.element h children) ≠ "" := by
      cases free with
      | element heads below => exact Tree.render_ne_empty laws heads children
    have raw : (Tree.raws [Tree.render d (.element h children)] : List (Tree α σ)) =
        [.raw (Tree.render d (.element h children))] := by
      simp [Tree.raws, shows]
    have replaced : Tree.Prerendered d head
        (.element parent (before ++ .element h children :: behind))
        (.element parent (before ++ .raw (Tree.render d (.element h children)) :: behind)) :=
      .inside parent before behind (.rendered free (.same _))
    rw [raw, List.append_assoc, List.singleton_append, Tree.write_eq, Tree.write_eq,
      replaced.lines_eq laws returns]
  nested {t u v} hu hv := by
    have same (level : Nat) : Tree.lines d level u = Tree.lines d level v := by
      rw [hu.lines_eq laws returns, hv.lines_eq laws returns]
    exact ⟨fun w => by rw [Tree.write_eq, Tree.write_eq, same], by rw [Tree.render, Tree.render, same]⟩

end MiniApp
