import MiniApp.Proofs.Source.Lines
import MiniApp.Proofs.Source.Reading

/-!
# Trees with elements for fragments

A fragment in a tree is text that was laid out before, and is laid out again line by line. When its
lines are solid that comes to the same as laying out, in its place, the elements that it was made
from. Then no fragments are left, and one writer writes all the lines from the top down.
-/

set_option autoImplicit false

namespace MiniApp

variable {α σ : Type}

namespace Tree

section Writing

variable (d : Dialect α σ)

mutual

/-- Writes a tree at the level of the writer. -/
def write : Tree α σ → Writer → Writer
  | .text s, w => w.line (d.text s)
  | .raw fragment, w => w.block fragment
  | .element head children, w =>
    if head.isVoid then w.line (d.childless head)
    else match children with
      | [] => w.line (d.childless head)
      | [.text s] => w.line (d.opening head ++ ">" ++ d.text s ++ closing head)
      | children =>
        (writeAll children (w.line (d.opening head ++ ">")).indent).dedent.line (closing head)

def writeAll : List (Tree α σ) → Writer → Writer
  | [], w => w
  | t :: ts, w => writeAll ts (write t w)

end

end Writing

mutual

/-- The tree with elements in the place of each fragment. -/
def fill (elements : String → List (Tree α σ)) : Tree α σ → List (Tree α σ)
  | .text s => [.text s]
  | .raw fragment => elements fragment
  | .element head children => [.element head (fillAll elements children)]

def fillAll (elements : String → List (Tree α σ)) : List (Tree α σ) → List (Tree α σ)
  | [] => []
  | t :: ts => fill elements t ++ fillAll elements ts

end

/-- An element without any fragments in it, all heads of one kind, and each text the one child of an
element. -/
inductive Tidy (head : Head α σ → Prop) : Tree α σ → Prop
  | words {h : Head α σ} (heads : head h) (s : String) : Tidy head (.element h [.text s])
  | element {h : Head α σ} {children : List (Tree α σ)} (heads : head h)
      (below : ∀ t ∈ children, Tidy head t) : Tidy head (.element h children)

theorem Tidy.imp {head head' : Head α σ → Prop} (heads : ∀ h, head h → head' h) {t : Tree α σ}
    (ht : t.Tidy head) : t.Tidy head' := by
  induction ht with
  | words here s => exact .words (heads _ here) s
  | element here _ ih => exact .element (heads _ here) ih

theorem Tidy.all {head : Head α σ → Prop} {t : Tree α σ} (ht : t.Tidy head)
    (raw : String → Prop) : t.All head raw := by
  induction ht with
  | words here s => exact .element here (List.forall_mem_singleton.2 (.text s))
  | element here _ ih => exact .element here ih

/-- The same tree around fragments that are related, each text the one child of an element. -/
inductive Related (R : String → String → Prop) : Tree α σ → Tree α σ → Prop
  | raw {f g : String} (related : R f g) (shows : f ≠ "") : Related R (.raw f) (.raw g)
  | words (h : Head α σ) (s : String) : Related R (.element h [.text s]) (.element h [.text s])
  | element (h : Head α σ) {ts us : List (Tree α σ)} (below : List.Forall₂ (Related R) ts us) :
      Related R (.element h ts) (.element h us)

section Writing

variable (d : Dialect α σ) {head : Head α σ}

theorem write_of_isVoid (hv : head.isVoid = true) (children : List (Tree α σ)) (w : Writer) :
    write d (.element head children) w = w.line (d.childless head) := by
  rcases children with - | ⟨s | f | ⟨h, cs⟩, - | ⟨u, ts⟩⟩ <;> simp only [write, hv, if_true]

theorem write_nil (w : Writer) : write d (.element head []) w = w.line (d.childless head) := by
  simp only [write, ite_self]

theorem write_text (hv : head.isVoid = false) (s : String) (w : Writer) :
    write d (.element head [.text s]) w =
      w.line (d.opening head ++ ">" ++ d.text s ++ closing head) := by
  simp only [write, hv, Bool.false_eq_true, if_false]

theorem write_block (hv : head.isVoid = false) {children : List (Tree α σ)}
    (hc : children ≠ []) (ht : ∀ s, children ≠ [.text s]) (w : Writer) :
    write d (.element head children) w =
      (writeAll d children (w.line (d.opening head ++ ">")).indent).dedent.line (closing head) := by
  rcases children with - | ⟨s | f | ⟨h, cs⟩, - | ⟨u, ts⟩⟩
  · exact absurd rfl hc
  · exact absurd rfl (ht s)
  all_goals simp only [write, hv, Bool.false_eq_true, if_false]

mutual

/-- A writer writes the lines of a tree behind those that it has written. -/
theorem write_eq (t : Tree α σ) (w : Writer) :
    write d t w = ⟨w.lines ++ lines d w.level t, w.level⟩ := by
  cases t with
  | text | raw => rfl
  | element head children =>
    cases hv : head.isVoid with
    | true =>
      rw [lines_of_isVoid d w.level hv, write_of_isVoid d hv]
      rfl
    | false =>
      by_cases hc : children = []
      · subst hc
        rw [lines_nil, write_nil]
        rfl
      by_cases ht : ∃ s, children = [.text s]
      · obtain ⟨s, rfl⟩ := ht
        rw [lines_text d w.level hv, write_text d hv]
        rfl
      · rw [lines_block d w.level hv hc (not_exists.1 ht), write_block d hv hc (not_exists.1 ht),
          writeAll_eq children]
        simp [Writer.line, Writer.indent, Writer.dedent]

theorem writeAll_eq (ts : List (Tree α σ)) (w : Writer) :
    writeAll d ts w = ⟨w.lines ++ linesOfAll d w.level ts, w.level⟩ := by
  cases ts with
  | nil => simp [writeAll, linesOfAll]
  | cons t ts => rw [writeAll, write_eq t w, writeAll_eq ts, linesOfAll, List.append_assoc]

end

theorem finish_writeAll (ts : List (Tree α σ)) :
    (writeAll d ts .empty).finish = finishLines (linesOfAll d 0 ts) := by
  rw [writeAll_eq]
  rfl

end Writing

end Tree

/-- No line breaks come from the heads of one kind nor from any text. -/
structure Dialect.OnOneLine (d : Dialect α σ) (head : Head α σ → Prop) : Prop where
  opening : ∀ {h}, head h → '\n' ∉ (d.opening h).toList
  childless : ∀ {h}, head h →
    '\n' ∉ (d.childless h).toList ∧ ∃ tag, d.childless h = tag ++ ">"
  closing : ∀ {h}, head h → '\n' ∉ (Tree.closing h).toList
  text : ∀ s, '\n' ∉ (d.text s).toList

theorem Dialect.OnOneLine.mono {d : Dialect α σ} {head head' : Head α σ → Prop}
    (laws : d.OnOneLine head) (heads : ∀ {h}, head' h → head h) : d.OnOneLine head' where
  opening h := laws.opening (heads h)
  childless h := laws.childless (heads h)
  closing h := laws.closing (heads h)
  text := laws.text

theorem feed_notMem_of_all {p : Char → Bool} (hp : p '\n' = false) {s : String}
    (h : s.toList.all p = true) : '\n' ∉ s.toList := by
  intro hm
  rw [List.all_eq_true.1 h _ hm] at hp
  cases hp

theorem feed_notMem_join {β : Type} {f : β → String} {xs : List β}
    (h : ∀ x ∈ xs, '\n' ∉ (f x).toList) : '\n' ∉ (String.join (xs.map f)).toList := by
  rw [String.toList_join, List.mem_flatMap]
  rintro ⟨text, ht, hm⟩
  obtain ⟨x, hx, rfl⟩ := List.mem_map.1 ht
  exact h x hx hm

theorem feed_notMem_closing {h : Head α σ} (name : '\n' ∉ h.name.toList) :
    '\n' ∉ (Tree.closing h).toList := by
  simp [Tree.closing, name]

theorem feed_notMem_shown {tag : List Char} (h : '\n' ∉ tag) (cs : List Char) :
    '\n' ∉ cs.flatMap (Escape.showBreak tag) := by
  rw [List.mem_flatMap]
  rintro ⟨c, -, hm⟩
  rw [Escape.showBreak] at hm
  split at hm
  · exact h hm
  · next feed => exact feed (List.mem_singleton.1 hm).symm

theorem solid_of_bracket {line tag : String} (written : line = tag ++ ">")
    (unbroken : '\n' ∉ line.toList) : Solid line where
  shows empty := absurd (String.append_eq_empty_iff.1 (written.symm.trans empty)).2 (by decide)
  unbroken := unbroken
  ends := by
    rw [written, String.toList_append, List.getLast?_append_of_ne_nil _ (by decide)]
    decide

namespace Tree

variable {d : Dialect α σ} {head : Head α σ → Prop}

theorem Tidy.ne_text {t : Tree α σ} (h : t.Tidy head) (s : String) : t ≠ .text s := by
  rintro rfl
  cases h

theorem ne_text_of_tidy {ts : List (Tree α σ)} (h : ∀ t ∈ ts, Tidy head t) (s : String) :
    ts ≠ [.text s] := by
  rintro rfl
  exact (h _ (List.mem_singleton_self _)).ne_text s rfl

theorem lines_ne_nil {t : Tree α σ} (h : t.Tidy head) (level : Nat) : lines d level t ≠ [] := by
  cases h with
  | words | element =>
    obtain ⟨line, rest, written, -⟩ := lines_element d level _ _
    rw [written]
    exact List.cons_ne_nil _ _

theorem linesOfAll_ne_nil {ts : List (Tree α σ)} (h : ∀ t ∈ ts, Tidy head t) (shows : ts ≠ [])
    (level : Nat) : linesOfAll d level ts ≠ [] := by
  cases ts with
  | nil => exact absurd rfl shows
  | cons t ts =>
    rw [linesOfAll]
    exact List.append_ne_nil_of_left_ne_nil (lines_ne_nil (h t List.mem_cons_self) level) _

section Moved

variable (d)

mutual

/-- Where a tree stands moves its lines and changes nothing else. -/
theorem lines_add (t : Tree α σ) (m n : Nat) :
    lines d (m + n) t = (lines d n t).map (indented m) := by
  cases t with
  | text s => simp [lines, indented_indented]
  | raw fragment => simp [lines, blockLines, indented_indented]
  | element h children =>
    cases hv : h.isVoid with
    | true => simp [lines_of_isVoid d _ hv, indented_indented]
    | false =>
      by_cases hc : children = []
      · subst hc
        simp [lines_nil, indented_indented]
      by_cases ht : ∃ s, children = [.text s]
      · obtain ⟨s, rfl⟩ := ht
        simp [lines_text d _ hv, indented_indented]
      · have ht := not_exists.1 ht
        rw [lines_block d _ hv hc ht, lines_block d _ hv hc ht, Nat.add_assoc,
          linesOfAll_add children m (n + 1)]
        simp [indented_indented]

theorem linesOfAll_add (ts : List (Tree α σ)) (m n : Nat) :
    linesOfAll d (m + n) ts = (linesOfAll d n ts).map (indented m) := by
  cases ts with
  | nil => rfl
  | cons t ts => rw [linesOfAll, linesOfAll, List.map_append, lines_add t, linesOfAll_add ts]

end

end Moved

section Solid

variable (laws : d.OnOneLine head)
include laws

section Element

variable {h : Head α σ} (heads : head h)
include heads

theorem solid_childless : Solid (d.childless h) := by
  obtain ⟨unbroken, tag, written⟩ := laws.childless heads
  exact solid_of_bracket written unbroken

theorem solid_opened : Solid (d.opening h ++ ">") :=
  solid_of_bracket rfl (by simp [laws.opening heads])

theorem solid_closing : Solid (closing h) := solid_of_bracket rfl (laws.closing heads)

theorem solid_words (s : String) : Solid (d.opening h ++ ">" ++ d.text s ++ closing h) := by
  have written : d.opening h ++ ">" ++ d.text s ++ closing h =
      d.opening h ++ ">" ++ d.text s ++ ("</" ++ h.name) ++ ">" := String.append_assoc.symm
  refine solid_of_bracket written ?_
  simp [laws.opening heads, laws.text, laws.closing heads]

theorem forall_mem_lines_element {P : String → Prop} (solid : ∀ line, Solid line → P line)
    {level : Nat} {children : List (Tree α σ)}
    (below : (∀ s, children ≠ [.text s]) → ∀ line ∈ linesOfAll d (level + 1) children, P line) :
    ∀ line ∈ lines d level (.element h children), P line := by
  have childless := solid _ ((solid_childless laws heads).indented level)
  cases hv : h.isVoid with
  | true =>
    rw [lines_of_isVoid d _ hv]
    exact List.forall_mem_singleton.2 childless
  | false =>
    by_cases hc : children = []
    · subst hc
      rw [lines_nil]
      exact List.forall_mem_singleton.2 childless
    by_cases ht : ∃ s, children = [.text s]
    · obtain ⟨s, rfl⟩ := ht
      rw [lines_text d _ hv]
      exact List.forall_mem_singleton.2 (solid _ ((solid_words laws heads s).indented level))
    · have ht := not_exists.1 ht
      rw [lines_block d _ hv hc ht, List.forall_mem_cons, List.forall_mem_append,
        List.forall_mem_singleton]
      exact ⟨solid _ ((solid_opened laws heads).indented level), below ht,
        solid _ ((solid_closing laws heads).indented level)⟩

end Element

theorem Tidy.solid_lines {t : Tree α σ} (h : t.Tidy head) (level : Nat) :
    ∀ line ∈ lines d level t, Solid line := by
  induction h generalizing level with
  | words heads s =>
    exact forall_mem_lines_element laws heads (fun _ h => h) fun ht => absurd rfl (ht s)
  | element heads _ ih =>
    refine forall_mem_lines_element laws heads (fun _ h => h) fun _ line hl => ?_
    rw [linesOfAll_eq_flatMap] at hl
    obtain ⟨t, ht, hl⟩ := List.mem_flatMap.1 hl
    exact ih t ht (level + 1) line hl

theorem solid_linesOfAll {ts : List (Tree α σ)} (h : ∀ t ∈ ts, Tidy head t) (level : Nat) :
    ∀ line ∈ linesOfAll d level ts, Solid line := by
  intro line hl
  rw [linesOfAll_eq_flatMap] at hl
  obtain ⟨t, ht, hl⟩ := List.mem_flatMap.1 hl
  exact (h t ht).solid_lines laws level line hl

theorem blockLines_finishLines {ts : List (Tree α σ)} (h : ∀ t ∈ ts, Tidy head t) (level : Nat) :
    blockLines level (finishLines (linesOfAll d 0 ts)) = linesOfAll d level ts := by
  rw [MiniApp.blockLines_finishLines (solid_linesOfAll laws h 0), ← linesOfAll_add, Nat.add_zero]

end Solid

section Fill

variable {R : String → String → Prop} {elements : String → List (Tree α σ)}

/-- The fragment is the text of the elements. -/
structure LaidOut (d : Dialect α σ) (head : Head α σ → Prop) (fragment : String)
    (ts : List (Tree α σ)) : Prop where
  text : fragment = finishLines (linesOfAll d 0 ts)
  tidy : ∀ t ∈ ts, Tidy head t

theorem LaidOut.nil : LaidOut d head "" ([] : List (Tree α σ)) := ⟨rfl, List.forall_mem_nil _⟩

theorem LaidOut.ne_nil {fragment : String} {ts : List (Tree α σ)}
    (h : LaidOut d head fragment ts) (shows : fragment ≠ "") : ts ≠ [] := by
  rintro rfl
  exact shows h.text

theorem LaidOut.eq_empty_iff (laws : d.OnOneLine head) {fragment : String} {ts : List (Tree α σ)}
    (h : LaidOut d head fragment ts) : fragment = "" ↔ ts = [] := by
  refine ⟨fun empty => ?_, ?_⟩
  · by_contra shows
    exact finishLines_ne_empty (solid_linesOfAll laws h.tidy 0) (linesOfAll_ne_nil h.tidy shows 0)
      (h.text.symm.trans empty)
  · rintro rfl
    exact h.text

/-- Fragments one below the other are the text of their elements in that order. -/
theorem laidOut_intercalate (laws : d.OnOneLine head) {fs : List String} {tss : List (List (Tree α σ))}
    (h : List.Forall₂ (LaidOut d head) fs tss) (shows : ∀ f ∈ fs, f ≠ "") :
    LaidOut d head ("\n".intercalate fs) tss.flatten := by
  induction h with
  | nil => exact .nil
  | @cons f ts fs tss first rest ih =>
    rw [List.forall_mem_cons] at shows
    have below := ih shows.2
    have tidy : ∀ t ∈ (ts :: tss).flatten, Tidy head t := by
      rw [List.flatten_cons]
      exact List.forall_mem_append.2 ⟨first.tidy, below.tidy⟩
    refine ⟨?_, tidy⟩
    cases rest with
    | nil => simpa using first.text
    | @cons f' ts' fs tss second rest =>
      have filled : (ts' :: tss).flatten ≠ [] := by
        rw [List.flatten_cons]
        exact List.append_ne_nil_of_left_ne_nil (second.ne_nil (shows.2 f' List.mem_cons_self)) _
      rw [String.intercalate_cons_cons, List.flatten_cons, linesOfAll_eq_flatMap,
        List.flatMap_append, ← linesOfAll_eq_flatMap, ← linesOfAll_eq_flatMap,
        finishLines_append (solid_linesOfAll laws first.tidy 0) (solid_linesOfAll laws below.tidy 0)
          (linesOfAll_ne_nil first.tidy (first.ne_nil shows.1) 0)
          (linesOfAll_ne_nil below.tidy filled 0), ← first.text, ← below.text]

mutual

theorem Related.tidy_fill (laid : ∀ f g, R f g → LaidOut d head f (elements g))
    {t t' : Tree α σ} (h : t.Related R t') {raw : String → Prop}
    (heads : t.All head raw) : fill elements t' ≠ [] ∧ ∀ u ∈ fill elements t', Tidy head u := by
  cases h with
  | raw related shows => exact ⟨(laid _ _ related).ne_nil shows, (laid _ _ related).tidy⟩
  | words h s =>
    cases heads with
    | element here _ => exact ⟨List.cons_ne_nil _ _, List.forall_mem_singleton.2 (.words here s)⟩
  | element h below =>
    cases heads with
    | element here inner =>
      exact ⟨List.cons_ne_nil _ _,
        List.forall_mem_singleton.2 (.element here (tidy_fillAll laid below inner).2)⟩

theorem Related.tidy_fillAll (laid : ∀ f g, R f g → LaidOut d head f (elements g))
    {ts us : List (Tree α σ)} (h : List.Forall₂ (Related R) ts us)
    {raw : String → Prop} (heads : ∀ t ∈ ts, t.All head raw) :
    (us ≠ [] → fillAll elements us ≠ []) ∧ ∀ u ∈ fillAll elements us, Tidy head u := by
  cases h with
  | nil => exact ⟨fun h => absurd rfl h, List.forall_mem_nil _⟩
  | cons first rest =>
    rw [List.forall_mem_cons] at heads
    have first := first.tidy_fill laid heads.1
    rw [fillAll, List.forall_mem_append]
    exact ⟨fun _ => List.append_ne_nil_of_left_ne_nil first.1 _,
      first.2, (tidy_fillAll laid rest heads.2).2⟩

end

mutual

/-- The fragments of a tree laid out line by line are the lines of their elements. -/
theorem Related.lines_fill (laws : d.OnOneLine head)
    (laid : ∀ f g, R f g → LaidOut d head f (elements g)) {t t' : Tree α σ} (h : t.Related R t')
    {raw : String → Prop} (heads : t.All head raw) (level : Nat) :
    linesOfAll d level (fill elements t') = lines d level t := by
  cases h with
  | raw related shows =>
    have made := laid _ _ related
    rw [fill, lines, made.text, blockLines_finishLines laws made.tidy]
  | words h s => rw [fill, fillAll, fill, fillAll, linesOfAll, linesOfAll, List.append_nil]; rfl
  | @element h ts us below =>
    cases heads with
    | element here inner =>
      have tidy := tidy_fillAll laid below inner
      rw [fill, linesOfAll, linesOfAll, List.append_nil]
      cases hv : h.isVoid with
      | true => rw [lines_of_isVoid d level hv, lines_of_isVoid d level hv]
      | false =>
        by_cases hc : ts = []
        · subst hc
          cases below
          rfl
        · have filled : fillAll elements us ≠ [] := by
            refine tidy.1 ?_
            rintro rfl
            cases below
            exact hc rfl
          have ht : ∀ s, ts ≠ [.text s] := by
            rintro s rfl
            cases below with
            | cons text _ => cases text
          rw [lines_block d level hv filled (ne_text_of_tidy tidy.2), lines_block d level hv hc ht,
            linesOfAll_fillAll laws laid below inner]

theorem Related.linesOfAll_fillAll (laws : d.OnOneLine head)
    (laid : ∀ f g, R f g → LaidOut d head f (elements g)) {ts us : List (Tree α σ)}
    (h : List.Forall₂ (Related R) ts us) {raw : String → Prop}
    (heads : ∀ t ∈ ts, t.All head raw) (level : Nat) :
    linesOfAll d level (fillAll elements us) = linesOfAll d level ts := by
  cases h with
  | nil => rfl
  | cons first rest =>
    rw [List.forall_mem_cons] at heads
    rw [fillAll, linesOfAll, ← first.lines_fill laws laid heads.1,
      ← linesOfAll_fillAll laws laid rest heads.2, linesOfAll_eq_flatMap, List.flatMap_append,
      linesOfAll_eq_flatMap, linesOfAll_eq_flatMap]

end

end Fill

end Tree

end MiniApp
