import MiniApp.Proofs.Source.Layout
import MiniApp.Proofs.Source.Scanner

/-!
Trees read back. Where a reader takes the tags of each element of a dialect for what they are meant
to be, it takes a tree that is laid out in lines for the tags of its elements in order, around those
of the fragments in it.
-/

set_option autoImplicit false

namespace MiniApp

variable {α σ μ τ : Type}

/-- All elements of a tree have heads of one kind, and all fragments in it are of one kind. -/
inductive Tree.All (head : Head α σ → Prop) (raw : String → Prop) : Tree α σ → Prop
  | text (value : String) : All head raw (.text value)
  | raw {fragment : String} (h : raw fragment) : All head raw (.raw fragment)
  | element {h : Head α σ} {children : List (Tree α σ)} (heads : head h)
      (below : ∀ t ∈ children, All head raw t) : All head raw (.element h children)

theorem Tree.All.imp {head : Head α σ → Prop} {raw raw' : String → Prop}
    (h : ∀ f, raw f → raw' f) {t : Tree α σ} (ht : t.All head raw) : t.All head raw' := by
  induction ht with
  | text value => exact .text value
  | raw hf => exact .raw (h _ hf)
  | element heads _ ih => exact .element heads ih

namespace Tree

def AllOf (head : Head α σ → Prop) (raw : String → Prop) (ts : List (Tree α σ)) : Prop :=
  ∀ t ∈ ts, t.All head raw

section AllOf

variable {head : Head α σ → Prop} {raw : String → Prop} {t : Tree α σ} {ts us : List (Tree α σ)}

theorem AllOf.nil : AllOf head raw [] := List.forall_mem_nil _

theorem AllOf.cons (h : t.All head raw) (hs : AllOf head raw ts) : AllOf head raw (t :: ts) :=
  List.forall_mem_cons.2 ⟨h, hs⟩

theorem AllOf.append (h : AllOf head raw ts) (h' : AllOf head raw us) :
    AllOf head raw (ts ++ us) := List.forall_mem_append.2 ⟨h, h'⟩

theorem allOf_one (h : t.All head raw) : AllOf head raw [t] := .cons h .nil

theorem allOf_text (s : String) : AllOf head raw [.text s] := allOf_one (.text s)

theorem allOf_map {β : Type} {f : β → Tree α σ} (h : ∀ b, (f b).All head raw) (bs : List β) :
    AllOf head raw (bs.map f) := List.forall_mem_map.2 fun b _ => h b

theorem allOf_raws {fs : List String} (h : ∀ f ∈ fs, raw f) : AllOf head raw (raws fs) :=
  List.forall_mem_map.2 fun f hf => .raw (h f (List.mem_filter.1 hf).1)

end AllOf

end Tree

/-- Tags that close what they open, in the opposite order, and are all allowed. A tag turns the
names of the open elements, the innermost first, into those after it. -/
structure WellNested (turn : List String → τ → Option (List String)) (allowed : τ → Prop)
    (tags : List τ) : Prop where
  nested : ∀ stack, tags.foldlM turn stack = some stack
  allowed : ∀ tag ∈ tags, allowed tag

section WellNested

variable {turn : List String → τ → Option (List String)} {allowed : τ → Prop} {tags others : List τ}

theorem wellNested_nil : WellNested turn allowed [] := ⟨fun _ => rfl, List.forall_mem_nil _⟩

theorem WellNested.append (h : WellNested turn allowed tags) (h' : WellNested turn allowed others) :
    WellNested turn allowed (tags ++ others) where
  nested stack := by rw [List.foldlM_append, h.nested, Option.bind_eq_bind, Option.bind_some, h'.nested]
  allowed := List.forall_mem_append.2 ⟨h.allowed, h'.allowed⟩

theorem wellNested_flatMap {β : Type} {xs : List β} {f : β → List τ}
    (h : ∀ x ∈ xs, WellNested turn allowed (f x)) : WellNested turn allowed (xs.flatMap f) := by
  induction xs with
  | nil => exact wellNested_nil
  | cons x xs ih =>
    rw [List.forall_mem_cons] at h
    exact h.1.append (ih h.2)

theorem wellNested_one {tag : τ} (stays : ∀ stack, turn stack tag = some stack)
    (ha : allowed tag) : WellNested turn allowed [tag] where
  nested stack := by rw [List.foldlM_cons, stays]; rfl
  allowed := List.forall_mem_singleton.2 ha

theorem WellNested.replicate {tag : τ} (h : WellNested turn allowed [tag]) (n : Nat) :
    WellNested turn allowed (List.replicate n tag) := by
  rw [← List.flatMap_singleton' (List.replicate n tag)]
  refine wellNested_flatMap fun tag' ht => ?_
  rwa [List.eq_of_mem_replicate ht]

theorem WellNested.element (name : String) {opening closing : τ}
    (opens : ∀ stack, turn stack opening = some (name :: stack))
    (closes : ∀ stack, turn (name :: stack) closing = some stack)
    (ho : allowed opening) (hc : allowed closing) (below : WellNested turn allowed tags) :
    WellNested turn allowed (opening :: (tags ++ [closing])) where
  nested stack := by
    rw [List.foldlM_cons, opens, Option.bind_eq_bind, Option.bind_some, List.foldlM_append,
      below.nested, Option.bind_eq_bind, Option.bind_some, List.foldlM_cons, closes]
    rfl
  allowed := List.forall_mem_cons.2
    ⟨ho, List.forall_mem_append.2 ⟨below.allowed, List.forall_mem_singleton.2 hc⟩⟩

end WellNested

/-- A reader takes a fragment for good tags. -/
def AcceptedBy (read : String → Option (List τ)) (good : List τ → Prop) (fragment : String) :
    Prop := ∃ tags, read fragment = some tags ∧ good tags

section AcceptedBy

variable {read : String → Option (List τ)} {p : List τ → Prop} {fragment : String}

theorem AcceptedBy.read_eq (h : AcceptedBy read p fragment) :
    read fragment = some ((read fragment).getD []) := by
  obtain ⟨tags, hr, -⟩ := h
  rw [hr, Option.getD_some]

theorem AcceptedBy.good (h : AcceptedBy read p fragment) : p ((read fragment).getD []) := by
  obtain ⟨tags, hr, hg⟩ := h
  rwa [hr, Option.getD_some]

end AcceptedBy

theorem acceptedBy_empty {turn : List String → τ → Option (List String)} {allowed : τ → Prop}
    {read : String → Option (List τ)} (h : read "" = some []) :
    AcceptedBy read (WellNested turn allowed) "" := ⟨[], h, wellNested_nil⟩

/-- A reader of a dialect, and what it is meant to take the parts of an element for. -/
structure Reading (α σ μ τ : Type) where
  dialect : Dialect α σ
  step : Scanner.Step μ τ
  text : μ
  opened : Head α σ → List τ
  closed : Head α σ → List τ
  childless : Head α σ → List τ
  words : String → List τ

namespace Reading

open Scanner

variable (r : Reading α σ μ τ)

/-- The reader goes over a text outside of all tags, and takes it for the given ones. -/
def Takes (s : String) (tags : List τ) : Prop := scan r.step r.text s.toList = some (r.text, tags)

mutual

/-- What a tree is made of, given what the fragments in it are made of. -/
def tagsOf (read : String → List τ) : Tree α σ → List τ
  | .text s => r.words s
  | .raw fragment => read fragment
  | .element head children =>
    if head.isVoid || children.isEmpty then r.childless head
    else r.opened head ++ (tagsOfAll read children ++ r.closed head)

def tagsOfAll (read : String → List τ) : List (Tree α σ) → List τ
  | [] => []
  | t :: ts => tagsOf read t ++ tagsOfAll read ts

end

theorem tagsOfAll_eq_flatMap (read : String → List τ) (ts : List (Tree α σ)) :
    r.tagsOfAll read ts = ts.flatMap (r.tagsOf read) := by
  induction ts with
  | nil => rfl
  | cons t ts ih => rw [tagsOfAll, ih, List.flatMap_cons]

/-- The parts of elements with heads of one kind are taken for what they are meant to be. -/
structure Lawful (head : Head α σ → Prop) : Prop where
  breaks : BreaksIn r.step r.text
  opened : ∀ {h}, head h → r.Takes (r.dialect.opening h ++ ">") (r.opened h)
  closed : ∀ {h}, head h → r.Takes (Tree.closing h) (r.closed h)
  childless : ∀ {h}, head h → r.Takes (r.dialect.childless h) (r.childless h)
  words : ∀ s, r.Takes (r.dialect.text s) (r.words s)

variable {r} {head : Head α σ → Prop} {read : String → List τ}

theorem Lawful.mono {head' : Head α σ → Prop} (lawful : r.Lawful head)
    (h : ∀ {h'}, head' h' → head h') : r.Lawful head' where
  breaks := lawful.breaks
  opened h' := lawful.opened (h h')
  closed h' := lawful.closed (h h')
  childless h' := lawful.childless (h h')
  words := lawful.words

theorem Takes.append {s t : String} {tags others : List τ} (hs : r.Takes s tags)
    (ht : r.Takes t others) : r.Takes (s ++ t) (tags ++ others) := by
  rw [Takes, String.toList_append]
  exact scan_append hs ht

theorem scan_linesOfAll {ts : List (Tree α σ)} (level : Nat)
    (h : ∀ t ∈ ts, scan r.step r.text (lineChars (t.lines r.dialect level)) =
      some (r.text, r.tagsOf read t)) :
    scan r.step r.text (lineChars (Tree.linesOfAll r.dialect level ts)) =
      some (r.text, r.tagsOfAll read ts) := by
  induction ts with
  | nil => rfl
  | cons t ts ih =>
    rw [List.forall_mem_cons] at h
    exact scan_lineChars_append h.1 (ih h.2)

theorem Lawful.scan_lines (lawful : r.Lawful head) {t : Tree α σ}
    (ht : t.All head fun f => r.Takes f (read f)) (level : Nat) :
    scan r.step r.text (lineChars (t.lines r.dialect level)) = some (r.text, r.tagsOf read t) := by
  have line {s : String} {tags : List τ} (h : r.Takes s tags) (level : Nat) :
      scan r.step r.text (lineChars [indented level s]) = some (r.text, tags) :=
    scan_line lawful.breaks h level
  induction ht generalizing level with
  | text value => exact line (lawful.words value) level
  | raw h => exact scan_blockLines lawful.breaks h level
  | @element h children heads _ ih =>
    have childless := line (lawful.childless heads) level
    rw [tagsOf]
    cases hv : h.isVoid with
    | true =>
      rw [Tree.lines_of_isVoid _ level hv]
      exact childless
    | false =>
      by_cases hc : children = []
      · subst hc
        rw [Tree.lines_nil]
        exact childless
      rw [if_neg (by simpa using hc)]
      by_cases hs : ∃ s, children = [.text s]
      · obtain ⟨s, rfl⟩ := hs
        rw [Tree.lines_text _ level hv, tagsOfAll_eq_flatMap, List.flatMap_singleton, tagsOf,
          ← List.append_assoc]
        exact line (((lawful.opened heads).append (lawful.words s)).append (lawful.closed heads))
          level
      · rw [Tree.lines_block _ level hv hc (not_exists.1 hs)]
        have below := scan_linesOfAll (level + 1) fun t ht => ih t ht (level + 1)
        exact scan_lineChars_append (line (lawful.opened heads) level)
          (scan_lineChars_append below (line (lawful.closed heads) level))

/-- A tree is taken for what it is made of. -/
theorem Lawful.takes_render (lawful : r.Lawful head) {t : Tree α σ}
    (ht : t.All head fun f => r.Takes f (read f)) :
    r.Takes (t.render r.dialect) (r.tagsOf read t) :=
  scan_finishLines lawful.breaks (lawful.scan_lines ht 0)

theorem forall_tagsOfAll {good : List τ → Prop} (nil : good [])
    (append : ∀ {tags others}, good tags → good others → good (tags ++ others))
    {ts : List (Tree α σ)} (h : ∀ t ∈ ts, good (r.tagsOf read t)) :
    good (r.tagsOfAll read ts) := by
  induction ts with
  | nil => exact nil
  | cons t ts ih =>
    rw [List.forall_mem_cons] at h
    exact append h.1 (ih h.2)

/-- What holds of no tags, of texts and elements without children, and from tags to more of them and
to the element around them, holds of all that trees are made of. -/
theorem forall_tagsOf {good : List τ → Prop} (nil : good [])
    (append : ∀ {tags others}, good tags → good others → good (tags ++ others))
    (words : ∀ s, good (r.words s)) (childless : ∀ {h}, head h → good (r.childless h))
    (element : ∀ {h tags}, head h → h.isVoid = false → good tags →
      good (r.opened h ++ (tags ++ r.closed h)))
    {t : Tree α σ} (ht : t.All head fun f => good (read f)) : good (r.tagsOf read t) := by
  induction ht with
  | text value => exact words value
  | raw h => exact h
  | @element h children heads _ ih =>
    rw [tagsOf]
    split
    · exact childless heads
    · next hv =>
      rw [Bool.or_eq_true, not_or, Bool.not_eq_true] at hv
      exact element heads hv.1 (forall_tagsOfAll nil append ih)

end Reading

end MiniApp
