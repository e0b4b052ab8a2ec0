import Mathlib.Algebra.GroupWithZero.Nat
import MiniApp.Proofs.Code.Expression
import MiniApp.Proofs.Component.Shown
import MiniApp.Proofs.Component.Tags
import MiniApp.Proofs.Graph.Links
import MiniApp.Proofs.Source.Collect
import MiniApp.Proofs.Walk.Agreement
import MiniApp.Proofs.Walk.Elements

/-!
# Slides of a carousel

A document shows a slide for each image of a carousel and for each child that shows something; the
component of a project shows one for each image and for each element that is passed to it. A node
that passes its children on is one child, however many elements it leaves, so the two show as many
slides just when no child leaves more than one.
-/

set_option autoImplicit false

namespace MiniApp

section Trees

variable {α σ : Type}

namespace Tree

def isElement : Tree α σ → Bool
  | .element .. => true
  | _ => false

theorem filter_fillAll {name : String} {ts : List (Tree α σ)} (h : ∀ t ∈ ts, t.hasClass name = true)
    (elements : String → List (Tree α σ)) :
    ((fillAll elements ts).filter (hasClass name)).length = ts.length := by
  induction ts with
  | nil => rfl
  | cons t ts ih =>
    rw [List.forall_mem_cons] at h
    cases t with
    | text | raw => cases h.1
    | element head inner =>
      rw [fillAll, fill, List.filter_append, List.length_append, ih h.2,
        List.filter_cons_of_pos (by exact h.1), List.filter_nil, List.length_singleton,
        List.length_cons, Nat.add_comm]

theorem fillAll_raws (elements : String → List (Tree α σ)) (fs : List String) :
    fillAll elements (raws fs) = (Children.shown fs).flatMap elements := by
  rw [raws, ← Children.shown]
  induction Children.shown fs with
  | nil => rfl
  | cons f fs ih => rw [List.map_cons, fillAll, fill, ih, List.flatMap_cons]

theorem Tidy.isElement {head : Head α σ → Prop} {t : Tree α σ} (h : t.Tidy head) :
    t.isElement = true := by
  cases h <;> rfl

end Tree

end Trees

theorem Children.flatMap_shown_of {β : Type} {f : String → List β} {fs : List String}
    (nothing : ∀ s ∈ fs, s = "" → f s = []) : (shown fs).flatMap f = fs.flatMap f := by
  induction fs with
  | nil => rfl
  | cons s fs ih =>
    rw [List.forall_mem_cons] at nothing
    by_cases shows : s = ""
    · rw [shown, List.filter_cons_of_neg (by simpa using shows), ← shown, ih nothing.2,
        List.flatMap_cons, nothing.1 shows, List.nil_append]
    · rw [shown, List.filter_cons_of_pos (by simpa using shows), ← shown, List.flatMap_cons,
        ih nothing.2, List.flatMap_cons]

def Markup.slides (t : Markup.Tree) : List Markup.Tree :=
  ((t.children.filter (Tree.hasClass "mf-carousel-track")).flatMap Tree.children).filter
    (Tree.hasClass "mf-carousel-slide")

def Markup.dots (t : Markup.Tree) : List Markup.Tree :=
  ((t.children.filter (Tree.hasClass "mf-carousel-dots")).flatMap Tree.children).filter
    (Tree.hasClass "mf-carousel-dot")

/-- How many slides the component of a project shows: one for each record of its list, and one for
each element among its children. -/
def Jsx.slideCount? (a : Code.Alphabet) : Jsx.Tree → Option Nat
  | .element h children =>
    match h.attrs.lookup "slides" with
    | some (.expr code) =>
      match a.read? code with
      | some (.list images) => some (images.length + (children.filter Tree.isElement).length)
      | _ => none
    | _ => none
  | _ => none

namespace DocumentRule

open Component Markup

theorem length_slides (m : Carousel) (c : Children) :
    (slides m c).length = max 1 (m.slides.length + c.all.length) := by
  rw [slides]
  split
  · next none =>
    rw [List.isEmpty_iff, List.append_eq_nil_iff, List.map_eq_nil_iff, List.map_eq_nil_iff] at none
    rw [none.1, none.2]
    rfl
  · next some =>
    rw [List.isEmpty_iff, ← List.length_eq_zero_iff] at some
    rw [List.length_append, List.length_map, List.length_map] at some ⊢
    omega

theorem hasClass_slides (m : Carousel) (c : Children) :
    ∀ t ∈ slides m c, t.hasClass "mf-carousel-slide" = true := by
  have slide (children : List Markup.Tree) :
      (slideElement children).hasClass "mf-carousel-slide" = true := by
    simp [slideElement, element, Tree.hasClass]
  rw [slides]
  split
  · exact List.forall_mem_singleton.2 (slide _)
  · exact List.forall_mem_append.2 ⟨List.forall_mem_map.2 fun _ _ => slide _,
      List.forall_mem_map.2 fun _ _ => slide _⟩

theorem hasClass_dot (index : Nat) : (dot index).hasClass "mf-carousel-dot" = true := by
  simp [dot, element, Tree.hasClass]

theorem exists_fill_carousel (m : Carousel) (c : Children) (handle : String)
    (elements : String → List Markup.Tree) :
    ∃ t, (carousel m c handle).fill elements = [t] ∧
      (Markup.slides t).length = max 1 (m.slides.length + c.all.length) ∧
      (Markup.dots t).length = max 1 (m.slides.length + c.all.length) := by
  have slides := Tree.filter_fillAll (hasClass_slides m c) elements
  have dot : ∀ t ∈ (List.range (DocumentRule.slides m c).length).map dot,
      t.hasClass "mf-carousel-dot" = true := List.forall_mem_map.2 fun index _ => hasClass_dot index
  have dots := Tree.filter_fillAll dot elements
  rw [length_slides] at slides
  rw [List.length_map, List.length_range] at dots
  refine ⟨_, rfl, ?_, (length_slides m c) ▸ ?_⟩
  · simpa [Markup.slides, Tree.children, element, Tree.fillAll, Tree.fill, Tree.hasClass] using slides
  · simpa [Markup.dots, Tree.children, element, Tree.fillAll, Tree.fill, Tree.hasClass] using dots

end DocumentRule

namespace ProjectRule

open Component Jsx Code

theorem read?_slides (a : Alphabet) (slides : List Slide) :
    ∃ images, a.read? (Script.list (slides.map slideRecord)).render = some (.list images) ∧
      images.length = slides.length := by
  have names : a.isName "src".toList = true ∧ a.isName "alt".toList = true := by
    simp [Alphabet.isName, a.starts_low, a.continues_low]
  have literal : IsLiteral a (.list (slides.map slideRecord)) := by
    refine .list (List.forall_mem_map.2 fun s _ => .record ?_ ?_)
    · simp only [List.forall_mem_cons]
      exact ⟨names.1, names.2, List.forall_mem_nil _⟩
    · simp only [List.forall_mem_cons]
      exact ⟨.text _, .text _, List.forall_mem_nil _⟩
  refine ⟨Script.shownItems (slides.map slideRecord), ?_, ?_⟩
  · rw [read?_render literal, Script.shown]
  · rw [Script.shownItems_eq_map, List.length_map, List.length_map]

theorem slideCount?_eq (a : Alphabet) (slides : List Slide) {h : Jsx.Head}
    (given : h.attrs.lookup "slides" = some (.expr (Script.list (slides.map slideRecord)).render))
    {children : List Jsx.Tree} (whole : ∀ t ∈ children, t.isElement = true) :
    slideCount? a (.element h children) = some (slides.length + children.length) := by
  obtain ⟨images, read, length⟩ := read?_slides a slides
  rw [slideCount?, given]
  simp only [read, length]
  rw [List.filter_eq_self.2 whole]

theorem exists_fill_carousel (a : Alphabet) (m : Carousel) (c : Children)
    {elements : String → List Jsx.Tree}
    (whole : ∀ f ∈ c.all, elements f ≠ [] ∧ ∀ t ∈ elements f, t.isElement = true) :
    ∃ t, (carousel m c).fill elements = [t] ∧
      slideCount? a t = some (max 1 (m.slides.length + (c.all.flatMap elements).length)) := by
  have children : Tree.fillAll elements (raws c.all) = c.all.flatMap elements := by
    rw [raws, Tree.fillAll_raws, c.shown_all]
  have passed : ∀ t ∈ c.all.flatMap elements, t.isElement = true := by
    intro t ht
    obtain ⟨f, hf, ht⟩ := List.mem_flatMap.1 ht
    exact (whole f hf).2 t ht
  refine ⟨_, rfl, ?_⟩
  rw [children, slideCount?_eq a _ rfl passed]
  congr 1
  split
  · next none =>
    rw [Bool.and_eq_true, List.isEmpty_iff, List.isEmpty_iff] at none
    rw [none.1, none.2]
    rfl
  · next some =>
    rw [Bool.and_eq_true, List.isEmpty_iff, List.isEmpty_iff, ← List.length_eq_zero_iff] at some
    have positive : c.all ≠ [] → 0 < (c.all.flatMap elements).length := by
      intro nonempty
      obtain ⟨f, hf⟩ := List.exists_mem_of_ne_nil _ nonempty
      obtain ⟨t, ht⟩ := List.exists_mem_of_ne_nil _ (whole f hf).1
      exact List.length_pos_of_mem (List.mem_flatMap.2 ⟨f, hf, ht⟩)
    by_cases images : m.slides.length = 0
    · have := positive fun nothing => some ⟨images, nothing⟩
      omega
    · omega

end ProjectRule

namespace Unfolding

mutual

/-- How many elements a link leaves: one for a component, and those of its children for a node that
passes them on. -/
def width : Unfolding → Nat
  | .node n links => if n.component?.isSome then 1 else widthOfLinks links
  | _ => 0

def widthOfLinks : List (Option String × Unfolding) → Nat
  | [] => 0
  | (_, u) :: links => width u + widthOfLinks links

end

theorem widthOfLinks_eq (links : List (Option String × Unfolding)) :
    widthOfLinks links = (links.map fun l => l.2.width).sum := by
  induction links with
  | nil => rfl
  | cons l links ih => rw [widthOfLinks, ih, List.map_cons, List.sum_cons]

section Parts

variable {α σ : Type} {rule : Children → String → Component → Tree α σ}

theorem map_slot_parts (number : Nat) (links : List (Option String × Unfolding)) :
    (parts rule number links).map Part.slot = links.map Prod.fst := by
  induction links generalizing number with
  | nil => rfl
  | cons l links ih => rw [parts, List.map_cons, List.map_cons, ih]

/-- The link is laid out as so many elements, wherever it stands. -/
def HasWidth (rule : Children → String → Component → Tree α σ) (u : Unfolding) : Prop :=
  ∀ number, (u.elements rule number).length = u.width

theorem map_length_parts {links : List (Option String × Unfolding)}
    (below : ∀ l ∈ links, l.2.HasWidth rule) (number : Nat) :
    (parts rule number links).map (fun p => p.elements.length) = links.map fun l => l.2.width := by
  induction links generalizing number with
  | nil => rfl
  | cons l links ih =>
    rw [List.forall_mem_cons] at below
    rw [parts, List.map_cons, List.map_cons, ih below.2, below.1]

theorem name_eq_empty_iff {number : Nat} {links : List (Option String × Unfolding)} {p : Part α σ}
    (h : p ∈ parts rule number links) : p.name = "" ↔ p.elements = [] := by
  rcases mem_parts h with ⟨name, none⟩ | ⟨k, name, some, -, -⟩
  · exact iff_of_true name none
  · exact iff_of_false (name ▸ handleAt_ne_empty k) some

variable {n : Node} {links : List (Option String × Unfolding)}
  (slots : links.map Prod.fst = n.links.map Link.slotName)
include slots

theorem all_children_parts (number : Nat) : (Part.children (parts rule number links)).all =
    Children.shown ((parts rule number links).map Part.name) := by
  have named : ((parts rule number links).map fun p => (p.slot, p.name)).map Prod.fst =
      n.links.map Link.slotName := by
    rw [List.map_map, ← slots, ← map_slot_parts number]
    rfl
  rw [Part.children, n.all_ofList named, List.map_map]
  rfl

theorem flatMap_named (number : Nat) : (Part.children (parts rule number links)).all.flatMap
    (Part.named (parts rule number links)) = (parts rule number links).flatMap Part.elements := by
  have nothing : ∀ name ∈ (parts rule number links).map Part.name, name = "" →
      Part.named (parts rule number links) name = [] := by
    intro name hname empty
    obtain ⟨p, hp, rfl⟩ := List.mem_map.1 hname
    rw [named_of_mem hp, (name_eq_empty_iff hp).1 empty]
  rw [all_children_parts slots, Children.flatMap_shown_of nothing, List.flatMap_map]
  exact List.flatMap_congr fun p hp => named_of_mem hp

variable (below : ∀ l ∈ links, l.2.HasWidth rule)
include below

theorem length_flatMap_named (number : Nat) :
    ((Part.children (parts rule number links)).all.flatMap
      (Part.named (parts rule number links))).length = widthOfLinks links := by
  rw [flatMap_named slots, List.length_flatMap, map_length_parts below, widthOfLinks_eq]

theorem length_all_children_parts (number : Nat) :
    (Part.children (parts rule number links)).all.length =
      links.countP fun l => decide (0 < l.2.width) := by
  have some : ∀ p ∈ parts rule number links,
      (decide (p.name ≠ "") = true ↔ decide (0 < p.elements.length) = true) := by
    intro p hp
    rw [decide_eq_true_iff, decide_eq_true_iff, List.length_pos_iff, Ne, name_eq_empty_iff hp]
  have counted : (links.map fun l => l.2.width).countP (fun width => decide (0 < width)) =
      ((parts rule number links).map fun p => p.elements.length).countP
        fun width => decide (0 < width) := by
    rw [map_length_parts below]
  rw [all_children_parts slots, Children.shown, ← List.countP_eq_length_filter, List.countP_map]
  rw [List.countP_map, List.countP_map] at counted
  exact (List.countP_congr some).trans counted.symm

omit below in
theorem forall_named (good : List (Tree α σ) → Prop) {number : Nat}
    (each : ∀ p ∈ parts rule number links, p.elements ≠ [] → good p.elements) :
    ∀ f ∈ (Part.children (parts rule number links)).all,
      good (Part.named (parts rule number links) f) := by
  intro f hf
  rw [all_children_parts slots, Children.shown, List.mem_filter] at hf
  obtain ⟨p, hp, rfl⟩ := List.mem_map.1 hf.1
  rw [named_of_mem hp]
  exact each p hp fun nothing => absurd ((name_eq_empty_iff hp).2 nothing) (by simpa using hf.2)

theorem hasWidth_node (roots : ∀ c handle component, ∃ head ts,
    rule c handle component = .element head ts) : (Unfolding.node n links).HasWidth rule := by
  intro number
  rw [elements, Node.elements, width]
  cases n.component? with
  | some component =>
    obtain ⟨head, ts, eq⟩ := roots (Part.children (parts rule (number + 1) links)) (handleAt number)
      component
    rw [elementsAs, eq, Tree.fill]
    rfl
  | none => exact length_flatMap_named slots below (number + 1)

end Parts

theorem forall_unfoldLink {p : Unfolding → Prop} (skipped : ∀ u, u.fate ≠ .followed → p u)
    (node : ∀ (n : Node) (links : List (Option String × Unfolding)),
      links.map Prod.fst = n.links.map Link.slotName → (∀ l ∈ links, p l.2) → p (.node n links))
    (g : Graph) (budget : Nat) (path : List String) (id : String) :
    p (g.unfoldLink budget path id) := by
  induction budget generalizing path id with
  | zero =>
    refine skipped _ ?_
    rw [g.fate_unfoldLink]
    split <;> simp
  | succ budget ih =>
    by_cases circle : id ∈ path
    · rw [g.unfoldLink_of_mem (budget + 1) circle]
      exact skipped _ nofun
    rw [g.unfoldLink_succ budget circle]
    cases g.get? id with
    | none => exact skipped _ nofun
    | some n =>
      cases hidden : n.hidden with
      | true =>
        simp only [hidden, if_true]
        exact skipped _ nofun
      | false =>
        simp only [hidden, Bool.false_eq_true, if_false]
        refine node n _ ?_ (List.forall_mem_map.2 fun l _ => ih (n.id :: path) l.id)
        rw [List.map_map]
        rfl

theorem tidy_parts {α σ : Type} {rule : Children → String → Component → Tree α σ} {backend : Backend}
    {d : Dialect α σ} {head : Head α σ → Prop} {accepted : String → Prop}
    (laws : backend.LaysOut d rule head accepted) (number : Nat)
    (links : List (Option String × Unfolding)) :
    ∀ p ∈ parts rule number links, ∀ t ∈ p.elements, t.Tidy head := by
  induction links generalizing number with
  | nil => exact List.forall_mem_nil _
  | cons l links ih =>
    rw [parts, List.forall_mem_cons]
    exact ⟨(laidOut_fragment laws number l.2).tidy, ih (number + l.2.size)⟩

theorem hasWidth_unfoldLink {α σ : Type} {rule : Children → String → Component → Tree α σ}
    (roots : ∀ c handle component, ∃ head ts, rule c handle component = .element head ts) (g : Graph)
    (budget : Nat) (path : List String) (id : String) :
    (g.unfoldLink budget path id).HasWidth rule := by
  refine forall_unfoldLink (fun u skipped number => ?_)
    (fun n links slots below => hasWidth_node slots below roots) g budget path id
  cases u with
  | node => exact absurd rfl skipped
  | cycle | tooDeep | dangling | hidden => rfl

/-- The links that leave something are at most as many as the elements that they leave, none when they
leave none, and as many when each leaves at most one. -/
theorem countP_width (links : List (Option String × Unfolding)) :
    (links.countP fun l => decide (0 < l.2.width)) ≤ widthOfLinks links ∧
      ((links.countP fun l => decide (0 < l.2.width)) = 0 → widthOfLinks links = 0) ∧
      ((links.countP fun l => decide (0 < l.2.width)) = widthOfLinks links ↔
        ∀ l ∈ links, l.2.width ≤ 1) := by
  induction links with
  | nil => simp [widthOfLinks]
  | cons l links ih =>
    obtain ⟨slot, u⟩ := l
    obtain ⟨least, none, same⟩ := ih
    rw [widthOfLinks, List.countP_cons, List.forall_mem_cons, ← same]
    simp only [decide_eq_true_eq]
    split <;> omega

end Unfolding

section Carousel

variable {g : Graph} {number : Nat} {place : List Nat} {above : List Node} {n : Node}
  {links : List (Option String × Unfolding)} {m : Component.Carousel}
  (here : g.At number place above (.node n links)) (carousel : n.component? = some (.carousel m))
include here

theorem map_fst_links : links.map Prod.fst = n.links.map Link.slotName := by
  obtain ⟨-, -, rfl⟩ := here.links_eq
  rw [List.map_map]
  rfl

theorem hasWidth_links {α σ : Type} {rule : Children → String → Component → Tree α σ}
    (roots : ∀ c handle component, ∃ head ts, rule c handle component = .element head ts) :
    ∀ l ∈ links, l.2.HasWidth rule := by
  obtain ⟨-, -, rfl⟩ := here.links_eq
  exact List.forall_mem_map.2 fun l _ => Unfolding.hasWidth_unfoldLink roots g _ _ _

include carousel

theorem exists_document_carousel : ∃ t,
    WrittenOnce Markup.dialect [t] (Unfolding.fragment .document number (.node n links)) ∧
      (Markup.slides t).length =
        max 1 (m.slides.length + links.countP fun l => decide (0 < l.2.width)) ∧
      (Markup.dots t).length =
        max 1 (m.slides.length + links.countP fun l => decide (0 < l.2.width)) := by
  have laid := Unfolding.laidOut_fragment DocumentRule.laysOut number (.node n links)
  have count := Unfolding.length_all_children_parts (map_fst_links here)
    (hasWidth_links here Component.exists_markup_eq) (number + 1)
  rw [Unfolding.elements, Node.elements, carousel, elementsAs] at laid
  obtain ⟨t, filled, slides, dots⟩ := DocumentRule.exists_fill_carousel m
    (Part.children (Unfolding.parts Component.markup (number + 1) links)) (handleAt number)
    (Part.named (Unfolding.parts Component.markup (number + 1) links))
  rw [count] at slides dots
  rw [Component.markup, filled] at laid
  exact ⟨t, laid.writtenOnce Markup.onOneLine, slides, dots⟩

theorem exists_project_carousel (a : Code.Alphabet) : ∃ t,
    WrittenOnce Jsx.dialect [t] (Unfolding.fragment .project number (.node n links)) ∧
      Jsx.slideCount? a t = some (max 1 (m.slides.length + Unfolding.widthOfLinks links)) := by
  have slots := map_fst_links here
  have laid := Unfolding.laidOut_fragment ProjectRule.laysOut number (.node n links)
  have count := Unfolding.length_flatMap_named slots
    (hasWidth_links here Component.exists_jsx_eq) (number + 1)
  have tidy := Unfolding.tidy_parts ProjectRule.laysOut (number + 1) links
  rw [Unfolding.elements, Node.elements, carousel, elementsAs] at laid
  have passed : ∀ f ∈ (Part.children (Unfolding.parts Component.jsx (number + 1) links)).all,
      Part.named (Unfolding.parts Component.jsx (number + 1) links) f ≠ [] ∧
        ∀ t ∈ Part.named (Unfolding.parts Component.jsx (number + 1) links) f, t.isElement = true :=
    Unfolding.forall_named slots (fun ts => ts ≠ [] ∧ ∀ t ∈ ts, t.isElement = true)
      fun p hp some => ⟨some, fun t ht => (tidy p hp t ht).isElement⟩
  obtain ⟨t, filled, slides⟩ := ProjectRule.exists_fill_carousel a m
    (Part.children (Unfolding.parts Component.jsx (number + 1) links)) fun f hf => passed f hf
  rw [count] at slides
  rw [Component.jsx, filled] at laid
  exact ⟨t, laid.writtenOnce Jsx.onOneLine, slides⟩

end Carousel

theorem Node.links_of_slotless {n : Node} (slotless : n.slots.entries = []) :
    n.links = n.children.map .child := by
  rw [links, childLinks, slotless, List.mergeSort_nil, List.map_nil, List.append_nil]

theorem Node.component?_of_name {n : Node} (kind : Kind) (named : n.typeTag = kind.name) :
    n.component? = (Component.resolve kind ⟨n.props, (Catalog.entry kind).defaults⟩).toOption := by
  rw [component?, entry?, named, Registry.get?_builtin_name]
  rfl

/-- A carousel has a slide and a dot in a document for each image and each child that shows something,
and the component of a project one for each image and each element that the children leave. They are
as many just when no child leaves more than one element, as only a node can that passes its children
on. -/
theorem carousel_slides_counted (a : Code.Alphabet) (g : Graph) {v : Visit}
    (hv : v ∈ g.visits .document) {m : Component.Carousel}
    (carousel : v.node.component? = some (.carousel m)) :
    ∃ v' ∈ g.visits .project, v'.place = v.place ∧ v'.node = v.node ∧
      ∃ number links t t', g.At number v.place v.above (.node v.node links) ∧
        WrittenOnce Markup.dialect [t] v.fragment ∧ WrittenOnce Jsx.dialect [t'] v'.fragment ∧
        (Markup.slides t).length =
          max 1 (m.slides.length + links.countP fun l => decide (0 < l.2.width)) ∧
        (Markup.dots t).length = (Markup.slides t).length ∧
        Jsx.slideCount? a t' = some (max 1 (m.slides.length + Unfolding.widthOfLinks links)) ∧
        (Jsx.slideCount? a t' = some (Markup.slides t).length ↔ ∀ l ∈ links, l.2.width ≤ 1) := by
  obtain ⟨number, place, above, n, links, here, rfl⟩ := (mem_visits_iff v).1 hv
  have visited : Visit.ofNode .project number place above n links ∈ g.visits .project :=
    (mem_visits_iff _).2 ⟨number, place, above, n, links, here, rfl⟩
  obtain ⟨t, document, slides, dots⟩ := exists_document_carousel here carousel
  obtain ⟨t', project, count⟩ := exists_project_carousel here carousel a
  obtain ⟨least, none, same⟩ := Unfolding.countP_width links
  refine ⟨_, visited, rfl, rfl, ?_⟩
  dsimp only [Visit.ofNode]
  refine ⟨number, links, t, t', here, document, project, slides, dots.trans slides.symm, count, ?_⟩
  rw [count, slides, Option.some.injEq, ← same]
  omega

/-- A carousel without images and with one child. -/
theorem carousel_slides_counted_badge :
    let badge := Node.bare "badge" "Badge"
    let root : Node := { Node.bare rootId "Carousel" with
      props := [("images", .array [])], children := ["badge"] }
    let g := (Graph.withRoot root).insert badge
    ∃ v ∈ g.visits .document, v.node = root ∧ (∃ m, v.node.component? = some (.carousel m)) ∧
      ∃ v' ∈ g.visits .project, v'.place = v.place ∧
        ∃ t t', WrittenOnce Markup.dialect [t] v.fragment ∧
          WrittenOnce Jsx.dialect [t'] v'.fragment ∧
          Jsx.slideCount? .low t' = some (Markup.slides t).length := by
  intro badge root g
  have found : g.get? "badge" = some badge := (Graph.get?_insert ..).trans (if_pos rfl)
  have below : g.unfoldLink maxDepth [rootId] "badge" = .node badge [] :=
    Graph.unfoldLink_eq_node_iff.2
      ⟨by decide, by decide, found, rfl, by rw [Node.links_of_slotless rfl]; rfl⟩
  have unfolded : g.unfold = .node root [(none, .node badge [])] := by
    refine Graph.unfoldLink_eq_node_iff.2 ⟨List.not_mem_nil, Nat.succ_pos _, rfl, rfl, ?_⟩
    rw [Node.links_of_slotless rfl, ← below]
    rfl
  have top := Graph.At.root (g := g)
  rw [unfolded] at top
  have visited := (mem_visits_iff (Visit.ofNode .document 1 [] [] root _)).2
    ⟨1, [], [], root, _, top, rfl⟩
  obtain ⟨m, carousel⟩ : ∃ m, root.component? = some (.carousel m) := by
    have kind : root.component?.map Component.kind = some .carousel := by
      rw [Node.component?_of_name .carousel rfl]
      decide +kernel
    obtain ⟨component, resolved, isCarousel⟩ := Option.map_eq_some_iff.1 kind
    cases component with
    | carousel m => exact ⟨m, resolved⟩
    | _ => cases isCarousel
  obtain ⟨v', visited', same, -, number, links, t, t', here, document, project, -, -, -, equal⟩ :=
    carousel_slides_counted .low g visited carousel
  obtain ⟨-, -, unique⟩ := here.unique top
  cases unique
  refine ⟨_, visited, rfl, ⟨m, carousel⟩, v', visited', same, t, t', document, project, equal.2 ?_⟩
  rw [List.forall_mem_singleton, Unfolding.width, Unfolding.widthOfLinks]
  split <;> decide

/-- Two children below a node of an unknown type are one slide of the document and two of the
project. -/
theorem carousel_slides_differ :
    let root : Node := { Node.bare rootId "Carousel" with
      props := [("images", .array [])], children := ["group"] }
    let group : Node := { Node.bare "group" "Group" with children := ["a", "b"] }
    let g := (((Graph.withRoot root).insert group).insert (Node.bare "a" "Badge")).insert
      (Node.bare "b" "Badge")
    (g.elements Component.markup).map (fun t => (Markup.slides t).length) = [1] ∧
      (g.elements Component.jsx).map (Jsx.slideCount? .low) = [some 2] := by
  intro root group g
  have leaf (id : String) (fresh : id ∉ ["group", rootId])
      (found : g.get? id = some (Node.bare id "Badge")) :
      g.unfoldLink (maxDepth - 1) ["group", rootId] id = .node (Node.bare id "Badge") [] :=
    Graph.unfoldLink_eq_node_iff.2
      ⟨fresh, by decide, found, rfl, by rw [Node.links_of_slotless rfl]; rfl⟩
  have below : g.unfoldLink maxDepth [rootId] "group" = .node group
      [(none, .node (Node.bare "a" "Badge") []), (none, .node (Node.bare "b" "Badge") [])] := by
    refine Graph.unfoldLink_eq_node_iff.2 ⟨by decide, by decide, rfl, rfl, ?_⟩
    rw [Node.links_of_slotless rfl, ← leaf "a" (by decide) rfl, ← leaf "b" (by decide) rfl]
    rfl
  have unfolded : g.unfold = .node root [(none, .node group
      [(none, .node (Node.bare "a" "Badge") []), (none, .node (Node.bare "b" "Badge") [])])] := by
    refine Graph.unfoldLink_eq_node_iff.2 ⟨List.not_mem_nil, Nat.succ_pos _, rfl, rfl, ?_⟩
    rw [Node.links_of_slotless rfl, ← below]
    rfl
  have carousel : root.component? = _ := Node.component?_of_name .carousel rfl
  have badge (id : String) : (Node.bare id "Badge").component? = _ :=
    Node.component?_of_name .badge rfl
  have passed : group.component? = none := by
    rw [Node.component?, Node.entry?,
      Registry.get?_builtin_eq_none (by decide +kernel) (by decide +kernel)]
    rfl
  simp only [Graph.elements, unfolded, Unfolding.elements, Unfolding.parts, Node.elements, carousel,
    passed, badge]
  decide +kernel

end MiniApp
