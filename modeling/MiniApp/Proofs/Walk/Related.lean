import MiniApp.Proofs.Graph.Links
import MiniApp.Proofs.Walk.Agreement

set_option autoImplicit false

namespace MiniApp

/-- What a walk goes by is the same in both nodes. Their properties, the order of their slots and
what the editor shows of them may differ. -/
structure Node.Parallel (a b : Node) : Prop where
  id : a.id = b.id
  typeTag : a.typeTag = b.typeTag
  hidden : a.hidden = b.hidden
  links : a.links = b.links

namespace Node

theorem parallel_withProps (n : Node) (props : Fields) : n.Parallel { n with props := props } where
  id := rfl
  typeTag := rfl
  hidden := rfl
  links := by
    rw [links, links, slotOrder_congr (a := { n with props := props }) (b := n) rfl]
    rfl

/-- What becomes of a node. Its children, its handle and the backend have no say in it. -/
def verdict (n : Node) : Verdict := n.judge .document .empty ""

theorem judge_eq_verdict (n : Node) (backend : Backend) (c : Children) (handle : String) :
    n.judge backend c handle = n.verdict := by
  rw [verdict, judge, judge]
  generalize n.entry? = entry
  exact judge_eq_judge ..

end Node

/-- Both graphs have nodes under the same ids, and these are related. -/
def Graph.Related (R : Node → Node → Prop) (g g' : Graph) : Prop :=
  ∀ id, Option.Rel R (g.get? id) (g'.get? id)

namespace Unfolding

mutual

/-- Trees of one shape with related nodes at the same places. -/
inductive Related (R : Node → Node → Prop) : Unfolding → Unfolding → Prop
  | cycle (id : String) : Related R (.cycle id) (.cycle id)
  | tooDeep (id : String) : Related R (.tooDeep id) (.tooDeep id)
  | dangling (id : String) : Related R (.dangling id) (.dangling id)
  | hidden (id : String) : Related R (.hidden id) (.hidden id)
  | node {a b : Node} {links links' : List (Option String × Unfolding)} (here : R a b)
      (below : LinksRelated R links links') : Related R (.node a links) (.node b links')

inductive LinksRelated (R : Node → Node → Prop) :
    List (Option String × Unfolding) → List (Option String × Unfolding) → Prop
  | nil : LinksRelated R [] []
  | cons (slot : Option String) {u u' : Unfolding} {links links' : List (Option String × Unfolding)}
      (first : Related R u u') (rest : LinksRelated R links links') :
      LinksRelated R ((slot, u) :: links) ((slot, u') :: links')

end

theorem linksRelated_map {R : Node → Node → Prop} {tree tree' : String → Unfolding}
    (h : ∀ id, (tree id).Related R (tree' id)) (links : List Link) :
    LinksRelated R (links.map fun l => (l.slotName, tree l.id))
      (links.map fun l => (l.slotName, tree' l.id)) := by
  induction links with
  | nil => exact .nil
  | cons l links ih => exact .cons l.slotName (h l.id) ih

end Unfolding

namespace Graph

variable {R : Node → Node → Prop} {g g' : Graph}

theorem related_unfoldLink (parallel : ∀ a b, R a b → a.Parallel b) (h : g.Related R g')
    (budget : Nat) (path : List String) (id : String) :
    (g.unfoldLink budget path id).Related R (g'.unfoldLink budget path id) := by
  by_cases hc : id ∈ path
  · rw [g.unfoldLink_of_mem budget hc, g'.unfoldLink_of_mem budget hc]
    exact .cycle id
  · induction budget generalizing path id with
    | zero =>
      rw [g.unfoldLink_zero hc, g'.unfoldLink_zero hc]
      exact .tooDeep id
    | succ budget ih =>
      rw [g.unfoldLink_succ budget hc, g'.unfoldLink_succ budget hc]
      have here := h id
      revert here
      cases g.get? id <;> cases g'.get? id <;> intro here
      · exact .dangling id
      · cases here
      · cases here
      · next a b =>
        cases here with
        | some hab =>
          have same := parallel a b hab
          dsimp only
          rw [← same.hidden]
          split
          · exact .hidden id
          · rw [← same.links, ← same.id]
            refine .node hab (Unfolding.linksRelated_map (fun target => ?_) a.links)
            by_cases ht : target ∈ a.id :: path
            · rw [g.unfoldLink_of_mem budget ht, g'.unfoldLink_of_mem budget ht]
              exact .cycle target
            · exact ih (a.id :: path) target ht

theorem related_unfold (parallel : ∀ a b, R a b → a.Parallel b) (h : g.Related R g') :
    g.unfold.Related R g'.unfold :=
  related_unfoldLink parallel h (maxDepth + 1) [] rootId

end Graph

inductive Event.Related (R : Node → Node → Prop) : Event → Event → Prop
  | skipped (fate : LinkFate) (id : String) : Related R (.skipped fate id) (.skipped fate id)
  | finished (depth : Nat) {a b : Node} (here : R a b) :
      Related R (.finished depth a a.verdict) (.finished depth b b.verdict)

/-- Visits to the same place under the same handle, with related nodes there and on the way. -/
structure Visit.Related (R : Node → Node → Prop) (v v' : Visit) : Prop where
  place : v.place = v'.place
  handle : v.handle = v'.handle
  node : R v.node v'.node
  above : List.Forall₂ R v.above v'.above
  verdict : v.verdict = v.node.verdict ∧ v'.verdict = v'.node.verdict

theorem Visit.related_of {R : Node → Node → Prop} {a b : Node} {above above' : List Node}
    {verdict verdict' : Verdict} (node : R a b) (way : List.Forall₂ R above above')
    (hv : verdict = a.verdict) (hv' : verdict' = b.verdict) (place : List Nat)
    (handle fragment fragment' : String) :
    Visit.Related R ⟨place, a, above, handle, verdict, fragment⟩
      ⟨place, b, above', handle, verdict', fragment'⟩ :=
  ⟨rfl, rfl, node, way, hv, hv'⟩

namespace Unfolding

variable {R S : Node → Node → Prop}

theorem verdict_eq (backend : Backend) (number : Nat) (n : Node)
    (links : List (Option String × Unfolding)) : verdict backend number n links = n.verdict :=
  n.judge_eq_verdict ..

mutual

theorem Related.size_eq {u u' : Unfolding} : u.Related R u' → u.size = u'.size
  | .cycle _ | .tooDeep _ | .dangling _ | .hidden _ => rfl
  | .node _ below => by rw [size, size, below.sizeOfLinks_eq]

theorem LinksRelated.sizeOfLinks_eq {links links' : List (Option String × Unfolding)} :
    LinksRelated R links links' → sizeOfLinks links = sizeOfLinks links'
  | .nil => rfl
  | .cons _ first rest => by rw [sizeOfLinks, sizeOfLinks, first.size_eq, rest.sizeOfLinks_eq]

end

mutual

theorem Related.events {u u' : Unfolding} (backend : Backend) (number depth : Nat) :
    u.Related R u' → List.Forall₂ (Event.Related R) (u.events backend number depth)
      (u'.events backend number depth)
  | .cycle id | .tooDeep id | .dangling id | .hidden id => by
    rw [Unfolding.events]
    exact .cons (.skipped _ id) .nil
  | .node here below => by
    have last := Event.Related.finished depth here
    rw [Unfolding.events, Unfolding.events, verdict_eq, verdict_eq]
    exact List.rel_append (below.events backend (number + 1) (depth + 1)) (.cons last .nil)

theorem LinksRelated.events {links links' : List (Option String × Unfolding)} (backend : Backend)
    (number depth : Nat) : LinksRelated R links links' →
      List.Forall₂ (Event.Related R) (eventsOfLinks backend number depth links)
        (eventsOfLinks backend number depth links')
  | .nil => .nil
  | .cons _ first rest => by
    rw [eventsOfLinks, eventsOfLinks, ← first.size_eq]
    exact List.rel_append (first.events backend number depth) (rest.events backend _ depth)

end

mutual

theorem Related.visits {u u' : Unfolding} (backend : Backend) (number : Nat) (place : List Nat)
    {above above' : List Node} (way : List.Forall₂ R above above') : u.Related R u' →
      List.Forall₂ (Visit.Related R) (u.visits backend number place above)
        (u'.visits backend number place above')
  | .cycle _ | .tooDeep _ | .dangling _ | .hidden _ => by
    simp only [Unfolding.visits, List.Forall₂.nil]
  | .node (a := a) (b := b) here below => by
    rw [Unfolding.visits, Unfolding.visits]
    refine .cons ?_ (below.visits backend (number + 1) place (.cons here way) 0)
    exact Visit.related_of here way (verdict_eq backend number a _) (verdict_eq backend number b _)
      place _ _ _

theorem LinksRelated.visits {links links' : List (Option String × Unfolding)} (backend : Backend)
    (number : Nat) (place : List Nat) {above above' : List Node}
    (way : List.Forall₂ R above above') (index : Nat) : LinksRelated R links links' →
      List.Forall₂ (Visit.Related R) (visitsFrom backend number place above index links)
        (visitsFrom backend number place above' index links')
  | .nil => .nil
  | .cons _ first rest => by
    rw [visitsFrom, visitsFrom, ← first.size_eq]
    exact List.rel_append (first.visits backend number (place ++ [index]) way)
      (rest.visits backend _ place way (index + 1))

end

theorem LinksRelated.getElem? {links links' : List (Option String × Unfolding)} {index : Nat}
    {slot : Option String} {u : Unfolding} (h : LinksRelated R links links')
    (here : links[index]? = some (slot, u)) :
    sizeOfLinks (links.take index) = sizeOfLinks (links'.take index) ∧
      ∃ u', links'[index]? = some (slot, u') ∧ u.Related R u' := by
  induction index generalizing links links' with
  | zero =>
    cases h with
    | nil => cases here
    | cons _ first _ =>
      cases here
      exact ⟨rfl, _, rfl, first⟩
  | succ index ih =>
    cases h with
    | nil => cases here
    | cons _ first rest =>
      obtain ⟨taken, found⟩ := ih rest here
      refine ⟨?_, found⟩
      rw [List.take_succ_cons, List.take_succ_cons, sizeOfLinks, sizeOfLinks, first.size_eq, taken]

mutual

theorem Related.imp {u u' : Unfolding} (backend : Backend) (number : Nat) (place : List Nat)
    (above : List Node) : u.Related R u' →
      (∀ v ∈ u.visits backend number place above, ∀ b, R v.node b → S v.node b) → u.Related S u'
  | .cycle id, _ => .cycle id
  | .tooDeep id, _ => .tooDeep id
  | .dangling id, _ => .dangling id
  | .hidden id, _ => .hidden id
  | .node here below, h => by
    rw [Unfolding.visits, List.forall_mem_cons] at h
    exact .node (h.1 _ here) (below.imp backend (number + 1) place _ 0 h.2)

theorem LinksRelated.imp {links links' : List (Option String × Unfolding)} (backend : Backend)
    (number : Nat) (place : List Nat) (above : List Node) (index : Nat) :
    LinksRelated R links links' →
      (∀ v ∈ visitsFrom backend number place above index links, ∀ b, R v.node b → S v.node b) →
      LinksRelated S links links'
  | .nil, _ => .nil
  | .cons slot first rest, h => by
    rw [visitsFrom, List.forall_mem_append] at h
    exact .cons slot (first.imp backend number (place ++ [index]) above h.1)
      (rest.imp backend _ place above (index + 1) h.2)

end

mutual

/-- Nodes that are written alike around any children give trees that are. -/
theorem Related.fragment_eq {u u' : Unfolding} (backend : Backend)
    (same : ∀ a b, R a b → ∀ c handle, a.emit backend c handle = b.emit backend c handle)
    (number : Nat) : u.Related R u' → u.fragment backend number = u'.fragment backend number
  | .cycle _ | .tooDeep _ | .dangling _ | .hidden _ => rfl
  | .node here below => by
    rw [fragment, fragment, below.fragments_eq backend same, same _ _ here]

theorem LinksRelated.fragments_eq {links links' : List (Option String × Unfolding)}
    (backend : Backend)
    (same : ∀ a b, R a b → ∀ c handle, a.emit backend c handle = b.emit backend c handle)
    (number : Nat) : LinksRelated R links links' →
      fragments backend number links = fragments backend number links'
  | .nil => rfl
  | .cons _ first rest => by
    rw [fragments, fragments, first.fragment_eq backend same, ← first.size_eq,
      rest.fragments_eq backend same]

end

end Unfolding

theorem Graph.At.related {R : Node → Node → Prop} {g g' : Graph}
    (parallel : ∀ a b, R a b → a.Parallel b) (h : g.Related R g') {number : Nat} {place : List Nat}
    {above : List Node} {u : Unfolding} (stands : g.At number place above u) :
    ∃ above' u', g'.At number place above' u' ∧ u.Related R u' := by
  induction stands with
  | root => exact ⟨[], g'.unfold, .root, related_unfold parallel h⟩
  | @link number index place above n links slot u _ here ih =>
    obtain ⟨above', tree, stands', related⟩ := ih
    cases related with
    | node _ below =>
      obtain ⟨taken, u', here', first⟩ := below.getElem? here
      exact ⟨_, u', taken ▸ stands'.link here', first⟩

end MiniApp
