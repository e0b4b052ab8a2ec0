import MiniApp.Proofs.Graph.VisiblePart
import MiniApp.Proofs.Walk.Agreement

set_option autoImplicit false

namespace MiniApp

theorem emitAs_visible (backend : Backend) (props : Fields) (c : Children) (handle : String)
    (entry : Option Entry) :
    emitAs backend props c.visible handle entry = emitAs backend props c handle entry := by
  cases entry with
  | none => exact c.joined_visible
  | some e => rw [emitAs, emitAs, e.emit_visible, c.joined_visible]

namespace Node

variable (inView : String → Bool) (n : Node)

theorem emit_prune {c d : Children} (h : c.visible = d.visible) (backend : Backend)
    (handle : String) : (n.prune inView).emit backend c handle = n.emit backend d handle := by
  rw [emit, emit, entry?_prune, ← emitAs_visible backend _ c, h, emitAs_visible]
  rfl

theorem judge_prune (backend : Backend) (c d : Children) (handle : String) :
    (n.prune inView).judge backend c handle = n.judge backend d handle :=
  judge_eq_judge ..

end Node

namespace Unfolding

variable (inView : String → Bool)

mutual

def prune : Unfolding → Unfolding
  | .node n links => .node (n.prune inView) (pruneLinks links)
  | .cycle id => .cycle id
  | .tooDeep id => .tooDeep id
  | .dangling id => .dangling id
  | .hidden id => .hidden id

def pruneLinks : List (Option String × Unfolding) → List (Option String × Unfolding)
  | [] => []
  | (slot, u) :: links =>
    if inView u.target then (slot, prune u) :: pruneLinks links else pruneLinks links

end

mutual

/-- Circles close in view, links that lead to a hidden node or nowhere lead out of it, and the links
of a node stand in slots of their own. -/
def Respects : Unfolding → Prop
  | .node n links => inView n.id = true ∧ (links.filterMap Prod.fst).Nodup ∧ AllRespect links
  | .cycle id => inView id = true
  | .tooDeep _ => True
  | .dangling id => inView id = false
  | .hidden id => inView id = false

def AllRespect : List (Option String × Unfolding) → Prop
  | [] => True
  | (_, u) :: links => Respects u ∧ AllRespect links

end

variable {inView}

theorem allRespect_iff {links : List (Option String × Unfolding)} :
    AllRespect inView links ↔ ∀ l ∈ links, l.2.Respects inView := by
  induction links with
  | nil => simp [AllRespect]
  | cons l links ih => rw [AllRespect, ih, List.forall_mem_cons]

/-- A link that leads out of view holds no node and shows nothing. -/
theorem Respects.size_eq_zero {u : Unfolding} (h : u.Respects inView)
    (out : inView u.target = false) : u.size = 0 := by
  cases u with
  | node n links => exact absurd (h.1.symm.trans out) (by simp)
  | cycle | tooDeep | dangling | hidden => rfl

theorem fragment_of_size_eq_zero {u : Unfolding} (h : u.size = 0) (backend : Backend)
    (number : Nat) : u.fragment backend number = "" := by
  cases u with
  | node n links => simp [size] at h
  | cycle | tooDeep | dangling | hidden => rfl

mutual

theorem size_prune : (u : Unfolding) → u.Respects inView → (u.prune inView).size = u.size
  | .node n links, h => by rw [prune, size, size, sizeOfLinks_prune links h.2.2]
  | .cycle _, _ | .tooDeep _, _ | .dangling _, _ | .hidden _, _ => rfl

theorem sizeOfLinks_prune : (links : List (Option String × Unfolding)) →
    AllRespect inView links → sizeOfLinks (pruneLinks inView links) = sizeOfLinks links
  | [], _ => rfl
  | (slot, u) :: links, h => by
    have below := sizeOfLinks_prune links h.2
    rw [pruneLinks]
    split
    · rw [sizeOfLinks, sizeOfLinks, size_prune u h.1, below]
    · next out =>
      rw [sizeOfLinks, h.1.size_eq_zero (by simpa using out), below, Nat.zero_add]

end

theorem pruneLinks_eq (links : List (Option String × Unfolding)) :
    pruneLinks inView links =
      (links.filter fun l => inView l.2.target).map fun l => (l.1, l.2.prune inView) := by
  induction links with
  | nil => rfl
  | cons l links ih =>
    rw [pruneLinks, ih, List.filter_cons]
    split <;> rfl

theorem nodup_pruneLinks {links : List (Option String × Unfolding)}
    (apart : (links.filterMap Prod.fst).Nodup) :
    ((pruneLinks inView links).filterMap Prod.fst).Nodup := by
  rw [pruneLinks_eq, List.filterMap_map]
  exact apart.sublist (List.filter_sublist.filterMap _)

theorem filterMap_fst_fragments (backend : Backend) (number : Nat)
    (links : List (Option String × Unfolding)) :
    (fragments backend number links).filterMap Prod.fst = links.filterMap Prod.fst := by
  have names {β : Type} (ls : List (Option String × β)) :
      ls.filterMap Prod.fst = (ls.map Prod.fst).filterMap id := by
    rw [List.filterMap_map]
    rfl
  rw [names, map_fst_fragments, ← names]

mutual

theorem fragment_prune (backend : Backend) : (u : Unfolding) → u.Respects inView →
    (number : Nat) → (u.prune inView).fragment backend number = u.fragment backend number
  | .node n links, h, number => by
    rw [prune, fragment, fragment]
    refine n.emit_prune inView (Children.visible_ofList_eq ?_ ?_ ?_) backend _
    · rw [filterMap_fst_fragments]
      exact nodup_pruneLinks h.2.1
    · rw [filterMap_fst_fragments]
      exact h.2.1
    · exact filter_fragments_prune backend links h.2.2 (number + 1)
  | .cycle _, _, _ | .tooDeep _, _, _ | .dangling _, _, _ | .hidden _, _, _ => rfl

theorem filter_fragments_prune (backend : Backend) : (links : List (Option String × Unfolding)) →
    AllRespect inView links → (number : Nat) →
    ((fragments backend number (pruneLinks inView links)).filter fun f => shows f.2) =
      (fragments backend number links).filter fun f => shows f.2
  | [], _, _ => rfl
  | (slot, u) :: links, h, number => by
    rw [pruneLinks, fragments]
    split
    · have below := filter_fragments_prune backend links h.2 (number + u.size)
      rw [fragments, size_prune u h.1, fragment_prune backend u h.1, List.filter_cons,
        List.filter_cons, below]
    · next out =>
      have none := h.1.size_eq_zero (by simpa using out)
      rw [filter_fragments_prune backend links h.2 number, none, fragment_of_size_eq_zero none]
      rfl

end

end Unfolding

/-- What is left of an event when nothing leads out of view: hidden nodes and ids that name nothing
are not met, and only what is in view can lie too deep. -/
def Event.prune (inView : String → Bool) : Event → Option Event
  | .skipped .cycle id => some (.skipped .cycle id)
  | .skipped .tooDeep id => if inView id then some (.skipped .tooDeep id) else none
  | .skipped _ _ => none
  | .finished depth n verdict => some (.finished depth (n.prune inView) verdict)

def Report.prune (inView : String → Bool) (r : Report) : Report :=
  { r with dangling := [], tooDeep := r.tooDeep.filter inView }

namespace Report

variable (inView : String → Bool)

theorem prune_addVerdict (r : Report) (n : Node) (v : Verdict) :
    (r.addVerdict n v).prune inView = (r.prune inView).addVerdict (n.prune inView) v := by
  cases v <;> rfl

theorem prune_record (r : Report) (e : Event) :
    (r.record e).prune inView = (e.prune inView).toList.foldl record (r.prune inView) := by
  cases e with
  | finished depth n v => exact prune_addVerdict inView (r.addNode depth) n v
  | skipped fate id =>
    cases fate with
    | tooDeep =>
      rw [record, addSkipped, addTooDeep, prune, List.filter_append, Event.prune]
      cases h : inView id <;> simp [h, prune, record, addSkipped, addTooDeep]
    | cycle | dangling | hidden | followed => rfl

theorem prune_ofEvents (es : List Event) :
    (ofEvents es).prune inView = ofEvents (es.filterMap (Event.prune inView)) := by
  have run : ∀ r : Report, (es.foldl record r).prune inView =
      (es.filterMap (Event.prune inView)).foldl record (r.prune inView) := by
    induction es with
    | nil => exact fun _ => rfl
    | cons e es ih =>
      intro r
      rw [List.foldl_cons, ih, prune_record]
      cases h : e.prune inView <;> simp [h]
  exact run .empty

end Report

namespace Unfolding

variable {inView : String → Bool}

theorem verdict_prune (backend : Backend) (number : Nat) (n : Node)
    (links : List (Option String × Unfolding)) :
    verdict backend number (n.prune inView) (pruneLinks inView links) =
      verdict backend number n links :=
  n.judge_prune inView backend _ _ _

theorem Respects.events_of_out {u : Unfolding} (h : u.Respects inView)
    (out : inView u.target = false) (backend : Backend) (number depth : Nat) :
    (u.events backend number depth).filterMap (Event.prune inView) = [] := by
  cases u with
  | node n links => exact absurd (h.1.symm.trans out) (by simp)
  | cycle id => exact absurd ((show inView id = true from h).symm.trans out) (by simp)
  | tooDeep id => simpa [events, Event.prune, target] using out
  | dangling | hidden => rfl

mutual

theorem events_prune (backend : Backend) : (u : Unfolding) → u.Respects inView →
    inView u.target = true → (number depth : Nat) →
    (u.prune inView).events backend number depth =
      (u.events backend number depth).filterMap (Event.prune inView)
  | .node n links, h, _, number, depth => by
    rw [prune, events, events, verdict_prune,
      eventsOfLinks_prune backend links h.2.2 (number + 1) (depth + 1), List.filterMap_append]
    rfl
  | .tooDeep id, _, here, _, _ => by
    have here : inView id = true := here
    simp [prune, events, Event.prune, here]
  | .cycle _, _, _, _, _ => rfl
  | .dangling _, h, here, _, _ => absurd (h.symm.trans here) (by simp)
  | .hidden _, h, here, _, _ => absurd (h.symm.trans here) (by simp)

theorem eventsOfLinks_prune (backend : Backend) : (links : List (Option String × Unfolding)) →
    AllRespect inView links → (number depth : Nat) →
    eventsOfLinks backend number depth (pruneLinks inView links) =
      (eventsOfLinks backend number depth links).filterMap (Event.prune inView)
  | [], _, _, _ => rfl
  | (slot, u) :: links, h, number, depth => by
    rw [pruneLinks, eventsOfLinks, List.filterMap_append]
    split
    · next here =>
      rw [eventsOfLinks, size_prune u h.1, events_prune backend u h.1 here,
        eventsOfLinks_prune backend links h.2]
    · next out =>
      have out : inView u.target = false := by simpa using out
      rw [h.1.events_of_out out, h.1.size_eq_zero out, eventsOfLinks_prune backend links h.2]
      rfl

end

end Unfolding

/-- What a visit gives a node and what the node shows, wherever it stands. -/
def Visit.shown (v : Visit) : String × String × Verdict × String :=
  (v.node.id, v.handle, v.verdict, v.fragment)

namespace Unfolding

variable {inView : String → Bool}

theorem visits_of_size_eq_zero {u : Unfolding} (h : u.size = 0) (backend : Backend)
    (number : Nat) (place : List Nat) (above : List Node) :
    u.visits backend number place above = [] := by
  cases u with
  | node n links => simp [size] at h
  | cycle | tooDeep | dangling | hidden => rfl

mutual

theorem visits_prune (backend : Backend) : (u : Unfolding) → u.Respects inView →
    (number : Nat) → (place place' : List Nat) → (above above' : List Node) →
    ((u.prune inView).visits backend number place' above').map Visit.shown =
      (u.visits backend number place above).map Visit.shown
  | .node n links, h, number, place, place', above, above' => by
    have whole := fragment_prune backend (.node n links) h number
    have below := visitsFrom_prune backend links h.2.2 (number + 1) place place' (n :: above)
      (n.prune inView :: above') 0 0
    rw [prune] at whole ⊢
    rw [visits, visits, List.map_cons, List.map_cons, below, Visit.shown, Visit.shown, whole,
      verdict_prune]
    rfl
  | .cycle _, _, _, _, _, _, _ | .tooDeep _, _, _, _, _, _, _ | .dangling _, _, _, _, _, _, _
  | .hidden _, _, _, _, _, _, _ => rfl

theorem visitsFrom_prune (backend : Backend) : (links : List (Option String × Unfolding)) →
    AllRespect inView links → (number : Nat) → (place place' : List Nat) →
    (above above' : List Node) → (index index' : Nat) →
    (visitsFrom backend number place' above' index' (pruneLinks inView links)).map Visit.shown =
      (visitsFrom backend number place above index links).map Visit.shown
  | [], _, _, _, _, _, _, _, _ => rfl
  | (slot, u) :: links, h, number, place, place', above, above', index, index' => by
    rw [pruneLinks, visitsFrom, List.map_append]
    split
    · rw [visitsFrom, List.map_append, size_prune u h.1,
        visits_prune backend u h.1 number (place ++ [index]) (place' ++ [index']) above above',
        visitsFrom_prune backend links h.2 (number + u.size) place place' above above' (index + 1)
          (index' + 1)]
    · next out =>
      have none := h.1.size_eq_zero (by simpa using out)
      rw [none, visits_of_size_eq_zero none,
        visitsFrom_prune backend links h.2 number place place' above above' (index + 1) index']
      rfl

end

end Unfolding

namespace Graph

open Unfolding

variable (g : Graph)

theorem isVisible_eq_true_iff {id : String} :
    g.isVisible id = true ↔ ∃ n, g.get? id = some n ∧ n.hidden = false := by
  simp [isVisible, Option.any_eq_true]

theorem respects_unfoldLink (budget : Nat) {path : List String}
    (visible : ∀ id ∈ path, g.isVisible id = true) (id : String) :
    (g.unfoldLink budget path id).Respects g.isVisible := by
  induction budget generalizing path id with
  | zero =>
    by_cases hc : id ∈ path
    · rw [g.unfoldLink_of_mem 0 hc]
      exact visible id hc
    · rw [g.unfoldLink_zero hc]
      trivial
  | succ budget ih =>
    by_cases hc : id ∈ path
    · rw [g.unfoldLink_of_mem _ hc]
      exact visible id hc
    · rw [g.unfoldLink_succ budget hc]
      cases hg : g.get? id with
      | none =>
        show g.isVisible id = false
        rw [isVisible, hg, Option.any_none]
      | some n =>
        cases hn : n.hidden with
        | true =>
          have out : g.isVisible id = false := by rw [isVisible, hg, Option.any_some, hn]; rfl
          simp only [hn, if_true]
          exact out
        | false =>
          have here : g.isVisible n.id = true :=
            g.isVisible_eq_true_iff.2 ⟨n, id_of_get? hg ▸ hg, hn⟩
          have below := ih (List.forall_mem_cons.2 ⟨here, visible⟩)
          simp only [hn, Bool.false_eq_true, if_false]
          refine ⟨here, ?_, allRespect_iff.2 (List.forall_mem_map.2 fun l _ => below l.id)⟩
          rw [List.filterMap_map]
          exact n.nodup_slotNames

/-- The visible part unfolds into the tree without the links that lead out of view. -/
theorem unfoldLink_visiblePart (budget : Nat) (path : List String) {id : String}
    (reached : g.Reaches id) (visible : g.isVisible id = true) :
    g.visiblePart.unfoldLink budget path id = (g.unfoldLink budget path id).prune g.isVisible := by
  induction budget generalizing path id with
  | zero =>
    by_cases hc : id ∈ path
    · rw [unfoldLink_of_mem _ 0 hc, unfoldLink_of_mem _ 0 hc, prune]
    · rw [unfoldLink_zero _ hc, unfoldLink_zero _ hc, prune]
  | succ budget ih =>
    by_cases hc : id ∈ path
    · rw [unfoldLink_of_mem _ _ hc, unfoldLink_of_mem _ _ hc, prune]
    · obtain ⟨n, hg, hn⟩ := g.isVisible_eq_true_iff.1 visible
      have hg' := get?_visiblePart_of_reaches hg hn reached
      have hn' : (n.prune g.isVisible).hidden = false := hn
      rw [unfoldLink_succ _ _ hc, unfoldLink_succ _ _ hc, hg, hg']
      simp only [hn, hn', Bool.false_eq_true, if_false, prune, pruneLinks_eq, List.filter_map,
        List.map_map, n.links_prune, Function.comp_def, target_unfoldLink]
      congr 1
      refine List.map_congr_left fun l hl => ?_
      obtain ⟨mem, here⟩ := List.mem_filter.1 hl
      have leads : l.id ∈ g.linksFrom id := by
        rw [linksFrom, hg]
        simpa [hn] using List.mem_map_of_mem mem
      exact congrArg _ (ih _ (.link reached leads) here)

theorem unfold_visiblePart : g.visiblePart.unfold = g.unfold.prune g.isVisible := by
  cases hn : g.root.hidden with
  | true =>
    have hn' : g.visiblePart.root.hidden = true := hn
    rw [unfold_eq, unfold_eq, if_pos hn, if_pos hn', prune]
  | false =>
    exact g.unfoldLink_visiblePart _ _ .root
      (g.isVisible_eq_true_iff.2 ⟨g.root, g.get?_rootId, hn⟩)

theorem respects_unfold : g.unfold.Respects g.isVisible :=
  g.respects_unfoldLink (maxDepth + 1) (List.forall_mem_nil _) rootId

theorem report_visiblePart (backend : Backend) :
    (walk g.visiblePart backend).report = (walk g backend).report.prune g.isVisible := by
  rw [report_walk, report_walk, events, events, unfold_visiblePart, Report.prune_ofEvents]
  cases hn : g.root.hidden with
  | true =>
    rw [unfold_eq, if_pos hn]
    rfl
  | false =>
    have here : g.isVisible g.unfold.target = true := by
      rw [unfold, target_unfoldLink]
      exact g.isVisible_eq_true_iff.2 ⟨g.root, g.get?_rootId, hn⟩
    rw [events_prune backend g.unfold g.respects_unfold here]

theorem output_visiblePart (backend : Backend) :
    (walk g.visiblePart backend).output = (walk g backend).output := by
  rw [walk_eq, walk_eq, unfold_visiblePart, fragment_prune backend g.unfold g.respects_unfold]

theorem visits_visiblePart (backend : Backend) :
    (g.visiblePart.visits backend).map Visit.shown = (g.visits backend).map Visit.shown := by
  rw [visits, visits, unfold_visiblePart]
  exact visits_prune backend g.unfold g.respects_unfold 1 [] [] [] []

end Graph

/-- A walk over the visible part of a graph gives the same output, with the same handles at the same
nodes, and the same report but for the links that lead out of view. -/
theorem walk_visiblePart (g : Graph) (backend : Backend) :
    (walk g.visiblePart backend).output = (walk g backend).output ∧
      (walk g.visiblePart backend).report =
        { (walk g backend).report with
          dangling := []
          tooDeep := (walk g backend).report.tooDeep.filter g.isVisible } ∧
      (g.visiblePart.visits backend).map Visit.shown = (g.visits backend).map Visit.shown :=
  ⟨g.output_visiblePart backend, g.report_visiblePart backend, g.visits_visiblePart backend⟩

end MiniApp
