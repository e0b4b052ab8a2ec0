import MiniApp.Walk.Unfolding
import Mathlib.Data.List.Lex
import Mathlib.Tactic.Common

set_option autoImplicit false

namespace MiniApp

open Unfolding

variable {g : Graph}

/-- A tree stands at a place of the unfolded graph, below the nodes in `above`, and the first node
in it has the given number in preorder. -/
inductive Graph.At (g : Graph) : Nat → List Nat → List Node → Unfolding → Prop
  | root : At g 1 [] [] g.unfold
  | link {number index : Nat} {place : List Nat} {above : List Node} {n : Node}
      {links : List (Option String × Unfolding)} {slot : Option String} {u : Unfolding}
      (parent : At g number place above (.node n links)) (here : links[index]? = some (slot, u)) :
      At g (number + 1 + sizeOfLinks (links.take index)) (place ++ [index]) (n :: above) u

namespace Graph

theorem unfoldLink_eq_node_iff {budget : Nat} {path : List String} {id : String} {n : Node}
    {links : List (Option String × Unfolding)} :
    g.unfoldLink budget path id = .node n links ↔
      id ∉ path ∧ 0 < budget ∧ g.get? id = some n ∧ n.hidden = false ∧
        links = n.links.map fun l => (l.slotName, g.unfoldLink (budget - 1) (n.id :: path) l.id) := by
  by_cases hc : id ∈ path
  · simp [g.unfoldLink_of_mem budget hc, hc]
  · cases budget with
    | zero => simp [g.unfoldLink_zero hc]
    | succ budget =>
      rw [g.unfoldLink_succ budget hc]
      cases hg : g.get? id with
      | none => simp
      | some m =>
        cases hm : m.hidden with
        | true =>
          simp only [hm, if_true, reduceCtorEq, false_iff]
          rintro ⟨-, -, hn, hv, -⟩
          cases hn
          simp [hm] at hv
        | false =>
          simp only [hm, Bool.false_eq_true, if_false, Unfolding.node.injEq, Option.some.injEq]
          constructor
          · rintro ⟨rfl, rfl⟩
            exact ⟨hc, Nat.succ_pos _, rfl, hm, rfl⟩
          · rintro ⟨-, -, rfl, -, rfl⟩
            exact ⟨rfl, rfl⟩

theorem target_unfoldLink (g : Graph) (budget : Nat) (path : List String) (id : String) :
    (g.unfoldLink budget path id).target = id := by
  by_cases hc : id ∈ path
  · rw [g.unfoldLink_of_mem budget hc, target]
  · cases budget with
    | zero => rw [g.unfoldLink_zero hc, target]
    | succ budget =>
      rw [g.unfoldLink_succ budget hc]
      cases hg : g.get? id with
      | none => rfl
      | some n =>
        cases hn : n.hidden with
        | true => simp only [hn, if_true, target]
        | false => simpa only [hn, Bool.false_eq_true, if_false, target] using id_of_get? hg

namespace At

variable {number number' : Nat} {place : List Nat} {above above' : List Node} {n : Node}
  {links : List (Option String × Unfolding)} {u u' : Unfolding}

theorem eq_unfoldLink (h : g.At number place above u) :
    place.length ≤ maxDepth + 1 ∧
      ∃ id, u = g.unfoldLink (maxDepth + 1 - place.length) (above.map Node.id) id := by
  induction h with
  | root => exact ⟨Nat.zero_le _, rootId, rfl⟩
  | @link number index place above n links slot u _ here ih =>
    obtain ⟨-, id, hu⟩ := ih
    obtain ⟨-, hpos, -, -, rfl⟩ := unfoldLink_eq_node_iff.1 hu.symm
    rw [List.getElem?_map] at here
    obtain ⟨l, -, hl⟩ := Option.map_eq_some_iff.1 here
    cases hl
    rw [List.length_append, List.length_singleton]
    refine ⟨by omega, l.id, ?_⟩
    rw [Nat.sub_sub, List.map_cons]

theorem links_eq (h : g.At number place above (.node n links)) :
    place.length ≤ maxDepth ∧ n.hidden = false ∧ links = n.links.map fun l =>
      (l.slotName, g.unfoldLink (maxDepth - place.length) ((n :: above).map Node.id) l.id) := by
  obtain ⟨-, id, hu⟩ := h.eq_unfoldLink
  obtain ⟨-, hpos, -, hn, hl⟩ := unfoldLink_eq_node_iff.1 hu.symm
  refine ⟨by omega, hn, ?_⟩
  rw [hl, Nat.sub_right_comm, Nat.add_sub_cancel]
  rfl

theorem unique (h : g.At number place above u) (h' : g.At number' place above' u') :
    number = number' ∧ above = above' ∧ u = u' := by
  induction h generalizing number' above' u' with
  | root =>
    generalize hp : ([] : List Nat) = place at h'
    cases h' with
    | root => exact ⟨rfl, rfl, rfl⟩
    | link parent here => simp at hp
  | @link number index place above n links slot u _ here ih =>
    generalize hp : place ++ [index] = place' at h'
    cases h' with
    | root => simp at hp
    | @link number' index' place' above' n' links' slot' u' parent here' =>
      obtain ⟨rfl, hi⟩ := List.append_inj' hp rfl
      cases hi
      obtain ⟨rfl, rfl, hu⟩ := ih parent
      cases hu
      rw [here] at here'
      cases here'
      exact ⟨rfl, rfl, rfl⟩

end At

end Graph

/-- The visit to a node that stands at a place. -/
def Visit.ofNode (backend : Backend) (number : Nat) (place : List Nat) (above : List Node)
    (n : Node) (links : List (Option String × Unfolding)) : Visit :=
  ⟨place, n, above, handleAt number, Unfolding.verdict backend number n links,
    Unfolding.fragment backend number (.node n links)⟩

variable {backend : Backend}

mutual

theorem exists_at_of_mem_visits (v : Visit) : (u : Unfolding) →
    (number : Nat) → (place : List Nat) → (above : List Node) → g.At number place above u →
    v ∈ u.visits backend number place above →
    ∃ number place above n links, g.At number place above (.node n links) ∧
      v = .ofNode backend number place above n links
  | .node n links, number, place, above, h, hv => by
    rw [visits, List.mem_cons] at hv
    rcases hv with hv | hv
    · exact ⟨number, place, above, n, links, h, hv⟩
    · exact exists_at_of_mem_visitsFrom v links [] number place above n h hv
  | .cycle _, _, _, _, _, hv | .tooDeep _, _, _, _, _, hv | .dangling _, _, _, _, _, hv
  | .hidden _, _, _, _, _, hv => by simp [visits] at hv

theorem exists_at_of_mem_visitsFrom (v : Visit) : (links before : List (Option String × Unfolding)) →
    (number : Nat) → (place : List Nat) → (above : List Node) → (n : Node) →
    g.At number place above (.node n (before ++ links)) →
    v ∈ visitsFrom backend (number + 1 + sizeOfLinks before) place (n :: above) before.length links →
    ∃ number place above n links, g.At number place above (.node n links) ∧
      v = .ofNode backend number place above n links
  | [], _, _, _, _, _, _, hv => by simp [visitsFrom] at hv
  | (slot, u) :: links, before, number, place, above, n, h, hv => by
    rw [visitsFrom, List.mem_append] at hv
    rcases hv with hv | hv
    · have here : (before ++ (slot, u) :: links)[before.length]? = some (slot, u) := by simp
      have at' := h.link here
      rw [List.take_left] at at'
      exact exists_at_of_mem_visits v u _ _ _ at' hv
    · refine exists_at_of_mem_visitsFrom v links (before ++ [(slot, u)]) number place above n
        (by simpa using h) ?_
      rw [sizeOfLinks_append, sizeOfLinks, sizeOfLinks, Nat.add_zero, List.length_append,
        ← Nat.add_assoc]
      exact hv

end

theorem visitsFrom_sublist {links : List (Option String × Unfolding)} {index : Nat}
    {slot : Option String} {u : Unfolding} (here : links[index]? = some (slot, u))
    (number : Nat) (place : List Nat) (above : List Node) (first : Nat) :
    (u.visits backend (number + sizeOfLinks (links.take index)) (place ++ [first + index])
      above).Sublist (visitsFrom backend number place above first links) := by
  induction links generalizing index number first with
  | nil => simp at here
  | cons l links ih =>
    cases index with
    | zero =>
      cases here
      exact List.sublist_append_left _ _
    | succ index =>
      have below := ih here (number + l.2.size) (first + 1)
      rw [Nat.add_assoc, Nat.add_assoc, Nat.add_comm 1] at below
      exact below.trans (List.sublist_append_right _ _)

theorem Graph.At.visits_sublist {number : Nat} {place : List Nat} {above : List Node}
    {u : Unfolding} (h : g.At number place above u) :
    (u.visits backend number place above).Sublist (g.visits backend) := by
  induction h with
  | root => exact List.Sublist.refl _
  | @link number index place above n links slot u _ here ih =>
    have below : (u.visits backend (number + 1 + sizeOfLinks (links.take index))
        (place ++ [0 + index]) (n :: above)).Sublist
          (visitsFrom backend (number + 1) place (n :: above) 0 links) :=
      visitsFrom_sublist here (number + 1) place (n :: above) 0
    rw [Nat.zero_add] at below
    exact (below.trans (List.sublist_cons_self _ _)).trans ih

theorem mem_visits_iff (v : Visit) : v ∈ g.visits backend ↔
    ∃ number place above n links, g.At number place above (.node n links) ∧
      v = .ofNode backend number place above n links := by
  constructor
  · exact exists_at_of_mem_visits v g.unfold 1 [] [] .root
  · rintro ⟨number, place, above, n, links, h, rfl⟩
    exact h.visits_sublist.subset List.mem_cons_self

mutual

theorem exists_at_of_mem_linkVisits (v : LinkVisit) : (u : Unfolding) →
    (number : Nat) → (place : List Nat) → (above : List Node) → g.At number place above u →
    v ∈ u.linkVisits place →
    ∃ number place above n links index slot u, g.At number place above (.node n links) ∧
      links[index]? = some (slot, u) ∧ v = ⟨place ++ [index], u.target, u.fate⟩
  | .node n links, number, place, above, h, hv =>
    exists_at_of_mem_linkVisitsFrom v links [] number place above n h hv
  | .cycle _, _, _, _, _, hv | .tooDeep _, _, _, _, _, hv | .dangling _, _, _, _, _, hv
  | .hidden _, _, _, _, _, hv => by simp [linkVisits] at hv

theorem exists_at_of_mem_linkVisitsFrom (v : LinkVisit) :
    (links before : List (Option String × Unfolding)) →
    (number : Nat) → (place : List Nat) → (above : List Node) → (n : Node) →
    g.At number place above (.node n (before ++ links)) →
    v ∈ linkVisitsFrom place before.length links →
    ∃ number place above n links index slot u, g.At number place above (.node n links) ∧
      links[index]? = some (slot, u) ∧ v = ⟨place ++ [index], u.target, u.fate⟩
  | [], _, _, _, _, _, _, hv => by simp [linkVisitsFrom] at hv
  | (slot, u) :: links, before, number, place, above, n, h, hv => by
    have here : (before ++ (slot, u) :: links)[before.length]? = some (slot, u) := by simp
    rw [linkVisitsFrom, List.mem_cons, List.mem_append] at hv
    rcases hv with hv | hv | hv
    · exact ⟨number, place, above, n, _, before.length, slot, u, h, here, hv⟩
    · exact exists_at_of_mem_linkVisits v u _ _ _ (h.link here) hv
    · refine exists_at_of_mem_linkVisitsFrom v links (before ++ [(slot, u)]) number place above n
        (by simpa using h) ?_
      rw [List.length_append]
      exact hv

end

theorem mem_linkVisitsFrom {links : List (Option String × Unfolding)} {index : Nat}
    {slot : Option String} {u : Unfolding} (here : links[index]? = some (slot, u))
    (place : List Nat) (first : Nat) :
    ⟨place ++ [first + index], u.target, u.fate⟩ ∈ linkVisitsFrom place first links ∧
      u.linkVisits (place ++ [first + index]) ⊆ linkVisitsFrom place first links := by
  induction links generalizing index first with
  | nil => simp at here
  | cons l links ih =>
    cases index with
    | zero =>
      cases here
      exact ⟨List.mem_cons_self,
        fun v hv => List.mem_cons_of_mem _ (List.mem_append_left _ hv)⟩
    | succ index =>
      have below := ih here (first + 1)
      rw [Nat.add_assoc, Nat.add_comm 1] at below
      have later : linkVisitsFrom place (first + 1) links ⊆ linkVisitsFrom place first (l :: links) :=
        fun v hv => List.mem_cons_of_mem _ (List.mem_append_right _ hv)
      exact ⟨later below.1, fun v hv => later (below.2 hv)⟩

theorem Graph.At.linkVisits_subset {number : Nat} {place : List Nat} {above : List Node}
    {u : Unfolding} (h : g.At number place above u) : u.linkVisits place ⊆ g.linkVisits := by
  induction h with
  | root => exact fun v hv => hv
  | @link number index place above n links slot u _ here ih =>
    have below := (mem_linkVisitsFrom here place 0).2
    rw [Nat.zero_add] at below
    exact fun v hv => ih (below hv)

theorem mem_linkVisits_iff (v : LinkVisit) : v ∈ g.linkVisits ↔
    ∃ number place above n links index slot u, g.At number place above (.node n links) ∧
      links[index]? = some (slot, u) ∧ v = ⟨place ++ [index], u.target, u.fate⟩ := by
  constructor
  · exact exists_at_of_mem_linkVisits v g.unfold 1 [] [] .root
  · rintro ⟨number, place, above, n, links, index, slot, u, h, here, rfl⟩
    have below := (mem_linkVisitsFrom here place 0).1
    rw [Nat.zero_add] at below
    exact h.linkVisits_subset below

end MiniApp
