import Mathlib.Data.Finset.Union
import Mathlib.Data.Finset.Card
import Mathlib.Order.Monotone.Basic
import MiniApp.Proofs.Graph.Entries
import MiniApp.Proofs.Graph.Links

set_option autoImplicit false

namespace MiniApp

namespace Node

def prune (keep : String → Bool) (n : Node) : Node :=
  { n with children := n.children.filter keep, slots := n.slots.filter fun _ id => keep id }

theorem childLinks_prune (keep : String → Bool) (order : List String) (n : Node) :
    (n.prune keep).childLinks order = (n.childLinks order).filter fun l => keep l.id := by
  rw [childLinks, childLinks, prune, mergeSort_entries_filter, List.filter_append, List.filter_map,
    List.filter_map]
  rfl

theorem entry?_prune (keep : String → Bool) (n : Node) :
    Node.entry? (n.prune keep) = n.entry? := rfl

theorem slotOrder_prune (keep : String → Bool) (n : Node) :
    (n.prune keep).slotOrder = n.slotOrder :=
  slotOrder_congr rfl

theorem links_prune (keep : String → Bool) (n : Node) :
    (n.prune keep).links = n.links.filter fun l => keep l.id := by
  rw [links, links, slotOrder_prune, childLinks_prune]

end Node

namespace Graph

variable {g : Graph} {id target : String}

def isVisible (g : Graph) (id : String) : Bool := (g.get? id).any fun n => !n.hidden

def linksFrom (g : Graph) (id : String) : List String :=
  match g.get? id with
  | some n => if n.hidden then [] else n.links.map Link.id
  | none => []

/-- Links lead from the root to the id, through nodes that are not hidden. -/
inductive Reaches (g : Graph) : String → Prop
  | root : Reaches g rootId
  | link {id target : String} (parent : Reaches g id) (here : target ∈ g.linksFrom id) :
      Reaches g target

def reachRound (g : Graph) (ids : Finset String) : Finset String :=
  ids ∪ ids.biUnion fun id => (g.linksFrom id).toFinset

def ids (g : Graph) : Finset String :=
  {rootId} ∪ (g.all.flatMap fun n => n.links.map Link.id).toFinset

def reachedIn (g : Graph) : (rounds : Nat) → Finset String
  | 0 => {rootId}
  | rounds + 1 => g.reachRound (g.reachedIn rounds)

def reached (g : Graph) : Finset String := g.reachedIn g.ids.card

theorem mem_reachRound {ids : Finset String} :
    target ∈ g.reachRound ids ↔ target ∈ ids ∨ ∃ id ∈ ids, target ∈ g.linksFrom id := by
  simp [reachRound]

theorem mem_ids_of_mem_linksFrom (h : target ∈ g.linksFrom id) : target ∈ g.ids := by
  rw [linksFrom] at h
  cases hn : g.get? id with
  | none => simp [hn] at h
  | some n =>
    simp only [hn] at h
    split at h
    · simp at h
    · rw [ids, Finset.mem_union, List.mem_toFinset, List.mem_flatMap]
      exact .inr ⟨n, mem_all_of_get? hn, h⟩

theorem reachRound_subset_ids {ids : Finset String} (h : ids ⊆ g.ids) :
    g.reachRound ids ⊆ g.ids := by
  intro target ht
  rcases mem_reachRound.1 ht with ht | ⟨id, _, ht⟩
  · exact h ht
  · exact mem_ids_of_mem_linksFrom ht

theorem reachedIn_subset_ids (rounds : Nat) : g.reachedIn rounds ⊆ g.ids := by
  induction rounds with
  | zero => exact Finset.subset_union_left
  | succ rounds ih => exact reachRound_subset_ids ih

theorem reachedIn_subset_succ (rounds : Nat) : g.reachedIn rounds ⊆ g.reachedIn (rounds + 1) :=
  Finset.subset_union_left

theorem rootId_mem_reachedIn (rounds : Nat) : rootId ∈ g.reachedIn rounds := by
  induction rounds with
  | zero => exact Finset.mem_singleton_self rootId
  | succ rounds ih => exact reachedIn_subset_succ rounds ih

/-- Nothing is left to add after the last round. -/
theorem reachRound_reached (g : Graph) : g.reachRound g.reached = g.reached := by
  have stable (rounds : Nat) (h : (g.reachedIn rounds).card = (g.reachedIn (rounds + 1)).card) :
      g.reachedIn rounds = g.reachedIn (rounds + 1) :=
    Finset.eq_of_subset_of_card_le (reachedIn_subset_succ rounds) h.ge
  have last : (g.reachedIn (g.ids.card + 1)).card = (g.reachedIn g.ids.card).card := by
    refine Nat.stabilises_of_monotone (f := fun rounds => (g.reachedIn rounds).card)
      (monotone_nat_of_le_succ fun rounds => Finset.card_le_card (reachedIn_subset_succ rounds))
      (fun rounds => Finset.card_le_card (reachedIn_subset_ids rounds))
      (fun rounds h => ?_) (Nat.le_succ _)
    have same : g.reachedIn rounds = g.reachedIn (rounds + 1) := stable rounds h
    show (g.reachedIn (rounds + 1)).card = (g.reachRound (g.reachedIn (rounds + 1))).card
    rw [← same]
    exact h
  exact (stable _ last.symm).symm

theorem reaches_of_mem_reachedIn {rounds : Nat} (h : id ∈ g.reachedIn rounds) : g.Reaches id := by
  induction rounds generalizing id with
  | zero =>
    rw [Finset.mem_singleton.1 h]
    exact .root
  | succ rounds ih =>
    rcases mem_reachRound.1 h with h | ⟨parent, reached, here⟩
    · exact ih h
    · exact .link (ih reached) here

theorem mem_reached_iff : id ∈ g.reached ↔ g.Reaches id := by
  refine ⟨reaches_of_mem_reachedIn, fun h => ?_⟩
  induction h with
  | root => exact rootId_mem_reachedIn _
  | @link id target _ here ih =>
    rw [← reachRound_reached]
    exact mem_reachRound.2 (.inr ⟨id, ih, here⟩)

instance (g : Graph) (id : String) : Decidable (g.Reaches id) := decidable_of_iff _ mem_reached_iff

/-- The root and the visible nodes that are reached from it, without the references to hidden nodes
and those that lead nowhere. -/
def visiblePart (g : Graph) : Graph where
  root := g.root.prune g.isVisible
  nodes := (g.nodes.filter fun id n => decide (g.Reaches id) && !n.hidden).mapValues
    (Node.prune g.isVisible)
  root_id := g.root_id
  node_id := by
    simp only [Table.mapValues, Table.filter, List.forall_mem_map]
    exact fun e he => g.node_id e (List.mem_of_mem_filter he)
  root_apart := by
    rw [Table.keys_mapValues]
    exact fun h => g.root_apart (Table.mem_keys_of_mem_keys_filter h)

theorem get?_visiblePart_of_reaches {n : Node} (hn : g.get? id = some n) (visible : n.hidden = false)
    (h : g.Reaches id) : g.visiblePart.get? id = some (n.prune g.isVisible) := by
  rw [get?] at hn ⊢
  split
  · next root =>
    rw [if_pos root] at hn
    cases hn
    rfl
  · next root =>
    rw [if_neg root] at hn
    rw [visiblePart, Table.get?_mapValues, Table.get?_filter, hn]
    simp [Option.filter, h, visible]

end Graph

end MiniApp
