import MiniApp.Proofs.Component.Related
import MiniApp.Proofs.Component.Resolution
import MiniApp.Proofs.Walk.Occurrences

set_option autoImplicit false

namespace MiniApp

def componentAs (props : Fields) : Option Entry → Option Component
  | some e => (Component.resolve e.kind ⟨props, e.defaults⟩).toOption
  | none => none

/-- The component that the properties of a node resolve to, unless they are unusable or the tag is
unknown. -/
def Node.component? (n : Node) : Option Component := componentAs n.props n.entry?

theorem emitAs_eq (backend : Backend) (props : Fields) (c : Children) (handle : String)
    (entry : Option Entry) :
    emitAs backend props c handle entry =
      ((componentAs props entry).map (Component.write backend c handle)).getD c.joined := by
  cases entry with
  | none => rfl
  | some e =>
    rw [emitAs, componentAs, e.emit_eq_resolve]
    cases Component.resolve e.kind ⟨props, e.defaults⟩ <;> rfl

theorem Node.emit_eq (n : Node) (backend : Backend) (c : Children) (handle : String) :
    n.emit backend c handle =
      (n.component?.map (Component.write backend c handle)).getD c.joined := by
  rw [emit, component?]
  generalize n.entry? = entry
  exact emitAs_eq ..

/-- Related children are emitted as related fragments. -/
structure Emits (R : String → String → Prop) (backend backend' : Backend) : Prop where
  nothing : R "" ""
  node : ∀ (n : Node) (c d : Children) (handle : String), c.Related R d →
    R (n.emit backend c handle) (n.emit backend' d handle)

namespace Unfolding

variable {R : String → String → Prop} {backend backend' : Backend}

mutual

theorem rel_fragment (emits : Emits R backend backend') (number : Nat) (u : Unfolding) :
    R (u.fragment backend number) (u.fragment backend' number) := by
  cases u with
  | node n links =>
    rw [fragment, fragment]
    exact emits.node n _ _ _ (Children.related_ofList (rel_fragments emits (number + 1) links))
  | cycle | tooDeep | dangling | hidden => simpa only [fragment] using emits.nothing

theorem rel_fragments (emits : Emits R backend backend') (number : Nat)
    (links : List (Option String × Unfolding)) :
    List.Forall₂ (Keyed R) (fragments backend number links) (fragments backend' number links) := by
  cases links with
  | nil => exact .nil
  | cons l links =>
    obtain ⟨slot, u⟩ := l
    rw [fragments, fragments]
    exact .cons ⟨rfl, rel_fragment emits number u⟩ (rel_fragments emits (number + u.size) links)

end

theorem map_fst_fragments (backend : Backend) (number : Nat)
    (links : List (Option String × Unfolding)) :
    (fragments backend number links).map Prod.fst = links.map Prod.fst := by
  induction links generalizing number with
  | nil => rfl
  | cons l links ih => rw [fragments, List.map_cons, List.map_cons, ih]

end Unfolding

section All

variable {p : String → Prop} {backend : Backend} (nothing : p "")
  (node : ∀ (n : Node) (c : Children) (handle : String), c.All p → p (n.emit backend c handle))
include nothing node

theorem emits_and_eq : Emits (fun f g => p f ∧ f = g) backend backend where
  nothing := ⟨nothing, rfl⟩
  node n c d handle h := by
    obtain rfl := h.eq fun _ _ hf => hf.2
    exact ⟨node n c handle h, rfl⟩

theorem forall_fragment (number : Nat) (u : Unfolding) : p (u.fragment backend number) :=
  (Unfolding.rel_fragment (emits_and_eq nothing node) number u).1

theorem all_ofList_fragments (number : Nat) (links : List (Option String × Unfolding)) :
    (Children.ofList (Unfolding.fragments backend number links)).All p :=
  Children.related_ofList (Unfolding.rel_fragments (emits_and_eq nothing node) number links)

theorem all_children {g : Graph} {v : Visit} (hv : v ∈ g.visits backend) :
    (v.children (g.visits backend)).All p := by
  obtain ⟨number, place, above, n, links, h, rfl⟩ := (mem_visits_iff v).1 hv
  rw [children_ofNode h]
  exact all_ofList_fragments nothing node _ links

end All

end MiniApp
