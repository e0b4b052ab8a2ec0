import MiniApp.Proofs.Component.Errors
import MiniApp.Proofs.Graph.VisiblePart

/-!
Graphs without a defect among the nodes in view. References are counted along the ways that they
make: a way may meet a node again, and may be of any length.
-/

set_option autoImplicit false

namespace MiniApp.Graph

variable {g : Graph}

/-- The node is not hidden, and references lead to it from the root through nodes that are not. -/
def InView (g : Graph) (n : Node) : Prop := g.Reaches n.id ∧ g.get? n.id = some n ∧ n.hidden = false

/-- From one id, so many references lead to another, one after the other and each from a node that
is not hidden. What the last one names need not be there. -/
inductive Leads (g : Graph) (start : String) : (length : Nat) → (target : String) → Prop
  | refl : Leads g start 0 start
  | link {length : Nat} {id target : String} (way : Leads g start length id)
      (here : target ∈ g.linksFrom id) : Leads g start (length + 1) target

/-- What makes a graph free of defects, for the nodes in view. -/
structure Sound (g : Graph) : Prop where
  /-- References name nodes, be they hidden. -/
  present : ∀ n, g.InView n → ∀ l ∈ n.links, ∃ m, g.get? l.id = some m
  acyclic : ∀ n, g.InView n → ∀ length, 0 < length → ¬ g.Leads n.id length n.id
  shallow : ∀ length target, g.Leads rootId length target → length ≤ maxDepth
  tagged : ∀ n, g.InView n → ∃ e, n.entry? = some e
  /-- Nothing goes wrong with the properties but that a button's action lacks one. -/
  resolved : ∀ n, g.InView n → ∀ e, n.entry? = some e →
    ∀ error, Component.Meets e.kind ⟨n.props, e.defaults⟩ error →
      ∃ property, error = .missing "Button" property

theorem mem_linksFrom_iff {id target : String} :
    target ∈ g.linksFrom id ↔
      ∃ n, g.get? id = some n ∧ n.hidden = false ∧ ∃ l ∈ n.links, l.id = target := by
  rw [linksFrom]
  cases g.get? id with
  | none => simp
  | some n => cases hidden : n.hidden <;> simp [hidden]

section Leads

variable {m n : Nat} {a b c : String}

theorem Leads.trans (h : g.Leads a m b) (h' : g.Leads b n c) : g.Leads a (m + n) c := by
  induction h' with
  | refl => exact h
  | link _ here ih => exact .link ih here

/-- A circle can be gone round as often as one likes. -/
theorem Leads.repeat (h : g.Leads a m a) (times : Nat) : g.Leads a (times * m) a := by
  induction times with
  | zero =>
    rw [Nat.zero_mul]
    exact .refl
  | succ times ih =>
    rw [Nat.succ_mul]
    exact ih.trans h

theorem Leads.reaches (h : g.Leads a m b) (start : g.Reaches a) : g.Reaches b := by
  induction h with
  | refl => exact start
  | link _ here ih => exact .link ih here

theorem Reaches.leads (h : g.Reaches a) : ∃ length, g.Leads rootId length a := by
  induction h with
  | root => exact ⟨0, .refl⟩
  | link _ here ih =>
    obtain ⟨length, way⟩ := ih
    exact ⟨length + 1, .link way here⟩

end Leads

end MiniApp.Graph
