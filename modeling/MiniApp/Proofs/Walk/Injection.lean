import MiniApp.Proofs.Component.Safety
import MiniApp.Proofs.Walk.Fragments

set_option autoImplicit false

namespace MiniApp

open Markup

/-- The layout for properties and rendered children under an entry, when the properties can be
resolved. -/
def layoutAs (props : Fields) (c : Children) (handle : String) : Option Entry → Option Markup.Tree
  | some e => (DocumentRule.tree e.kind ⟨props, e.defaults⟩ c handle).toOption
  | none => none

/-- The tags of a layout; without one the children are passed through. -/
def layoutTags (c : Children) : Option Markup.Tree → List Tag
  | some t => tagsOf tagsIn t
  | none => c.all.flatMap tagsIn

/-- The tags that a node is made of, given its rendered children. -/
def Node.tags (n : Node) (c : Children) (handle : String) : List Tag :=
  layoutTags c (layoutAs n.props c handle n.entry?)

theorem read?_joined {c : Children} (h : c.All Accepted) :
    read? c.joined = some (c.all.flatMap tagsIn) :=
  read?_eq_some_iff.2 (Scanner.scan_intercalate breaksIn_text fun f hf =>
    read?_eq_some_iff.1 (h.all f hf).read_eq)

theorem read?_emitAs {c : Children} (h : c.All Accepted) (props : Fields) (handle : String)
    (entry : Option Entry) :
    read? (emitAs .document props c handle entry) =
      some (layoutTags c (layoutAs props c handle entry)) := by
  cases entry with
  | none => exact read?_joined h
  | some e =>
    rw [emitAs, layoutAs, e.emit_eq_resolve, DocumentRule.tree_eq_resolve]
    cases Component.resolve e.kind ⟨props, e.defaults⟩ with
    | error => exact read?_joined h
    | ok component => exact read?_render (DocumentRule.safe_markup h handle component)

theorem wellFormed_layoutTags {c : Children} (h : c.All Accepted) (props : Fields) (handle : String)
    (entry : Option Entry) : WellFormed (layoutTags c (layoutAs props c handle entry)) := by
  have passed : WellFormed (c.all.flatMap tagsIn) :=
    wellNested_flatMap fun f hf => (h.all f hf).good
  cases entry with
  | none => exact passed
  | some e =>
    rw [layoutAs, DocumentRule.tree_eq_resolve]
    cases Component.resolve e.kind ⟨props, e.defaults⟩ with
    | error => exact passed
    | ok component => exact wellFormed_tagsOf (DocumentRule.safe_markup h handle component)

theorem read?_emit {c : Children} (h : c.All Accepted) (n : Node) (handle : String) :
    read? (n.emit .document c handle) = some (n.tags c handle) := by
  rw [Node.emit, Node.tags]
  generalize n.entry? = entry
  exact read?_emitAs h n.props handle entry

theorem wellFormed_tags {c : Children} (h : c.All Accepted) (n : Node) (handle : String) :
    WellFormed (n.tags c handle) := by
  rw [Node.tags]
  generalize n.entry? = entry
  exact wellFormed_layoutTags h n.props handle entry

theorem accepted_emit (n : Node) (c : Children) (handle : String) (h : c.All Accepted) :
    Accepted (n.emit .document c handle) :=
  ⟨_, read?_emit h n handle, wellFormed_tags h n handle⟩

theorem accepted_fragment (number : Nat) (u : Unfolding) :
    Accepted (u.fragment .document number) :=
  forall_fragment (acceptedBy_empty rfl) accepted_emit number u

theorem accepted_children {g : Graph} {v : Visit} (hv : v ∈ g.visits .document) :
    (v.children (g.visits .document)).All Accepted :=
  all_children (acceptedBy_empty rfl) accepted_emit hv

/-- Documents are accepted: elements are nested, names are fixed, and what an author wrote is text
or the value of an attribute. -/
theorem walk_document_accepted (g : Graph) :
    (∃ tags, read? (walk g .document).output = some tags ∧ openAfter [] tags = some [] ∧
      ∀ tag ∈ tags, tag.Allowed) ∧
    (walk g .document).output = fragmentAt (g.visits .document) [] ∧
    ∀ v ∈ g.visits .document,
      read? v.fragment = some (v.node.tags (v.children (g.visits .document)) v.handle) := by
  refine ⟨?_, output_walk g .document, fun v hv => ?_⟩
  · obtain ⟨tags, hread, wellFormed⟩ := accepted_fragment 1 g.unfold
    rw [output_walk, fragmentAt_visits .root]
    exact ⟨tags, hread, wellFormed.nested [], wellFormed.allowed⟩
  · rw [fragment_of_mem_visits hv]
    exact read?_emit (accepted_children hv) v.node v.handle

end MiniApp
