import MiniApp.Proofs.Component.ProjectSafety
import MiniApp.Proofs.Walk.Fragments

set_option autoImplicit false

namespace MiniApp

open Jsx

def jsxLayoutAs (props : Fields) (c : Children) (handle : String) : Option Entry → Option Jsx.Tree
  | some e => (ProjectRule.tree e.kind ⟨props, e.defaults⟩ c handle).toOption
  | none => none

def jsxLayoutTags (c : Children) : Option Jsx.Tree → List Tag
  | some t => reading.tagsOf tagsIn t
  | none => c.all.flatMap tagsIn

/-- The tags that a node is made of, given its rendered children. -/
def Node.jsxTags (n : Node) (c : Children) (handle : String) : List Tag :=
  jsxLayoutTags c (jsxLayoutAs n.props c handle n.entry?)

section Nodes

variable {c : Children} (h : c.All Accepted)
include h

theorem safe_jsxLayoutAs {props : Fields} {handle : String} {entry : Option Entry} {t : Jsx.Tree}
    (ht : jsxLayoutAs props c handle entry = some t) : SafeTree t := by
  cases entry with
  | none => cases ht
  | some e =>
    rw [jsxLayoutAs, ProjectRule.tree_eq_resolve] at ht
    cases hc : Component.resolve e.kind ⟨props, e.defaults⟩ with
    | error =>
      rw [hc] at ht
      cases ht
    | ok component =>
      rw [hc] at ht
      cases ht
      exact ProjectRule.safe_jsx h handle component

theorem read?_joined_project : Jsx.read? c.joined = some (c.all.flatMap Jsx.tagsIn) :=
  Jsx.read?_eq_some_iff.2 (Scanner.scan_intercalate breaksIn_text fun f hf =>
    Jsx.read?_eq_some_iff.1 (h.all f hf).read_eq)

theorem read?_emitAs_project (props : Fields) (handle : String) (entry : Option Entry) :
    Jsx.read? (emitAs .project props c handle entry) =
      some (jsxLayoutTags c (jsxLayoutAs props c handle entry)) := by
  cases entry with
  | none => exact read?_joined_project h
  | some e =>
    have safe {t : Jsx.Tree} (ht : jsxLayoutAs props c handle (some e) = some t) : SafeTree t :=
      safe_jsxLayoutAs h ht
    rw [jsxLayoutAs] at safe ⊢
    rw [emitAs, Entry.emit]
    cases ht : ProjectRule.tree e.kind ⟨props, e.defaults⟩ c handle with
    | error => exact read?_joined_project h
    | ok t =>
      rw [ht] at safe
      exact Jsx.read?_render (safe rfl)

theorem wellFormed_jsxLayoutTags (props : Fields) (handle : String) (entry : Option Entry) :
    Jsx.WellFormed (jsxLayoutTags c (jsxLayoutAs props c handle entry)) := by
  cases ht : jsxLayoutAs props c handle entry with
  | none => exact wellNested_flatMap fun f hf => (h.all f hf).good
  | some t => exact Jsx.wellFormed_tagsOf (safe_jsxLayoutAs h ht)

theorem read?_emit_project (n : Node) (handle : String) :
    Jsx.read? (n.emit .project c handle) = some (n.jsxTags c handle) := by
  rw [Node.emit, Node.jsxTags]
  generalize n.entry? = entry
  exact read?_emitAs_project h n.props handle entry

theorem wellFormed_jsxTags (n : Node) (handle : String) :
    Jsx.WellFormed (n.jsxTags c handle) := by
  rw [Node.jsxTags]
  generalize n.entry? = entry
  exact wellFormed_jsxLayoutTags h n.props handle entry

theorem accepted_emit_project (n : Node) (handle : String) :
    Jsx.Accepted (n.emit .project c handle) :=
  ⟨_, read?_emit_project h n handle, wellFormed_jsxTags h n handle⟩

end Nodes

/-- Projects are accepted: elements are nested, names are fixed, and what an author wrote is text, a
string in a prop, or a literal in an expression. -/
theorem walk_project_accepted (g : Graph) :
    (∃ tags, Jsx.read? (walk g .project).output = some tags ∧
      Jsx.openAfter [] tags = some [] ∧ ∀ tag ∈ tags, tag.Allowed) ∧
    (walk g .project).output = fragmentAt (g.visits .project) [] ∧
    ∀ v ∈ g.visits .project,
      Jsx.read? v.fragment =
        some (v.node.jsxTags (v.children (g.visits .project)) v.handle) := by
  have node (n : Node) (c : Children) (handle : String) (h : c.All Jsx.Accepted) :=
    accepted_emit_project h n handle
  refine ⟨?_, output_walk g .project, fun v hv => ?_⟩
  · obtain ⟨tags, hread, wellFormed⟩ := forall_fragment (acceptedBy_empty rfl) node 1 g.unfold
    rw [output_walk, fragmentAt_visits .root]
    exact ⟨tags, hread, wellFormed.nested [], wellFormed.allowed⟩
  · rw [fragment_of_mem_visits hv]
    exact read?_emit_project (all_children (acceptedBy_empty rfl) node hv) v.node v.handle

end MiniApp
