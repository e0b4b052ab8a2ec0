import MiniApp.Proofs.Component.Resolution
import MiniApp.Proofs.Source.Layout
import MiniApp.Proofs.Walk.Fragments

set_option autoImplicit false

namespace MiniApp

namespace Component

theorem exists_markup_eq (c : Children) (handle : String) (component : Component) :
    ∃ head children, component.markup c handle = .element head children := by
  cases component with
  | avatar m =>
    rw [markup, DocumentRule.avatar]
    cases m.src <;> exact ⟨_, _, rfl⟩
  | _ => exact ⟨_, _, rfl⟩

theorem exists_jsx_eq (c : Children) (handle : String) (component : Component) :
    ∃ head children, component.jsx c handle = .element head children := by
  cases component with
  | avatar m =>
    rw [jsx, ProjectRule.avatar]
    cases m.src <;> exact ⟨_, _, rfl⟩
  | _ => exact ⟨_, _, rfl⟩

theorem write_ne_empty (backend : Backend) (c : Children) (handle : String)
    (component : Component) : component.write backend c handle ≠ "" := by
  cases backend with
  | document =>
    obtain ⟨head, children, h⟩ := exists_markup_eq c handle component
    have opens : '<' ∈ (Markup.opening head).toList := by simp [Markup.opening]
    have stands : '<' ∈ (Markup.childless head).toList := by
      rw [Markup.childless]
      split <;> simp [opens]
    rw [write, h]
    exact Tree.render_element_ne_empty _ head children opens stands
  | project =>
    obtain ⟨head, children, h⟩ := exists_jsx_eq c handle component
    have opens : '<' ∈ (Jsx.opening head).toList := by simp [Jsx.opening]
    have stands : '<' ∈ (Jsx.childless head).toList := by simp [Jsx.childless, opens]
    rw [write, h]
    exact Tree.render_element_ne_empty _ head children opens stands

end Component

def ShowAlike (f g : String) : Prop := f = "" ↔ g = ""

theorem keepsEmptiness_showAlike : KeepsEmptiness ShowAlike := fun _ _ h => h

theorem judge_eq_judge (backend backend' : Backend) (props : Fields) (c c' : Children)
    (handle handle' : String) (entry : Option Entry) :
    judge backend props c handle entry = judge backend' props c' handle' entry := by
  cases entry with
  | none => rfl
  | some e =>
    rw [judge, judge, e.emit_eq_resolve, e.emit_eq_resolve]
    cases Component.resolve e.kind ⟨props, e.defaults⟩ <;> rfl

theorem showAlike_emitAs {c c' : Children} (h : c.Related ShowAlike c') (props : Fields)
    (handle : String) (entry : Option Entry) :
    ShowAlike (emitAs .document props c handle entry) (emitAs .project props c' handle entry) := by
  have joined : ShowAlike c.joined c'.joined := h.joined_eq_empty_iff keepsEmptiness_showAlike
  cases entry with
  | none => exact joined
  | some e =>
    rw [emitAs, emitAs, e.emit_eq_resolve, e.emit_eq_resolve]
    cases Component.resolve e.kind ⟨props, e.defaults⟩ with
    | error => exact joined
    | ok component =>
      exact iff_of_false (component.write_ne_empty _ _ _) (component.write_ne_empty _ _ _)

namespace Unfolding

theorem verdict_document (number : Nat) (n : Node) (links : List (Option String × Unfolding)) :
    verdict .document number n links = verdict .project number n links := by
  rw [verdict, verdict, Node.judge, Node.judge]
  generalize n.entry? = entry
  exact judge_eq_judge ..

mutual

theorem events_document (number depth : Nat) (u : Unfolding) :
    u.events .document number depth = u.events .project number depth := by
  cases u with
  | node n links =>
    rw [events, events, eventsOfLinks_document (number + 1) (depth + 1) links, verdict_document]
  | cycle | tooDeep | dangling | hidden => simp only [events]

theorem eventsOfLinks_document (number depth : Nat) (links : List (Option String × Unfolding)) :
    eventsOfLinks .document number depth links = eventsOfLinks .project number depth links := by
  cases links with
  | nil => rfl
  | cons l links =>
    obtain ⟨slot, u⟩ := l
    rw [eventsOfLinks, eventsOfLinks, events_document number depth u,
      eventsOfLinks_document (number + u.size) depth links]

end

theorem emits_showAlike : Emits ShowAlike .document .project where
  nothing := by simp only [ShowAlike]
  node n c d handle h := by
    rw [Node.emit, Node.emit]
    generalize n.entry? = entry
    exact showAlike_emitAs h ..

theorem showAlike_fragment (number : Nat) (u : Unfolding) :
    ShowAlike (u.fragment .document number) (u.fragment .project number) :=
  rel_fragment emits_showAlike number u

end Unfolding

/-- Two visits to the same place that differ in nothing but what is shown. -/
structure Visit.Agrees (v v' : Visit) : Prop where
  place : v.place = v'.place
  node : v.node = v'.node
  above : v.above = v'.above
  handle : v.handle = v'.handle
  verdict : v.verdict = v'.verdict
  fragment : ShowAlike v.fragment v'.fragment

theorem Visit.agrees_of {verdict verdict' : Verdict} {f f' : String} (hv : verdict = verdict')
    (hf : ShowAlike f f') (place : List Nat) (n : Node) (above : List Node) (handle : String) :
    Visit.Agrees ⟨place, n, above, handle, verdict, f⟩ ⟨place, n, above, handle, verdict', f'⟩ :=
  ⟨rfl, rfl, rfl, rfl, hv, hf⟩

namespace Unfolding

mutual

theorem agrees_visits (number : Nat) (place : List Nat) (above : List Node) (u : Unfolding) :
    List.Forall₂ Visit.Agrees (u.visits .document number place above)
      (u.visits .project number place above) := by
  cases u with
  | node n links =>
    rw [visits, visits]
    have here := Visit.agrees_of (verdict_document number n links)
      (showAlike_fragment number (.node n links)) place n above (handleAt number)
    exact .cons here (agrees_visitsFrom (number + 1) place (n :: above) 0 links)
  | cycle | tooDeep | dangling | hidden => simp only [visits, List.Forall₂.nil]

theorem agrees_visitsFrom (number : Nat) (place : List Nat) (above : List Node) (index : Nat)
    (links : List (Option String × Unfolding)) :
    List.Forall₂ Visit.Agrees (visitsFrom .document number place above index links)
      (visitsFrom .project number place above index links) := by
  cases links with
  | nil => exact .nil
  | cons l links =>
    obtain ⟨slot, u⟩ := l
    rw [visitsFrom, visitsFrom]
    exact List.rel_append (agrees_visits number (place ++ [index]) above u)
      (agrees_visitsFrom (number + u.size) place above (index + 1) links)

end

end Unfolding

/-- Both backends report the same on every graph, agree on every node, and no properties fail for
one of them alone. -/
theorem walk_backends_agree (g : Graph) :
    (walk g .document).report = (walk g .project).report ∧
      List.Forall₂ Visit.Agrees (g.visits .document) (g.visits .project) ∧
      (∀ backend, (walk g backend).output = fragmentAt (g.visits backend) [] ∧
        ∀ v ∈ g.visits backend,
          v.fragment = v.node.emit backend (v.children (g.visits backend)) v.handle) ∧
      ∀ (e : Entry) (props : Fields) (c c' : Children) (handle handle' : String)
        (error : PropError), e.emit .document props c handle = .error error ↔
          e.emit .project props c' handle' = .error error := by
  refine ⟨?_, Unfolding.agrees_visits 1 [] [] g.unfold, ?_, ?_⟩
  · rw [report_walk, report_walk, Graph.events, Graph.events, Unfolding.events_document]
  · exact fun backend => ⟨output_walk g backend, fun v hv => fragment_of_mem_visits hv⟩
  · intro e props c c' handle handle' error
    rw [e.emit_eq_error_iff, e.emit_eq_error_iff]

end MiniApp
