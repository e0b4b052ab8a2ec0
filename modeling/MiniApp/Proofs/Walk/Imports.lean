import MiniApp.Project.Basic
import MiniApp.Proofs.Component.Marks
import MiniApp.Proofs.Graph.Links
import MiniApp.Proofs.Walk.ProjectInjection
import MiniApp.Proofs.Walk.Related

set_option autoImplicit false

namespace MiniApp

/-- What the children show is shown: passed through, or given a place. -/
def Verdict.passesOn : Verdict → Bool
  | .emitted kind => kind.placesChildren
  | .degraded | .unknownTag => true

theorem judge_eq_emitted_iff (backend : Backend) (props : Fields) (c : Children) (handle : String)
    (entry : Option Entry) (kind : Kind) :
    judge backend props c handle entry = .emitted kind ↔
      ∃ component ∈ componentAs props entry, component.kind = kind := by
  cases entry with
  | none => simp [judge, componentAs]
  | some e =>
    rw [judge, componentAs, e.emit_eq_resolve]
    cases resolved : Component.resolve e.kind ⟨props, e.defaults⟩ with
    | error => simp [Except.map, Except.toOption]
    | ok component =>
      have own : component.kind = e.kind := Component.kind_of_resolve resolved
      simp [Except.map, Except.toOption, own]

theorem Node.verdict_eq_emitted_iff (n : Node) (kind : Kind) :
    n.verdict = .emitted kind ↔ ∃ component ∈ n.component?, component.kind = kind := by
  rw [verdict, judge, component?]
  generalize n.entry? = entry
  exact judge_eq_emitted_iff ..

section Marks

variable {needle : List Char} {own : Component → Prop} (marks : Marks needle own)
include marks

theorem foundIn_emitAs {c : Children} (accepted : c.All Jsx.Accepted) (props : Fields)
    (handle : String) (entry : Option Entry) :
    FoundIn needle (emitAs .project props c handle entry) ↔
      (∃ component ∈ componentAs props entry, own component) ∨
        (judge .document props .empty "" entry).passesOn = true ∧
          ∃ f ∈ c.all, FoundIn needle f := by
  have joined : FoundIn needle c.joined ↔ ∃ f ∈ c.all, FoundIn needle f :=
    foundIn_intercalate marks.findable c.all
  cases entry with
  | none => simp [emitAs, componentAs, judge, Verdict.passesOn, joined]
  | some e =>
    rw [emitAs, judge, componentAs, e.emit_eq_resolve, e.emit_eq_resolve]
    cases resolved : Component.resolve e.kind ⟨props, e.defaults⟩ with
    | error => simp [Except.map, Except.toOption, Verdict.passesOn, joined]
    | ok component =>
      have written := marks.written component c handle accepted
      have kind : component.kind = e.kind := Component.kind_of_resolve resolved
      simpa [Except.map, Except.toOption, Verdict.passesOn, kind] using written

/-- A mark is found at a node that has it of its own, and at one that shows children with it. -/
theorem Node.foundIn_emit (n : Node) {c : Children} (accepted : c.All Jsx.Accepted)
    (handle : String) :
    FoundIn needle (n.emit .project c handle) ↔
      (∃ component ∈ n.component?, own component) ∨
        n.verdict.passesOn = true ∧ ∃ f ∈ c.all, FoundIn needle f := by
  rw [emit, component?, verdict, judge]
  generalize n.entry? = entry
  exact foundIn_emitAs marks accepted n.props handle entry

end Marks

/-- Everything on the way from the root passes on what its children show. -/
def PassesOn (above : List Node) : Prop := ∀ n ∈ above, n.verdict.passesOn = true

theorem passesOn_cons (n : Node) (above : List Node) :
    PassesOn (n :: above) ↔ n.verdict.passesOn = true ∧ PassesOn above := List.forall_mem_cons

/-- A node is written out by its rule, and all above it passes on what it shows. -/
structure Visit.Survives (v : Visit) : Prop where
  emitted : ∃ kind, v.verdict = .emitted kind
  above : PassesOn v.above

def Visit.Shows (own : Component → Prop) (v : Visit) : Prop :=
  (∃ component ∈ v.node.component?, own component) ∧ PassesOn v.above

namespace Unfolding

variable {needle : List Char} {own : Component → Prop} (marks : Marks needle own)

/-- A mark is found in a tree when a node of the tree shows it. The way to the tree is part of both
sides, as it is part of the way to every node. -/
def Found (needle : List Char) (own : Component → Prop) (u : Unfolding) : Prop :=
  ∀ number place above,
    FoundIn needle (u.fragment .project number) ∧ PassesOn above ↔
      ∃ v ∈ u.visits .project number place above, v.Shows own

include marks

theorem found_of_skipped {u : Unfolding} (nothing : ∀ number, u.fragment .project number = "")
    (nowhere : ∀ number place above, u.visits .project number place above = []) :
    u.Found needle own := by
  intro number place above
  rw [nothing, nowhere]
  exact iff_of_false (fun h => not_foundIn_empty marks.findable h.1) (by simp)

omit marks in
theorem found_links {links : List (Option String × Unfolding)}
    (below : ∀ l ∈ links, l.2.Found needle own) (number : Nat) (place : List Nat)
    (above : List Node) (index : Nat) :
    (∃ f ∈ (fragments .project number links).map Prod.snd, FoundIn needle f) ∧ PassesOn above ↔
      ∃ v ∈ visitsFrom .project number place above index links, v.Shows own := by
  induction links generalizing number index with
  | nil => simp [fragments, visitsFrom]
  | cons l links ih =>
    obtain ⟨slot, u⟩ := l
    rw [List.forall_mem_cons] at below
    have first := below.1 number (place ++ [index]) above
    have rest := ih below.2 (number + u.size) (index + 1)
    rw [fragments, visitsFrom, List.map_cons, List.exists_mem_cons_iff, or_and_right, first, rest]
    simp only [List.mem_append, or_and_right, exists_or]

theorem found_node {n : Node} {links : List (Option String × Unfolding)}
    (slots : links.map Prod.fst = n.links.map Link.slotName)
    (below : ∀ l ∈ links, l.2.Found needle own) : (Unfolding.node n links).Found needle own := by
  intro number place above
  have accepted : (Children.ofList (fragments .project (number + 1) links)).All Jsx.Accepted :=
    all_ofList_fragments (acceptedBy_empty rfl) (fun n c handle h => accepted_emit_project h n handle)
      (number + 1) links
  have all := n.all_ofList ((map_fst_fragments .project (number + 1) links).trans slots)
  rw [fragment, n.foundIn_emit marks accepted, all,
    exists_shown_iff (not_foundIn_empty marks.findable), visits, List.exists_mem_cons_iff,
    ← found_links below, passesOn_cons, Visit.Shows, or_and_right, and_assoc]
  exact or_congr Iff.rfl and_left_comm

theorem found_unfoldLink (g : Graph) (budget : Nat) (path : List String) (id : String) :
    (g.unfoldLink budget path id).Found needle own := by
  induction budget generalizing path id with
  | zero =>
    by_cases circle : id ∈ path
    · rw [g.unfoldLink_of_mem 0 circle]
      exact found_of_skipped marks (fun _ => rfl) fun _ _ _ => rfl
    · rw [g.unfoldLink_zero circle]
      exact found_of_skipped marks (fun _ => rfl) fun _ _ _ => rfl
  | succ budget ih =>
    by_cases circle : id ∈ path
    · rw [g.unfoldLink_of_mem (budget + 1) circle]
      exact found_of_skipped marks (fun _ => rfl) fun _ _ _ => rfl
    rw [g.unfoldLink_succ budget circle]
    cases g.get? id with
    | none => exact found_of_skipped marks (fun _ => rfl) fun _ _ _ => rfl
    | some n =>
      cases hidden : n.hidden with
      | true =>
        simp only [hidden, if_true]
        exact found_of_skipped marks (fun _ => rfl) fun _ _ _ => rfl
      | false =>
        simp only [hidden, Bool.false_eq_true, if_false]
        refine found_node marks ?_ (List.forall_mem_map.2 fun l _ => ih (n.id :: path) l.id)
        rw [List.map_map]
        rfl

end Unfolding

namespace Graph

variable {g : Graph} {needle : List Char} {own : Component → Prop}

theorem verdict_of_mem_visits {v : Visit} (hv : v ∈ g.visits .project) :
    v.verdict = v.node.verdict := by
  obtain ⟨number, place, above, n, links, -, rfl⟩ := (mem_visits_iff v).1 hv
  dsimp only [Visit.ofNode]
  exact Unfolding.verdict_eq .project number n links

/-- Some node that survives is written as such a component. -/
def Uses (g : Graph) (own : Component → Prop) : Prop :=
  ∃ v ∈ g.visits .project, v.Survives ∧ ∃ component ∈ v.node.component?, own component

theorem foundIn_output (marks : Marks needle own) :
    FoundIn needle (walk g .project).output ↔ g.Uses own := by
  have found := Unfolding.found_unfoldLink marks g (maxDepth + 1) [] rootId 1 [] []
  have root : PassesOn [] := List.forall_mem_nil _
  rw [walk_eq, Graph.unfold, ← and_iff_left (a := FoundIn needle _) root, found]
  refine exists_congr fun v => and_congr_right fun hv => ?_
  have verdict := verdict_of_mem_visits hv
  constructor
  · rintro ⟨⟨component, resolved, here⟩, above⟩
    have emitted := (v.node.verdict_eq_emitted_iff component.kind).2 ⟨component, resolved, rfl⟩
    exact ⟨⟨⟨component.kind, verdict.trans emitted⟩, above⟩, component, resolved, here⟩
  · rintro ⟨survives, shown⟩
    exact ⟨shown, survives.above⟩

end Graph

namespace AppSource

theorem mentions_iff (body needle : String) :
    mentions body needle = true ↔ FoundIn needle.toList body := Text.occursIn_iff ..

def importLines (bridge : Bool) (components : List String) : List String :=
  (if bridge then [importLine ["bridge"] "./bridge"] else []) ++
    if components.isEmpty then [] else [importLine components "./components"]

theorem importsFor_eq (output : String) :
    importsFor output = importLines (mentions output bridgeMark)
      (runtimeComponents.filter fun name => mentions output (componentMark name)) := rfl

theorem finishLines_closing (lines : List String) :
    finishLines (lines ++ ["\x7d"]) = String.join (lines.map (· ++ "\n")) ++ "\x7d" := by
  rw [finishLines, ← String.toList_inj, String.toList_ofList]
  simp [String.toList_join]

def sourceLines (imports : List String) (body : String) : List String :=
  imports ++ (if imports.isEmpty then [] else [""]) ++
    ["export default function App() \x7b", indented 1 "return ("] ++ blockLines 2 body ++
    [indented 1 ");", "\x7d"]

theorem text_eq (app : AppSource) :
    app.text = String.join ((sourceLines app.imports app.body).map (· ++ "\n")) := by
  have closing : [indented 1 ");", "\x7d"] = [indented 1 ");"] ++ ["\x7d"] := rfl
  rw [text, sourceLines, closing, ← List.append_assoc, finishLines_closing]
  generalize app.imports ++ _ ++ _ ++ blockLines 2 app.body ++ [indented 1 ");"] = lines
  rw [List.map_append, String.join_append, String.append_assoc]
  rfl

end AppSource

theorem Project.get?_generate (o : ProjectOptions) (g : Graph) :
    (Project.generate o g).get? "src/App.tsx" =
      some (AppSource.ofOutput (walk g .project).output o.submission).text := by
  rw [generate]
  generalize AppSource.ofOutput (walk g .project).output o.submission = app
  simp [assemble, get?, scaffold]

open AppSource (importLines mentions componentMark ofOutput runtimeComponents sourceLines)

/-- The app of every graph imports what the nodes use that survive, and nothing else: the bridge
when one of them calls it, and each component of the runtime of which there is one. -/
theorem imports_exact (o : ProjectOptions) (g : Graph) : ∃ bridge components,
    (Project.generate o g).get? "src/App.tsx" = some (String.join
      ((sourceLines (importLines bridge components)
        (ofOutput (walk g .project).output o.submission).body).map (· ++ "\n"))) ∧
    (bridge = true ↔ g.Uses fun component => component.callsBridge = true) ∧
    components.Sublist runtimeComponents ∧
    ∀ kind ∈ runtimeKinds,
      kind.name ∈ components ↔ g.Uses fun component => component.kind = kind := by
  have bridge : mentions (walk g .project).output AppSource.bridgeMark = true ↔
      g.Uses fun component => component.callsBridge = true :=
    (AppSource.mentions_iff ..).trans (Graph.foundIn_output marks_bridge)
  have component {kind : Kind} (runtime : kind ∈ runtimeKinds) :
      mentions (walk g .project).output (componentMark kind.name) = true ↔
        g.Uses fun component => component.kind = kind :=
    (AppSource.mentions_iff ..).trans (Graph.foundIn_output (marks_component runtime))
  refine ⟨mentions (walk g .project).output AppSource.bridgeMark, runtimeComponents.filter fun name =>
    mentions (walk g .project).output (componentMark name), ?_, bridge, List.filter_sublist, ?_⟩
  · rw [Project.get?_generate, AppSource.text_eq, ← AppSource.importsFor_eq]
    rfl
  · intro kind runtime
    have known : kind.name ∈ runtimeComponents := List.mem_map_of_mem runtime
    rw [List.mem_filter, component runtime, and_iff_right known]

end MiniApp
