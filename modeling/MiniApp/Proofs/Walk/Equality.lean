import MiniApp.Proofs.Graph.Entries
import MiniApp.Proofs.Walk.Congruence

set_option autoImplicit false

namespace MiniApp

namespace Node

theorem links_congr {a b : Node} (typeTag : a.typeTag = b.typeTag)
    (children : a.children = b.children) (slots : ∀ name, a.slots.get? name = b.slots.get? name) :
    a.links = b.links := by
  rw [links, links, slotOrder_congr typeTag, childLinks_congr _ children (Table.perm_entries slots)]

theorem alike_of_agrees {a b : Node} (h : a.agrees b = true) : a.Alike b := by
  simp only [agrees, Bool.and_eq_true, beq_iff_eq] at h
  obtain ⟨⟨⟨⟨⟨⟨id, typeTag⟩, props⟩, children⟩, slots⟩, hidden⟩, -⟩ := h
  have slots (name : String) : a.slots.get? name = b.slots.get? name := by
    have here := (Table.agrees_iff _ _ _).1 slots name
    generalize a.slots.get? name = x at here ⊢
    generalize b.slots.get? name = y at here ⊢
    cases here with
    | none => rfl
    | some h => rw [eq_of_beq h]
  exact {
    id := id
    typeTag := typeTag
    hidden := hidden
    links := links_congr typeTag children slots
    props := fun e _ => Props.alike_of_fieldsAgree props e.defaults }

theorem Alike.refl (n : Node) : n.Alike n where
  id := rfl
  typeTag := rfl
  hidden := rfl
  links := rfl
  props _ _ := Props.alike_of_values fun _ => List.forall₂_same.2 fun v _ => .refl v

end Node

namespace Graph

variable {g g' : Graph}

theorem related_of_agrees (h : g.agrees g' = true) : g.Related Node.Alike g' := by
  rw [agrees, Bool.and_eq_true] at h
  intro id
  rw [get?, get?]
  split
  · exact .some (Node.alike_of_agrees h.1)
  · have here := (Table.agrees_iff _ _ _).1 h.2 id
    generalize g.nodes.get? id = x at here ⊢
    generalize g'.nodes.get? id = y at here ⊢
    cases here with
    | none => exact .none
    | some h => exact .some (Node.alike_of_agrees h)

theorem related_of_get? (h : ∀ id, g.get? id = g'.get? id) : g.Related Node.Alike g' := by
  intro id
  rw [← h id]
  cases g.get? id with
  | none => exact .none
  | some n => exact .some (.refl n)

end Graph

/-- Walks over equal graphs are the same. So the order in which nodes are put in or read does not
show, as long as the same nodes stand under the same ids in the end. -/
theorem walk_respects_equality (backend : Backend) :
    (∀ g g' : Graph, g.agrees g' = true → walk g backend = walk g' backend) ∧
    (∀ g g' : Graph, (∀ id, g.get? id = g'.get? id) → walk g backend = walk g' backend) ∧
    (∀ (g : Graph) (ns ms : List Node), ns.Perm ms → (ns.map Node.id).Nodup →
      walk (g.insertAll ns) backend = walk (g.insertAll ms) backend) ∧
    ∀ fs gs : Fields, fs.Perm gs → (fs.map Prod.fst).Nodup →
      Except.Related (fun g g' => walk g backend = walk g' backend)
        (Graph.ofJson (.object fs)) (Graph.ofJson (.object gs)) := by
  have pointwise (g g' : Graph) (h : ∀ id, g.get? id = g'.get? id) :
      walk g backend = walk g' backend := walk_alike (Graph.related_of_get? h) backend
  refine ⟨?_, pointwise, ?_, ?_⟩
  · intro g g' h
    exact walk_alike (Graph.related_of_agrees h) backend
  · intro g ns ms h apart
    exact pointwise _ _ (Graph.get?_insertAll_perm h apart g)
  · intro fs gs h apart
    exact (Graph.ofEntries_perm h apart).imp pointwise

/-- A layout with two slots, held and put in in one order and in the other, and a root record before
and after that of its child. -/
theorem walk_respects_equality_layout :
    let text : Node := Node.bare "text" "Text"
    let layout (slots : List (String × String)) : Node :=
      { Node.bare "layout" "Layout" with slots := .ofList slots }
    let a := layout [("header", "text"), ("footer", "gone")]
    let b := layout [("footer", "gone"), ("header", "text")]
    let g := Graph.new.insertAll [a, text]
    let g' := Graph.new.insertAll [text, b]
    let root : String × Json := (rootId, .object [("children", .array [.string "text"])])
    let child : String × Json := ("text", .object [("type", .string "Text")])
    (g.agrees g' = true ∧ g ≠ g' ∧ walk g .document = walk g' .document) ∧
      ((∀ id, g.get? id = (Graph.new.insertAll [text, a]).get? id) ∧
        walk g .document = walk (Graph.new.insertAll [text, a]) .document) ∧
      ([a, text].Perm [text, a] ∧
        walk (Graph.new.insertAll [a, text]) .project =
          walk (Graph.new.insertAll [text, a]) .project) ∧
      Except.Related (fun g g' => walk g .project = walk g' .project)
        (Graph.ofJson (.object [root, child])) (Graph.ofJson (.object [child, root])) := by
  intro text layout a b g g' root child
  have agree : g.agrees g' = true := by decide
  have apart : g ≠ g' := by decide
  have swapped : [a, text].Perm [text, a] := .swap ..
  have ids : ([a, text].map Node.id).Nodup := by decide
  have names : ([root, child].map Prod.fst).Nodup := by decide
  have same (id : String) : g.get? id = (Graph.new.insertAll [text, a]).get? id :=
    Graph.get?_insertAll_perm swapped ids Graph.new id
  obtain ⟨equal, pointwise, -, -⟩ := walk_respects_equality .document
  obtain ⟨-, -, inserted, read⟩ := walk_respects_equality .project
  exact ⟨⟨agree, apart, equal g g' agree⟩, ⟨same, pointwise g _ same⟩,
    ⟨swapped, inserted _ _ _ swapped ids⟩, read _ _ (.swap ..) names⟩

end MiniApp
