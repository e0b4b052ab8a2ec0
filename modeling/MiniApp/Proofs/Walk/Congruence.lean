import MiniApp.Proofs.Component.Alike
import MiniApp.Proofs.Walk.Related

set_option autoImplicit false

namespace MiniApp

theorem Entry.emit_alike (e : Entry) {fs gs : Fields}
    (h : Props.Alike ⟨fs, e.defaults⟩ ⟨gs, e.defaults⟩) (backend : Backend) (c : Children)
    (handle : String) : e.emit backend fs c handle = e.emit backend gs c handle := by
  have written := (Component.resolve_alike h e.kind).map fun _ _ same => same backend c handle
  rw [e.emit_eq_resolve, e.emit_eq_resolve]
  exact written.eq

namespace Node

/-- Nodes that a walk cannot tell apart. -/
structure Alike (a b : Node) : Prop extends a.Parallel b where
  props : ∀ e, a.entry? = some e → Props.Alike ⟨a.props, e.defaults⟩ ⟨b.props, e.defaults⟩

variable {a b : Node} (h : a.Alike b) (backend : Backend) (c : Children) (handle : String)
include h

theorem Alike.emit_eq : a.emit backend c handle = b.emit backend c handle := by
  have reads := h.props
  rw [emit, emit, ← entry?_congr h.typeTag]
  generalize a.entry? = entry at reads ⊢
  cases entry with
  | none => rfl
  | some e => rw [emitAs, emitAs, e.emit_alike (reads e rfl)]

theorem Alike.verdict_eq : a.verdict = b.verdict := by
  have reads := h.props
  rw [verdict, verdict, judge, judge, ← entry?_congr h.typeTag]
  generalize a.entry? = entry at reads ⊢
  cases entry with
  | none => rfl
  | some e => rw [MiniApp.judge, MiniApp.judge, e.emit_alike (reads e rfl)]

end Node

namespace Report

variable {es es' : List Event}

theorem record_alike (r : Report) {e e' : Event} (h : e.Related Node.Alike e') :
    r.record e = r.record e' := by
  cases h with
  | skipped => rfl
  | @finished depth a b here =>
    rw [record, record, here.verdict_eq]
    cases b.verdict with
    | emitted => rfl
    | degraded => rw [addVerdict, addVerdict, here.id]
    | unknownTag => rw [addVerdict, addVerdict, here.typeTag]

theorem ofEvents_alike (h : List.Forall₂ (Event.Related Node.Alike) es es') :
    ofEvents es = ofEvents es' := by
  have run (r : Report) : es.foldl record r = es'.foldl record r := by
    induction h generalizing r with
    | nil => rfl
    | cons here _ ih => rw [List.foldl_cons, List.foldl_cons, r.record_alike here, ih]
  exact run .empty

end Report

theorem walk_alike {g g' : Graph} (h : g.Related Node.Alike g') (backend : Backend) :
    walk g backend = walk g' backend := by
  have tree := Graph.related_unfold (fun _ _ same => same.toParallel) h
  have report := Report.ofEvents_alike (tree.events backend 1 0)
  have output := tree.fragment_eq backend (fun _ _ same => same.emit_eq backend) 1
  rw [walk_eq, walk_eq, output, report]

end MiniApp
