import MiniApp.Walk.Unfolding
import Mathlib.Tactic.Common

set_option autoImplicit false

namespace MiniApp

theorem mem_putText (a t : String) (ts : List String) : t ∈ putText a ts ↔ t = a ∨ t ∈ ts := by
  induction ts with
  | nil => simp [putText]
  | cons b ts ih =>
    rw [putText]
    split_ifs with hlt heq
    · simp
    · subst heq
      simp
    · simp only [List.mem_cons, ih]
      tauto

theorem mem_putKind (a k : Kind) (ks : List Kind) : k ∈ putKind a ks ↔ k = a ∨ k ∈ ks := by
  simp [putKind, Kind.mem_all]

namespace Event

def skippedAs? (fate : LinkFate) : Event → Option String
  | .skipped f id => if f = fate then some id else none
  | .finished .. => none

def finished? : Event → Option (Nat × Node × Verdict)
  | .finished depth n verdict => some (depth, n, verdict)
  | .skipped .. => none

/-- The nodes that were finished, with their levels and what became of them. -/
def finishedIn (events : List Event) : List (Nat × Node × Verdict) := events.filterMap finished?

end Event

def degradedId? (f : Nat × Node × Verdict) : Option String :=
  if f.2.2 = .degraded then some f.2.1.id else none

namespace Report

open Event

variable (r : Report) (n : Node) (v : Verdict)

theorem rendered_addVerdict : (r.addVerdict n v).rendered = r.rendered := by cases v <;> rfl

theorem deepest_addVerdict : (r.addVerdict n v).deepest = r.deepest := by cases v <;> rfl

theorem cycles_addVerdict : (r.addVerdict n v).cycles = r.cycles := by cases v <;> rfl

theorem tooDeep_addVerdict : (r.addVerdict n v).tooDeep = r.tooDeep := by cases v <;> rfl

theorem dangling_addVerdict : (r.addVerdict n v).dangling = r.dangling := by cases v <;> rfl

theorem degraded_addVerdict :
    (r.addVerdict n v).degraded = r.degraded ++ if v = .degraded then [n.id] else [] := by
  cases v <;> simp [addVerdict, addKind, addDegraded, addUnknownTag]

theorem unknownTags_addVerdict : (r.addVerdict n v).unknownTags =
    (if v = .unknownTag then some n.typeTag else none).elim r.unknownTags (putText · r.unknownTags) := by
  cases v <;> rfl

theorem mem_unknownTags_addVerdict (tag : String) : tag ∈ (r.addVerdict n v).unknownTags ↔
    tag ∈ r.unknownTags ∨ v = .unknownTag ∧ n.typeTag = tag := by
  cases v with
  | emitted kind => simp [addVerdict, addKind]
  | degraded => simp [addVerdict, addDegraded]
  | unknownTag => simp [addVerdict, addUnknownTag, mem_putText, or_comm, eq_comm]

theorem mem_kinds_addVerdict (kind : Kind) : kind ∈ (r.addVerdict n v).kinds ↔
    kind ∈ r.kinds ∨ v = .emitted kind := by
  cases v with
  | emitted k => simp [addVerdict, addKind, mem_putKind, or_comm, eq_comm]
  | degraded => simp [addVerdict, addDegraded]
  | unknownTag => simp [addVerdict, addUnknownTag]

theorem foldl_record_append {α : Type} (field : Report → List α) (pick : Event → Option α)
    (step : ∀ r e, field (record r e) = field r ++ (pick e).toList) (es : List Event) :
    field (es.foldl record r) = field r ++ es.filterMap pick := by
  induction es generalizing r with
  | nil => simp
  | cons e es ih =>
    rw [List.foldl_cons, ih, step, List.append_assoc]
    cases h : pick e <;> simp [h]

theorem cycles_ofEvents (es : List Event) :
    (ofEvents es).cycles = es.filterMap (skippedAs? .cycle) := by
  refine foldl_record_append .empty Report.cycles _ (fun r e => ?_) es
  cases e with
  | skipped fate id =>
    cases fate <;> simp [record, addSkipped, addCycle, addTooDeep, addDangling, skippedAs?]
  | finished depth n v => simp [record, cycles_addVerdict, addNode, skippedAs?]

theorem tooDeep_ofEvents (es : List Event) :
    (ofEvents es).tooDeep = es.filterMap (skippedAs? .tooDeep) := by
  refine foldl_record_append .empty Report.tooDeep _ (fun r e => ?_) es
  cases e with
  | skipped fate id =>
    cases fate <;> simp [record, addSkipped, addCycle, addTooDeep, addDangling, skippedAs?]
  | finished depth n v => simp [record, tooDeep_addVerdict, addNode, skippedAs?]

theorem dangling_ofEvents (es : List Event) :
    (ofEvents es).dangling = es.filterMap (skippedAs? .dangling) := by
  refine foldl_record_append .empty Report.dangling _ (fun r e => ?_) es
  cases e with
  | skipped fate id =>
    cases fate <;> simp [record, addSkipped, addCycle, addTooDeep, addDangling, skippedAs?]
  | finished depth n v => simp [record, dangling_addVerdict, addNode, skippedAs?]

theorem degraded_ofEvents (es : List Event) :
    (ofEvents es).degraded = (finishedIn es).filterMap degradedId? := by
  rw [finishedIn, List.filterMap_filterMap]
  refine foldl_record_append .empty Report.degraded _ (fun r e => ?_) es
  cases e with
  | skipped fate id =>
    cases fate <;> simp [record, addSkipped, addCycle, addTooDeep, addDangling, finished?]
  | finished depth n v =>
    by_cases hv : v = .degraded <;>
      simp [record, degraded_addVerdict, addNode, finished?, degradedId?, hv]

theorem rendered_foldl (es : List Event) :
    (es.foldl record r).rendered = r.rendered + (finishedIn es).length := by
  induction es generalizing r with
  | nil => rfl
  | cons e es ih =>
    rw [List.foldl_cons, ih]
    cases e with
    | skipped fate id => cases fate <;> rfl
    | finished depth n v =>
      simp only [record, rendered_addVerdict, addNode, finishedIn, List.filterMap_cons, finished?,
        List.length_cons]
      omega

theorem deepest_foldl (es : List Event) :
    (es.foldl record r).deepest = max r.deepest (((finishedIn es).map Prod.fst).foldr max 0) := by
  induction es generalizing r with
  | nil => exact (Nat.max_zero _).symm
  | cons e es ih =>
    rw [List.foldl_cons, ih]
    cases e with
    | skipped fate id => cases fate <;> rfl
    | finished depth n v =>
      simp only [record, deepest_addVerdict, addNode, finishedIn, List.filterMap_cons, finished?,
        List.map_cons, List.foldr_cons, Nat.max_assoc]

theorem mem_unknownTags_foldl (tag : String) (es : List Event) :
    tag ∈ (es.foldl record r).unknownTags ↔ tag ∈ r.unknownTags ∨
      ∃ f ∈ finishedIn es, f.2.2 = .unknownTag ∧ f.2.1.typeTag = tag := by
  induction es generalizing r with
  | nil => simp [finishedIn]
  | cons e es ih =>
    rw [List.foldl_cons, ih]
    cases e with
    | skipped fate id => cases fate <;> rfl
    | finished depth n v =>
      simp [record, mem_unknownTags_addVerdict, addNode, finishedIn, finished?, or_assoc]

theorem mem_kinds_foldl (kind : Kind) (es : List Event) :
    kind ∈ (es.foldl record r).kinds ↔ kind ∈ r.kinds ∨
      ∃ f ∈ finishedIn es, f.2.2 = .emitted kind := by
  induction es generalizing r with
  | nil => simp [finishedIn]
  | cons e es ih =>
    rw [List.foldl_cons, ih]
    cases e with
    | skipped fate id => cases fate <;> rfl
    | finished depth n v =>
      simp [record, mem_kinds_addVerdict, addNode, finishedIn, finished?, or_assoc]

end Report

end MiniApp
