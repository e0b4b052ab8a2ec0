import MiniApp.Proofs.Walk.Report
import Mathlib.Data.List.Lex
import Mathlib.Tactic.Common

set_option autoImplicit false

namespace MiniApp

open Unfolding

variable (backend : Backend)

/-- A place comes before another in preorder. -/
def PlaceBefore (p q : List Nat) : Prop := List.Lex (· < ·) p q

theorem placeBefore_below (p : List Nat) (i : Nat) (q : List Nat) : PlaceBefore p (p ++ i :: q) := by
  have below : List.Lex (· < ·) (p ++ []) (p ++ i :: q) := .append_left _ .nil p
  rwa [List.append_nil] at below

theorem placeBefore_beside (p : List Nat) {i j : Nat} (h : i < j) (q r : List Nat) :
    PlaceBefore (p ++ i :: q) (p ++ j :: r) :=
  List.Lex.append_left (· < ·) (.rel h) p

def LiesBelow (place : List Nat) (first : Nat) (q : List Nat) : Prop :=
  ∃ i rest, first ≤ i ∧ q = place ++ i :: rest

theorem LiesBelow.later {place q : List Nat} {first : Nat} (h : LiesBelow place (first + 1) q) :
    LiesBelow place first q := by
  obtain ⟨i, rest, hi, rfl⟩ := h
  exact ⟨i, rest, Nat.le_of_succ_le hi, rfl⟩

theorem placeBefore_of_liesBelow {place q r : List Nat} {first : Nat}
    (hq : q = place ++ [first] ∨ ∃ i, LiesBelow (place ++ [first]) i q)
    (hr : LiesBelow place (first + 1) r) : PlaceBefore q r := by
  obtain ⟨j, rest, hj, rfl⟩ := hr
  rcases hq with rfl | ⟨i, i', tail, -, rfl⟩
  · exact placeBefore_beside place hj [] rest
  · rw [List.append_assoc]
    exact placeBefore_beside place hj (i' :: tail) rest

mutual

theorem place_of_mem_visits (v : Visit) : (u : Unfolding) → (number : Nat) → (place : List Nat) →
    (above : List Node) → v ∈ u.visits backend number place above →
    v.place = place ∨ ∃ i, LiesBelow place i v.place
  | .node n links, number, place, above, hv => by
    rw [visits, List.mem_cons] at hv
    rcases hv with rfl | hv
    · exact .inl rfl
    · exact .inr ⟨0, place_of_mem_visitsFrom v links (number + 1) place (n :: above) 0 hv⟩
  | .cycle _, _, _, _, hv | .tooDeep _, _, _, _, hv | .dangling _, _, _, _, hv
  | .hidden _, _, _, _, hv => by simp [visits] at hv

theorem place_of_mem_visitsFrom (v : Visit) : (links : List (Option String × Unfolding)) →
    (number : Nat) → (place : List Nat) → (above : List Node) → (first : Nat) →
    v ∈ visitsFrom backend number place above first links → LiesBelow place first v.place
  | [], _, _, _, _, hv => by simp [visitsFrom] at hv
  | (_, u) :: links, number, place, above, first, hv => by
    rw [visitsFrom, List.mem_append] at hv
    rcases hv with hv | hv
    · rcases place_of_mem_visits v u number (place ++ [first]) above hv with h | ⟨_, i, rest, -, h⟩
      · exact ⟨first, [], Nat.le_refl _, h⟩
      · exact ⟨first, i :: rest, Nat.le_refl _, by simpa using h⟩
    · exact (place_of_mem_visitsFrom v links _ place above (first + 1) hv).later

end

mutual

theorem pairwise_visits : (u : Unfolding) → (number : Nat) → (place : List Nat) →
    (above : List Node) →
    (u.visits backend number place above).Pairwise fun v w => PlaceBefore v.place w.place
  | .node n links, number, place, above => by
    rw [visits, List.pairwise_cons]
    refine ⟨fun v hv => ?_, pairwise_visitsFrom links (number + 1) place (n :: above) 0⟩
    obtain ⟨i, rest, -, h⟩ := place_of_mem_visitsFrom backend v links _ _ _ _ hv
    rw [h]
    exact placeBefore_below place i rest
  | .cycle _, _, _, _ | .tooDeep _, _, _, _ | .dangling _, _, _, _ | .hidden _, _, _, _ => by
    simp [visits]

theorem pairwise_visitsFrom : (links : List (Option String × Unfolding)) → (number : Nat) →
    (place : List Nat) → (above : List Node) → (first : Nat) →
    (visitsFrom backend number place above first links).Pairwise
      fun v w => PlaceBefore v.place w.place
  | [], _, _, _, _ => by simp [visitsFrom]
  | (_, u) :: links, number, place, above, first => by
    rw [visitsFrom, List.pairwise_append]
    refine ⟨pairwise_visits u _ _ _, pairwise_visitsFrom links _ _ _ _, fun v hv w hw => ?_⟩
    exact placeBefore_of_liesBelow (place_of_mem_visits backend v u _ _ _ hv)
      (place_of_mem_visitsFrom backend w links _ _ _ _ hw)

end

mutual

theorem place_of_mem_linkVisits (v : LinkVisit) : (u : Unfolding) → (place : List Nat) →
    v ∈ u.linkVisits place → LiesBelow place 0 v.place
  | .node _ links, place, hv => place_of_mem_linkVisitsFrom v links place 0 hv
  | .cycle _, _, hv | .tooDeep _, _, hv | .dangling _, _, hv | .hidden _, _, hv => by
    simp [linkVisits] at hv

theorem place_of_mem_linkVisitsFrom (v : LinkVisit) :
    (links : List (Option String × Unfolding)) → (place : List Nat) → (first : Nat) →
    v ∈ linkVisitsFrom place first links → LiesBelow place first v.place
  | [], _, _, hv => by simp [linkVisitsFrom] at hv
  | (_, u) :: links, place, first, hv => by
    rw [linkVisitsFrom, List.mem_cons, List.mem_append] at hv
    rcases hv with rfl | hv | hv
    · exact ⟨first, [], Nat.le_refl _, rfl⟩
    · obtain ⟨i, rest, -, h⟩ := place_of_mem_linkVisits v u (place ++ [first]) hv
      exact ⟨first, i :: rest, Nat.le_refl _, by simpa using h⟩
    · exact (place_of_mem_linkVisitsFrom v links place (first + 1) hv).later

end

mutual

theorem pairwise_linkVisits : (u : Unfolding) → (place : List Nat) →
    (u.linkVisits place).Pairwise fun v w => PlaceBefore v.place w.place
  | .node _ links, place => pairwise_linkVisitsFrom links place 0
  | .cycle _, _ | .tooDeep _, _ | .dangling _, _ | .hidden _, _ => by simp [linkVisits]

theorem pairwise_linkVisitsFrom : (links : List (Option String × Unfolding)) →
    (place : List Nat) → (first : Nat) →
    (linkVisitsFrom place first links).Pairwise fun v w => PlaceBefore v.place w.place
  | [], _, _ => by simp [linkVisitsFrom]
  | (_, u) :: links, place, first => by
    rw [linkVisitsFrom, List.pairwise_cons, List.pairwise_append]
    refine ⟨fun w hw => ?_, pairwise_linkVisits u _, pairwise_linkVisitsFrom links _ _,
      fun v hv w hw => ?_⟩
    · rcases List.mem_append.1 hw with hw | hw
      · obtain ⟨i, rest, -, h⟩ := place_of_mem_linkVisits w u _ hw
        rw [h]
        exact placeBefore_below _ i rest
      · exact placeBefore_of_liesBelow (.inl rfl) (place_of_mem_linkVisitsFrom w links _ _ hw)
    · exact placeBefore_of_liesBelow (.inr ⟨0, place_of_mem_linkVisits v u _ hv⟩)
        (place_of_mem_linkVisitsFrom w links _ _ hw)

end

mutual

/-- Handles count the visits. -/
theorem handles_visits : (u : Unfolding) → (number : Nat) → (place : List Nat) →
    (above : List Node) → (u.visits backend number place above).map Visit.handle =
      (List.range' number u.size).map handleAt
  | .node n links, number, place, above => by
    rw [visits, List.map_cons, handles_visitsFrom links, size, Nat.add_comm 1, List.range'_succ,
      List.map_cons]
  | .cycle _, _, _, _ | .tooDeep _, _, _, _ | .dangling _, _, _, _ | .hidden _, _, _, _ => rfl

theorem handles_visitsFrom : (links : List (Option String × Unfolding)) → (number : Nat) →
    (place : List Nat) → (above : List Node) → (first : Nat) →
    (visitsFrom backend number place above first links).map Visit.handle =
      (List.range' number (sizeOfLinks links)).map handleAt
  | [], _, _, _, _ => rfl
  | (_, u) :: links, number, place, above, first => by
    rw [visitsFrom, List.map_append, handles_visits u, handles_visitsFrom links, sizeOfLinks,
      ← List.map_append, List.range'_append_1]

end

theorem length_visits (u : Unfolding) (number : Nat) (place : List Nat) (above : List Node) :
    (u.visits backend number place above).length = u.size := by
  simpa using congrArg List.length (handles_visits backend u number place above)

def Visit.finish (v : Visit) : Nat × Node × Verdict := (v.place.length, v.node, v.verdict)

mutual

theorem finishedIn_events : (u : Unfolding) → (number : Nat) → (place : List Nat) →
    (above : List Node) → (Event.finishedIn (u.events backend number place.length)).Perm
      ((u.visits backend number place above).map Visit.finish)
  | .node n links, number, place, above => by
    have below := finishedIn_eventsOfLinks links (number + 1) place (n :: above) 0
    rw [events, visits, Event.finishedIn, List.filterMap_append, List.map_cons]
    generalize verdict backend number n links = v
    generalize fragment backend number (.node n links) = f
    exact List.perm_append_comm.trans (below.cons _)
  | .cycle _, _, _, _ | .tooDeep _, _, _, _ | .dangling _, _, _, _ | .hidden _, _, _, _ => .refl _

theorem finishedIn_eventsOfLinks : (links : List (Option String × Unfolding)) → (number : Nat) →
    (place : List Nat) → (above : List Node) → (first : Nat) →
    (Event.finishedIn (eventsOfLinks backend number (place.length + 1) links)).Perm
      ((visitsFrom backend number place above first links).map Visit.finish)
  | [], _, _, _, _ => .refl _
  | (_, u) :: links, number, place, above, first => by
    have here := finishedIn_events u number (place ++ [first]) above
    rw [List.length_append, List.length_singleton] at here
    rw [eventsOfLinks, visitsFrom, Event.finishedIn, List.filterMap_append, List.map_append]
    exact here.append (finishedIn_eventsOfLinks links _ place above _)

end

def idsWithFate (fate : LinkFate) (vs : List LinkVisit) : List String :=
  (vs.filter fun v => v.fate = fate).map LinkVisit.id

mutual

theorem skipped_events (fate : LinkFate) (hf : fate ≠ .followed) : (u : Unfolding) →
    (number depth : Nat) → (place : List Nat) →
    (u.events backend number depth).filterMap (Event.skippedAs? fate) =
      (if u.fate = fate then [u.target] else []) ++ idsWithFate fate (u.linkVisits place)
  | .node n links, number, depth, place => by
    rw [events, linkVisits, List.filterMap_append,
      skipped_eventsOfLinks fate hf links (number + 1) (depth + 1) place 0]
    simp [Unfolding.fate, Event.skippedAs?, hf.symm]
  | .cycle _, _, _, _ | .tooDeep _, _, _, _ | .dangling _, _, _, _ | .hidden _, _, _, _ => by
    cases fate <;> simp [events, Event.skippedAs?, Unfolding.fate, target, linkVisits, idsWithFate]

theorem skipped_eventsOfLinks (fate : LinkFate) (hf : fate ≠ .followed) :
    (links : List (Option String × Unfolding)) → (number depth : Nat) → (place : List Nat) →
    (first : Nat) →
    (eventsOfLinks backend number depth links).filterMap (Event.skippedAs? fate) =
      idsWithFate fate (linkVisitsFrom place first links)
  | [], _, _, _, _ => rfl
  | (_, u) :: links, number, depth, place, first => by
    rw [eventsOfLinks, linkVisitsFrom, List.filterMap_append,
      skipped_events fate hf u number depth (place ++ [first]),
      skipped_eventsOfLinks fate hf links _ depth place (first + 1)]
    by_cases h : u.fate = fate <;> simp [idsWithFate, h]

end

end MiniApp
