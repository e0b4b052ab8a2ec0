import MiniApp.Proofs.Walk.Places
import MiniApp.Proofs.Walk.Preorder
import MiniApp.Proofs.Walk.Trace

set_option autoImplicit false

namespace MiniApp

open Unfolding

/-- A path of links from the root, by their numbers, leads to a node; `above` holds the nodes on the
way, the innermost first. -/
inductive Graph.Occurs (g : Graph) : List Nat → Node → List Node → Prop
  | root (visible : g.root.hidden = false) : Occurs g [] g.root []
  | link {place : List Nat} {n m : Node} {above : List Node} {index : Nat} {l : Link}
      (parent : Occurs g place n above) (here : n.links[index]? = some l)
      (fresh : l.id ∉ (n :: above).map Node.id) (shallow : place.length < maxDepth)
      (found : g.get? l.id = some m) (visible : m.hidden = false) :
      Occurs g (place ++ [index]) m (n :: above)

/-- What becomes of a link below the nodes of `way` when it is the given one on its path. -/
def Graph.linkFate (g : Graph) (way : List Node) (number : Nat) (id : String) : LinkFate :=
  if id ∈ way.map Node.id then .cycle
  else if maxDepth < number then .tooDeep
  else
    match g.get? id with
    | none => .dangling
    | some n => if n.hidden then .hidden else .followed

/-- The fragment of the visit to a place; places that are not visited show nothing. -/
def fragmentAt (vs : List Visit) (place : List Nat) : String :=
  ((vs.find? fun v => v.place = place).map Visit.fragment).getD ""

def Visit.children (vs : List Visit) (v : Visit) : Children :=
  .ofList (v.node.links.mapIdx fun i l => (l.slotName, fragmentAt vs (v.place ++ [i])))

/-- A walk over the occurrences of a graph, told by the visits to nodes and to links. -/
structure Graph.WalkedBy (g : Graph) (backend : Backend) (w : Walk) (vs : List Visit)
    (ls : List LinkVisit) : Prop where
  /-- The nodes visited are the occurrences, each at its path. -/
  occurrences : ∀ place n above,
    (∃ v ∈ vs, v.place = place ∧ v.node = n ∧ v.above = above) ↔ g.Occurs place n above
  preorder : vs.Pairwise fun v v' => PlaceBefore v.place v'.place
  handles : vs.map Visit.handle = (List.range' 1 w.report.rendered).map handleAt
  verdicts : ∀ v ∈ vs, v.verdict = v.node.judge backend (v.children vs) v.handle
  fragments : ∀ v ∈ vs, v.fragment = v.node.emit backend (v.children vs) v.handle
  output : w.output = fragmentAt vs []
  rendered : w.report.rendered = vs.length
  hidden_root : g.root.hidden = true → w.report.rendered = 0
  deepest : w.report.deepest = (vs.map fun v => v.place.length).foldr max 0
  degraded : w.report.degraded.Perm
    ((vs.filter fun v => v.verdict = .degraded).map fun v => v.node.id)
  unknownTags : ∀ tag, tag ∈ w.report.unknownTags ↔
    ∃ v ∈ vs, v.verdict = .unknownTag ∧ v.node.typeTag = tag
  kinds : ∀ kind, kind ∈ w.report.kinds ↔ ∃ v ∈ vs, v.verdict = .emitted kind
  /-- The links visited are those that leave an occurrence, each with its fate. -/
  links : ∀ l, l ∈ ls ↔ ∃ place n above index link, g.Occurs place n above ∧
    n.links[index]? = some link ∧
      l = ⟨place ++ [index], link.id, g.linkFate (n :: above) (place.length + 1) link.id⟩
  linkOrder : ls.Pairwise fun l l' => PlaceBefore l.place l'.place
  followed : ∀ l ∈ ls, l.fate = .followed ↔ ∃ v ∈ vs, v.place = l.place
  cycles : w.report.cycles = idsWithFate .cycle ls
  tooDeep : w.report.tooDeep = idsWithFate .tooDeep ls
  dangling : w.report.dangling = idsWithFate .dangling ls

variable {g : Graph}

theorem Graph.fate_unfoldLink (g : Graph) (budget : Nat) (path : List String) (id : String) :
    (g.unfoldLink budget path id).fate =
      if id ∈ path then .cycle
      else if budget = 0 then .tooDeep
      else
        match g.get? id with
        | none => .dangling
        | some n => if n.hidden then .hidden else .followed := by
  by_cases hc : id ∈ path
  · rw [g.unfoldLink_of_mem budget hc, if_pos hc, Unfolding.fate]
  · cases budget with
    | zero => rw [g.unfoldLink_zero hc, if_neg hc, if_pos rfl, Unfolding.fate]
    | succ budget =>
      rw [g.unfoldLink_succ budget hc, if_neg hc, if_neg (Nat.succ_ne_zero _)]
      cases hg : g.get? id with
      | none => rfl
      | some n => cases hn : n.hidden <;> simp [hn, Unfolding.fate]

/-- The levels left below a place are none just when the next link is one too many. -/
theorem Graph.fate_below (g : Graph) {place : List Nat} (way : List Node) (id : String) :
    (g.unfoldLink (maxDepth - place.length) (way.map Node.id) id).fate =
      g.linkFate way (place.length + 1) id := by
  have deep : maxDepth - place.length = 0 ↔ maxDepth < place.length + 1 := by omega
  simp only [g.fate_unfoldLink, Graph.linkFate, deep]

/-- Occurrences are the nodes of the unfolded graph. -/
theorem occurs_iff_at {place : List Nat} {n : Node} {above : List Node} :
    g.Occurs place n above ↔ ∃ number links, g.At number place above (.node n links) := by
  constructor
  · intro h
    induction h with
    | root visible =>
      have top := Graph.At.root (g := g)
      rw [g.unfold_eq, visible, if_neg (by simp)] at top
      exact ⟨_, _, top⟩
    | @link place n m above index l _ here fresh shallow found visible ih =>
      obtain ⟨number, links, parent⟩ := ih
      obtain ⟨-, -, rfl⟩ := parent.links_eq
      have tree := Graph.unfoldLink_eq_node_iff.2
        ⟨fresh, Nat.sub_pos_of_lt shallow, found, visible, rfl⟩
      exact ⟨_, _, parent.link (by rw [List.getElem?_map, here, Option.map_some, tree])⟩
  · rintro ⟨number, links, h⟩
    generalize hu : Unfolding.node n links = u at h
    induction h generalizing n links with
    | root =>
      rw [g.unfold_eq] at hu
      split at hu
      · cases hu
      · next hv =>
        cases hu
        exact .root (by simpa using hv)
    | @link number index place above n' links' slot u parent here ih =>
      obtain ⟨-, -, rfl⟩ := parent.links_eq
      rw [List.getElem?_map] at here
      obtain ⟨l, hl, htree⟩ := Option.map_eq_some_iff.1 here
      cases htree
      obtain ⟨fresh, hpos, found, visible, -⟩ := Graph.unfoldLink_eq_node_iff.1 hu.symm
      exact .link (ih _ rfl) hl fresh (Nat.lt_of_sub_pos hpos) found visible

variable {backend : Backend}

theorem fragmentAt_visits {number : Nat} {place : List Nat} {above : List Node} {u : Unfolding}
    (h : g.At number place above u) :
    fragmentAt (g.visits backend) place = u.fragment backend number := by
  rw [fragmentAt]
  cases hv : (g.visits backend).find? fun v => v.place = place with
  | some v =>
    have hp : v.place = place := by simpa using List.find?_some hv
    obtain ⟨number', place', above', n, links, h', rfl⟩ :=
      (mem_visits_iff v).1 (List.mem_of_find?_eq_some hv)
    subst hp
    obtain ⟨rfl, rfl, rfl⟩ := h.unique h'
    rw [Option.map_some, Option.getD_some, Visit.ofNode]
  | none =>
    rw [List.find?_eq_none] at hv
    cases u with
    | node n links =>
      have visited : Visit.ofNode backend number place above n links ∈ g.visits backend :=
        (mem_visits_iff _).2 ⟨_, _, _, _, _, h, rfl⟩
      exact absurd (decide_eq_true rfl) (hv _ visited)
    | cycle | tooDeep | dangling | hidden => rfl

theorem getElem?_fragments (links : List (Option String × Unfolding)) (number index : Nat) :
    (fragments backend number links)[index]? = links[index]?.map fun l =>
      (l.1, l.2.fragment backend (number + sizeOfLinks (links.take index))) := by
  induction links generalizing number index with
  | nil => rfl
  | cons l links ih =>
    cases index with
    | zero => rfl
    | succ index =>
      rw [fragments, List.getElem?_cons_succ, ih, List.getElem?_cons_succ, List.take_succ_cons,
        sizeOfLinks, Nat.add_assoc]

theorem fragments_eq_mapIdx {number : Nat} {place : List Nat} {above : List Node} {n : Node}
    {links : List (Option String × Unfolding)} (h : g.At number place above (.node n links)) :
    fragments backend (number + 1) links = n.links.mapIdx fun i l =>
      (l.slotName, fragmentAt (g.visits backend) (place ++ [i])) := by
  refine List.ext_getElem? fun i => ?_
  rw [getElem?_fragments, List.getElem?_mapIdx]
  obtain ⟨-, -, hlinks⟩ := h.links_eq
  cases hl : n.links[i]? with
  | none => simp [hlinks, hl]
  | some l =>
    have here : links[i]? = some (l.slotName, g.unfoldLink (maxDepth - place.length)
        ((n :: above).map Node.id) l.id) := by
      rw [hlinks, List.getElem?_map, hl, Option.map_some]
    rw [here, Option.map_some, Option.map_some, fragmentAt_visits (h.link here)]

theorem children_ofNode {number : Nat} {place : List Nat} {above : List Node} {n : Node}
    {links : List (Option String × Unfolding)} (h : g.At number place above (.node n links)) :
    (Visit.ofNode backend number place above n links).children (g.visits backend) =
      .ofList (fragments backend (number + 1) links) :=
  congrArg Children.ofList (fragments_eq_mapIdx h).symm

theorem output_walk (g : Graph) (backend : Backend) :
    (walk g backend).output = fragmentAt (g.visits backend) [] := by
  rw [walk_eq, fragmentAt_visits .root]

theorem fragment_of_mem_visits {v : Visit} (hv : v ∈ g.visits backend) :
    v.fragment = v.node.emit backend (v.children (g.visits backend)) v.handle := by
  obtain ⟨number, place, above, n, links, h, rfl⟩ := (mem_visits_iff v).1 hv
  rw [children_ofNode h, Visit.ofNode, Unfolding.fragment]

def Graph.events (g : Graph) (backend : Backend) : List Event := g.unfold.events backend 1 0

theorem report_walk (g : Graph) (backend : Backend) :
    (walk g backend).report = .ofEvents (g.events backend) := by
  rw [walk_eq, Graph.events]

theorem finishedIn_walk (g : Graph) (backend : Backend) :
    (Event.finishedIn (g.events backend)).Perm ((g.visits backend).map Visit.finish) :=
  finishedIn_events backend g.unfold 1 [] []

theorem mem_finishedIn_walk (p : Nat × Node × Verdict → Prop) :
    (∃ f ∈ Event.finishedIn (g.events backend), p f) ↔ ∃ v ∈ g.visits backend, p v.finish := by
  simp only [(finishedIn_walk g backend).mem_iff, List.mem_map]
  constructor
  · rintro ⟨f, ⟨v, hv, rfl⟩, hp⟩
    exact ⟨v, hv, hp⟩
  · rintro ⟨v, hv, hp⟩
    exact ⟨_, ⟨v, hv, rfl⟩, hp⟩

theorem rendered_walk (g : Graph) (backend : Backend) :
    (walk g backend).report.rendered = (g.visits backend).length := by
  rw [report_walk, Report.ofEvents, Report.rendered_foldl, (finishedIn_walk g backend).length_eq,
    List.length_map]
  exact Nat.zero_add _

theorem deepest_walk (g : Graph) (backend : Backend) :
    (walk g backend).report.deepest =
      ((g.visits backend).map fun v => v.place.length).foldr max 0 := by
  have levels := (finishedIn_walk g backend).map Prod.fst
  rw [List.map_map] at levels
  have deepest := levels.foldr_eq' (f := max) (fun x _ y _ z => Nat.max_left_comm y x z) 0
  rw [report_walk, Report.ofEvents, Report.deepest_foldl, deepest]
  exact Nat.zero_max _

theorem degraded_walk (g : Graph) (backend : Backend) :
    (walk g backend).report.degraded.Perm
      (((g.visits backend).filter fun v => v.verdict = .degraded).map fun v => v.node.id) := by
  rw [report_walk, Report.degraded_ofEvents]
  refine ((finishedIn_walk g backend).filterMap degradedId?).trans (.of_eq ?_)
  rw [List.filterMap_map]
  induction g.visits backend with
  | nil => rfl
  | cons v vs ih =>
    by_cases hv : v.verdict = .degraded <;> simp [degradedId?, Visit.finish, hv, ih]

theorem mem_linkVisits_iff_occurs (v : LinkVisit) : v ∈ g.linkVisits ↔
    ∃ place n above index link, g.Occurs place n above ∧ n.links[index]? = some link ∧
      v = ⟨place ++ [index], link.id, g.linkFate (n :: above) (place.length + 1) link.id⟩ := by
  rw [mem_linkVisits_iff]
  constructor
  · rintro ⟨number, place, above, n, links, index, slot, u, h, here, rfl⟩
    obtain ⟨-, -, rfl⟩ := h.links_eq
    rw [List.getElem?_map] at here
    obtain ⟨link, hlink, htree⟩ := Option.map_eq_some_iff.1 here
    cases htree
    refine ⟨place, n, above, index, link, occurs_iff_at.2 ⟨number, _, h⟩, hlink, ?_⟩
    rw [g.target_unfoldLink, g.fate_below]
  · rintro ⟨place, n, above, index, link, h, hlink, rfl⟩
    obtain ⟨number, links, hat⟩ := occurs_iff_at.1 h
    obtain ⟨-, -, rfl⟩ := hat.links_eq
    refine ⟨number, place, above, n, _, index, link.slotName,
      g.unfoldLink (maxDepth - place.length) ((n :: above).map Node.id) link.id, hat, ?_, ?_⟩
    · rw [List.getElem?_map, hlink, Option.map_some]
    · rw [g.target_unfoldLink, g.fate_below]

theorem followed_iff_visited {l : LinkVisit} (hl : l ∈ g.linkVisits) :
    l.fate = .followed ↔ ∃ v ∈ g.visits backend, v.place = l.place := by
  obtain ⟨number, place, above, n, links, index, slot, u, h, here, rfl⟩ :=
    (mem_linkVisits_iff l).1 hl
  constructor
  · intro hf
    cases u with
    | node m below => exact ⟨_, (mem_visits_iff _).2 ⟨_, _, _, _, _, h.link here, rfl⟩, rfl⟩
    | cycle | tooDeep | dangling | hidden => cases hf
  · rintro ⟨v, hv, hp⟩
    obtain ⟨number', place', above', m, below, h', rfl⟩ := (mem_visits_iff v).1 hv
    cases hp
    obtain ⟨-, -, rfl⟩ := (h.link here).unique h'
    rfl

theorem skipped_walk (g : Graph) (backend : Backend) (fate : LinkFate)
    (hf : fate ≠ .followed) (hh : fate ≠ .hidden) :
    (g.events backend).filterMap (Event.skippedAs? fate) = idsWithFate fate g.linkVisits := by
  rw [Graph.events, skipped_events backend fate hf g.unfold 1 0 [], g.unfold_eq]
  split <;> simp [Unfolding.fate, hf.symm, hh.symm, Graph.linkVisits, g.unfold_eq, *]

/-- The visits to nodes and links of the unfolded graph describe the walk. -/
theorem walk_walkedBy (g : Graph) (backend : Backend) :
    g.WalkedBy backend (walk g backend) (g.visits backend) g.linkVisits where
  occurrences place n above := by
    rw [occurs_iff_at]
    constructor
    · rintro ⟨v, hv, rfl, rfl, rfl⟩
      obtain ⟨number, place, above, n, links, h, rfl⟩ := (mem_visits_iff v).1 hv
      exact ⟨number, links, h⟩
    · rintro ⟨number, links, h⟩
      exact ⟨_, (mem_visits_iff _).2 ⟨_, _, _, _, _, h, rfl⟩, rfl, rfl, rfl⟩
  preorder := pairwise_visits backend g.unfold 1 [] []
  handles := by
    rw [rendered_walk, Graph.visits, handles_visits, length_visits]
  verdicts v hv := by
    obtain ⟨number, place, above, n, links, h, rfl⟩ := (mem_visits_iff v).1 hv
    rw [children_ofNode h, Visit.ofNode, Unfolding.verdict]
  fragments _ hv := fragment_of_mem_visits hv
  output := output_walk g backend
  rendered := rendered_walk g backend
  hidden_root h := by
    rw [rendered_walk, Graph.visits, length_visits, g.unfold_eq, if_pos h]
    rfl
  deepest := deepest_walk g backend
  degraded := degraded_walk g backend
  unknownTags tag := by
    rw [report_walk, Report.ofEvents, Report.mem_unknownTags_foldl, mem_finishedIn_walk]
    simp [Report.empty, Visit.finish]
  kinds kind := by
    rw [report_walk, Report.ofEvents, Report.mem_kinds_foldl, mem_finishedIn_walk]
    simp [Report.empty, Visit.finish]
  links := mem_linkVisits_iff_occurs
  linkOrder := pairwise_linkVisits g.unfold []
  followed _ hl := followed_iff_visited hl
  cycles := by
    rw [report_walk, Report.cycles_ofEvents, skipped_walk g backend .cycle (by simp) (by simp)]
  tooDeep := by
    rw [report_walk, Report.tooDeep_ofEvents, skipped_walk g backend .tooDeep (by simp) (by simp)]
  dangling := by
    rw [report_walk, Report.dangling_ofEvents, skipped_walk g backend .dangling (by simp) (by simp)]

end MiniApp
