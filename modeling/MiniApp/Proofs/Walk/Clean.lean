import MiniApp.Proofs.Component.Tags
import MiniApp.Proofs.Graph.Sound
import MiniApp.Proofs.Walk.Occurrences
import MiniApp.Proofs.Walk.Related
import MiniApp.Proofs.Walk.Report

set_option autoImplicit false

namespace MiniApp

open Unfolding

variable {g : Graph} {backend : Backend}

theorem Report.isClean_iff (r : Report) :
    r.isClean = true ↔ r.dangling = [] ∧ r.cycles = [] ∧ r.tooDeep = [] ∧ r.degraded = [] ∧
      r.unknownTags = [] := by
  simp [isClean, and_assoc]

section Visits

theorem forall_linkVisits_iff {P : LinkFate → Prop} :
    (∀ v ∈ g.linkVisits, P v.fate) ↔
      ∀ place n above, g.Occurs place n above →
        ∀ l ∈ n.links, P (g.linkFate (n :: above) (place.length + 1) l.id) := by
  constructor
  · intro all place n above h l hl
    obtain ⟨index, here⟩ := List.mem_iff_getElem?.1 hl
    exact all _ ((mem_linkVisits_iff_occurs _).2 ⟨place, n, above, index, l, h, here, rfl⟩)
  · intro all v hv
    obtain ⟨place, n, above, index, l, h, here, rfl⟩ := (mem_linkVisits_iff_occurs v).1 hv
    exact all place n above h l (List.mem_of_getElem? here)

theorem forall_visits_iff {P : Verdict → Prop} :
    (∀ v ∈ g.visits backend, P v.verdict) ↔
      ∀ place n above, g.Occurs place n above → P n.verdict := by
  constructor
  · intro all place n above h
    obtain ⟨number, links, here⟩ := occurs_iff_at.1 h
    have visited := all _ ((mem_visits_iff _).2 ⟨_, _, _, _, _, here, rfl⟩)
    dsimp only [Visit.ofNode] at visited
    rwa [verdict_eq] at visited
  · intro all v hv
    obtain ⟨number, place, above, n, links, here, rfl⟩ := (mem_visits_iff v).1 hv
    dsimp only [Visit.ofNode]
    rw [verdict_eq]
    exact all place n above (occurs_iff_at.2 ⟨number, links, here⟩)

theorem skipped_eq_nil_iff {fate : LinkFate} (hf : fate ≠ .followed) (hh : fate ≠ .hidden) :
    (g.events backend).filterMap (Event.skippedAs? fate) = [] ↔
      ∀ v ∈ g.linkVisits, v.fate ≠ fate := by
  rw [skipped_walk g backend fate hf hh]
  simp [idsWithFate]

theorem eq_nil_iff_of_verdict {listed : List String} {verdict : Verdict} (name : Visit → String)
    (member : ∀ s, s ∈ listed ↔ ∃ v ∈ g.visits backend, v.verdict = verdict ∧ name v = s) :
    listed = [] ↔ ∀ v ∈ g.visits backend, v.verdict ≠ verdict := by
  rw [List.eq_nil_iff_forall_not_mem]
  constructor
  · exact fun none v hv same => none _ ((member _).2 ⟨v, hv, same, rfl⟩)
  · intro never s hs
    obtain ⟨v, hv, same, -⟩ := (member s).1 hs
    exact never v hv same

theorem degraded_eq_nil_iff :
    (walk g backend).report.degraded = [] ↔ ∀ v ∈ g.visits backend, v.verdict ≠ .degraded :=
  eq_nil_iff_of_verdict (fun v => v.node.id) fun id => by
    rw [(degraded_walk g backend).mem_iff]
    simp [and_assoc]

theorem unknownTags_eq_nil_iff :
    (walk g backend).report.unknownTags = [] ↔
      ∀ v ∈ g.visits backend, v.verdict ≠ .unknownTag :=
  eq_nil_iff_of_verdict (fun v => v.node.typeTag) fun tag => by
    rw [report_walk, Report.ofEvents, Report.mem_unknownTags_foldl, mem_finishedIn_walk]
    simp [Report.empty, Visit.finish]

end Visits

def Node.Resolves (n : Node) : Prop :=
  ∃ e, n.entry? = some e ∧
    ∃ component, Component.resolve e.kind ⟨n.props, e.defaults⟩ = .ok component

theorem Node.resolves_iff (n : Node) :
    n.Resolves ↔ n.verdict ≠ .degraded ∧ n.verdict ≠ .unknownTag := by
  rw [Resolves, verdict, judge]
  cases n.entry? with
  | none => simp [MiniApp.judge]
  | some e =>
    rw [MiniApp.judge, e.emit_eq_resolve]
    cases resolved : Component.resolve e.kind ⟨n.props, e.defaults⟩ <;> simp [Except.map, resolved]

/-- A link below the nodes of `way` leads on to a node, however deep it lies on its path. -/
structure Graph.Passable (g : Graph) (way : List Node) (number : Nat) (id : String) : Prop where
  fresh : id ∉ way.map Node.id
  shallow : number ≤ maxDepth
  found : ∃ n, g.get? id = some n

theorem Graph.passable_iff {way : List Node} {number : Nat} {id : String} :
    g.Passable way number id ↔ g.linkFate way number id ≠ .dangling ∧
      g.linkFate way number id ≠ .cycle ∧ g.linkFate way number id ≠ .tooDeep := by
  rw [linkFate]
  split_ifs with back deep
  · exact iff_of_false (fun h => h.fresh back) (by simp)
  · exact iff_of_false (fun h => absurd h.shallow (Nat.not_le_of_gt deep)) (by simp)
  · have shallow := Nat.le_of_not_lt deep
    cases found : g.get? id with
    | none => exact iff_of_false (fun h => by simpa [found] using h.found) (by simp)
    | some n =>
      refine iff_of_true ⟨back, shallow, n, found⟩ ?_
      cases hidden : n.hidden <;> simp [hidden]

/-- Every occurrence leads on along all its links, and is written out by a rule of its own. -/
def Graph.Faultless (g : Graph) : Prop :=
  ∀ place n above, g.Occurs place n above →
    (∀ l ∈ n.links, g.Passable (n :: above) (place.length + 1) l.id) ∧ n.Resolves

theorem isClean_iff_faultless (g : Graph) (backend : Backend) :
    (walk g backend).report.isClean = true ↔ g.Faultless := by
  rw [Report.isClean_iff, degraded_eq_nil_iff, unknownTags_eq_nil_iff, report_walk,
    Report.dangling_ofEvents, Report.cycles_ofEvents, Report.tooDeep_ofEvents,
    skipped_eq_nil_iff (by simp) (by simp), skipped_eq_nil_iff (by simp) (by simp),
    skipped_eq_nil_iff (by simp) (by simp), forall_linkVisits_iff (P := (· ≠ .dangling)),
    forall_linkVisits_iff (P := (· ≠ .cycle)), forall_linkVisits_iff (P := (· ≠ .tooDeep)),
    forall_visits_iff (P := (· ≠ .degraded)), forall_visits_iff (P := (· ≠ .unknownTag))]
  simp only [Graph.Faultless, Graph.passable_iff, Node.resolves_iff]
  grind

namespace Graph

section Occurrences

variable {place : List Nat} {n : Node} {above : List Node}

theorem Occurs.get?_eq (h : g.Occurs place n above) : g.get? n.id = some n ∧ n.hidden = false := by
  cases h with
  | root visible => exact ⟨by rw [g.root_id, g.get?_rootId], visible⟩
  | link _ _ _ _ found visible => exact ⟨id_of_get? found ▸ found, visible⟩

theorem Occurs.mem_linksFrom (h : g.Occurs place n above) {l : Link} (hl : l ∈ n.links) :
    l.id ∈ g.linksFrom n.id :=
  mem_linksFrom_iff.2 ⟨n, h.get?_eq.1, h.get?_eq.2, l, hl, rfl⟩

theorem Occurs.leads (h : g.Occurs place n above) : g.Leads rootId place.length n.id := by
  induction h with
  | root visible =>
    rw [g.root_id]
    exact .refl
  | link parent here _ _ found _ ih =>
    rw [List.length_append, List.length_singleton, id_of_get? found]
    exact .link ih (parent.mem_linksFrom (List.mem_of_getElem? here))

theorem Occurs.inView (h : g.Occurs place n above) : g.InView n :=
  ⟨h.leads.reaches .root, h.get?_eq⟩

theorem Occurs.leads_of_mem (h : g.Occurs place n above) {m : Node} (hm : m ∈ n :: above) :
    g.InView m ∧ ∃ length, g.Leads m.id length n.id := by
  induction h generalizing m with
  | root visible =>
    obtain rfl := List.mem_singleton.1 hm
    exact ⟨(Occurs.root visible).inView, 0, .refl⟩
  | @link place n m' above index l parent here fresh shallow found visible ih =>
    have whole := Occurs.link parent here fresh shallow found visible
    rcases List.mem_cons.1 hm with rfl | hm
    · exact ⟨whole.inView, 0, .refl⟩
    · obtain ⟨view, length, way⟩ := ih hm
      have last := parent.mem_linksFrom (List.mem_of_getElem? here)
      rw [← id_of_get? found] at last
      exact ⟨view, length + 1, .link way last⟩

end Occurrences

/-- Where no link is skipped for a defect, every way from the root is met by the walk. -/
theorem Faultless.occurs (faultless : g.Faultless) {length : Nat} {id : String}
    (way : g.Leads rootId length id) {n : Node} (found : g.get? id = some n)
    (visible : n.hidden = false) :
    ∃ place above, g.Occurs place n above ∧ place.length = length := by
  induction way generalizing n with
  | refl =>
    obtain rfl : g.root = n := Option.some.inj (g.get?_rootId.symm.trans found)
    exact ⟨[], [], .root visible, rfl⟩
  | link _ here ih =>
    obtain ⟨m, parentFound, parentVisible, l, hl, rfl⟩ := mem_linksFrom_iff.1 here
    obtain ⟨place, above, parent, deep⟩ := ih parentFound parentVisible
    obtain ⟨index, here⟩ := List.mem_iff_getElem?.1 hl
    have passable := (faultless place m above parent).1 l hl
    exact ⟨place ++ [index], m :: above,
      .link parent here passable.fresh passable.shallow found visible, by simp [deep]⟩

theorem Faultless.occurs_of_inView (faultless : g.Faultless) {n : Node} (view : g.InView n) :
    ∃ place above, g.Occurs place n above := by
  obtain ⟨length, way⟩ := view.1.leads
  obtain ⟨place, above, h, -⟩ := faultless.occurs way view.2.1 view.2.2
  exact ⟨place, above, h⟩

theorem Faultless.shallow (faultless : g.Faultless) {length : Nat} {target : String}
    (way : g.Leads rootId length target) : length ≤ maxDepth := by
  cases way with
  | refl => exact Nat.zero_le _
  | link way here =>
    obtain ⟨n, found, visible, l, hl, rfl⟩ := mem_linksFrom_iff.1 here
    obtain ⟨place, above, h, rfl⟩ := faultless.occurs way found visible
    exact ((faultless place n above h).1 l hl).shallow

theorem Faultless.sound (faultless : g.Faultless) : g.Sound where
  present n view l hl := by
    obtain ⟨place, above, h⟩ := faultless.occurs_of_inView view
    exact ((faultless place n above h).1 l hl).found
  acyclic n view length positive circle := by
    -- Going round more often than there are levels gives a way that is too long.
    obtain ⟨start, way⟩ := view.1.leads
    have long := faultless.shallow (way.trans (circle.repeat (maxDepth + 1)))
    have rounds : maxDepth + 1 ≤ (maxDepth + 1) * length := Nat.le_mul_of_pos_right _ positive
    omega
  shallow length target := faultless.shallow
  tagged n view := by
    obtain ⟨place, above, h⟩ := faultless.occurs_of_inView view
    obtain ⟨e, entry, -⟩ := (faultless place n above h).2
    exact ⟨e, entry⟩
  resolved n view e entry := by
    obtain ⟨place, above, h⟩ := faultless.occurs_of_inView view
    obtain ⟨e', entry', resolved⟩ := (faultless place n above h).2
    obtain rfl : e' = e := Option.some.inj (entry'.symm.trans entry)
    exact (Component.exists_resolve_iff ..).1 resolved

theorem Sound.faultless (sound : g.Sound) : g.Faultless := by
  intro place n above h
  refine ⟨fun l hl => ⟨?_, ?_, sound.present n h.inView l hl⟩, ?_⟩
  · -- A link back to the way that leads here would close a circle.
    intro back
    obtain ⟨m, hm, same⟩ := List.mem_map.1 back
    obtain ⟨view, length, way⟩ := h.leads_of_mem hm
    have last := h.mem_linksFrom hl
    rw [← same] at last
    exact sound.acyclic m view (length + 1) (Nat.succ_pos _) (.link way last)
  · exact sound.shallow _ _ (.link h.leads (h.mem_linksFrom hl))
  · obtain ⟨e, entry⟩ := sound.tagged n h.inView
    exact ⟨e, entry, (Component.exists_resolve_iff ..).2 (sound.resolved n h.inView e entry)⟩

end Graph

/-- A report is clean just when the nodes in view have no defect. -/
theorem walk_clean_iff (g : Graph) (backend : Backend) :
    (walk g backend).report.isClean = true ↔ g.Sound :=
  (isClean_iff_faultless g backend).trans ⟨Graph.Faultless.sound, Graph.Sound.faultless⟩

section Texts

theorem Node.exists_kind_of_entry? {n : Node} {e : Entry} (h : n.entry? = some e) :
    ∃ kind, e = Catalog.entry kind := by
  have found : Registry.builtin.get? n.typeTag = some e := h
  rw [Registry.get?] at found
  split at found
  · next kind _ =>
    rw [Registry.entry?_builtin] at found
    exact ⟨kind, (Option.some.inj found).symm⟩
  · cases found

theorem Node.verdict_ne_degraded_of_texts {n : Node} {texts : List (String × Option String)}
    (h : n.props = .ofTexts texts) : n.verdict ≠ .degraded := by
  rw [verdict, judge]
  cases found : n.entry? with
  | none => simp [MiniApp.judge]
  | some e =>
    obtain ⟨kind, rfl⟩ := exists_kind_of_entry? found
    obtain ⟨component, resolved⟩ := Component.exists_resolve_ofTexts kind texts
    rw [← h] at resolved
    have resolved : Component.resolve (Catalog.entry kind).kind
        ⟨n.props, (Catalog.entry kind).defaults⟩ = .ok component := resolved
    rw [MiniApp.judge, Entry.emit_eq_resolve, resolved]
    simp [Except.map]

theorem degraded_eq_nil_of_texts
    (h : ∀ n, g.InView n → ∃ texts, n.props = .ofTexts texts) :
    (walk g backend).report.degraded = [] := by
  rw [degraded_eq_nil_iff, forall_visits_iff (P := (· ≠ .degraded))]
  intro place n above occurs
  obtain ⟨texts, props⟩ := h n occurs.inView
  exact Node.verdict_ne_degraded_of_texts props

end Texts

end MiniApp
