import MiniApp.Proofs.Graph.Links
import MiniApp.Proofs.Walk.Related

/-!
# A fault stays where it is

Two graphs that differ in the properties of one node, which may be usable in one of them and
unusable in the other. Walks over both agree on everything that is not the node's own: only whether
it is degraded and its kind written out may differ in the reports, and a fragment can differ only
when the node occurs in it. A node whose rule fails shows what its children show.
-/

set_option autoImplicit false

namespace MiniApp

def Node.kind? (n : Node) : Option Kind := n.entry?.map Entry.kind

/-- Reports that differ at most in how often the node is degraded and in whether its kind was
written out. -/
structure Report.AgreesApartFrom (n : Node) (r r' : Report) : Prop where
  rendered : r.rendered = r'.rendered
  deepest : r.deepest = r'.deepest
  dangling : r.dangling = r'.dangling
  cycles : r.cycles = r'.cycles
  tooDeep : r.tooDeep = r'.tooDeep
  unknownTags : r.unknownTags = r'.unknownTags
  degraded : (r.degraded.filter fun id => id ≠ n.id) = r'.degraded.filter fun id => id ≠ n.id
  kinds : ∀ kind, n.kind? ≠ some kind → (kind ∈ r.kinds ↔ kind ∈ r'.kinds)

/-- A node of one graph and the node of the other one under the same id, where only the given node
has other properties there. -/
inductive Node.Changed (n : Node) (props : Fields) : Node → Node → Prop
  | other {a : Node} (h : a.id ≠ n.id) : Changed n props a a
  | here : Changed n props n { n with props := props }

theorem Node.Changed.parallel {n a b : Node} {props : Fields} :
    n.Changed props a b → a.Parallel b
  | .other _ => ⟨rfl, rfl, rfl, rfl⟩
  | .here => n.parallel_withProps props

/-- A rule writes out its own kind or fails; without a rule the tag is unknown. -/
inductive Node.MayBecome (n : Node) : Verdict → Prop
  | emitted {kind : Kind} (known : n.kind? = some kind) : MayBecome n (.emitted kind)
  | degraded {kind : Kind} (known : n.kind? = some kind) : MayBecome n .degraded
  | unknownTag (unknown : n.kind? = none) : MayBecome n .unknownTag

theorem Node.mayBecome_verdict (n : Node) : n.MayBecome n.verdict := by
  rw [verdict, judge]
  have known : n.kind? = n.entry?.map Entry.kind := rfl
  revert known
  cases n.entry? with
  | none => exact .unknownTag
  | some e =>
    intro known
    rw [MiniApp.judge]
    cases e.emit .document n.props .empty "" with
    | ok => exact .emitted known
    | error => exact .degraded known

theorem Node.kind?_withProps (n : Node) (props : Fields) :
    Node.kind? { n with props := props } = n.kind? :=
  congrArg (Option.map Entry.kind) (entry?_congr rfl)

theorem Node.MayBecome.of_kind? {a b : Node} {v : Verdict} (h : a.MayBecome v)
    (same : a.kind? = b.kind?) : b.MayBecome v := by
  cases h with
  | emitted known => exact .emitted (same ▸ known)
  | degraded known => exact .degraded (same ▸ known)
  | unknownTag unknown => exact .unknownTag (same ▸ unknown)

namespace Report.AgreesApartFrom

variable {n : Node} {props : Fields} {r r' : Report}

theorem addNode (h : r.AgreesApartFrom n r') (depth : Nat) :
    (r.addNode depth).AgreesApartFrom n (r'.addNode depth) :=
  { h with
    rendered := congrArg (· + 1) h.rendered
    deepest := congrArg (max · depth) h.deepest }

theorem addSkipped (h : r.AgreesApartFrom n r') (id : String) (fate : LinkFate) :
    (r.addSkipped id fate).AgreesApartFrom n (r'.addSkipped id fate) := by
  cases fate with
  | cycle => exact { h with cycles := congrArg (· ++ [id]) h.cycles }
  | tooDeep => exact { h with tooDeep := congrArg (· ++ [id]) h.tooDeep }
  | dangling => exact { h with dangling := congrArg (· ++ [id]) h.dangling }
  | hidden | followed => exact h

theorem addVerdict {a b : Node} {v v' : Verdict} (h : r.AgreesApartFrom n r')
    (unknown : (if v = .unknownTag then some a.typeTag else none) =
      if v' = .unknownTag then some b.typeTag else none)
    (degraded : ((if v = .degraded then [a.id] else []).filter fun id => id ≠ n.id) =
      (if v' = .degraded then [b.id] else []).filter fun id => id ≠ n.id)
    (kinds : ∀ kind, n.kind? ≠ some kind → (v = .emitted kind ↔ v' = .emitted kind)) :
    (r.addVerdict a v).AgreesApartFrom n (r'.addVerdict b v') where
  rendered := by rw [rendered_addVerdict, rendered_addVerdict, h.rendered]
  deepest := by rw [deepest_addVerdict, deepest_addVerdict, h.deepest]
  dangling := by rw [dangling_addVerdict, dangling_addVerdict, h.dangling]
  cycles := by rw [cycles_addVerdict, cycles_addVerdict, h.cycles]
  tooDeep := by rw [tooDeep_addVerdict, tooDeep_addVerdict, h.tooDeep]
  unknownTags := by
    rw [unknownTags_addVerdict, unknownTags_addVerdict, unknown, h.unknownTags]
  degraded := by
    rw [degraded_addVerdict, degraded_addVerdict, List.filter_append, List.filter_append,
      h.degraded, degraded]
  kinds kind hk := by
    rw [mem_kinds_addVerdict, mem_kinds_addVerdict, h.kinds kind hk, kinds kind hk]

theorem addVerdict_self (h : r.AgreesApartFrom n r') (a : Node) (v : Verdict) :
    (r.addVerdict a v).AgreesApartFrom n (r'.addVerdict a v) :=
  h.addVerdict rfl rfl fun _ _ => Iff.rfl

theorem addOwnVerdict {a b : Node} {v v' : Verdict} (h : r.AgreesApartFrom n r')
    (ha : a.id = n.id ∧ a.typeTag = n.typeTag) (hb : b.id = n.id ∧ b.typeTag = n.typeTag)
    (hv : n.MayBecome v) (hv' : n.MayBecome v') :
    (r.addVerdict a v).AgreesApartFrom n (r'.addVerdict b v') := by
  have own (v : Verdict) {m : Node} (hm : m.id = n.id) :
      ((if v = .degraded then [m.id] else []).filter fun id => id ≠ n.id) = [] := by
    rw [hm]
    split <;> simp
  have others {v : Verdict} (hv : n.MayBecome v) (kind : Kind) (hk : n.kind? ≠ some kind) :
      v ≠ .emitted kind := by
    rintro rfl
    cases hv with
    | emitted h => exact hk h
  refine h.addVerdict ?_ ?_ ?_
  · rw [ha.2, hb.2]
    cases hv with
    | unknownTag known =>
      cases hv' with
      | unknownTag => rfl
      | emitted h | degraded h => exact absurd (known.symm.trans h) (by simp)
    | emitted known | degraded known =>
      cases hv' with
      | unknownTag h => exact absurd (h.symm.trans known) (by simp)
      | emitted | degraded => rfl
  · rw [own v ha.1, own v' hb.1]
  · exact fun kind hk => iff_of_false (others hv kind hk) (others hv' kind hk)

theorem record {e e' : Event} (h : r.AgreesApartFrom n r')
    (he : e.Related (n.Changed props) e') : (r.record e).AgreesApartFrom n (r'.record e') := by
  cases he with
  | skipped fate id => exact h.addSkipped id fate
  | finished depth nodes =>
    have counted := h.addNode depth
    rw [Report.record, Report.record]
    cases nodes with
    | other => exact counted.addVerdict_self _ _
    | here =>
      have own : n.MayBecome ({ n with props := props } : Node).verdict :=
        (Node.mayBecome_verdict _).of_kind? (n.kind?_withProps props)
      exact counted.addOwnVerdict ⟨rfl, rfl⟩ ⟨rfl, rfl⟩ n.mayBecome_verdict own

theorem foldl_record {es es' : List Event} (h : r.AgreesApartFrom n r')
    (events : List.Forall₂ (Event.Related (n.Changed props)) es es') :
    (es.foldl Report.record r).AgreesApartFrom n (es'.foldl Report.record r') := by
  induction events generalizing r r' with
  | nil => exact h
  | cons here _ ih => exact ih (h.record here)

theorem empty (n : Node) : Report.empty.AgreesApartFrom n Report.empty :=
  ⟨rfl, rfl, rfl, rfl, rfl, rfl, rfl, fun _ _ => Iff.rfl⟩

end Report.AgreesApartFrom

def Visit.linkFragments (vs : List Visit) (v : Visit) : List String :=
  v.node.links.mapIdx fun i _ => fragmentAt vs (v.place ++ [i])

theorem Visit.all_children (vs : List Visit) (v : Visit) :
    (v.children vs).all = Children.shown (v.linkFragments vs) := by
  rw [children, v.node.all_ofList, linkFragments]
  · congr 1
    exact List.ext_getElem (by simp) (by simp)
  · exact List.ext_getElem (by simp) (by simp)

/-- A node whose rule fails shows what its links show. -/
theorem fragment_of_failed {g : Graph} {backend : Backend} {v : Visit}
    (hv : v ∈ g.visits backend) {e : Entry} (he : v.node.entry? = some e) {error : PropError}
    (failed : e.emit backend v.node.props (v.children (g.visits backend)) v.handle =
      .error error) :
    v.fragment = "\n".intercalate
      ((v.linkFragments (g.visits backend)).filter fun f => f ≠ "") := by
  rw [fragment_of_mem_visits hv, Node.emit, he, emitAs, failed]
  exact congrArg "\n".intercalate (v.all_children (g.visits backend))

namespace Graph

variable {g g' : Graph} {n : Node} {props : Fields}

theorem related_of_changed (here : g.get? n.id = some n)
    (here' : g'.get? n.id = some { n with props := props })
    (elsewhere : ∀ id, id ≠ n.id → g.get? id = g'.get? id) : g.Related (n.Changed props) g' := by
  intro id
  by_cases h : id = n.id
  · rw [h, here, here']
    exact .some .here
  · rw [← elsewhere id h]
    cases hg : g.get? id with
    | none => exact .none
    | some a => exact .some (.other (id_of_get? hg ▸ h))

variable (changed : g.Related (n.Changed props) g') (backend : Backend)
include changed

theorem report_changed :
    (walk g backend).report.AgreesApartFrom n (walk g' backend).report := by
  have tree := related_unfold (fun _ _ h => h.parallel) changed
  rw [report_walk, report_walk]
  exact (Report.AgreesApartFrom.empty n).foldl_record (tree.events backend 1 0)

theorem visits_changed :
    List.Forall₂ (Visit.Related (n.Changed props)) (g.visits backend) (g'.visits backend) :=
  (related_unfold (fun _ _ h => h.parallel) changed).visits backend 1 [] .nil

theorem fragment_changed {v v' : Visit} (hv : v ∈ g.visits backend) (hv' : v' ∈ g'.visits backend)
    (place : v.place = v'.place)
    (apart : ∀ w ∈ g.visits backend, v.place <+: w.place → w.node.id ≠ n.id) :
    v.fragment = v'.fragment := by
  obtain ⟨number, here, above, a, links, stands, rfl⟩ := (mem_visits_iff v).1 hv
  obtain ⟨number', here', above', b, links', stands', rfl⟩ := (mem_visits_iff v').1 hv'
  obtain ⟨way, tree, other, related⟩ := stands.related (fun _ _ h => h.parallel) changed
  obtain rfl : here = here' := place
  obtain ⟨rfl, rfl, rfl⟩ := other.unique stands'
  have same : (Unfolding.node a links).Related Eq (.node b links') := by
    refine related.imp backend number here above fun w hw m hm => ?_
    have below : here <+: w.place := by
      rcases place_of_mem_visits backend w _ number here above hw with h | ⟨_, i, rest, -, h⟩
      · exact h ▸ List.prefix_rfl
      · exact h ▸ List.prefix_append ..
    cases hm with
    | other => rfl
    | here => exact absurd rfl (apart w (stands.visits_sublist.subset hw) below)
  dsimp only [Visit.ofNode]
  exact same.fragment_eq backend (fun a b h c handle => by rw [h]) number

end Graph

/-- Walks over two graphs agree on all that is not the given node's own. -/
structure Graph.AgreesApartFrom (n : Node) (backend : Backend) (g g' : Graph) : Prop where
  report : (walk g backend).report.AgreesApartFrom n (walk g' backend).report
  /-- The same places are visited in the same order, each node under the same handle. -/
  handles : List.Forall₂ (fun v v' => v.place = v'.place ∧ v.node.id = v'.node.id ∧
    v.handle = v'.handle) (g.visits backend) (g'.visits backend)
  /-- What is shown at a place with no occurrence of the node at it or below it is the same. -/
  fragments : ∀ v ∈ g.visits backend, ∀ v' ∈ g'.visits backend, v.place = v'.place →
    (∀ w ∈ g.visits backend, v.place <+: w.place → w.node.id ≠ n.id) → v.fragment = v'.fragment

/-- Graphs that differ in the properties of one node have walks that agree on all else, whether the
properties are usable or not, and nodes with unusable properties show what their links show. -/
theorem faults_contained {g g' : Graph} {n : Node} {props : Fields} (here : g.get? n.id = some n)
    (here' : g'.get? n.id = some { n with props := props })
    (elsewhere : ∀ id, id ≠ n.id → g.get? id = g'.get? id) (backend : Backend) :
    g.AgreesApartFrom n backend g' ∧ ∀ h ∈ [g, g'],
      (walk h backend).output = fragmentAt (h.visits backend) [] ∧
      ∀ v ∈ h.visits backend, ∀ e error, v.node.entry? = some e →
        e.emit backend v.node.props (v.children (h.visits backend)) v.handle = .error error →
        v.fragment = "\n".intercalate
          ((v.linkFragments (h.visits backend)).filter fun f => f ≠ "") := by
  have changed := Graph.related_of_changed here here' elsewhere
  refine ⟨⟨Graph.report_changed changed backend, ?_, ?_⟩, fun h _ => ⟨output_walk h backend, ?_⟩⟩
  · exact (Graph.visits_changed changed backend).imp fun v v' hv =>
      ⟨hv.place, hv.node.parallel.id, hv.handle⟩
  · exact fun v hv v' hv' => Graph.fragment_changed changed backend hv hv'
  · exact fun v hv e error he failed => fragment_of_failed hv he failed

/-- A card in the root whose title is a text in one graph and no text in the other. -/
theorem faults_contained_card :
    let card : Node := { Node.bare "card" "Card" with props := [("title", .string "News")] }
    let broken : Node := { card with props := [("title", .array [])] }
    let page := Graph.withRoot { Node.bare rootId "Container" with children := ["card"] }
    let g := page.insert card
    let g' := page.insert broken
    (g.get? "card" = some card ∧ g'.get? "card" = some broken ∧
      ∀ id, id ≠ "card" → g.get? id = g'.get? id) ∧
      g.AgreesApartFrom card .project g' := by
  intro card broken page g g'
  have here : g.get? card.id = some card := by rw [Graph.get?_insert, if_pos rfl]
  have here' : g'.get? card.id = some broken := by rw [Graph.get?_insert, if_pos rfl]
  have elsewhere (id : String) (h : id ≠ card.id) : g.get? id = g'.get? id := by
    rw [Graph.get?_insert, Graph.get?_insert, if_neg (Ne.symm h), if_neg (Ne.symm h)]
  exact ⟨⟨here, here', elsewhere⟩, (faults_contained here here' elsewhere .project).1⟩

end MiniApp
