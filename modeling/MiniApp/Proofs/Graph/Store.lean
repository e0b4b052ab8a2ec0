import Mathlib.Data.Finset.Card
import MiniApp.Proofs.Graph.Entries
import MiniApp.Proofs.Json.WellFormed

/-!
# A graph keeps the last node of each id

However a graph was put together, it shows of each id the node that was written last, and nothing of
the others. Its root stands apart from the table of the other nodes, so each operation has to treat
that one id by itself. What carries all of it is that the root is the last node that was written as a
root, and that the table is the one that the other nodes make.
-/

set_option autoImplicit false

namespace MiniApp

namespace Graph

section History

/-- The records that a value holds as a graph: those of an object, or of the object whose text a
string is. -/
def recordsIn : Json → Fields
  | .object entries => entries
  | .string text =>
    match Json.read text with
    | .ok (.object entries) => entries
    | _ => []
  | _ => []

def nodesIn (v : Json) : List Node :=
  (recordsIn v).filterMap fun e => (Node.read e.1 e.2).toOption

/-- The nodes that a graph was put together from, in the order in which they were written. -/
inductive Written : List Node → Graph → Prop
  | new : Written [.bare rootId "Container"] .new
  | withRoot (n : Node) : Written [{ n with id := rootId }] (.withRoot n)
  | ofJson {v : Json} {g : Graph} (wf : v.WellFormed) (read : Graph.ofJson v = .ok g) :
      Written (nodesIn v) g
  | insert {log : List Node} {g : Graph} (written : Written log g) (n : Node) :
      Written (log ++ [n]) (g.insert n)

/-- The node that was written last under an id. -/
def lastOf (id : String) (log : List Node) : Option Node :=
  (log.filter fun n => n.id = id).getLast?

def others (log : List Node) : List (String × Node) :=
  (log.filter fun n => n.id ≠ rootId).map fun n => (n.id, n)

theorem lastOf_concat (id : String) (log : List Node) (n : Node) :
    lastOf id (log ++ [n]) = if n.id = id then some n else lastOf id log := by
  rw [lastOf, List.filter_append]
  by_cases here : n.id = id
  · simp [here]
  · simp [here, lastOf]

theorem others_concat (log : List Node) (n : Node) :
    others (log ++ [n]) = others log ++ if n.id = rootId then [] else [(n.id, n)] := by
  rw [others, List.filter_append, List.map_append, others]
  by_cases root : n.id = rootId
  · simp [root]
  · simp [root]

theorem lastWritten_others {id : String} (other : id ≠ rootId) (log : List Node) :
    lastWritten id (others log) = lastOf id log := by
  have same : (log.filter fun n => n.id ≠ rootId).filter (fun n => n.id = id) =
      log.filter fun n => n.id = id := by
    rw [List.filter_filter]
    refine List.filter_congr fun n _ => ?_
    by_cases here : n.id = id
    · simp [here, other]
    · simp [here]
  rw [lastWritten, others, List.filter_map, List.getLast?_map, Option.map_map, lastOf, ← same]
  exact Option.map_id'

theorem keys_others (log : List Node) :
    (others log).map Prod.fst = (log.map Node.id).filter (· ≠ rootId) := by
  rw [others, List.map_map, List.filter_map]
  rfl

theorem mem_of_lastOf {id : String} {log : List Node} {n : Node} (h : lastOf id log = some n) :
    n ∈ log ∧ n.id = id := by
  have listed := List.mem_filter.1 (List.mem_of_getLast? h)
  exact ⟨listed.1, of_decide_eq_true listed.2⟩

theorem isSome_lastOf_iff {id : String} {log : List Node} :
    (lastOf id log).isSome = true ↔ id ∈ log.map Node.id := by
  rw [lastOf, List.getLast?_isSome, ne_eq, List.filter_eq_nil_iff, List.mem_map]
  simp

end History

/-- The root is the last one written, and the table is the one that the others make. -/
structure Follows (log : List Node) (g : Graph) : Prop where
  root : lastOf rootId log = some g.root
  nodes : g.nodes = .ofList (others log)

section Follows

variable {log : List Node} {g : Graph}

theorem follows_withRoot (n : Node) : Follows [{ n with id := rootId }] (withRoot n) where
  root := by simp [lastOf, withRoot]
  nodes := by simp [others, withRoot, Table.ofList]

theorem Follows.insert (h : Follows log g) (n : Node) : Follows (log ++ [n]) (g.insert n) := by
  by_cases root : n.id = rootId
  · have kept : (g.insert n).nodes = g.nodes := by rw [Graph.insert, dif_pos root]
    have replaced : (g.insert n).root = n := by rw [Graph.insert, dif_pos root]
    constructor
    · rw [lastOf_concat, if_pos root, replaced]
    · rw [others_concat, if_pos root, List.append_nil, kept, h.nodes]
  · have put : (g.insert n).nodes = g.nodes.insert n.id n := by rw [Graph.insert, dif_neg root]
    have kept : (g.insert n).root = g.root := by rw [Graph.insert, dif_neg root]
    constructor
    · rw [lastOf_concat, if_neg root, kept, h.root]
    · rw [others_concat, if_neg root, Table.ofList_concat, put, h.nodes]

theorem Follows.insertAll (h : Follows log g) (ns : List Node) :
    Follows (log ++ ns) (g.insertAll ns) := by
  induction ns generalizing log g with
  | nil => rwa [List.append_nil]
  | cons n ns ih =>
    have rest := ih (h.insert n)
    rwa [List.append_assoc, List.singleton_append] at rest

theorem Follows.congr {log' : List Node} (h : Follows log g)
    (root : lastOf rootId log' = lastOf rootId log) (nodes : others log' = others log) :
    Follows log' g :=
  ⟨root.trans h.root, h.nodes.trans (congrArg Table.ofList nodes.symm)⟩

end Follows

section Reading

variable {entries : Fields}

theorem others_readNodes (entries : Fields) :
    others (entries.filterMap fun e => (Node.read e.1 e.2).toOption) =
      (entries.filterMap entryNode?).map fun n => (n.id, n) := by
  rw [others, List.filter_filterMap]
  refine congrArg _ (List.filterMap_congr fun e _ => ?_)
  rw [entryNode?]
  cases hr : Node.read e.1 e.2 with
  | error => simp [Except.toOption]
  | ok n =>
    have id := Node.id_of_read hr
    by_cases root : e.1 = rootId
    · simp [Except.toOption, Option.filter, id, root]
    · simp [Except.toOption, Option.filter, id, root]

theorem lastOf_readNodes (apart : (entries.map Prod.fst).Nodup) {record : Json} {root : Node}
    (found : entries.lookup rootId = some record) (read : Node.read rootId record = .ok root) :
    lastOf rootId (entries.filterMap fun e => (Node.read e.1 e.2).toOption) = some root := by
  have listed : (rootId, record) ∈ entries := (lookup_eq_some_iff apart).1 found
  have here : root ∈ entries.filterMap fun e => (Node.read e.1 e.2).toOption :=
    List.mem_filterMap.2 ⟨_, listed, by rw [read]; rfl⟩
  have shown : (lastOf rootId _).isSome = true :=
    isSome_lastOf_iff.2 (List.mem_map.2 ⟨root, here, Node.id_of_read read⟩)
  obtain ⟨n, last⟩ := Option.isSome_iff_exists.1 shown
  obtain ⟨hn, root_id⟩ := mem_of_lastOf last
  obtain ⟨⟨key, other⟩, he, hr⟩ := List.mem_filterMap.1 hn
  have read' : Node.read key other = .ok n := by
    cases hk : Node.read key other with
    | error => rw [hk] at hr; cases hr
    | ok m => rw [hk] at hr; cases hr; rfl
  have same : key = rootId := (Node.id_of_read read').symm.trans root_id
  subst same
  have again := (lookup_eq_some_iff apart).2 he
  rw [found] at again
  cases again
  rw [read] at read'
  cases read'
  exact last

theorem follows_ofEntries {g : Graph} (apart : (entries.map Prod.fst).Nodup)
    (h : ofEntries entries = .ok g) :
    Follows (entries.filterMap fun e => (Node.read e.1 e.2).toOption) g := by
  rw [ofEntries] at h
  split at h
  · cases h
  · next record found =>
    split at h
    · cases h
    · next root read =>
      cases h
      have named : ({ root with id := rootId } : Node) = root := by rw [← Node.id_of_read read]
      have apart_root : ∀ n ∈ entries.filterMap entryNode?, n.id ≠ rootId := by
        intro n hn
        obtain ⟨e, -, he⟩ := List.mem_filterMap.1 hn
        exact entryNode?_ne_rootId he
      rw [foldl_insertEntry]
      refine ((follows_withRoot root).insertAll (entries.filterMap entryNode?)).congr ?_ ?_
      · have none : (entries.filterMap entryNode?).filter (fun n => n.id = rootId) = [] :=
          List.filter_eq_nil_iff.2 fun n hn => by simpa using apart_root n hn
        rw [lastOf_readNodes apart found read, lastOf, List.filter_append, none, named]
        simp [Node.id_of_read read]
      · have all : (entries.filterMap entryNode?).filter (fun n => n.id ≠ rootId) =
            entries.filterMap entryNode? :=
          List.filter_eq_self.2 fun n hn => by simpa using apart_root n hn
        rw [others_readNodes, others, List.filter_append, all]
        simp

theorem follows_ofJson {v : Json} {g : Graph} (wf : v.WellFormed) (h : Graph.ofJson v = .ok g) :
    Follows (nodesIn v) g := by
  have object {v : Json} (wf : v.WellFormed) (h : ofObject v = .ok g) :
      ∃ entries, v = .object entries ∧
        Follows (entries.filterMap fun e => (Node.read e.1 e.2).toOption) g := by
    cases v with
    | object entries => exact ⟨entries, rfl, follows_ofEntries wf.keys.nodup_keys h⟩
    | _ => cases h
  cases v with
  | string text =>
    rw [Graph.ofJson] at h
    split at h
    · cases h
    · next v read =>
      obtain ⟨entries, rfl, follows⟩ := object (Json.wellFormed_read read) h
      simp only [nodesIn, recordsIn, read]
      exact follows
  | object entries =>
    obtain ⟨_, same, follows⟩ := object wf h
    cases same
    exact follows
  | _ => cases h

end Reading

/-- However a graph was put together, it follows what was written: by induction on the writes. -/
theorem Written.follows {log : List Node} {g : Graph} (h : Written log g) : Follows log g := by
  induction h with
  | new => exact follows_withRoot (.bare rootId "Container")
  | withRoot n => exact follows_withRoot n
  | ofJson wf read => exact follows_ofJson wf read
  | insert _ n ih => exact ih.insert n

section Lookup

variable {log : List Node} {g : Graph}

theorem mem_ids_all_iff {id : String} : id ∈ g.all.map Node.id ↔ (g.get? id).isSome = true := by
  rw [List.mem_map, Option.isSome_iff_exists]
  exact exists_congr fun n => get?_eq_some_iff.symm

theorem Follows.get?_eq (h : Follows log g) (id : String) : g.get? id = lastOf id log := by
  by_cases root : id = rootId
  · rw [root, get?_rootId, h.root]
  · rw [get?, if_neg root, h.nodes, Table.get?_ofList, lastWritten_others root]

theorem Follows.mem_ids_iff (h : Follows log g) (id : String) :
    id ∈ g.all.map Node.id ↔ id ∈ log.map Node.id := by
  rw [mem_ids_all_iff, h.get?_eq, isSome_lastOf_iff]

theorem Follows.size_eq (h : Follows log g) : g.size = (log.map Node.id).toFinset.card := by
  have same : (log.map Node.id).toFinset = (g.all.map Node.id).toFinset := by
    ext id
    rw [List.mem_toFinset, List.mem_toFinset, h.mem_ids_iff]
  rw [same, List.toFinset_card_of_nodup g.nodup_ids_all, ids_all, List.length_cons,
    Table.length_keys, size]

theorem Follows.ids_eq (h : Follows log g) :
    g.all.map Node.id = rootId :: ((log.map Node.id).filter (· ≠ rootId)).eraseDups := by
  rw [ids_all, h.nodes, Table.keys_ofList, keys_others]

end Lookup

/-- What is known of a graph that was put together from some nodes: its root is there, every node
stands under its own id and the root not among the others, an id leads to the last node that was
written under it, if any was, and the nodes are listed by their ids, each once. -/
structure Keeps (log : List Node) (g : Graph) : Prop where
  root : g.get? rootId = some g.root
  root_id : g.root.id = rootId
  keys : ∀ e ∈ g.nodes.entries, e.2.id = e.1
  root_apart : rootId ∉ g.nodes.keys
  get : ∀ id, g.get? id = lastOf id log
  absent : ∀ id, g.get? id = none ↔ ∀ n ∈ log, n.id ≠ id
  contains : ∀ id, g.contains id = (g.get? id).isSome
  size : g.size = (log.map Node.id).toFinset.card
  ids : g.all.map Node.id = rootId :: ((log.map Node.id).filter (· ≠ rootId)).eraseDups
  listed : g.all.map some = (g.all.map Node.id).map g.get?
  insert : ∀ n id, n.id ≠ id → (g.insert n).get? id = g.get? id

/-- A graph that was started in any way and had any nodes put in keeps the last node of each id, its
root always among them. -/
theorem keeps_last {log : List Node} {g : Graph} (h : Written log g) : Keeps log g := by
  have follows := h.follows
  constructor
  case root => exact g.get?_rootId
  case root_id => exact g.root_id
  case keys => exact g.node_id
  case root_apart => exact g.root_apart
  case get => exact follows.get?_eq
  case absent =>
    intro id
    rw [← Option.not_isSome_iff_eq_none, follows.get?_eq, isSome_lastOf_iff]
    simp
  case contains => exact fun id => rfl
  case size => exact follows.size_eq
  case ids => exact follows.ids_eq
  case listed =>
    rw [List.map_map]
    exact List.map_congr_left fun n hn => (get?_id hn).symm
  case insert =>
    intro n id other
    rw [get?_insert, if_neg other]

/-- A root that is given another id, a node that is put in twice, and another root. -/
theorem keeps_last_twice :
    let a := Node.bare "a" "Text"
    let a' := Node.bare "a" "Button"
    let root := Node.bare rootId "Layout"
    let g := ((((withRoot (.bare "x" "Card")).insert a).insert (.bare "b" "Text")).insert a').insert root
    Written [.bare rootId "Card", a, .bare "b" "Text", a', root] g ∧
      g.get? "a" = some a' ∧ g.get? "x" = none ∧ g.root = root ∧ g.size = 3 ∧
      g.all.map Node.id = [rootId, "a", "b"] := by
  intro a a' root g
  have written : Written [.bare rootId "Card", a, .bare "b" "Text", a', root] g :=
    ((((Written.withRoot (.bare "x" "Card")).insert a).insert (.bare "b" "Text")).insert a').insert root
  have keeps := keeps_last written
  refine ⟨written, keeps.get "a", (keeps.absent "x").2 (by decide), ?_, keeps.size, keeps.ids⟩
  exact Option.some.inj (keeps.root.symm.trans (keeps.get rootId))

end Graph

end MiniApp
