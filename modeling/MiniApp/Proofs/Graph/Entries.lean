import MiniApp.Graph.Reader
import MiniApp.Proofs.Json.Record
import MiniApp.Proofs.Props.Alike
import MiniApp.Proofs.Table

set_option autoImplicit false

namespace MiniApp

namespace Node

theorem id_of_read {id : String} {record : Json} {n : Node} (h : read id record = .ok n) :
    n.id = id := by
  refine Field.readRecord_keeps (P := fun n => n.id = id) ?_ rfl h
  intro f hf v r r' hr hset
  simp only [fieldReaders, List.mem_cons, List.not_mem_nil, or_false] at hf
  rcases hf with rfl | rfl | rfl | rfl | rfl | rfl <;> cases hset <;> exact hr

end Node

namespace Graph

variable {g g' : Graph}

section Nodes

theorem mem_all_of_get? {id : String} {n : Node} (h : g.get? id = some n) : n ∈ g.all := by
  rw [get?] at h
  split at h
  · cases h
    exact List.mem_cons_self
  · exact List.mem_cons_of_mem _ (List.mem_map_of_mem (mem_of_findEntry h))

theorem keys_nodes (g : Graph) : g.nodes.keys = g.nodes.values.map Node.id := by
  rw [Table.keys, Table.values, List.map_map]
  exact List.map_congr_left fun e he => (g.node_id e he).symm

theorem ids_all (g : Graph) : g.all.map Node.id = rootId :: g.nodes.keys := by
  rw [all, List.map_cons, g.root_id, keys_nodes]

theorem nodup_ids_all (g : Graph) : (g.all.map Node.id).Nodup := by
  rw [ids_all]
  exact List.nodup_cons.2 ⟨g.root_apart, g.nodes.nodup_keys⟩

theorem get?_id {n : Node} (h : n ∈ g.all) : g.get? n.id = some n := by
  rcases List.mem_cons.1 h with rfl | h
  · rw [g.root_id, get?_rootId]
  · obtain ⟨e, he, rfl⟩ := List.mem_map.1 h
    have key := g.node_id e he
    have apart : e.1 ≠ rootId := fun eq => g.root_apart (eq ▸ List.mem_map_of_mem he)
    rw [get?, key, if_neg apart, Table.get?_eq_some_iff]
    exact he

theorem get?_eq_some_iff {id : String} {n : Node} :
    g.get? id = some n ↔ n ∈ g.all ∧ n.id = id := by
  refine ⟨fun h => ⟨mem_all_of_get? h, id_of_get? h⟩, ?_⟩
  rintro ⟨h, rfl⟩
  exact get?_id h

end Nodes

def insertAll (g : Graph) (ns : List Node) : Graph := ns.foldl insert g

theorem all_insert {n : Node} (new : n.id ∉ g.all.map Node.id) : (g.insert n).all = g.all ++ [n] := by
  rw [ids_all, List.mem_cons, not_or] at new
  have put : (g.insert n).nodes.entries = g.nodes.entries ++ [(n.id, n)] := by
    rw [insert, dif_neg new.1]
    exact putEntry_of_notMem new.2 n
  have root : (g.insert n).root = g.root := by rw [insert, dif_neg new.1]
  rw [all, Table.values, put, root, List.map_append]
  rfl

theorem all_insertAll {ns : List Node} (apart : ((g.all ++ ns).map Node.id).Nodup) :
    (g.insertAll ns).all = g.all ++ ns := by
  induction ns generalizing g with
  | nil => rw [List.append_nil]; rfl
  | cons n ns ih =>
    have split : g.all ++ n :: ns = (g.all ++ [n]) ++ ns := by simp
    have new : n.id ∉ g.all.map Node.id := by
      rw [split, List.map_append, List.map_append] at apart
      have first := (List.nodup_append.1 apart).1
      exact fun h => (List.nodup_append.1 first).2.2 _ h _ (List.mem_singleton_self _) rfl
    have put := all_insert new
    rw [split, ← put] at apart
    rw [split, ← put]
    exact ih apart

theorem get?_insertAll_congr (ns : List Node) (same : ∀ id, g.get? id = g'.get? id) (id : String) :
    (g.insertAll ns).get? id = (g'.insertAll ns).get? id := by
  induction ns generalizing g g' with
  | nil => exact same id
  | cons n ns ih =>
    apply ih
    intro id
    rw [get?_insert, get?_insert, same]

theorem get?_insertAll_perm {ns ms : List Node} (h : ns.Perm ms) (apart : (ns.map Node.id).Nodup)
    (g : Graph) (id : String) : (g.insertAll ns).get? id = (g.insertAll ms).get? id := by
  induction h generalizing g with
  | nil => rfl
  | cons n _ ih => exact ih (List.nodup_cons.1 apart).2 (g.insert n)
  | swap n m ns =>
    have other : m.id ≠ n.id := fun same => (List.nodup_cons.1 apart).1 (same ▸ List.mem_cons_self)
    refine get?_insertAll_congr ns (fun id => ?_) id
    simp only [get?_insert]
    by_cases hn : n.id = id
    · have hm : m.id ≠ id := fun hm => other (hm.trans hn.symm)
      rw [if_pos hn, if_neg hm, if_pos hn]
    · rw [if_neg hn, if_neg hn]
  | trans first _ ih ih' =>
    rw [ih apart, ih' ((first.map Node.id).nodup_iff.1 apart)]

def entryNode? (entry : String × Json) : Option Node :=
  if entry.1 = rootId then none else (Node.read entry.1 entry.2).toOption

theorem foldl_insertEntry (g : Graph) (entries : Fields) :
    entries.foldl insertEntry g = g.insertAll (entries.filterMap entryNode?) := by
  induction entries generalizing g with
  | nil => rfl
  | cons e entries ih =>
    rw [List.foldl_cons, ih, insertEntry, List.filterMap_cons, entryNode?]
    split
    · rfl
    · cases Node.read e.1 e.2 <;> rfl

theorem id_of_entryNode? {entry : String × Json} {n : Node} (h : entryNode? entry = some n) :
    n.id = entry.1 := by
  rw [entryNode?] at h
  split at h
  · cases h
  · cases hr : Node.read entry.1 entry.2 with
    | error => rw [hr] at h; cases h
    | ok m =>
      rw [hr] at h
      cases h
      exact Node.id_of_read hr

theorem entryNode?_ne_rootId {entry : String × Json} {n : Node} (h : entryNode? entry = some n) :
    n.id ≠ rootId := by
  rw [id_of_entryNode? h]
  intro root
  rw [entryNode?, if_pos root] at h
  cases h

theorem ids_sublist (entries : Fields) :
    ((entries.filterMap entryNode?).map Node.id).Sublist (entries.map Prod.fst) := by
  induction entries with
  | nil => exact .slnil
  | cons e entries ih =>
    rw [List.filterMap_cons, List.map_cons]
    cases hn : entryNode? e with
    | none => exact ih.cons _
    | some n =>
      rw [List.map_cons, id_of_entryNode? hn]
      exact ih.cons_cons _

theorem lookup_perm {fs gs : Fields} (h : fs.Perm gs) (apart : (fs.map Prod.fst).Nodup)
    (key : String) : fs.lookup key = gs.lookup key := by
  induction h with
  | nil => rfl
  | cons f _ ih => rw [List.lookup_cons, List.lookup_cons, ih (List.nodup_cons.1 apart).2]
  | swap f f' fs =>
    have other : f'.1 ≠ f.1 := fun same => (List.nodup_cons.1 apart).1 (same ▸ List.mem_cons_self)
    rw [List.lookup_cons, List.lookup_cons, List.lookup_cons, List.lookup_cons]
    by_cases hf : key = f.1
    · have hf' : (key == f'.1) = false := beq_false_of_ne fun h => other (h.symm.trans hf)
      rw [hf']
    · rw [beq_false_of_ne hf]
  | trans first _ ih ih' =>
    rw [ih apart, ih' ((first.map Prod.fst).nodup_iff.1 apart)]

/-- The entries of an object may come in any order: the same error, or graphs with the same
nodes. -/
theorem ofEntries_perm {fs gs : Fields} (h : fs.Perm gs) (apart : (fs.map Prod.fst).Nodup) :
    Except.Related (fun g g' => ∀ id, g.get? id = g'.get? id) (ofEntries fs) (ofEntries gs) := by
  rw [ofEntries, ofEntries, lookup_perm h apart]
  cases gs.lookup rootId with
  | none => rfl
  | some record =>
    dsimp only
    cases Node.read rootId record with
    | error => rfl
    | ok root =>
      intro id
      rw [foldl_insertEntry, foldl_insertEntry]
      exact get?_insertAll_perm (h.filterMap _) (apart.sublist (ids_sublist fs)) _ id

/-- A graph that is read from entries under distinct keys has one node for each of them that can be
read, the root first. -/
theorem all_ofEntries {entries : Fields} (apart : (entries.map Prod.fst).Nodup) {root : Node}
    (hr : (entries.lookup rootId).map (Node.read rootId) = some (.ok root)) :
    ∃ g, ofEntries entries = .ok g ∧ g.all = root :: entries.filterMap entryNode? := by
  obtain ⟨record, found, read⟩ := Option.map_eq_some_iff.1 hr
  refine ⟨(withRoot root).insertAll (entries.filterMap entryNode?), ?_, ?_⟩
  · rw [ofEntries, found]
    simp only [read, foldl_insertEntry]
  · have id : root.id = rootId := Node.id_of_read read
    have start : (withRoot root).all = [root] := by
      show [{ root with id := rootId }] = [root]
      rw [← id]
    have new : rootId ∉ (entries.filterMap entryNode?).map Node.id := by
      intro h
      obtain ⟨n, hn, eq⟩ := List.mem_map.1 h
      obtain ⟨e, -, he⟩ := List.mem_filterMap.1 hn
      exact entryNode?_ne_rootId he eq
    rw [all_insertAll, start, List.singleton_append]
    rw [start, List.singleton_append, List.map_cons, id]
    exact List.nodup_cons.2 ⟨new, apart.sublist (ids_sublist entries)⟩

end Graph

end MiniApp
