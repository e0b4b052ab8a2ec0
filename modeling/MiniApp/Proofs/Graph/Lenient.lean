import MiniApp.Proofs.Graph.Entries
import MiniApp.Proofs.Json.WellFormed

set_option autoImplicit false

namespace MiniApp

/-- What a record holds under one of the names of a field, or at its place in a list. Null stands
for nothing. -/
def Json.fieldValue (place : Nat) (names : List String) : Json → Json
  | .object fields => ((fields.find? fun e => names.contains e.1).map Prod.snd).getD .null
  | .array items => items[place]?.getD .null
  | _ => .null

def Json.isString : Json → Bool
  | .string _ => true
  | _ => false

namespace Node

def secondNames : List (String × String) :=
  [("type", "typeTag"), ("children", "nodes"), ("namedSlots", "linkedNodes")]

/-- An object that holds no field by both of its names, or a list of six items at most. -/
def Readable : Json → Prop
  | .object fields => ∀ names ∈ secondNames,
      ¬ (names.1 ∈ fields.map Prod.fst ∧ names.2 ∈ fields.map Prod.fst)
  | .array items => items.length ≤ 6
  | _ => False

instance : DecidablePred Readable
  | .object fields => inferInstanceAs (Decidable (∀ names ∈ secondNames,
      ¬ (names.1 ∈ fields.map Prod.fst ∧ names.2 ∈ fields.map Prod.fst)))
  | .array items => inferInstanceAs (Decidable (items.length ≤ 6))
  | .null | .bool _ | .integer _ | .float _ | .string _ => inferInstanceAs (Decidable False)

def ofRecord (id : String) (record : Json) : Node where
  id := id
  typeTag := tagOf (record.fieldValue 0 ["type", "typeTag"])
  props := propsOf (record.fieldValue 1 ["props"])
  children := idsOf (record.fieldValue 2 ["children", "nodes"])
  slots := slotsOf (record.fieldValue 3 ["namedSlots", "linkedNodes"])
  hidden := flagOf (record.fieldValue 4 ["hidden"])
  displayName := textOf (record.fieldValue 5 ["displayName"])

open MiniApp.Field (Lenient Writes)

theorem lenient_fieldReaders : Lenient fieldReaders where
  apart := by decide
  accepts := by
    simp only [fieldReaders, List.forall_mem_cons]
    refine ⟨?_, ?_, ?_, ?_, ?_, ?_, List.forall_mem_nil _⟩ <;> exact fun v r => ⟨_, rfl⟩

theorem names_fieldReaders : fieldReaders.map Field.names =
    [["type", "typeTag"], ["props"], ["children", "nodes"], ["namedSlots", "linkedNodes"],
      ["hidden"], ["displayName"]] := rfl

theorem clash_iff {key key' : String} (other : key ≠ key') :
    Field.Clash fieldReaders key key' ↔
      ∃ names ∈ secondNames, key = names.1 ∧ key' = names.2 ∨ key = names.2 ∧ key' = names.1 := by
  have listed : Field.Clash fieldReaders key key' ↔
      ∃ names ∈ fieldReaders.map Field.names, key ∈ names ∧ key' ∈ names := by
    simp [Field.Clash]
  rw [listed, names_fieldReaders]
  simp only [secondNames, List.exists_mem_cons_iff, List.not_mem_nil, false_and, exists_false,
    or_false]
  simp only [List.mem_cons, List.not_mem_nil, or_false]
  grind

theorem readable_iff_pairwise {fields : Fields} (apart : (fields.map Prod.fst).Nodup) :
    Readable (.object fields) ↔
      fields.Pairwise fun e e' => ¬ Field.Clash fieldReaders e.1 e'.1 := by
  constructor
  · intro readable
    refine (List.pairwise_map.1 apart).imp_of_mem fun {e e'} he he' other clash => ?_
    obtain ⟨names, hn, both⟩ := (clash_iff other).1 clash
    have first : e.1 ∈ fields.map Prod.fst := List.mem_map_of_mem he
    have second : e'.1 ∈ fields.map Prod.fst := List.mem_map_of_mem he'
    rcases both with ⟨h, h'⟩ | ⟨h, h'⟩
    · exact readable names hn ⟨h ▸ first, h' ▸ second⟩
    · exact readable names hn ⟨h' ▸ second, h ▸ first⟩
  · rintro pairwise names hn ⟨first, second⟩
    obtain ⟨e, he, key⟩ := List.mem_map.1 first
    obtain ⟨e', he', key'⟩ := List.mem_map.1 second
    have symm : Std.Symm fun e e' : String × Json => ¬ Field.Clash fieldReaders e.1 e'.1 :=
      ⟨fun _ _ h ⟨f, hf, hk, hk'⟩ => h ⟨f, hf, hk', hk⟩⟩
    have distinct : ∀ names ∈ secondNames, names.1 ≠ names.2 := by decide
    have other : e.1 ≠ e'.1 := key ▸ key' ▸ distinct names hn
    refine pairwise.forall he he' (fun eq => other (congrArg Prod.fst eq)) ?_
    exact (clash_iff other).2 ⟨names, hn, .inl ⟨key, key'⟩⟩

theorem part_of_read {α : Type} (part : Node → α) (value : Json → α) (place : Nat) {f : Field Node}
    (hf : fieldReaders[place]? = some f)
    (own : ∀ v n n', f.set v n = .ok n' → part n' = value v)
    (others : ∀ f' ∈ fieldReaders, f'.name ≠ f.name → ∀ v n n', f'.set v n = .ok n' →
      part n' = part n)
    {id : String} (absent : part (bare id "") = value .null) {record : Json} {n : Node}
    (h : read id record = .ok n) : part n = value (record.fieldValue place f.names) := by
  have writes : Writes fieldReaders f part value := ⟨List.mem_of_getElem? hf, own, others⟩
  cases record with
  | object fields =>
    rw [lenient_fieldReaders.part_readObject writes h, absent, Json.fieldValue]
    cases fields.find? fun e => f.names.contains e.1 <;> rfl
  | array items =>
    rw [Field.part_readList (by decide) writes hf h, absent, Json.fieldValue]
    cases items[place]? <;> rfl
  | _ => cases h

theorem eq_ofRecord_of_read {id : String} {record : Json} {n : Node} (h : read id record = .ok n) :
    n = ofRecord id record := by
  have key := id_of_read h
  have tag := part_of_read typeTag tagOf 0 rfl (by simp) (by simp [fieldReaders]) rfl h
  have bag := part_of_read props propsOf 1 rfl (by simp) (by simp [fieldReaders]) rfl h
  have list := part_of_read children idsOf 2 rfl (by simp) (by simp [fieldReaders]) rfl h
  have table := part_of_read slots slotsOf 3 rfl (by simp) (by simp [fieldReaders]) rfl h
  have flag := part_of_read hidden flagOf 4 rfl (by simp) (by simp [fieldReaders]) rfl h
  have label := part_of_read displayName textOf 5 rfl (by simp) (by simp [fieldReaders]) rfl h
  cases n
  dsimp only at key tag bag list table flag label
  subst key tag bag list table flag label
  rfl

/-- Which records can be read depends on the keys of an object and the length of a list alone. -/
theorem exists_read_iff {id : String} {record : Json} (wf : record.WellFormed) :
    (∃ n, read id record = .ok n) ↔ Readable record := by
  cases record with
  | object fields =>
    rw [readable_iff_pairwise wf.keys.nodup_keys]
    refine lenient_fieldReaders.readObject_iff.trans (and_iff_right ?_)
    exact fun _ _ _ _ _ => List.not_mem_nil
  | array items => exact lenient_fieldReaders.readList_iff
  | _ => exact iff_of_false (fun ⟨_, h⟩ => nomatch h) fun h => h

theorem read_of_readable {id : String} {record : Json} (wf : record.WellFormed)
    (h : Readable record) : read id record = .ok (ofRecord id record) := by
  obtain ⟨n, hn⟩ := (exists_read_iff wf).2 h
  rw [hn, eq_ofRecord_of_read hn]

theorem read_of_unreadable (id : String) {record : Json} (wf : record.WellFormed)
    (h : ¬ Readable record) : ∃ reason, read id record = .error reason := by
  cases hr : read id record with
  | error reason => exact ⟨reason, rfl⟩
  | ok n => exact absurd ((exists_read_iff wf).1 ⟨n, hr⟩) h

theorem exists_read_of_keys {id : String} {fields fields' : Fields}
    (keys : fields'.map Prod.fst = fields.map Prod.fst)
    (h : ∃ n, read id (.object fields) = .ok n) : ∃ n, read id (.object fields') = .ok n := by
  have pairwise := (lenient_fieldReaders.readObject_iff.1 h).2
  refine lenient_fieldReaders.readObject_iff.2 ⟨fun _ _ _ _ _ => List.not_mem_nil, ?_⟩
  rw [← List.pairwise_map (R := fun key key' => ¬ Field.Clash fieldReaders key key')] at pairwise ⊢
  rwa [keys]

/-- The node `n` holds what the record says, as far as the record says it in the right shape: any
other value of a field counts as absent, and so does a child or the target of a slot that is not a
string. -/
structure Describes (record : Json) (n : Node) : Prop where
  tag : ∀ t, record.fieldValue 0 ["type", "typeTag"] = .string t → n.typeTag = t
  resolved : ∀ fields t, record.fieldValue 0 ["type", "typeTag"] = .object fields →
    ("resolvedName", .string t) ∈ fields → n.typeTag = t
  untagged : (∀ t, record.fieldValue 0 ["type", "typeTag"] ≠ .string t) →
    (∀ fields t, record.fieldValue 0 ["type", "typeTag"] = .object fields →
      ("resolvedName", .string t) ∉ fields) → n.typeTag = ""
  props : ∀ fields, record.fieldValue 1 ["props"] = .object fields → n.props = fields
  no_props : (∀ fields, record.fieldValue 1 ["props"] ≠ .object fields) → n.props = []
  children : ∀ items, record.fieldValue 2 ["children", "nodes"] = .array items →
    n.children.map .string = items.filter Json.isString
  no_children : (∀ items, record.fieldValue 2 ["children", "nodes"] ≠ .array items) →
    n.children = []
  slots : ∀ fields, record.fieldValue 3 ["namedSlots", "linkedNodes"] = .object fields →
    n.slots.entries.map (fun s => (s.1, .string s.2)) = fields.filter fun e => e.2.isString
  no_slots : (∀ fields, record.fieldValue 3 ["namedSlots", "linkedNodes"] ≠ .object fields) →
    n.slots.entries = []
  hidden : n.hidden = true ↔ record.fieldValue 4 ["hidden"] = .bool true
  label : ∀ name, n.displayName = some name ↔ record.fieldValue 5 ["displayName"] = .string name

theorem map_idsOf (items : List Json) :
    (idsOf (.array items)).map .string = items.filter Json.isString := by
  induction items with
  | nil => rfl
  | cons v items ih =>
    rw [idsOf] at ih ⊢
    cases v with
    | string id => exact congrArg (Json.string id :: ·) ih
    | _ => exact ih

def slotTarget? : String × Json → Option (String × String)
  | (name, .string id) => some (name, id)
  | _ => none

theorem slotsOf_object (fields : Fields) :
    slotsOf (.object fields) = .ofList (fields.filterMap slotTarget?) := rfl

theorem map_slotTarget? (fields : Fields) :
    (fields.filterMap slotTarget?).map (fun s => (s.1, .string s.2)) =
      fields.filter fun e => e.2.isString := by
  induction fields with
  | nil => rfl
  | cons e fields ih =>
    obtain ⟨name, v⟩ := e
    cases v with
    | string id => exact congrArg ((name, Json.string id) :: ·) ih
    | _ => exact ih

theorem entries_slotsOf {fields : Fields} (apart : (fields.map Prod.fst).Nodup) :
    (slotsOf (.object fields)).entries.map (fun s => (s.1, .string s.2)) =
      fields.filter fun e => e.2.isString := by
  have kept := map_slotTarget? fields
  have keys := congrArg (List.map Prod.fst) kept
  rw [List.map_map] at keys
  rw [slotsOf_object, Table.entries_ofList, kept]
  exact keys ▸ apart.sublist (List.filter_sublist.map _)

theorem wellFormed_fieldValue {record : Json} (wf : record.WellFormed) (place : Nat)
    (names : List String) : (record.fieldValue place names).WellFormed := by
  cases record with
  | object fields =>
    rw [Json.fieldValue]
    cases found : fields.find? fun e => names.contains e.1 with
    | none => exact .null
    | some e => exact wf.values e (List.mem_of_find?_eq_some found)
  | array items =>
    rw [Json.fieldValue]
    cases found : items[place]? with
    | none => exact .null
    | some v => exact wf.items v (List.mem_of_getElem? found)
  | _ => exact .null

theorem tagOf_object {fields : Fields} {t : String}
    (h : fields.lookup "resolvedName" = some (.string t)) : tagOf (.object fields) = t := by
  rw [tagOf, h]

theorem tagOf_eq_empty {v : Json} (noString : ∀ t, v ≠ .string t)
    (noName : ∀ fields t, v = .object fields →
      fields.lookup "resolvedName" ≠ some (.string t)) : tagOf v = "" := by
  cases v with
  | string t => exact absurd rfl (noString t)
  | object fields =>
    rw [tagOf]
    split
    · next t ht => exact absurd ht (noName fields t rfl)
    · rfl
  | _ => rfl

theorem describes_ofRecord (id : String) {record : Json} (wf : record.WellFormed) :
    Describes record (ofRecord id record) := by
  have part_wf := wellFormed_fieldValue wf
  constructor <;> dsimp only [ofRecord]
  case tag => intro t h; rw [h]; rfl
  case resolved =>
    intro fields t h ht
    have apart := (h ▸ part_wf 0 ["type", "typeTag"]).keys.nodup_keys
    rw [h, tagOf_object ((lookup_eq_some_iff apart).2 ht)]
  case untagged =>
    intro noString noName
    refine tagOf_eq_empty noString fun fields t h ht => noName fields t h ?_
    have apart := (h ▸ part_wf 0 ["type", "typeTag"]).keys.nodup_keys
    exact (lookup_eq_some_iff apart).1 ht
  case props => intro fields h; rw [h]; rfl
  case children => intro items h; rw [h, map_idsOf]
  case slots =>
    intro fields h
    rw [h, entries_slotsOf (h ▸ part_wf 3 ["namedSlots", "linkedNodes"]).keys.nodup_keys]
  all_goals
    generalize record.fieldValue _ _ = v
    cases v <;> simp [propsOf, idsOf, slotsOf, flagOf, textOf, Table.empty]

end Node

namespace Graph

/-- The entries that give a node beside the root. -/
def otherEntries (entries : Fields) : Fields :=
  entries.filter fun e => decide (e.1 ≠ rootId ∧ Node.Readable e.2)

theorem entryNode?_of_wellFormed {e : String × Json} (wf : e.2.WellFormed) :
    entryNode? e =
      if e.1 ≠ rootId ∧ Node.Readable e.2 then some (Node.ofRecord e.1 e.2) else none := by
  rw [entryNode?]
  by_cases root : e.1 = rootId
  · rw [if_pos root, if_neg fun h => h.1 root]
  rw [if_neg root]
  by_cases readable : Node.Readable e.2
  · rw [if_pos ⟨root, readable⟩, Node.read_of_readable wf readable]
    rfl
  · obtain ⟨reason, refused⟩ := Node.read_of_unreadable e.1 wf readable
    rw [if_neg fun h => readable h.2, refused]
    rfl

theorem filterMap_entryNode? {entries : Fields} (wf : ∀ e ∈ entries, e.2.WellFormed) :
    entries.filterMap entryNode? =
      (otherEntries entries).map fun e => Node.ofRecord e.1 e.2 := by
  rw [otherEntries, ← List.filterMap_eq_map, List.filterMap_filter]
  refine List.filterMap_congr fun e he => ?_
  rw [entryNode?_of_wellFormed (wf e he)]
  by_cases h : e.1 ≠ rootId ∧ Node.Readable e.2
  · rw [if_pos h, if_pos (decide_eq_true h)]
    rfl
  · rw [if_neg h, decide_eq_false h, if_neg Bool.false_ne_true]

section Entries

variable {entries : Fields} (wf : (Json.object entries).WellFormed)

theorem ofEntries_of_notMem (absent : rootId ∉ entries.map Prod.fst) :
    ofEntries entries = .error .missingRoot := by
  have unfound : entries.lookup rootId = none := by
    rw [List.lookup_eq_none_iff]
    intro e he
    exact bne_iff_ne.2 fun same => absent (same ▸ List.mem_map_of_mem he)
  rw [ofEntries, unfound]

include wf

theorem ofEntries_of_unreadable {record : Json} (listed : (rootId, record) ∈ entries)
    (unreadable : ¬ Node.Readable record) :
    ∃ reason, ofEntries entries = .error (.invalidRoot reason) := by
  obtain ⟨reason, refused⟩ :=
    Node.read_of_unreadable rootId (wf.values _ listed) unreadable
  refine ⟨reason, ?_⟩
  rw [ofEntries, (lookup_eq_some_iff wf.keys.nodup_keys).2 listed]
  simp only [refused]

theorem ofEntries_of_readable {record : Json} (listed : (rootId, record) ∈ entries)
    (readable : Node.Readable record) :
    ∃ g, ofEntries entries = .ok g ∧
      g.all = ((rootId, record) :: otherEntries entries).map fun e => Node.ofRecord e.1 e.2 := by
  have root : (entries.lookup rootId).map (Node.read rootId) =
      some (.ok (Node.ofRecord rootId record)) := by
    rw [(lookup_eq_some_iff wf.keys.nodup_keys).2 listed, Option.map_some,
      Node.read_of_readable (wf.values _ listed) readable]
  obtain ⟨g, read, all⟩ := all_ofEntries wf.keys.nodup_keys root
  exact ⟨g, read, by rw [all, filterMap_entryNode? wf.values, List.map_cons]⟩

/-- A graph is not read for one of two reasons: there is no root, or its record cannot be read. -/
theorem ofEntries_cases :
    (rootId ∉ entries.map Prod.fst ∧ ofEntries entries = .error .missingRoot) ∨
    ∃ record, (rootId, record) ∈ entries ∧
      (¬ Node.Readable record ∧ (∃ reason, ofEntries entries = .error (.invalidRoot reason)) ∨
        Node.Readable record ∧ ∃ g, ofEntries entries = .ok g) := by
  by_cases rooted : rootId ∈ entries.map Prod.fst
  · obtain ⟨⟨key, record⟩, listed, rfl⟩ := List.mem_map.1 rooted
    refine .inr ⟨record, listed, ?_⟩
    by_cases readable : Node.Readable record
    · obtain ⟨g, read, -⟩ := ofEntries_of_readable wf listed readable
      exact .inr ⟨readable, g, read⟩
    · exact .inl ⟨readable, ofEntries_of_unreadable wf listed readable⟩
  · exact .inl ⟨rooted, ofEntries_of_notMem rooted⟩

theorem ofEntries_eq_invalidRoot_iff :
    (∃ reason, ofEntries entries = .error (.invalidRoot reason)) ↔
      ∃ record, (rootId, record) ∈ entries ∧ ¬ Node.Readable record := by
  refine ⟨?_, fun ⟨record, listed, unreadable⟩ => ofEntries_of_unreadable wf listed unreadable⟩
  rintro ⟨reason, refused⟩
  rcases ofEntries_cases wf with ⟨-, missing⟩ | ⟨record, listed, ⟨unreadable, -⟩ | ⟨-, g, read⟩⟩
  · rw [missing] at refused
    cases refused
  · exact ⟨record, listed, unreadable⟩
  · rw [read] at refused
    cases refused

theorem ofEntries_eq_missingRoot_iff :
    ofEntries entries = .error .missingRoot ↔ rootId ∉ entries.map Prod.fst := by
  refine ⟨fun refused => ?_, ofEntries_of_notMem⟩
  rcases ofEntries_cases wf with ⟨absent, -⟩ | ⟨-, -, ⟨-, _, invalid⟩ | ⟨-, g, read⟩⟩
  · exact absent
  · rw [invalid] at refused
    cases refused
  · rw [read] at refused
    cases refused

theorem ofEntries_ne_notAnObject (found : String) :
    ofEntries entries ≠ .error (.notAnObject found) := by
  rcases ofEntries_cases wf with ⟨-, missing⟩ | ⟨-, -, ⟨-, _, invalid⟩ | ⟨-, g, read⟩⟩
  · rw [missing]
    exact fun h => nomatch h
  · rw [invalid]
    exact fun h => nomatch h
  · rw [read]
    exact fun h => nomatch h

theorem mem_all_of_ofEntries {g : Graph} (h : ofEntries entries = .ok g) {n : Node} :
    n ∈ g.all ↔ ∃ e ∈ entries, Node.Readable e.2 ∧ Node.ofRecord e.1 e.2 = n := by
  rcases ofEntries_cases wf with ⟨-, missing⟩ | ⟨record, listed, ⟨-, _, invalid⟩ | ⟨readable, -⟩⟩
  · rw [missing] at h
    cases h
  · rw [invalid] at h
    cases h
  obtain ⟨g', read, all⟩ := ofEntries_of_readable wf listed readable
  obtain rfl : g' = g := Except.ok.inj (read.symm.trans h)
  rw [all, List.mem_map]
  refine exists_congr fun e => ?_
  rw [← and_assoc, otherEntries, List.mem_cons, List.mem_filter, decide_eq_true_iff]
  refine and_congr_left fun _ => ⟨?_, ?_⟩
  · rintro (rfl | ⟨he, -, here⟩)
    · exact ⟨listed, readable⟩
    · exact ⟨he, here⟩
  · rintro ⟨he, here⟩
    by_cases root : e.1 = rootId
    · have first := (lookup_eq_some_iff wf.keys.nodup_keys).2 listed
      have again := (lookup_eq_some_iff wf.keys.nodup_keys).2 (root ▸ he : (rootId, e.2) ∈ entries)
      exact .inl (Prod.ext root (Option.some.inj (again.symm.trans first)))
    · exact .inr ⟨he, root, here⟩

theorem ofEntries_filter {keep : String × Json → Bool}
    (dropped : ∀ e ∈ entries, keep e = false → e.1 ≠ rootId ∧ ¬ Node.Readable e.2) :
    ofEntries (entries.filter keep) = ofEntries entries := by
  have apart := wf.keys.nodup_keys
  have root : (entries.filter keep).lookup rootId = entries.lookup rootId := by
    refine Option.ext fun record => ?_
    rw [lookup_eq_some_iff apart,
      lookup_eq_some_iff (apart.sublist (List.filter_sublist.map _)), List.mem_filter,
      and_iff_left_iff_imp]
    intro listed
    by_contra gone
    exact (dropped _ listed (Bool.not_eq_true _ ▸ gone)).1 rfl
  have others : (entries.filter keep).filterMap entryNode? = entries.filterMap entryNode? := by
    rw [List.filterMap_filter]
    refine List.filterMap_congr fun e he => ?_
    cases kept : keep e with
    | true => rfl
    | false =>
      have unreadable := (dropped e he kept).2
      rw [entryNode?_of_wellFormed (wf.values e he), if_neg Bool.false_ne_true,
        if_neg fun h => unreadable h.2]
  rw [ofEntries, ofEntries, root]
  simp only [foldl_insertEntry, others]

end Entries

/-- Which values can be read as graphs, and what comes of them: an object whose root can be read is
a graph of one node for each record that can be read, under its key and as the record describes it.
Whether a record can be read is up to its keys or its length, and not to the values it holds; the
records that cannot be read have no effect, the root's aside. -/
theorem ofJson_lenient {v : Json} (wf : v.WellFormed) (value : v.isString = false) :
    ((∃ found, ofJson v = .error (.notAnObject found)) ↔ ∀ entries, v ≠ .object entries) ∧
    (∀ entries, v = .object entries →
      ((∃ reason, ofJson v = .error (.invalidRoot reason)) ↔
        ∃ record, (rootId, record) ∈ entries ∧ ¬ Node.Readable record) ∧
      (ofJson v = .error .missingRoot ↔ rootId ∉ entries.map Prod.fst) ∧
      (∀ record, (rootId, record) ∈ entries → Node.Readable record →
        ∃ g, ofJson v = .ok g ∧
          List.Forall₂ (fun e n => n.id = e.1 ∧ n.Describes e.2)
            ((rootId, record) :: otherEntries entries) g.all) ∧
      ∀ keep : String × Json → Bool,
        (∀ e ∈ entries, keep e = false → e.1 ≠ rootId ∧ ¬ Node.Readable e.2) →
        ofJson (.object (entries.filter keep)) = ofJson v) ∧
    (∀ id (record : Json), record.WellFormed →
      ((∃ n, Node.read id record = .ok n) ↔ Node.Readable record)) ∧
    ∀ id (fields fields' : Fields), fields'.map Prod.fst = fields.map Prod.fst →
      (∃ n, Node.read id (.object fields) = .ok n) →
      ∃ n, Node.read id (.object fields') = .ok n := by
  refine ⟨?_, ?_, fun id record => Node.exists_read_iff, fun id _ _ => Node.exists_read_of_keys⟩
  · cases v with
    | object entries =>
      exact iff_of_false (fun ⟨found, refused⟩ => ofEntries_ne_notAnObject wf found refused)
        fun h => h entries rfl
    | string text => cases value
    | _ => exact iff_of_true ⟨_, rfl⟩ fun _ h => nomatch h
  · rintro entries rfl
    refine ⟨ofEntries_eq_invalidRoot_iff wf, ofEntries_eq_missingRoot_iff wf, ?_,
      fun keep dropped => ofEntries_filter wf dropped⟩
    intro record listed readable
    obtain ⟨g, read, all⟩ := ofEntries_of_readable wf listed readable
    refine ⟨g, read, ?_⟩
    rw [all, List.forall₂_map_right_iff, List.forall₂_same]
    intro e he
    refine ⟨rfl, Node.describes_ofRecord e.1 (wf.values e ?_)⟩
    rcases List.mem_cons.1 he with rfl | he
    · exact listed
    · exact List.mem_of_mem_filter he

/-- A graph with a child whose tag is in an object, one that gives its tag twice and one that is no
record at all. -/
theorem ofJson_lenient_children :
    let root : Json := .object [("children", .array [.string "a", .null, .string "b"]),
      ("hidden", .string "true"), ("type", .string "Container")]
    let a : Json := .object [("linkedNodes", .array []),
      ("type", .object [("resolvedName", .string "Text")])]
    let b : Json := .object [("type", .string "Text"), ("typeTag", .string "Text")]
    let v : Json := .object [("ROOT", root), ("a", a), ("b", b), ("c", .integer 1)]
    v.WellFormed ∧ v.isString = false ∧
      (∃ g, ofJson v = .ok g ∧
        g.all.map (fun n => (n.id, n.typeTag)) = [("ROOT", "Container"), ("a", "Text")]) ∧
      ofJson (.object [("ROOT", root), ("a", a)]) = ofJson v := by
  intro root a b v
  have wf : v.WellFormed := by
    have text (s : String) : (Json.string s).WellFormed := .string s
    have list : (Json.array [.string "a", .null, .string "b"]).WellFormed :=
      .array (by simp [text, Json.WellFormed.null])
    have root_wf : root.WellFormed := .object (by decide) (by simp [text, list])
    have name_wf : (Json.object [("resolvedName", .string "Text")]).WellFormed :=
      .object (by decide) (by simp [text])
    have a_wf : a.WellFormed := .object (by decide) (by
      simp [name_wf, Json.WellFormed.array])
    have b_wf : b.WellFormed := .object (by decide) (by simp [text])
    exact .object (by decide) (by simp [root_wf, a_wf, b_wf, Json.WellFormed.integer])
  obtain ⟨-, object, -⟩ := ofJson_lenient wf rfl
  obtain ⟨-, -, read, dropped⟩ := object _ rfl
  obtain ⟨g, read, shown⟩ := read root (by decide) (by decide)
  refine ⟨wf, rfl, ⟨g, read, ?_⟩, dropped (fun e => decide (Node.Readable e.2)) (by decide)⟩
  have others : otherEntries [("ROOT", root), ("a", a), ("b", b), ("c", .integer 1)] = [("a", a)] := by
    decide
  rw [others] at shown
  generalize g.all = ns at shown ⊢
  rcases shown with _ | ⟨⟨root_id, root_says⟩, _ | ⟨⟨a_id, a_says⟩, ⟨⟩⟩⟩
  rw [List.map_cons, List.map_cons, List.map_nil, root_id, a_id, root_says.tag "Container" rfl,
    a_says.resolved _ "Text" rfl List.mem_cons_self]
  rfl

end Graph

end MiniApp
