import MiniApp.Page
import MiniApp.Proofs.Graph.Lenient

set_option autoImplicit false

namespace MiniApp

namespace Json

mutual

/-- The same value with the fields of its objects in order. -/
def sorted : Json → Json
  | .array items => .array (sortedItems items)
  | .object fields => .object (sortFields (sortedFields fields))
  | v => v

def sortedItems : List Json → List Json
  | [] => []
  | v :: items => sorted v :: sortedItems items

def sortedFields : Fields → Fields
  | [] => []
  | (key, v) :: fields => (key, sorted v) :: sortedFields fields

end

/-- The text of a value is read as that value. -/
def ReadsBack (v : Json) : Prop := read v.text = .ok v.sorted

instance : DecidablePred ReadsBack :=
  fun v => inferInstanceAs (Decidable (read v.text = .ok v.sorted))

theorem sortedItems_eq (items : List Json) : sortedItems items = items.map sorted := by
  induction items with
  | nil => rfl
  | cons v items ih => rw [sortedItems, ih, List.map_cons]

theorem sortedFields_eq (fields : Fields) :
    sortedFields fields = fields.map fun f => (f.1, f.2.sorted) := by
  induction fields with
  | nil => rfl
  | cons f fields ih => rw [sortedFields, ih, List.map_cons]

theorem WellFormed.sorted_eq {v : Json} (h : v.WellFormed) : v.sorted = v := by
  induction h with
  | @array items _ ih =>
    rw [sorted, sortedItems_eq, List.map_congr_left ih, List.map_id']
  | @object fields keys _ ih =>
    have same : fields.map (fun f => (f.1, f.2.sorted)) = fields :=
      (List.map_congr_left fun f hf => congrArg (Prod.mk f.1) (ih f hf)).trans (List.map_id' _)
    rw [sorted, sortedFields_eq, same, sortFields_of_ascending keys]
  | _ => rfl

end Json

namespace Node

def sortedFields (n : Node) : Fields :=
  [("children", .array (n.children.map .string))] ++
    (n.displayName.toList.map fun name => ("displayName", .string name)) ++
    [("hidden", .bool n.hidden),
      ("namedSlots", .object ((sortFields n.slots.entries).map fun s => (s.1, .string s.2))),
      ("props", .object n.props), ("type", .string n.typeTag)]

def sortedKeys (labelled : Bool) : List String :=
  ["children"] ++ (if labelled then ["displayName"] else []) ++
    ["hidden", "namedSlots", "props", "type"]

theorem keys_sortedFields (n : Node) :
    n.sortedFields.map Prod.fst = sortedKeys n.displayName.isSome := by
  rw [sortedFields]
  cases n.displayName <;> rfl

theorem ascending_sortedFields (n : Node) : Ascending n.sortedFields := by
  have ordered : ∀ labelled, (sortedKeys labelled).Pairwise (· < ·) := by decide
  rw [ascending_iff_keys, keys_sortedFields]
  exact ordered _

theorem toJson_eq (n : Node) : n.toJson = .object n.sortedFields := by
  rw [toJson, sortFields_of_perm _ n.ascending_sortedFields]
  rw [recordFields, sortedFields, List.perm_iff_count]
  intro f
  simp only [List.count_append, List.count_cons, List.count_nil]
  omega

theorem readable_toJson (n : Node) : Readable n.toJson := by
  have apart : ∀ labelled, ∀ names ∈ secondNames,
      ¬ (names.1 ∈ sortedKeys labelled ∧ names.2 ∈ sortedKeys labelled) := by decide
  rw [toJson_eq, Readable, keys_sortedFields]
  exact apart _

theorem wellFormed_propsOf {v : Json} (wf : v.WellFormed) : (Json.object (propsOf v)).WellFormed := by
  cases v with
  | object fields => exact wf
  | _ => exact Json.wellFormed_object_nil

theorem wellFormed_ids (ids : List String) : (Json.array (ids.map .string)).WellFormed := by
  refine .array fun v hv => ?_
  obtain ⟨id, -, rfl⟩ := List.mem_map.1 hv
  exact .string id

theorem wellFormed_toJson {n : Node} (props : (Json.object n.props).WellFormed) :
    n.toJson.WellFormed := by
  rw [toJson_eq]
  refine .object n.ascending_sortedFields fun f hf => ?_
  have table : (Json.object ((sortFields n.slots.entries).map fun s =>
      (s.1, .string s.2))).WellFormed := by
    refine .object (List.pairwise_map.2 (ascending_sortFields _)) fun e he => ?_
    obtain ⟨s, -, rfl⟩ := List.mem_map.1 he
    exact .string s.2
  simp only [sortedFields, List.mem_append, List.mem_cons, List.mem_map, List.not_mem_nil,
    or_false] at hf
  rcases hf with (rfl | ⟨name, -, rfl⟩) | rfl | rfl | rfl | rfl
  · exact wellFormed_ids n.children
  · exact .string name
  · exact .bool n.hidden
  · exact table
  · exact props
  · exact .string n.typeTag

theorem idsOf_map (ids : List String) : idsOf (.array (ids.map .string)) = ids := by
  rw [idsOf, List.filterMap_map]
  exact List.filterMap_some

theorem slotsOf_map (slots : List (String × String)) :
    slotsOf (.object (slots.map fun s => (s.1, .string s.2))) = .ofList slots := by
  rw [slotsOf_object, List.filterMap_map]
  exact congrArg Table.ofList List.filterMap_some

theorem ofRecord_toJson (id : String) (n : Node) :
    ofRecord id n.toJson = { n with id := id, slots := .ofList (sortFields n.slots.entries) } := by
  rw [toJson_eq]
  have label : textOf ((Json.object n.sortedFields).fieldValue 5 ["displayName"]) =
      n.displayName := by
    rw [sortedFields]
    cases n.displayName <;> rfl
  have list : idsOf ((Json.object n.sortedFields).fieldValue 2 ["children", "nodes"]) =
      n.children := idsOf_map n.children
  have table : slotsOf ((Json.object n.sortedFields).fieldValue 3 ["namedSlots", "linkedNodes"]) =
      .ofList (sortFields n.slots.entries) := by
    rw [sortedFields]
    cases n.displayName <;> exact slotsOf_map _
  rw [ofRecord, label, list, table]
  cases n with
  | mk _ _ _ _ _ _ displayName => cases displayName <;> rfl

theorem ofRecord_toJson_agrees {n : Node} (props : (Json.object n.props).WellFormed) :
    (ofRecord n.id n.toJson).agrees n = true := by
  have same : Json.fieldsAgree n.props n.props = true :=
    Json.fieldsAgree_self fun f hf => (props.values f hf).agrees_self
  have slots : (Table.ofList (sortFields n.slots.entries)).agrees (· == ·) n.slots = true := by
    refine Table.agrees_of_perm beq_self_eq_true ?_
    rw [Table.entries_ofList (ascending_sortFields _).nodup_keys]
    exact sortFields_perm n.slots.nodup_keys
  rw [ofRecord_toJson, agrees]
  simp [same, slots]

theorem sorted_record {n : Node} (props : (Json.object n.props).WellFormed) :
    n.record.sorted = n.toJson := by
  have list : (Json.array (n.children.map .string)).sorted = .array (n.children.map .string) :=
    (wellFormed_ids n.children).sorted_eq
  have table : (Json.object (n.slots.entries.map fun s => (s.1, .string s.2))).sorted =
      .object ((sortFields n.slots.entries).map fun s => (s.1, .string s.2)) := by
    rw [Json.sorted, Json.sortedFields_eq, List.map_map]
    exact congrArg Json.object (sortFields_map Json.string n.slots.entries)
  have fields : Json.sortedFields (n.recordFields n.slots.entries) =
      n.recordFields (sortFields n.slots.entries) := by
    rw [Json.sortedFields_eq, recordFields, recordFields, List.map_append, List.map_map]
    simp only [List.map_cons, List.map_nil, list, table, props.sorted_eq]
    rfl
  rw [record, Json.sorted, fields, toJson]

end Node

namespace Graph

variable {g g' : Graph}

/-- The graphs that can be put together: by reading, and from nodes whose properties are JSON. -/
inductive Built : Graph → Prop
  | new : Built .new
  | withRoot {n : Node} (props : (Json.object n.props).WellFormed) : Built (.withRoot n)
  | ofJson {v : Json} {g : Graph} (wf : v.WellFormed) (read : Graph.ofJson v = .ok g) : Built g
  | insert {g : Graph} {n : Node} (built : Built g) (props : (Json.object n.props).WellFormed) :
      Built (g.insert n)

theorem props_of_ofObject {v : Json} (wf : v.WellFormed) (h : ofObject v = .ok g) :
    ∀ n ∈ g.all, (Json.object n.props).WellFormed := by
  cases v with
  | object entries =>
    intro n hn
    obtain ⟨e, he, -, rfl⟩ := (mem_all_of_ofEntries wf h).1 hn
    exact Node.wellFormed_propsOf (Node.wellFormed_fieldValue (wf.values e he) 1 ["props"])
  | _ => cases h

theorem Built.props (h : Built g) : ∀ n ∈ g.all, (Json.object n.props).WellFormed := by
  induction h with
  | new => exact List.forall_mem_singleton.2 Json.wellFormed_object_nil
  | withRoot props => exact List.forall_mem_singleton.2 props
  | @ofJson v g wf read =>
    cases v with
    | string text =>
      rw [Graph.ofJson] at read
      split at read
      · cases read
      · next hr => exact props_of_ofObject (Json.wellFormed_read hr) read
    | _ => exact props_of_ofObject wf read
  | @insert g n _ props ih =>
    intro m hm
    have found := get?_id hm
    rw [get?_insert] at found
    split at found
    · cases found
      exact props
    · exact ih m (mem_all_of_get? found)

theorem agrees_of_get?
    (h : ∀ id, Option.Rel (fun n n' => n.agrees n' = true) (g.get? id) (g'.get? id)) :
    g.agrees g' = true := by
  rw [agrees, Bool.and_eq_true, Table.agrees_iff]
  constructor
  · have root := h rootId
    rw [get?_rootId, get?_rootId] at root
    cases root with
    | some same => exact same
  · intro id
    by_cases root : id = rootId
    · have absent (g : Graph) : g.nodes.get? id = none := by
        rw [← Option.not_isSome_iff_eq_none, ← Table.mem_keys_iff, root]
        exact g.root_apart
      rw [absent, absent]
      exact .none
    · have here := h id
      rwa [get?, get?, if_neg root, if_neg root] at here

section Written

variable (props : ∀ n ∈ g.all, (Json.object n.props).WellFormed)

theorem toJson_perm (g : Graph) :
    (sortFields (g.all.map fun n => (n.id, n.toJson))).Perm (g.all.map fun n => (n.id, n.toJson)) := by
  refine sortFields_perm ?_
  rw [List.map_map]
  exact g.nodup_ids_all

include props

theorem wellFormed_toJson : g.toJson.WellFormed := by
  refine .object (ascending_sortFields _) fun e he => ?_
  obtain ⟨n, hn, rfl⟩ := List.mem_map.1 (g.toJson_perm.subset he)
  exact Node.wellFormed_toJson (props n hn)

/-- What is written is read back node by node. -/
theorem exists_ofJson_toJson :
    ∃ g', ofJson g.toJson = .ok g' ∧
      ∀ id, g'.get? id = (g.get? id).map fun n => Node.ofRecord n.id n.toJson := by
  have wf := wellFormed_toJson props
  have listed (e : String × Json) :
      e ∈ sortFields (g.all.map fun n => (n.id, n.toJson)) ↔ ∃ n ∈ g.all, (n.id, n.toJson) = e := by
    rw [g.toJson_perm.mem_iff, List.mem_map]
  have root : (rootId, g.root.toJson) ∈ sortFields (g.all.map fun n => (n.id, n.toJson)) :=
    (listed _).2 ⟨g.root, List.mem_cons_self, by rw [g.root_id]⟩
  obtain ⟨g', read, -⟩ := ofEntries_of_readable wf root g.root.readable_toJson
  refine ⟨g', read, fun id => Option.ext fun m => ?_⟩
  rw [get?_eq_some_iff, mem_all_of_ofEntries wf read, Option.map_eq_some_iff]
  constructor
  · rintro ⟨⟨e, he, -, rfl⟩, rfl⟩
    obtain ⟨n, hn, rfl⟩ := (listed e).1 he
    exact ⟨n, get?_id hn, rfl⟩
  · rintro ⟨n, hn, rfl⟩
    obtain ⟨member, rfl⟩ := get?_eq_some_iff.1 hn
    exact ⟨⟨_, (listed _).2 ⟨n, member, rfl⟩, n.readable_toJson, rfl⟩, rfl⟩

theorem exists_agrees_toJson : ∃ g', ofJson g.toJson = .ok g' ∧ g'.agrees g = true := by
  obtain ⟨g', read, found⟩ := exists_ofJson_toJson props
  refine ⟨g', read, agrees_of_get? fun id => ?_⟩
  rw [found id]
  cases hn : g.get? id with
  | none => exact .none
  | some n => exact .some (Node.ofRecord_toJson_agrees (props n (mem_all_of_get? hn)))

theorem sorted_record : g.record.sorted = g.toJson := by
  have records : (g.all.map fun n => (n.id, n.record)).map (fun f => (f.1, f.2.sorted)) =
      g.all.map fun n => (n.id, n.toJson) := by
    rw [List.map_map]
    exact List.map_congr_left fun n hn => congrArg (Prod.mk n.id) (Node.sorted_record (props n hn))
  rw [record, Json.sorted, Json.sortedFields_eq, records, toJson]

end Written

/-- A graph that is written as a value and read again is the same graph, also as that of a page; and
so is one that is written as text, as far as its text is read as what was written. -/
theorem round_trip (built : Built g) :
    (∃ g', ofJson g.toJson = .ok g' ∧ g'.agrees g = true) ∧
    (∀ id displayName, ∃ g', (Page.ofGraph id displayName g).readGraph = .ok g' ∧
      g'.agrees g = true) ∧
    (g.record.ReadsBack → ∃ g', ofText g.text = .ok g' ∧ g'.agrees g = true) := by
  have back := exists_agrees_toJson built.props
  refine ⟨back, fun _ _ => back, fun readsBack => ?_⟩
  rw [Json.ReadsBack, sorted_record built.props] at readsBack
  rwa [ofText, text, readsBack]

/-- A root whose slots are not in the order of their names, and a child whose key comes before the
root's. -/
theorem round_trip_slots :
    let root : Node := { Node.bare "" "" with slots := .ofList [("b", "A"), ("a", "A")] }
    let child : Node := { Node.bare "A" "Text" with
      props := [("n", .integer 1)], displayName := some "B" }
    let g := (withRoot root).insert child
    Built g ∧ g.record.ReadsBack ∧ ∃ g', ofText g.text = .ok g' ∧ g'.agrees g = true := by
  intro root child g
  have props : (Json.object child.props).WellFormed :=
    .object (by decide) (by simp [child, Json.WellFormed.integer])
  have built : Built g := (Built.withRoot Json.wellFormed_object_nil).insert props
  have record : g.record = .object [
      ("ROOT", .object [("type", .string ""), ("props", .object []), ("children", .array []),
        ("namedSlots", .object [("b", .string "A"), ("a", .string "A")]), ("hidden", .bool false)]),
      ("A", .object [("type", .string "Text"), ("props", .object [("n", .integer 1)]),
        ("children", .array []), ("namedSlots", .object []), ("hidden", .bool false),
        ("displayName", .string "B")])] := by
    decide +kernel
  have readsBack : g.record.ReadsBack := by
    rw [record, Json.ReadsBack, Json.read]
    simp only [Json.text, Json.fieldTexts, Json.itemTexts, Json.stringText, String.toList_append,
      String.toList_intercalate, String.toList_ofList, List.map_cons, List.map_nil]
    decide +kernel
  exact ⟨built, readsBack, (round_trip built).2.2 readsBack⟩

end Graph

end MiniApp
