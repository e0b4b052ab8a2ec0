import Mathlib.Data.List.Sort
import MiniApp.Proofs.Component.Shown
import MiniApp.Walk.Basic

set_option autoImplicit false

namespace MiniApp

section SlotOrder

variable {order : List String} {a b c : String}

theorem slotBefore_total (order : List String) (a b : String) :
    slotBefore order a b || slotBefore order b a := by
  rw [slotBefore, slotBefore]
  cases order.idxOf? a <;> cases order.idxOf? b <;> simp [Nat.le_total, String.le_total]

theorem slotBefore_trans (hab : slotBefore order a b) (hbc : slotBefore order b c) :
    slotBefore order a c := by
  rw [slotBefore] at *
  cases ha : order.idxOf? a <;> cases hb : order.idxOf? b <;> cases hc : order.idxOf? c <;>
    simp only [ha, hb, hc, decide_eq_true_eq, Bool.false_eq_true] at *
  · exact String.le_trans hab hbc
  · exact Nat.le_trans hab hbc

theorem slotBefore_antisymm (hab : slotBefore order a b) (hba : slotBefore order b a) : a = b := by
  rw [slotBefore] at *
  cases ha : order.idxOf? a <;> cases hb : order.idxOf? b <;>
    simp only [ha, hb, decide_eq_true_eq, Bool.false_eq_true] at hab hba
  · exact String.le_antisymm hab hba
  · next i j =>
    obtain rfl : i = j := Nat.le_antisymm hab hba
    obtain ⟨_, ha, _⟩ := List.idxOf?_eq_some_iff.1 ha
    obtain ⟨_, hb, _⟩ := List.idxOf?_eq_some_iff.1 hb
    exact ha.symm.trans hb

theorem pairwise_mergeSort_slots (order : List String) (es : List (String × String)) :
    (es.mergeSort fun a b => slotBefore order a.1 b.1).Pairwise
      fun a b => slotBefore order a.1 b.1 := by
  refine List.pairwise_mergeSort ?_ ?_ es
  · exact fun _ _ _ => slotBefore_trans
  · exact fun a b => slotBefore_total order a.1 b.1

theorem eq_mergeSort_of_perm {t : Table String String} {es : List (String × String)}
    (sorted : es.Pairwise fun a b => slotBefore order a.1 b.1) (h : es.Perm t.entries) :
    es = t.entries.mergeSort fun a b => slotBefore order a.1 b.1 := by
  refine List.Perm.eq_of_pairwise ?_ sorted (pairwise_mergeSort_slots order t.entries)
    (h.trans (List.mergeSort_perm ..).symm)
  intro a b ha hb hab hba
  have hb : b ∈ t.entries := List.mem_mergeSort.1 hb
  exact List.inj_on_of_nodup_map t.nodup_keys (h.subset ha) hb (slotBefore_antisymm hab hba)

theorem mergeSort_entries_filter (order : List String) (keep : String → String → Bool)
    (t : Table String String) :
    ((t.filter keep).entries.mergeSort fun a b => slotBefore order a.1 b.1) =
      (t.entries.mergeSort fun a b => slotBefore order a.1 b.1).filter fun e => keep e.1 e.2 :=
  (eq_mergeSort_of_perm ((pairwise_mergeSort_slots order t.entries).sublist List.filter_sublist)
    ((List.mergeSort_perm ..).filter _)).symm

end SlotOrder

def slotCompare (order : List String) (a b : String) : Ordering :=
  match order.idxOf? a, order.idxOf? b with
  | some i, some j => compare i j
  | some _, none => .lt
  | none, some _ => .gt
  | none, none => compare a b

section Compare

variable {order : List String} {a b c : String}

theorem slotCompare_swap (order : List String) (a b : String) :
    slotCompare order a b = (slotCompare order b a).swap := by
  rw [slotCompare, slotCompare]
  cases order.idxOf? a <;> cases order.idxOf? b <;> dsimp only
  · exact Std.OrientedCmp.eq_swap
  · rfl
  · rfl
  · exact Std.OrientedCmp.eq_swap

theorem slotCompare_eq_lt_iff : slotCompare order a b = .lt ↔ slotBefore order b a = false := by
  rw [slotCompare, slotBefore]
  cases order.idxOf? a <;> cases order.idxOf? b <;> dsimp only
  · rw [decide_eq_false_iff_not, String.not_le]
    exact compareOfLessAndEq_eq_lt
  · simp
  · simp
  · rw [decide_eq_false_iff_not, Nat.not_le]
    exact Nat.compare_eq_lt

theorem slotBefore_eq (order : List String) (a b : String) :
    slotBefore order a b = (slotCompare order a b).isLE := by
  have after : slotCompare order b a = .lt ↔ slotBefore order a b = false := slotCompare_eq_lt_iff
  rw [slotCompare_swap order a b]
  cases below : slotCompare order b a <;> simp_all

theorem slotCompare_eq_eq_iff : slotCompare order a b = .eq ↔ a = b := by
  have before := slotBefore_eq order a b
  have after := slotBefore_eq order b a
  rw [slotCompare_swap order b a] at after
  constructor
  · intro same
    rw [same] at before after
    exact slotBefore_antisymm before after
  · rintro rfl
    cases same : slotCompare order a a <;> simp_all

theorem isStrictTotalOrder_slotCompare (order : List String) :
    IsStrictTotalOrder String fun a b => slotCompare order a b = .lt where
  irrefl a h := by
    have same : slotCompare order a a = .eq := slotCompare_eq_eq_iff.2 rfl
    rw [same] at h
    cases h
  trans a b c hab hbc := by
    rw [slotCompare_eq_lt_iff] at *
    by_contra hca
    rw [Bool.not_eq_false] at hca
    -- The third name would stand before the second one, by way of the first.
    have first : slotBefore order a b = true := by simpa [hab] using slotBefore_total order a b
    rw [slotBefore_trans hca first] at hbc
    cases hbc
  trichotomous a b hab hba := by
    rw [slotCompare_eq_lt_iff, Bool.not_eq_false] at *
    exact slotBefore_antisymm hba hab

end Compare

/-- The slots of a node in their order, told without a sort: each of them once, those that are listed
by their first position in the list, and behind them the others by name. -/
structure InSlotOrder (order : List String) (entries listed others : List (String × String)) :
    Prop where
  all : (listed ++ others).Perm entries
  mem : ∀ s ∈ listed, s.1 ∈ order
  byPosition : listed.Pairwise fun s t => order.idxOf s.1 < order.idxOf t.1
  notMem : ∀ s ∈ others, s.1 ∉ order
  byName : others.Pairwise fun s t => s.1 < t.1

section Sorted

variable {order : List String} {a b : String}

theorem idxOf?_eq_ite (order : List String) (a : String) :
    order.idxOf? a = if a ∈ order then some (order.idxOf a) else none := by
  rw [List.idxOf_eq_getD_idxOf?]
  cases h : order.idxOf? a with
  | none => rw [if_neg (List.idxOf?_eq_none_iff.1 h)]
  | some i =>
    have mem : a ∈ order := by
      by_contra absent
      rw [List.idxOf?_eq_none_iff.2 absent] at h
      cases h
    rw [if_pos mem, Option.getD_some]

theorem slotBefore_of_mem (ha : a ∈ order) (hb : b ∈ order) :
    slotBefore order a b = decide (order.idxOf a ≤ order.idxOf b) := by
  rw [slotBefore, idxOf?_eq_ite, idxOf?_eq_ite, if_pos ha, if_pos hb]

theorem slotBefore_of_mem_of_notMem (ha : a ∈ order) (hb : b ∉ order) :
    slotBefore order a b = true := by
  rw [slotBefore, idxOf?_eq_ite, idxOf?_eq_ite, if_pos ha, if_neg hb]

theorem slotBefore_of_notMem (ha : a ∉ order) (hb : b ∉ order) :
    slotBefore order a b = decide (a ≤ b) := by
  rw [slotBefore, idxOf?_eq_ite, idxOf?_eq_ite, if_neg ha, if_neg hb]

theorem InSlotOrder.pairwise {entries listed others : List (String × String)}
    (h : InSlotOrder order entries listed others) :
    (listed ++ others).Pairwise fun s t => slotBefore order s.1 t.1 := by
  refine List.pairwise_append.2 ⟨?_, ?_, fun s hs t ht => ?_⟩
  · refine h.byPosition.imp_of_mem fun {s t} hs ht less => ?_
    rw [slotBefore_of_mem (h.mem s hs) (h.mem t ht)]
    exact decide_eq_true less.le
  · refine h.byName.imp_of_mem fun {s t} hs ht less => ?_
    rw [slotBefore_of_notMem (h.notMem s hs) (h.notMem t ht)]
    exact decide_eq_true (String.not_lt.1 (String.lt_asymm less))
  · exact slotBefore_of_mem_of_notMem (h.mem s hs) (h.notMem t ht)

/-- Sorted slots under distinct names are in slot order: the listed ones, then the others. -/
theorem inSlotOrder_filter {order : List String} {es : List (String × String)}
    (sorted : es.Pairwise fun s t => slotBefore order s.1 t.1) (apart : (es.map Prod.fst).Nodup) :
    InSlotOrder order es (es.filter fun s => s.1 ∈ order) (es.filter fun s => s.1 ∉ order) where
  all := by
    have parts := List.filter_append_perm (fun s => decide (s.1 ∈ order)) es
    simpa using parts
  mem s hs := by simpa using (List.mem_filter.1 hs).2
  notMem s hs := by simpa using (List.mem_filter.1 hs).2
  byPosition := by
    have both := (sorted.and (List.pairwise_map.1 apart)).filter fun s => decide (s.1 ∈ order)
    refine both.imp_of_mem fun {s t} hs ht ⟨before, other⟩ => ?_
    have hs : s.1 ∈ order := by simpa using (List.mem_filter.1 hs).2
    have ht : t.1 ∈ order := by simpa using (List.mem_filter.1 ht).2
    rw [slotBefore_of_mem hs ht, decide_eq_true_eq] at before
    exact lt_of_le_of_ne before fun same => other ((List.idxOf_inj hs).1 same)
  byName := by
    have both := (sorted.and (List.pairwise_map.1 apart)).filter fun s => decide (s.1 ∉ order)
    refine both.imp_of_mem fun {s t} hs ht ⟨before, other⟩ => ?_
    have hs : s.1 ∉ order := by simpa using (List.mem_filter.1 hs).2
    have ht : t.1 ∉ order := by simpa using (List.mem_filter.1 ht).2
    rw [slotBefore_of_notMem hs ht, decide_eq_true_eq] at before
    exact String.not_le.1 fun after => other (String.le_antisymm before after)

end Sorted

namespace Node

section Congruence

variable {a b : Node}

theorem slotOrder_eq (n : Node) : n.slotOrder = (n.entry?.map Entry.slotOrder).getD [] := by
  -- Unfolding the function by itself keeps the check from looking up the tag.
  conv =>
    lhs
    fun
    delta Node.slotOrder
  generalize n.entry? = entry
  cases entry <;> rfl

theorem entry?_congr (h : a.typeTag = b.typeTag) : a.entry? = b.entry? :=
  congrArg Registry.builtin.get? h

theorem childLinks_congr (order : List String) (children : a.children = b.children)
    (slots : a.slots.entries.Perm b.slots.entries) : a.childLinks order = b.childLinks order := by
  have sorted : (a.slots.entries.mergeSort fun s t => slotBefore order s.1 t.1) =
      b.slots.entries.mergeSort fun s t => slotBefore order s.1 t.1 :=
    eq_mergeSort_of_perm (pairwise_mergeSort_slots ..)
      ((List.mergeSort_perm ..).trans slots)
  rw [childLinks, childLinks, children, sorted]

theorem slotOrder_congr (h : a.typeTag = b.typeTag) : a.slotOrder = b.slotOrder := by
  rw [slotOrder_eq, slotOrder_eq, entry?_congr h]

end Congruence

variable (n : Node)

theorem nodup_slotNames : (n.links.filterMap Link.slotName).Nodup := by
  have names : n.links.filterMap Link.slotName =
      (n.slots.entries.mergeSort fun a b => slotBefore n.slotOrder a.1 b.1).map Prod.fst := by
    rw [links, childLinks, List.filterMap_append, List.filterMap_map, List.filterMap_map]
    simp [Link.slotName, Function.comp_def]
  rw [names]
  exact (((List.mergeSort_perm ..).map Prod.fst).nodup_iff).2 n.slots.nodup_keys

theorem all_ofList {fs : List (Option String × String)}
    (h : fs.map Prod.fst = n.links.map Link.slotName) :
    (Children.ofList fs).all = Children.shown (fs.map Prod.snd) := by
  have apart := n.nodup_slotNames
  rw [links, childLinks, List.filterMap_append] at apart
  rw [links, childLinks, List.map_append] at h
  obtain ⟨as, bs, rfl, ordered, slotted⟩ := List.map_eq_append_iff.1 h
  refine Children.all_ofList (fun f hf => ?_) (fun f hf => ?_) ?_
  · have named := List.mem_map_of_mem (f := Prod.fst) hf
    rw [ordered, List.map_map] at named
    obtain ⟨_, _, none⟩ := List.mem_map.1 named
    exact none.symm
  · have named := List.mem_map_of_mem (f := Prod.fst) hf
    rw [slotted, List.map_map] at named
    obtain ⟨_, _, some⟩ := List.mem_map.1 named
    exact some ▸ Option.some_ne_none _
  · have names : bs.filterMap Prod.fst = (bs.map Prod.fst).filterMap fun slot => slot := by
      rw [List.filterMap_map]
      rfl
    rw [names, slotted, List.filterMap_map]
    exact (List.nodup_append.1 apart).2.1

theorem inSlotOrder_entries (order : List String) (n : Node) :
    ∃ listed others, InSlotOrder order n.slots.entries listed others := by
  have sorted := pairwise_mergeSort_slots order n.slots.entries
  have same := List.mergeSort_perm n.slots.entries fun s t => slotBefore order s.1 t.1
  have apart := ((same.map Prod.fst).nodup_iff).2 n.slots.nodup_keys
  have inOrder := inSlotOrder_filter sorted apart
  exact ⟨_, _, { inOrder with all := inOrder.all.trans same }⟩

theorem childLinks_eq {order : List String} {n : Node} {listed others : List (String × String)}
    (h : InSlotOrder order n.slots.entries listed others) :
    n.childLinks order = n.children.map .child ++ (listed ++ others).map fun s => .slot s.1 s.2 := by
  rw [childLinks, eq_mergeSort_of_perm h.pairwise h.all]

/-- The links of a node are its children as they stand and then each slot once, the listed ones by
their first position in the list and the others by name. The comparison that they are sorted by is a
strict total order of names, so the same slots give the same links, in whatever order they came in. -/
theorem childLinks_canonical (order : List String) (n : Node) :
    (∃ listed others, InSlotOrder order n.slots.entries listed others ∧
      n.childLinks order =
        n.children.map .child ++ (listed ++ others).map fun s => .slot s.1 s.2) ∧
    (∀ a b, slotBefore order a b = (slotCompare order a b).isLE) ∧
    IsStrictTotalOrder String (fun a b => slotCompare order a b = .lt) ∧
    (∀ a b, slotCompare order a b = .eq ↔ a = b) ∧
    ∀ m : Node, m.children = n.children → m.slots.entries.Perm n.slots.entries →
      m.childLinks order = n.childLinks order := by
  obtain ⟨listed, others, h⟩ := inSlotOrder_entries order n
  exact ⟨⟨listed, others, h, childLinks_eq h⟩, slotBefore_eq order,
    isStrictTotalOrder_slotCompare order, fun _ _ => slotCompare_eq_eq_iff,
    fun _ => childLinks_congr order⟩

theorem childLinks_canonical_layout :
    (Table.ofList [("zeta", "z"), ("footer", "f"), ("alpha", "a")]).entries.Perm
        (Table.ofList [("alpha", "a"), ("zeta", "z"), ("footer", "f")]).entries ∧
      ({ bare "n" "Layout" with
          slots := .ofList [("zeta", "z"), ("footer", "f"), ("alpha", "a")] } : Node).childLinks
          ["footer", "content", "footer"] =
        ({ bare "n" "Layout" with
          slots := .ofList [("alpha", "a"), ("zeta", "z"), ("footer", "f")] } : Node).childLinks
          ["footer", "content", "footer"] := by
  have permuted : (Table.ofList [("zeta", "z"), ("footer", "f"), ("alpha", "a")]).entries.Perm
      (Table.ofList [("alpha", "a"), ("zeta", "z"), ("footer", "f")]).entries := by decide
  exact ⟨permuted, (childLinks_canonical _ _).2.2.2.2 _ rfl permuted⟩

end Node

end MiniApp
