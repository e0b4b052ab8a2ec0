import Mathlib.Data.List.Induction
import Mathlib.Data.List.Nodup
import Mathlib.Data.List.Perm.Subperm
import MiniApp.Table

set_option autoImplicit false

namespace MiniApp

variable {κ β γ : Type} [DecidableEq κ]

theorem findEntry_eq_some_iff {es : List (κ × β)} (apart : (es.map Prod.fst).Nodup) {k : κ} {v : β} :
    findEntry k es = some v ↔ (k, v) ∈ es := by
  refine ⟨mem_of_findEntry, fun h => ?_⟩
  induction es with
  | nil => simp at h
  | cons e es ih =>
    rw [List.map_cons, List.nodup_cons] at apart
    rw [findEntry]
    rcases List.mem_cons.1 h with rfl | h
    · rw [if_pos rfl]
    · have listed : k ∈ es.map Prod.fst := List.mem_map_of_mem h
      rw [if_neg (ne_of_mem_of_not_mem listed apart.1).symm, ih apart.2 h]

theorem putEntry_of_notMem {k : κ} {es : List (κ × β)} (h : k ∉ es.map Prod.fst) (v : β) :
    putEntry k v es = es ++ [(k, v)] := by
  induction es with
  | nil => rfl
  | cons e es ih =>
    rw [List.map_cons, List.mem_cons, not_or] at h
    rw [putEntry, if_neg (Ne.symm h.1), ih h.2, List.cons_append]

def lastWritten (k : κ) (es : List (κ × β)) : Option β :=
  (es.filter fun e => e.1 = k).getLast?.map Prod.snd

theorem lastWritten_concat (k : κ) (es : List (κ × β)) (e : κ × β) :
    lastWritten k (es ++ [e]) = if e.1 = k then some e.2 else lastWritten k es := by
  rw [lastWritten, List.filter_append]
  by_cases here : e.1 = k
  · simp [here]
  · simp [here, lastWritten]

theorem eraseDups_concat (ks : List κ) (k : κ) :
    (ks ++ [k]).eraseDups = if k ∈ ks then ks.eraseDups else ks.eraseDups ++ [k] := by
  rw [List.eraseDups_append]
  by_cases listed : k ∈ ks
  · simp [List.removeAll, listed]
  · simp [List.removeAll, listed, List.eraseDups_cons]

theorem findEntry_map (k : κ) (f : β → γ) (es : List (κ × β)) :
    findEntry k (es.map fun e => (e.1, f e.2)) = (findEntry k es).map f := by
  induction es with
  | nil => rfl
  | cons e es ih =>
    rw [List.map_cons, findEntry, findEntry, ih]
    split <;> rfl

namespace Table

def filter (keep : κ → β → Bool) (t : Table κ β) : Table κ β where
  entries := t.entries.filter fun e => keep e.1 e.2
  nodup_keys := t.nodup_keys.sublist (List.filter_sublist.map _)

def mapValues (f : β → γ) (t : Table κ β) : Table κ γ where
  entries := t.entries.map fun e => (e.1, f e.2)
  nodup_keys := by simpa [Function.comp_def] using t.nodup_keys

omit [DecidableEq κ] in
theorem entries_filter (keep : κ → β → Bool) (t : Table κ β) :
    (t.filter keep).entries = t.entries.filter fun e => keep e.1 e.2 := rfl

omit [DecidableEq κ] in
theorem ext {t u : Table κ β} (h : t.entries = u.entries) : t = u := by
  cases t
  cases u
  cases h
  rfl

theorem get?_eq_some_iff (t : Table κ β) {k : κ} {v : β} :
    t.get? k = some v ↔ (k, v) ∈ t.entries :=
  findEntry_eq_some_iff t.nodup_keys

theorem get?_filter (t : Table κ β) (keep : κ → β → Bool) (k : κ) :
    (t.filter keep).get? k = (t.get? k).filter (keep k) := by
  refine Option.ext fun v => ?_
  rw [get?_eq_some_iff, filter, List.mem_filter, Option.filter_eq_some_iff, get?_eq_some_iff]

theorem get?_mapValues (t : Table κ β) (f : β → γ) (k : κ) :
    (t.mapValues f).get? k = (t.get? k).map f :=
  findEntry_map k f t.entries

omit [DecidableEq κ] in
theorem keys_mapValues (t : Table κ β) (f : β → γ) : (t.mapValues f).keys = t.keys := by
  rw [keys, keys, mapValues, List.map_map]
  rfl

omit [DecidableEq κ] in
theorem mem_keys_of_mem_keys_filter {t : Table κ β} {keep : κ → β → Bool} {k : κ}
    (h : k ∈ (t.filter keep).keys) : k ∈ t.keys :=
  (List.filter_sublist.map Prod.fst).subset h

theorem entries_filter_key (t : Table κ β) (k : κ) :
    (t.entries.filter fun e => e.1 = k) = (t.get? k).toList.map fun v => (k, v) := by
  rw [get?]
  have apart := t.nodup_keys
  generalize t.entries = es at apart
  induction es with
  | nil => rfl
  | cons e es ih =>
    rw [List.map_cons, List.nodup_cons] at apart
    by_cases here : e.1 = k
    · subst here
      have single : (es.filter fun d => d.1 = e.1) = [] := by
        rw [List.filter_eq_nil_iff]
        intro d hd
        simpa using (ne_of_mem_of_not_mem (List.mem_map_of_mem hd) apart.1)
      simp [findEntry, single]
    · simp [findEntry, here, ih apart.2]

theorem subperm_values_insert (t : Table κ β) (k : κ) (v : β) :
    (t.insert k v).values.Subperm (t.values ++ [v]) := by
  rw [values, values]
  change ((putEntry k v t.entries).map Prod.snd).Subperm _
  induction t.entries with
  | nil => exact List.Subperm.refl _
  | cons e es ih =>
    rw [putEntry]
    split
    · exact ((List.perm_append_singleton v _).symm.subperm).trans
        ((List.sublist_cons_self e.2 _).subperm)
    · exact (List.subperm_cons e.2).2 ih

theorem mem_keys_iff (t : Table κ β) (k : κ) : k ∈ t.keys ↔ (t.get? k).isSome = true :=
  (t.contains_iff_mem_keys k).symm

theorem entries_foldl_insert {es : List (κ × β)} {t : Table κ β}
    (apart : ((t.entries ++ es).map Prod.fst).Nodup) :
    (es.foldl (fun t e => t.insert e.1 e.2) t).entries = t.entries ++ es := by
  induction es generalizing t with
  | nil => rw [List.append_nil, List.foldl_nil]
  | cons e es ih =>
    have split : t.entries ++ e :: es = (t.entries ++ [e]) ++ es := by simp
    rw [split] at apart
    have new : e.1 ∉ t.entries.map Prod.fst := by
      rw [List.map_append, List.map_append] at apart
      have first := (List.nodup_append.1 apart).1
      exact fun h => (List.nodup_append.1 first).2.2 _ h _ (List.mem_singleton_self _) rfl
    have put : (t.insert e.1 e.2).entries = t.entries ++ [e] := putEntry_of_notMem new e.2
    rw [split, ← put]
    exact ih (put ▸ apart)

theorem entries_ofList {es : List (κ × β)} (apart : (es.map Prod.fst).Nodup) :
    (ofList es).entries = es := entries_foldl_insert apart

theorem ofList_concat (es : List (κ × β)) (e : κ × β) :
    ofList (es ++ [e]) = (ofList es).insert e.1 e.2 := List.foldl_concat ..

/-- However often a key is written, its last value is the one that is found. -/
theorem get?_ofList (es : List (κ × β)) (k : κ) : (ofList es).get? k = lastWritten k es := by
  induction es using List.reverseRecOn with
  | nil => rfl
  | append_singleton es e ih => rw [ofList_concat, get?_insert, lastWritten_concat, ih]

theorem lastWritten_eq_some_iff {es : List (κ × β)} (apart : (es.map Prod.fst).Nodup) {k : κ}
    {v : β} : lastWritten k es = some v ↔ (k, v) ∈ es := by
  rw [← get?_ofList, get?_eq_some_iff, entries_ofList apart]

theorem keys_ofList (es : List (κ × β)) : (ofList es).keys = (es.map Prod.fst).eraseDups := by
  induction es using List.reverseRecOn with
  | nil => rfl
  | append_singleton es e ih =>
    rw [ofList_concat, keys_insert, ih, List.map_append, List.map_singleton, eraseDups_concat]
    simp only [List.mem_eraseDups]

theorem perm_entries {t u : Table κ β} (h : ∀ k, t.get? k = u.get? k) :
    t.entries.Perm u.entries := by
  have apart (t : Table κ β) : t.entries.Nodup := List.Nodup.of_map Prod.fst t.nodup_keys
  rw [List.perm_ext_iff_of_nodup (apart t) (apart u)]
  intro e
  have found := h e.1
  rw [← get?_eq_some_iff, ← get?_eq_some_iff, found]

theorem perm_keys {t : Table κ β} {u : Table κ γ} (h : ∀ k, (t.get? k).isSome = (u.get? k).isSome) :
    t.keys.Perm u.keys := by
  refine (List.perm_ext_iff_of_nodup t.nodup_keys u.nodup_keys).2 fun k => ?_
  change k ∈ t.keys ↔ k ∈ u.keys
  rw [mem_keys_iff, mem_keys_iff, h k]

/-- Tables agree when every key leads to agreeing values, or to none in both. -/
theorem agrees_iff (same : β → β → Bool) (t u : Table κ β) :
    t.agrees same u = true ↔
      ∀ k, Option.Rel (fun v w => same v w = true) (t.get? k) (u.get? k) := by
  rw [agrees, Bool.and_eq_true, beq_iff_eq, List.all_eq_true]
  constructor
  · rintro ⟨size, found⟩ k
    have listed : t.keys ⊆ u.keys := by
      intro j hj
      obtain ⟨e, he, rfl⟩ := List.mem_map.1 hj
      rw [mem_keys_iff]
      exact Option.isSome_of_any (found e he)
    have short : u.keys.length ≤ t.keys.length := by
      rw [length_keys, length_keys]
      exact Nat.le_of_eq size.symm
    have keys : t.keys.Perm u.keys :=
      (List.Nodup.subperm t.nodup_keys listed).perm_of_length_le short
    cases ht : t.get? k with
    | none =>
      have absent : k ∉ u.keys := by
        rw [← keys.mem_iff, mem_keys_iff, ht]
        exact Bool.false_ne_true
      rw [mem_keys_iff, Bool.not_eq_true, Option.isSome_eq_false_iff,
        Option.isNone_iff_eq_none] at absent
      rw [absent]
      exact .none
    | some v =>
      have here := found (k, v) (t.get?_eq_some_iff.1 ht)
      cases hu : u.get? k with
      | none => rw [hu] at here; cases here
      | some w =>
        rw [hu] at here
        exact .some here
  · intro h
    have keys : t.keys.Perm u.keys := perm_keys fun k => by
      have here := h k
      generalize t.get? k = v? at here ⊢
      generalize u.get? k = w? at here ⊢
      cases here <;> rfl
    refine ⟨by rw [← length_keys, ← length_keys, keys.length_eq], fun e he => ?_⟩
    have here := h e.1
    rw [t.get?_eq_some_iff.2 he] at here
    generalize u.get? e.1 = w? at here ⊢
    cases here with
    | some same => exact same

theorem agrees_of_perm {same : β → β → Bool} (refl : ∀ v, same v v = true) {t u : Table κ β}
    (h : t.entries.Perm u.entries) : t.agrees same u = true := by
  rw [agrees, Bool.and_eq_true, beq_iff_eq, List.all_eq_true]
  refine ⟨h.length_eq, fun e he => ?_⟩
  rw [u.get?_eq_some_iff.2 (h.subset he)]
  exact refl e.2

end Table

end MiniApp
