set_option autoImplicit false

namespace MiniApp

variable {κ β : Type} [DecidableEq κ]

/-- Writes `v` under `k`, in place when `k` is there and at the end when it is not. -/
def putEntry (k : κ) (v : β) : List (κ × β) → List (κ × β)
  | [] => [(k, v)]
  | e :: es => if e.1 = k then (k, v) :: es else e :: putEntry k v es

def findEntry (k : κ) : List (κ × β) → Option β
  | [] => none
  | e :: es => if e.1 = k then some e.2 else findEntry k es

theorem mem_keys_putEntry (k j : κ) (v : β) (es : List (κ × β)) :
    j ∈ (putEntry k v es).map Prod.fst ↔ j = k ∨ j ∈ es.map Prod.fst := by
  induction es with
  | nil => simp [putEntry]
  | cons e es ih =>
    by_cases h : e.1 = k
    · simp [putEntry, h]
    · simp only [putEntry, h, if_false, List.map_cons, List.mem_cons, ih]
      constructor
      · rintro (h1 | h1 | h1) <;> simp [h1]
      · rintro (h1 | h1 | h1) <;> simp [h1]

theorem keys_putEntry (k : κ) (v : β) (es : List (κ × β)) :
    (putEntry k v es).map Prod.fst =
      if k ∈ es.map Prod.fst then es.map Prod.fst else es.map Prod.fst ++ [k] := by
  induction es with
  | nil => simp [putEntry]
  | cons e es ih =>
    by_cases h : e.1 = k
    · simp [putEntry, h]
    · have h' : ¬ k = e.1 := fun q => h q.symm
      simp only [putEntry, h, if_false, List.map_cons, ih, List.mem_cons, h', false_or]
      split <;> simp

theorem nodup_putEntry (k : κ) (v : β) (es : List (κ × β)) (h : (es.map Prod.fst).Nodup) :
    ((putEntry k v es).map Prod.fst).Nodup := by
  induction es with
  | nil => simp [putEntry]
  | cons e es ih =>
    rw [List.map_cons, List.nodup_cons] at h
    by_cases hk : e.1 = k
    · simp only [putEntry, hk, if_true, List.map_cons, List.nodup_cons]
      exact ⟨hk ▸ h.1, h.2⟩
    · simp only [putEntry, hk, if_false, List.map_cons, List.nodup_cons]
      refine ⟨fun hm => ?_, ih h.2⟩
      rcases (mem_keys_putEntry k e.1 v es).1 hm with hm | hm
      · exact hk hm
      · exact h.1 hm

theorem findEntry_putEntry (k j : κ) (v : β) (es : List (κ × β)) :
    findEntry j (putEntry k v es) = if k = j then some v else findEntry j es := by
  induction es with
  | nil => simp [putEntry, findEntry]
  | cons e es ih =>
    by_cases h : e.1 = k
    · by_cases hj : k = j
      · simp [putEntry, findEntry, h, hj]
      · simp [putEntry, findEntry, h, hj]
    · by_cases hj : e.1 = j
      · subst hj
        have hk : ¬ k = e.1 := fun q => h q.symm
        simp [putEntry, findEntry, h, hk]
      · simp [putEntry, findEntry, h, hj, ih]

theorem findEntry_isSome (k : κ) (es : List (κ × β)) :
    (findEntry k es).isSome = true ↔ k ∈ es.map Prod.fst := by
  induction es with
  | nil => simp [findEntry]
  | cons e es ih =>
    by_cases h : e.1 = k
    · simp [findEntry, h]
    · have h' : ¬ k = e.1 := fun q => h q.symm
      rw [List.map_cons, List.mem_cons]
      simp [findEntry, h, h', ih]

theorem mem_of_findEntry {k : κ} {v : β} {es : List (κ × β)} (h : findEntry k es = some v) :
    (k, v) ∈ es := by
  induction es with
  | nil => simp [findEntry] at h
  | cons e es ih =>
    rw [findEntry] at h
    split at h
    · next hk =>
      cases h
      rw [← hk]
      exact List.mem_cons_self
    · exact List.mem_cons_of_mem _ (ih h)

theorem mem_putEntry (k : κ) (v : β) (es : List (κ × β)) (e : κ × β)
    (h : e ∈ putEntry k v es) : e = (k, v) ∨ e ∈ es := by
  induction es with
  | nil => simpa [putEntry] using h
  | cons d es ih =>
    by_cases hk : d.1 = k
    · simp only [putEntry, hk, if_true, List.mem_cons] at h
      rcases h with h | h
      · exact Or.inl h
      · exact Or.inr (List.mem_cons_of_mem _ h)
    · simp only [putEntry, hk, if_false, List.mem_cons] at h
      rcases h with h | h
      · exact Or.inr (h ▸ List.mem_cons_self)
      · exact (ih h).imp_right (List.mem_cons_of_mem _)

/-- Values under distinct keys, in the order in which the keys first came in. -/
structure Table (κ β : Type) where
  entries : List (κ × β)
  nodup_keys : (entries.map Prod.fst).Nodup
deriving DecidableEq

namespace Table

def empty : Table κ β := ⟨[], List.nodup_nil⟩

def insert (t : Table κ β) (k : κ) (v : β) : Table κ β :=
  ⟨putEntry k v t.entries, nodup_putEntry k v t.entries t.nodup_keys⟩

def get? (t : Table κ β) (k : κ) : Option β := findEntry k t.entries

def contains (t : Table κ β) (k : κ) : Bool := (t.get? k).isSome

def keys (t : Table κ β) : List κ := t.entries.map Prod.fst

def values (t : Table κ β) : List β := t.entries.map Prod.snd

def size (t : Table κ β) : Nat := t.entries.length

def ofList (es : List (κ × β)) : Table κ β :=
  es.foldl (fun t e => t.insert e.1 e.2) empty

/-- The same values under the same keys, in any order, where `same` compares two values. -/
def agrees (same : β → β → Bool) (a b : Table κ β) : Bool :=
  a.size == b.size && a.entries.all fun e => (b.get? e.1).any (same e.2)

theorem get?_insert (t : Table κ β) (k j : κ) (v : β) :
    (t.insert k v).get? j = if k = j then some v else t.get? j :=
  findEntry_putEntry k j v t.entries

theorem keys_insert (t : Table κ β) (k : κ) (v : β) :
    (t.insert k v).keys = if k ∈ t.keys then t.keys else t.keys ++ [k] :=
  keys_putEntry k v t.entries

theorem contains_iff_mem_keys (t : Table κ β) (k : κ) : t.contains k = true ↔ k ∈ t.keys :=
  findEntry_isSome k t.entries

omit [DecidableEq κ] in
theorem length_keys (t : Table κ β) : t.keys.length = t.size := List.length_map ..

end Table

end MiniApp
