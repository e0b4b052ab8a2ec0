import Mathlib.Data.List.Nodup
import Mathlib.Data.String.Basic
import MiniApp.Json.Value

set_option autoImplicit false

namespace MiniApp

variable {β γ : Type}

/-- The keys ascend, so each of them comes once. -/
def Ascending (fields : List (String × β)) : Prop := fields.Pairwise fun f f' => f.1 < f'.1

instance (fields : List (String × β)) : Decidable (Ascending fields) :=
  inferInstanceAs (Decidable (fields.Pairwise fun f f' => f.1 < f'.1))

theorem ascending_iff_keys {fields : List (String × β)} :
    Ascending fields ↔ (fields.map Prod.fst).Pairwise (· < ·) := List.pairwise_map.symm

theorem Ascending.nodup_keys {fields : List (String × β)} (h : Ascending fields) :
    (fields.map Prod.fst).Nodup :=
  List.pairwise_map.2 (h.imp fun lt => ne_of_lt lt)

theorem lookup_eq_some_iff {fields : List (String × β)} (apart : (fields.map Prod.fst).Nodup)
    {key : String} {v : β} : fields.lookup key = some v ↔ (key, v) ∈ fields := by
  induction fields with
  | nil => simp
  | cons f fields ih =>
    rw [List.map_cons, List.nodup_cons] at apart
    rw [List.lookup_cons, List.mem_cons]
    by_cases same : key = f.1
    · have absent : (key, v) ∉ fields := fun h => apart.1 (same ▸ List.mem_map_of_mem h)
      rw [beq_iff_eq.2 same, or_iff_left absent, Prod.ext_iff, and_iff_right same, eq_comm]
      exact Option.some_inj
    · rw [beq_false_of_ne same, or_iff_right fun h => same (congrArg Prod.fst h)]
      exact ih apart.2

theorem mem_putField {key : String} {v : β} {fields : List (String × β)} {f : String × β}
    (h : f ∈ putField key v fields) : f = (key, v) ∨ f ∈ fields := by
  induction fields with
  | nil => exact .inl (List.mem_singleton.1 h)
  | cons e fields ih =>
    rw [putField] at h
    split at h
    · exact List.mem_cons.1 h
    split at h
    · exact (List.mem_cons.1 h).imp_right (List.mem_cons_of_mem _)
    · rcases List.mem_cons.1 h with rfl | h
      · exact .inr List.mem_cons_self
      · exact (ih h).imp_right (List.mem_cons_of_mem _)

theorem ascending_putField {fields : List (String × β)} (h : Ascending fields) (key : String)
    (v : β) : Ascending (putField key v fields) := by
  induction fields with
  | nil => exact List.pairwise_singleton ..
  | cons e fields ih =>
    obtain ⟨first, rest⟩ := List.pairwise_cons.1 h
    rw [putField]
    split
    · next lt =>
      refine List.pairwise_cons.2 ⟨fun f hf => ?_, h⟩
      rcases List.mem_cons.1 hf with rfl | hf
      · exact lt
      · exact lt.trans (first f hf)
    split
    · next eq => exact List.pairwise_cons.2 ⟨fun f hf => eq ▸ first f hf, rest⟩
    · next notBefore other =>
      refine List.pairwise_cons.2 ⟨fun f hf => ?_, ih rest⟩
      rcases mem_putField hf with rfl | hf
      · exact lt_of_le_of_ne (not_lt.1 notBefore) (Ne.symm other)
      · exact first f hf

theorem ascending_foldl_putField (pairs : List (String × β)) {fields : List (String × β)}
    (h : Ascending fields) :
    Ascending (pairs.foldl (fun fields pair => putField pair.1 pair.2 fields) fields) := by
  induction pairs generalizing fields with
  | nil => exact h
  | cons pair pairs ih => exact ih (ascending_putField h pair.1 pair.2)

theorem ascending_sortFields (pairs : List (String × β)) : Ascending (sortFields pairs) :=
  ascending_foldl_putField pairs List.Pairwise.nil

theorem putField_perm {key : String} {fields : List (String × β)} (h : key ∉ fields.map Prod.fst)
    (v : β) : (putField key v fields).Perm ((key, v) :: fields) := by
  induction fields with
  | nil => exact .refl _
  | cons e fields ih =>
    rw [List.map_cons, List.mem_cons, not_or] at h
    rw [putField]
    split
    · exact .refl _
    · rw [if_neg h.1]
      exact ((ih h.2).cons e).trans (.swap ..)

theorem foldl_putField_perm {pairs fields : List (String × β)}
    (apart : ((fields ++ pairs).map Prod.fst).Nodup) :
    (pairs.foldl (fun fields pair => putField pair.1 pair.2 fields) fields).Perm
      (fields ++ pairs) := by
  induction pairs generalizing fields with
  | nil => simp
  | cons pair pairs ih =>
    have moved : (fields ++ pair :: pairs).Perm (pair :: fields ++ pairs) := List.perm_middle
    have apart := (moved.map Prod.fst).nodup_iff.1 apart
    have new : pair.1 ∉ fields.map Prod.fst := by
      rw [List.cons_append, List.map_cons, List.nodup_cons, List.map_append] at apart
      exact fun h => apart.1 (List.mem_append_left _ h)
    have put := (putField_perm new pair.2).append_right pairs
    exact (ih ((put.map Prod.fst).nodup_iff.2 apart)).trans (put.trans moved.symm)

theorem sortFields_perm {pairs : List (String × β)} (apart : (pairs.map Prod.fst).Nodup) :
    (sortFields pairs).Perm pairs :=
  foldl_putField_perm apart

theorem lookup_sortFields {pairs : List (String × β)} (apart : (pairs.map Prod.fst).Nodup)
    {key : String} {v : β} : (sortFields pairs).lookup key = some v ↔ (key, v) ∈ pairs := by
  rw [lookup_eq_some_iff (ascending_sortFields pairs).nodup_keys, (sortFields_perm apart).mem_iff]

theorem putField_of_forall_lt {key : String} {fields : List (String × β)}
    (h : ∀ f ∈ fields, f.1 < key) (v : β) : putField key v fields = fields ++ [(key, v)] := by
  induction fields with
  | nil => rfl
  | cons e fields ih =>
    rw [List.forall_mem_cons] at h
    rw [putField, if_neg h.1.not_gt, if_neg h.1.ne', ih h.2, List.cons_append]

theorem foldl_putField_of_ascending {fields done : List (String × β)}
    (h : Ascending (done ++ fields)) :
    fields.foldl (fun fields pair => putField pair.1 pair.2 fields) done = done ++ fields := by
  induction fields generalizing done with
  | nil => simp
  | cons f fields ih =>
    have before := (List.pairwise_append.1 h).2.2
    rw [List.foldl_cons, putField_of_forall_lt fun e he => before e he f List.mem_cons_self, ih,
      List.append_assoc, List.singleton_append]
    rwa [List.append_assoc]

theorem sortFields_of_ascending {fields : List (String × β)} (h : Ascending fields) :
    sortFields fields = fields := foldl_putField_of_ascending h

theorem sortFields_of_perm {pairs fields : List (String × β)} (h : pairs.Perm fields)
    (ordered : Ascending fields) : sortFields pairs = fields := by
  have apart := (h.map Prod.fst).nodup_iff.2 ordered.nodup_keys
  refine ((sortFields_perm apart).trans h).eq_of_pairwise ?_ (ascending_sortFields pairs) ordered
  exact fun f f' _ _ before after => absurd before after.not_gt

theorem putField_map (f : β → γ) (key : String) (v : β) (fields : List (String × β)) :
    putField key (f v) (fields.map fun e => (e.1, f e.2)) =
      (putField key v fields).map fun e => (e.1, f e.2) := by
  induction fields with
  | nil => rfl
  | cons e fields ih =>
    rw [List.map_cons, putField, putField, ih]
    split_ifs <;> rfl

theorem foldl_putField_map (f : β → γ) (pairs fields : List (String × β)) :
    (pairs.map fun e => (e.1, f e.2)).foldl (fun fields pair => putField pair.1 pair.2 fields)
        (fields.map fun e => (e.1, f e.2)) =
      (pairs.foldl (fun fields pair => putField pair.1 pair.2 fields) fields).map
        fun e => (e.1, f e.2) := by
  induction pairs generalizing fields with
  | nil => rfl
  | cons pair pairs ih =>
    rw [List.map_cons, List.foldl_cons, List.foldl_cons, ← ih, ← putField_map]

theorem sortFields_map (f : β → γ) (pairs : List (String × β)) :
    sortFields (pairs.map fun e => (e.1, f e.2)) = (sortFields pairs).map fun e => (e.1, f e.2) :=
  foldl_putField_map f pairs []

end MiniApp
