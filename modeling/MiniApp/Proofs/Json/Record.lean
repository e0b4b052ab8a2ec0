import Mathlib.Data.List.Nodup
import Mathlib.Data.List.Pairwise
import Mathlib.Tactic.Common
import MiniApp.Json.Record

set_option autoImplicit false

namespace MiniApp.Field

variable {ρ α : Type} {specs : List (Field ρ)}

section Keeping

variable {P : ρ → Prop} (kept : ∀ f ∈ specs, ∀ v r r', P r → f.set v r = .ok r' → P r')
include kept

theorem readObject_keeps {fields : Fields} {met : List String} {r r' : ρ} (hr : P r)
    (h : readObject specs met r fields = .ok r') : P r' := by
  induction fields generalizing met r with
  | nil =>
    cases h
    exact hr
  | cons field fields ih =>
    rw [readObject] at h
    split at h
    · exact ih hr h
    · next f hf =>
      split at h
      · cases h
      · split at h
        · cases h
        · next r'' hset =>
          exact ih (kept f (List.mem_of_find?_eq_some hf) _ _ _ hr hset) h

theorem readList_keeps {items : List Json} {length : Nat} {r r' : ρ} (hr : P r)
    (h : readList length r specs items = .ok r') : P r' := by
  induction items generalizing specs r with
  | nil =>
    rw [readList] at h
    cases h
    exact hr
  | cons v vs ih =>
    cases specs with
    | nil => cases h
    | cons f specs =>
      rw [readList] at h
      split at h
      · cases h
      · next r'' hset =>
        have first := kept f List.mem_cons_self _ _ _ hr hset
        exact ih (fun f hf => kept f (List.mem_cons_of_mem _ hf)) first h

/-- What no field changes holds of the record that is read. -/
theorem readRecord_keeps {name : String} {initial r : ρ} {v : Json} (start : P initial)
    (h : readRecord name specs initial v = .ok r) : P r := by
  cases v with
  | object fields => exact readObject_keeps kept start h
  | array items => exact readList_keeps kept start h
  | _ => cases h

end Keeping

def names (f : Field ρ) : List String := f.name :: f.aliases

theorem answersTo_iff {key : String} {f : Field ρ} : answersTo key f = true ↔ key ∈ f.names := by
  simp [answersTo, names]

theorem find?_answersTo_eq_none_iff {key : String} :
    specs.find? (answersTo key) = none ↔ ∀ f ∈ specs, key ∉ f.names := by
  simp [answersTo_iff]

/-- No name belongs to two fields, and no field refuses a value. -/
structure Lenient (specs : List (Field ρ)) : Prop where
  apart : (specs.flatMap names).Nodup
  accepts : ∀ f ∈ specs, ∀ v r, ∃ r', f.set v r = .ok r'

def Clash (specs : List (Field ρ)) (key key' : String) : Prop :=
  ∃ f ∈ specs, key ∈ f.names ∧ key' ∈ f.names

/-- A part of the record that one field alone writes. -/
structure Writes (specs : List (Field ρ)) (f : Field ρ) (part : ρ → α) (value : Json → α) : Prop where
  mem : f ∈ specs
  own : ∀ v r r', f.set v r = .ok r' → part r' = value v
  others : ∀ f' ∈ specs, f'.name ≠ f.name → ∀ v r r', f'.set v r = .ok r' → part r' = part r

section Lenient

variable (lenient : Lenient specs)
include lenient

theorem Lenient.eq_of_mem_names {f f' : Field ρ} (hf : f ∈ specs) (hf' : f' ∈ specs) {key : String}
    (hk : key ∈ f.names) (hk' : key ∈ f'.names) : f = f' := by
  by_contra other
  have symm : Std.Symm (Function.onFun List.Disjoint (names (ρ := ρ))) :=
    ⟨fun _ _ h => List.disjoint_symm h⟩
  exact (List.nodup_flatMap.1 lenient.apart).2.forall hf hf' other hk hk'

theorem Lenient.find?_eq_some_iff {key : String} {f : Field ρ} :
    specs.find? (answersTo key) = some f ↔ f ∈ specs ∧ key ∈ f.names := by
  constructor
  · intro h
    exact ⟨List.mem_of_find?_eq_some h, answersTo_iff.1 (List.find?_some h)⟩
  · rintro ⟨hf, hk⟩
    have found : (specs.find? (answersTo key)).isSome = true :=
      List.find?_isSome.2 ⟨f, hf, answersTo_iff.2 hk⟩
    obtain ⟨f', hf'⟩ := Option.isSome_iff_exists.1 found
    have same := lenient.eq_of_mem_names (List.mem_of_find?_eq_some hf') hf
      (answersTo_iff.1 (List.find?_some hf')) hk
    rw [hf', same]

theorem Lenient.readObject_iff {fields : Fields} {met : List String} {r : ρ} :
    (∃ r', readObject specs met r fields = .ok r') ↔
      (∀ e ∈ fields, ∀ f ∈ specs, e.1 ∈ f.names → f.name ∉ met) ∧
        fields.Pairwise fun e e' => ¬ Clash specs e.1 e'.1 := by
  induction fields generalizing met r with
  | nil => simp [readObject]
  | cons e fields ih =>
    obtain ⟨key, v⟩ := e
    rw [readObject, List.forall_mem_cons, List.pairwise_cons]
    cases found : specs.find? (answersTo key) with
    | none =>
      -- No field is named, so this key clashes with none.
      have unknown := find?_answersTo_eq_none_iff.1 found
      have free : ∀ e ∈ fields, ¬ Clash specs key e.1 :=
        fun _ _ ⟨f, hf, hk, _⟩ => unknown f hf hk
      have unmet : ∀ f ∈ specs, key ∈ f.names → f.name ∉ met :=
        fun f hf hk => absurd hk (unknown f hf)
      rw [ih]
      exact ⟨fun h => ⟨⟨unmet, h.1⟩, free, h.2⟩, fun h => ⟨h.1.2, h.2.2⟩⟩
    | some f =>
      obtain ⟨hf, hk⟩ := lenient.find?_eq_some_iff.1 found
      obtain ⟨r', hset⟩ := lenient.accepts f hf v r
      by_cases seen : f.name ∈ met
      · have refused : ¬ ∀ f ∈ specs, key ∈ f.names → f.name ∉ met :=
          fun h => h f hf hk seen
        simp [seen, refused]
      · have head : ∀ f' ∈ specs, key ∈ f'.names → f'.name ∉ met :=
          fun f' hf' hk' => lenient.eq_of_mem_names hf hf' hk hk' ▸ seen
        simp only [List.contains_iff_mem, seen, if_false, hset, ih]
        constructor
        · rintro ⟨unmet, rest⟩
          refine ⟨⟨head, fun e he f' hf' hk' => ?_⟩, fun e he clash => ?_, rest⟩
          · exact fun hm => unmet e he f' hf' hk' (List.mem_cons_of_mem _ hm)
          · obtain ⟨f', hf', hk', he'⟩ := clash
            obtain rfl := lenient.eq_of_mem_names hf hf' hk hk'
            exact unmet e he f hf he' List.mem_cons_self
        · rintro ⟨⟨-, unmet⟩, free, rest⟩
          refine ⟨fun e he f' hf' hk' hm => ?_, rest⟩
          rcases List.mem_cons.1 hm with same | hm
          · have one := lenient.eq_of_mem_names hf' hf List.mem_cons_self
              (same ▸ List.mem_cons_self)
            exact free e he ⟨f, hf, hk, one ▸ hk'⟩
          · exact unmet e he f' hf' hk' hm

theorem Lenient.readList_iff {items : List Json} {length : Nat} {r : ρ} :
    (∃ r', readList length r specs items = .ok r') ↔ items.length ≤ specs.length := by
  have accepts := lenient.accepts
  clear lenient
  induction items generalizing specs r with
  | nil => simp [readList]
  | cons v vs ih =>
    cases specs with
    | nil => simp [readList]
    | cons f specs =>
      rw [List.forall_mem_cons] at accepts
      obtain ⟨r', hset⟩ := accepts.1 v r
      rw [readList, hset]
      simp [ih accepts.2]

variable {f : Field ρ} {part : ρ → α} {value : Json → α} (writes : Writes specs f part value)
include writes

theorem Lenient.part_readObject {fields : Fields} {met : List String} {r r' : ρ}
    (h : readObject specs met r fields = .ok r') :
    part r' = ((fields.find? fun e => f.names.contains e.1).map fun e => value e.2).getD (part r) := by
  induction fields generalizing met r with
  | nil =>
    cases h
    rfl
  | cons e fields ih =>
    obtain ⟨key, v⟩ := e
    rw [readObject] at h
    cases found : specs.find? (answersTo key) with
    | none =>
      have other : key ∉ f.names := find?_answersTo_eq_none_iff.1 found f writes.mem
      rw [found] at h
      rw [List.find?_cons_of_neg (by simpa using other), ih h]
    | some f' =>
      obtain ⟨hf', hk'⟩ := lenient.find?_eq_some_iff.1 found
      obtain ⟨r'', hset⟩ := lenient.accepts f' hf' v r
      simp only [found, hset] at h
      split at h
      · cases h
      by_cases same : f'.name = f.name
      · obtain rfl := lenient.eq_of_mem_names hf' writes.mem List.mem_cons_self
          (same ▸ List.mem_cons_self)
        -- The field is met now, so no later entry names it.
        have unmet := (lenient.readObject_iff.1 ⟨r', h⟩).1
        have later : (fields.find? fun e => f'.names.contains e.1) = none := by
          rw [List.find?_eq_none]
          intro e he hk
          exact unmet e he f' hf' (List.contains_iff_mem.1 hk) List.mem_cons_self
        rw [List.find?_cons_of_pos (by simpa using hk'), ih h, later]
        exact writes.own _ _ _ hset
      · have other : key ∉ f.names :=
          fun hk => same (congrArg name (lenient.eq_of_mem_names hf' writes.mem hk' hk))
        have kept := writes.others f' hf' same _ _ _ hset
        rw [List.find?_cons_of_neg (by simpa using other), ih h, kept]

end Lenient

theorem part_readList {f : Field ρ} {part : ρ → α} {value : Json → α} (nodup : (specs.map name).Nodup)
    (writes : Writes specs f part value) {items : List Json} {length place : Nat} {r r' : ρ}
    (hp : specs[place]? = some f) (h : readList length r specs items = .ok r') :
    part r' = (items[place]?.map value).getD (part r) := by
  induction items generalizing specs place r with
  | nil =>
    rw [readList] at h
    cases h
    rfl
  | cons v vs ih =>
    cases specs with
    | nil => cases h
    | cons f' specs =>
      obtain ⟨new, nodup⟩ := List.nodup_cons.1 nodup
      rw [readList] at h
      split at h
      · cases h
      next r'' hset =>
      cases place with
      | zero =>
        obtain rfl : f' = f := Option.some.inj hp
        have kept : part r' = part r'' := by
          refine readList_keeps (P := fun r => part r = part r'') (fun g hg v r r' hr hs => ?_) rfl h
          have other : g.name ≠ f'.name := fun same => new (same ▸ List.mem_map_of_mem hg)
          exact (writes.others g (List.mem_cons_of_mem _ hg) other _ _ _ hs).trans hr
        rw [kept]
        exact writes.own _ _ _ hset
      | succ place =>
        have mem : f ∈ specs := List.mem_of_getElem? hp
        have other : f'.name ≠ f.name := fun same => new (same ▸ List.mem_map_of_mem mem)
        have rest : Writes specs f part value :=
          ⟨mem, writes.own, fun g hg => writes.others g (List.mem_cons_of_mem _ hg)⟩
        rw [ih nodup rest hp h, writes.others f' List.mem_cons_self other _ _ _ hset]
        rfl

end MiniApp.Field
