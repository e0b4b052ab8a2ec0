import MiniApp.Proofs.Props.Alike

set_option autoImplicit false

namespace MiniApp

namespace Json

theorem lookup_putField (key k : String) (v : Json) (fs : Fields) :
    (putField key v fs).lookup k = if k = key then some v else fs.lookup k := by
  have first (rest : Fields) :
      List.lookup k ((key, v) :: rest) = if k = key then some v else rest.lookup k := by
    rw [List.lookup_cons]
    by_cases h : k = key
    · rw [if_pos h, h, beq_self_eq_true]
    · rw [if_neg h, beq_false_of_ne h]
  induction fs with
  | nil => exact first []
  | cons f fs ih =>
    rw [putField]
    by_cases before : key < f.1
    · rw [if_pos before]
      exact first (f :: fs)
    · rw [if_neg before]
      by_cases same : key = f.1
      · rw [if_pos same, first fs, List.lookup_cons]
        by_cases h : k = key
        · rw [if_pos h, if_pos h]
        · rw [if_neg h, if_neg h, beq_false_of_ne (same ▸ h)]
      · rw [if_neg same, List.lookup_cons, List.lookup_cons, ih]
        by_cases h : k = f.1
        · rw [h, beq_self_eq_true]
          exact (if_neg (Ne.symm same)).symm
        · rw [beq_false_of_ne h]

theorem lookup_filter {α : Type} (keep : String → Bool) (fs : List (String × α)) (k : String) :
    (fs.filter fun f => keep f.1).lookup k = if keep k then fs.lookup k else none := by
  induction fs with
  | nil => rw [List.filter_nil, List.lookup_nil, ite_self]
  | cons f fs ih =>
    rw [List.filter_cons, List.lookup_cons]
    by_cases h : k = f.1
    · rw [h, beq_self_eq_true]
      cases kept : keep f.1 with
      | true => rw [if_pos rfl, if_pos rfl, List.lookup_cons, beq_self_eq_true]
      | false =>
        rw [h, kept] at ih
        exact ih
    · rw [beq_false_of_ne h]
      split
      · rw [List.lookup_cons, beq_false_of_ne h, ih]
      · exact ih

theorem lookup_map {α β : Type} (f : String → α → β) (fs : List (String × α)) (k : String) :
    (fs.map fun e => (e.1, f e.1 e.2)).lookup k = (fs.lookup k).map (f k) := by
  induction fs with
  | nil => rfl
  | cons e fs ih =>
    rw [List.map_cons, List.lookup_cons, List.lookup_cons]
    by_cases h : k = e.1
    · rw [h, beq_self_eq_true]
      rfl
    · rw [beq_false_of_ne h]
      exact ih

end Json

namespace Props

def isSet (fs : Fields) (key : String) : Bool := (fs.lookup key).any fun v => !v.isNull

def withoutNulls (fs : Fields) : Fields := fs.filter fun f => isSet fs f.1

def withoutKey (key : String) (fs : Fields) : Fields := fs.filter fun f => f.1 != key

/-- The default of a property written out under its key, unless the property is set. -/
def putDefault (defaults : Fields) (fs : Fields) (key : String) : Fields :=
  if isSet fs key then fs else putField key ((defaults.lookup key).getD .null) fs

def withDefaults (chosen : String → Bool) (defaults fs : Fields) : Fields :=
  ((defaults.map Prod.fst).filter chosen).foldl (putDefault defaults) fs

example : withDefaults (fun _ => true) [("gap", .integer 12), ("size", .integer 16)]
    [("gap", .null), ("size", .integer 20)] = [("gap", .integer 12), ("size", .integer 20)] := by
  decide

/-- Every reader gives the same, with whatever shapes, words, ranges and fallbacks it is called. -/
structure SameReadings (p q : Props) : Prop where
  value? : ∀ key, p.value? key = q.value? key
  read : ∀ {α : Type} key (reader : Json → Reading α) fallback,
    p.read key reader fallback = q.read key reader fallback
  color? : ∀ key, p.color? key = q.color? key
  url? : ∀ key, p.url? key = q.url? key

theorem SameReadings.symm {p q : Props} (h : p.SameReadings q) : q.SameReadings p where
  value? key := (h.value? key).symm
  read key reader fallback := (h.read key reader fallback).symm
  color? key := (h.color? key).symm
  url? key := (h.url? key).symm

theorem SameReadings.alike {p q : Props} (h : p.SameReadings q) : p.Alike q where
  text key := h.read key readText
  shownText key := h.read key readShownText none
  bool key := h.read key readBool
  keyword key words := h.read key (readKeyword words)
  color? := h.color?
  url? := h.url?
  number key fallback := .of_eq Double.Alike.refl (h.read key readNumber fallback)
  items key := .of_eq (fun _ => List.forall₂_same.2 fun v _ => .refl v) (h.read key readItems [])

inductive Repeats : List Json → List Json → Prop
  | same (vs : List Json) : Repeats vs vs
  | twice (v : Json) : Repeats [v] [v, v]

theorem Repeats.firstUsable_eq {vs ws : List Json} (h : Repeats vs ws) {α : Type} (key : String)
    (reader : Json → Reading α) : firstUsable key reader vs = firstUsable key reader ws := by
  cases h with
  | same => rfl
  | twice v =>
    simp only [firstUsable]
    cases reader v <;> rfl

theorem Repeats.findSome?_eq {vs ws : List Json} (h : Repeats vs ws) {α : Type}
    (f : Json → Option α) : vs.findSome? f = ws.findSome? f := by
  cases h with
  | same => rfl
  | twice v =>
    rw [List.findSome?_cons, List.findSome?_cons, List.findSome?_cons]
    cases f v <;> rfl

theorem Repeats.head?_eq {vs ws : List Json} (h : Repeats vs ws) : vs.head? = ws.head? := by
  cases h <;> rfl

theorem sameReadings_of_repeats {p q : Props} (h : ∀ key, Repeats (p.values key) (q.values key)) :
    p.SameReadings q where
  value? key := (h key).head?_eq
  read key reader fallback := by rw [Props.read, Props.read, (h key).firstUsable_eq]
  color? key := (h key).findSome?_eq _
  url? key := (h key).findSome?_eq _

section Values

variable {defaults fs : Fields} {key : String}

def standard (defaults : Fields) (key : String) : List Json := values ⟨[], defaults⟩ key

theorem values_congr {gs : Fields} (h : fs.lookup key = gs.lookup key) :
    values ⟨fs, defaults⟩ key = values ⟨gs, defaults⟩ key := by
  rw [values, values, h]

theorem values_of_not_isSet (h : isSet fs key = false) :
    values ⟨fs, defaults⟩ key = standard defaults key := by
  rw [isSet] at h
  rw [standard, values, values]
  cases hv : fs.lookup key with
  | none => rfl
  | some v =>
    have null : v.isNull = true := by simpa [hv] using h
    simp [null]

theorem repeats_standard {vs : List Json} (h : Repeats vs (standard defaults key)) :
    vs = standard defaults key := by
  generalize hws : standard defaults key = ws at h
  cases h with
  | same => rfl
  | twice v =>
    have short : (standard defaults key).length ≤ 1 := by
      rw [standard, values]
      cases defaults.lookup key with
      | none => exact Nat.zero_le 1
      | some v => exact List.length_filter_le ..
    rw [hws] at short
    exact absurd short (Nat.not_succ_le_self 1)

theorem repeats_putField_default (fs : Fields) :
    Repeats (standard defaults key)
      (values ⟨putField key ((defaults.lookup key).getD .null) fs, defaults⟩ key) := by
  rw [standard, values, values, Json.lookup_putField, if_pos rfl]
  cases defaults.lookup key with
  | none => exact .same []
  | some v =>
    cases hv : v.isNull with
    | true => simpa [hv] using Repeats.same []
    | false => simpa [hv] using Repeats.twice v

theorem repeats_putDefault {p : Props} (h : ∀ k, Repeats (p.values k) (values ⟨fs, defaults⟩ k))
    (key k : String) : Repeats (p.values k) (values ⟨putDefault defaults fs key, defaults⟩ k) := by
  rw [putDefault]
  split
  · exact h k
  · next unset =>
    by_cases hk : k = key
    · subst hk
      have open_ := h k
      rw [values_of_not_isSet (Bool.eq_false_iff.2 unset)] at open_
      rw [repeats_standard open_]
      exact repeats_putField_default fs
    · have kept : (putField key ((defaults.lookup key).getD .null) fs).lookup k = fs.lookup k := by
        rw [Json.lookup_putField, if_neg hk]
      rw [values_congr kept]
      exact h k

end Values

variable (defaults fs : Fields) (key : String)

theorem lookup_withoutNulls :
    (withoutNulls fs).lookup key = (fs.lookup key).filter fun v => !v.isNull := by
  rw [withoutNulls, Json.lookup_filter (isSet fs), isSet]
  cases fs.lookup key with
  | none => rfl
  | some v => rfl

theorem sameReadings_withoutNulls : SameReadings ⟨withoutNulls fs, defaults⟩ ⟨fs, defaults⟩ := by
  apply sameReadings_of_repeats
  intro key
  have same : values ⟨withoutNulls fs, defaults⟩ key = values ⟨fs, defaults⟩ key := by
    rw [values, values, lookup_withoutNulls, List.filter_append, List.filter_append,
      Option.toList_filter, List.filter_filter]
    simp only [Bool.and_self]
  rw [same]
  exact .same _

theorem sameReadings_withDefaults (chosen : String → Bool) :
    SameReadings ⟨fs, defaults⟩ ⟨withDefaults chosen defaults fs, defaults⟩ := by
  apply sameReadings_of_repeats
  rw [withDefaults]
  generalize (defaults.map Prod.fst).filter chosen = keys
  have run : ∀ gs : Fields, (∀ k, Repeats (values ⟨fs, defaults⟩ k) (values ⟨gs, defaults⟩ k)) →
      ∀ k, Repeats (values ⟨fs, defaults⟩ k)
        (values ⟨keys.foldl (putDefault defaults) gs, defaults⟩ k) := by
    induction keys with
    | nil => exact fun _ h => h
    | cons key keys ih => exact fun gs h => ih _ (repeats_putDefault h key)
  exact run fs fun k => .same _

theorem lookup_withoutKey (k : String) :
    (withoutKey key fs).lookup k = if k = key then none else fs.lookup k := by
  rw [withoutKey, Json.lookup_filter fun k => k != key]
  by_cases h : k = key <;> simp [h]

theorem sameReadings_put {v : Json}
    (h : Repeats (standard defaults key) (values ⟨putField key v fs, defaults⟩ key)) :
    SameReadings ⟨withoutKey key fs, defaults⟩ ⟨putField key v fs, defaults⟩ := by
  apply sameReadings_of_repeats
  intro k
  by_cases hk : k = key
  · subst hk
    have absent : isSet (withoutKey k fs) k = false := by
      rw [isSet, lookup_withoutKey, if_pos rfl]
      rfl
    rw [values_of_not_isSet absent]
    exact h
  · have found : (withoutKey key fs).lookup k = (putField key v fs).lookup k := by
      rw [lookup_withoutKey, Json.lookup_putField, if_neg hk, if_neg hk]
    rw [values_congr found]
    exact .same _

theorem sameReadings_null :
    SameReadings ⟨withoutKey key fs, defaults⟩ ⟨putField key .null fs, defaults⟩ := by
  have unset : isSet (putField key .null fs) key = false := by
    rw [isSet, Json.lookup_putField, if_pos rfl]
    rfl
  apply sameReadings_put
  rw [values_of_not_isSet unset]
  exact .same _

/-- A property that is left out reads as one that is written out as its default. -/
theorem sameReadings_default :
    SameReadings ⟨withoutKey key fs, defaults⟩
      ⟨putField key ((defaults.lookup key).getD .null) fs, defaults⟩ :=
  sameReadings_put defaults fs key (repeats_putField_default fs)

end Props

end MiniApp
