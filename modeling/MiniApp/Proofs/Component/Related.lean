import Mathlib.Data.List.Forall2
import Mathlib.Tactic.Common
import MiniApp.Component.Children
import MiniApp.Proofs.Table

/-!
Rendered children of the same shape: as many ordered ones, the same slots in the same order, and
fragments at the same positions that are related. When related fragments are empty together, what
the rules read off the children is related position by position as well.
-/

set_option autoImplicit false

namespace MiniApp

/-- Fragments that are related are empty together. -/
def KeepsEmptiness (R : String → String → Prop) : Prop := ∀ f g, R f g → (f = "" ↔ g = "")

def Keyed {κ : Type} (R : String → String → Prop) (e e' : κ × String) : Prop :=
  e.1 = e'.1 ∧ R e.2 e'.2

namespace Children

variable {R : String → String → Prop} {c d : Children}

structure Related (R : String → String → Prop) (c d : Children) : Prop where
  ordered : List.Forall₂ R c.ordered d.ordered
  slots : List.Forall₂ (Keyed R) c.slots.entries d.slots.entries

theorem related_empty : empty.Related R empty := ⟨.nil, .nil⟩

theorem forall₂_putEntry {name f g : String} {es es' : List (String × String)} (hf : R f g)
    (h : List.Forall₂ (Keyed R) es es') :
    List.Forall₂ (Keyed R) (putEntry name f es)
      (putEntry name g es') := by
  induction h with
  | nil => exact .cons ⟨rfl, hf⟩ .nil
  | @cons e e' es es' he hes ih =>
    rw [putEntry, putEntry, ← he.1]
    split
    · exact .cons ⟨rfl, hf⟩ hes
    · exact .cons he ih

theorem Related.add {slot : Option String} {f g : String} (h : c.Related R d) (hf : R f g) :
    (c.add slot f).Related R (d.add slot g) := by
  cases slot with
  | none => exact ⟨List.rel_append h.ordered (.cons hf .nil), h.slots⟩
  | some name => exact ⟨h.ordered, forall₂_putEntry hf h.slots⟩

theorem Related.foldl_add {fs gs : List (Option String × String)} (h : c.Related R d)
    (hs : List.Forall₂ (Keyed R) fs gs) :
    (fs.foldl (fun c f => c.add f.1 f.2) c).Related R (gs.foldl (fun c f => c.add f.1 f.2) d) := by
  induction hs generalizing c d with
  | nil => exact h
  | @cons f g fs gs hf _ ih =>
    rw [List.foldl_cons, List.foldl_cons, ← hf.1]
    exact ih (h.add hf.2)

theorem related_ofList {fs gs : List (Option String × String)}
    (hs : List.Forall₂ (Keyed R) fs gs) :
    (ofList fs).Related R (ofList gs) :=
  related_empty.foldl_add hs

theorem forall₂_values {es es' : List (String × String)}
    (h : List.Forall₂ (Keyed R) es es') :
    List.Forall₂ R (es.map Prod.snd) (es'.map Prod.snd) := by
  rw [List.forall₂_map_left_iff, List.forall₂_map_right_iff]
  exact h.imp fun _ _ he => he.2

section Reading

variable (keeps : KeepsEmptiness R)
include keeps

theorem forall₂_shown {fs gs : List String} (h : List.Forall₂ R fs gs) :
    List.Forall₂ R (shown fs) (shown gs) :=
  List.rel_filter (fun f g hf => by simp [keeps f g hf]) h

theorem Related.all (h : c.Related R d) : List.Forall₂ R c.all d.all :=
  forall₂_shown keeps (List.rel_append h.ordered (forall₂_values h.slots))

theorem forall₂_findEntry {name : String} {es es' : List (String × String)}
    (h : List.Forall₂ (Keyed R) es es') :
    List.Forall₂ R ((findEntry name es).filter fun f => f ≠ "").toList
      ((findEntry name es').filter fun f => f ≠ "").toList := by
  induction h with
  | nil => exact .nil
  | @cons e e' es es' he _ ih =>
    have hempty := keeps _ _ he.2
    rw [findEntry, findEntry, ← he.1]
    split
    · by_cases hg : e'.2 = ""
      · simp [Option.filter, hg, hempty.2 hg]
      · simpa [Option.filter, hg, mt hempty.1 hg] using he.2
    · exact ih

theorem Related.slot? (h : c.Related R d) (name : String) :
    List.Forall₂ R (c.slot? name).toList (d.slot? name).toList :=
  forall₂_findEntry keeps h.slots

theorem Related.extraSlots (h : c.Related R d) (placed : List String) :
    List.Forall₂ R (c.extraSlots placed) (d.extraSlots placed) := by
  have kept := List.rel_filter (R := Keyed R) (p := fun e => !placed.contains e.1)
    (q := fun e => !placed.contains e.1) (fun e e' he => by simp [he.1]) h.slots
  exact forall₂_shown keeps (forall₂_values kept)

theorem Related.remaining (h : c.Related R d) (placed : List String) :
    List.Forall₂ R (c.remaining placed) (d.remaining placed) :=
  List.rel_append (forall₂_shown keeps h.ordered) (h.extraSlots keeps placed)

end Reading

theorem ext {c d : Children} (ordered : c.ordered = d.ordered) (slots : c.slots = d.slots) :
    c = d := by
  cases c
  cases d
  cases ordered
  cases slots
  rfl

theorem Related.eq (h : c.Related R d) (hR : ∀ f g, R f g → f = g) : c = d := by
  have ordered : c.ordered = d.ordered := List.forall₂_eq_eq_eq ▸ h.ordered.imp hR
  have slots : c.slots.entries = d.slots.entries :=
    List.forall₂_eq_eq_eq ▸ h.slots.imp fun e e' he => Prod.ext he.1 (hR _ _ he.2)
  exact ext ordered (Table.ext slots)

section All

/-- All children have a property, those that show nothing included. -/
def All (p : String → Prop) (c : Children) : Prop := c.Related (fun f g => p f ∧ f = g) c

variable {p : String → Prop}

theorem keepsEmptiness_and_eq : KeepsEmptiness fun f g => p f ∧ f = g := by
  rintro f g ⟨-, rfl⟩
  rfl

theorem forall_of_forall₂_self {fs : List String}
    (h : List.Forall₂ (fun f g => p f ∧ f = g) fs fs) : ∀ f ∈ fs, p f :=
  fun f hf => (List.forall₂_same.1 h f hf).1

variable (h : c.All p)
include h

theorem All.all : ∀ f ∈ c.all, p f := forall_of_forall₂_self (Related.all keepsEmptiness_and_eq h)

theorem All.ordered : ∀ f ∈ c.ordered, p f := forall_of_forall₂_self (Related.ordered h)

theorem All.slot? (name : String) : ∀ f ∈ (c.slot? name).toList, p f :=
  forall_of_forall₂_self (Related.slot? keepsEmptiness_and_eq h name)

theorem All.extraSlots (placed : List String) : ∀ f ∈ c.extraSlots placed, p f :=
  forall_of_forall₂_self (Related.extraSlots keepsEmptiness_and_eq h placed)

theorem All.remaining (placed : List String) : ∀ f ∈ c.remaining placed, p f :=
  forall_of_forall₂_self (Related.remaining keepsEmptiness_and_eq h placed)

end All

theorem ne_empty_of_mem_shown {f : String} {fs : List String} (h : f ∈ shown fs) : f ≠ "" := by
  simpa using (List.mem_filter.1 h).2

theorem joined_eq_empty_iff (c : Children) : c.joined = "" ↔ c.all = [] := by
  constructor
  · intro h
    cases hall : c.all with
    | nil => rfl
    | cons f fs =>
      have hmem : f ∈ shown (c.ordered ++ c.slots.values) := by
        rw [← Children.all, hall]
        exact List.mem_cons_self
      have shows : f ≠ "" := ne_empty_of_mem_shown hmem
      rw [joined, hall] at h
      cases fs with
      | nil => exact absurd (by simpa using h) shows
      | cons => simp [String.intercalate_cons_cons] at h
  · intro h
    rw [joined, h]
    rfl

theorem Related.joined_eq_empty_iff (keeps : KeepsEmptiness R) (h : c.Related R d) :
    c.joined = "" ↔ d.joined = "" := by
  rw [c.joined_eq_empty_iff, d.joined_eq_empty_iff, ← List.length_eq_zero_iff,
    ← List.length_eq_zero_iff, (h.all keeps).length_eq]

end Children

end MiniApp
