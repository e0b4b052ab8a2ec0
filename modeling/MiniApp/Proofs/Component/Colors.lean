import MiniApp.Component.Model
import MiniApp.Proofs.Color

set_option autoImplicit false

namespace MiniApp

open Sanitize (IsColor)

/-- What comes of it, if anything does, is good. -/
def Except.Gives {ε α : Type} (good : α → Prop) (result : Except ε α) : Prop :=
  ∀ a, result = .ok a → good a

namespace Except.Gives

variable {ε α β : Type} {good : α → Prop} {x : Except ε α}

theorem ok {a : α} (h : good a) : Gives good (.ok a : Except ε α) := by
  rintro _ ⟨⟩
  exact h

theorem bind_of {known : α → Prop} {good : β → Prop} {f : α → Except ε β} (hx : Gives known x)
    (h : ∀ a, known a → Gives good (f a)) : Gives good (x >>= f) := by
  cases x with
  | ok a => exact h a (hx a rfl)
  | error e =>
    intro b failed
    cases failed

theorem bind {good : β → Prop} {f : α → Except ε β} (h : ∀ a, Gives good (f a)) :
    Gives good (x >>= f) := bind_of (fun _ _ => trivial) fun a _ => h a

theorem map {good : β → Prop} {f : α → β} (h : Gives (fun a => good (f a)) x) :
    Gives good (x.map f) := by
  intro b mapped
  obtain ⟨a, rfl, rfl⟩ := Component.exists_of_map_eq_ok mapped
  exact h a rfl

end Except.Gives

namespace Props

section Readers

variable {α : Type} {good : α → Prop} {reader : Json → Reading α}

theorem gives_firstUsable (key : String) {vs : List Json}
    (h : ∀ v ∈ vs, ∀ a, reader v = .found a → good a) :
    Except.Gives (fun result => ∀ a ∈ result, good a) (firstUsable key reader vs) := by
  induction vs with
  | nil => exact .ok nofun
  | cons v vs ih =>
    rw [List.forall_mem_cons] at h
    rw [firstUsable]
    cases read : reader v with
    | found a => exact .ok fun b same => Option.mem_some_iff.1 same ▸ h.1 a read
    | unusable => exact ih h.2
    | wrongShape expected =>
      intro result failed
      cases failed

theorem gives_read (p : Props) (key : String) {fallback : α}
    (h : ∀ v ∈ p.values key, ∀ a, reader v = .found a → good a) (spare : good fallback) :
    Except.Gives good (p.read key reader fallback) := by
  have usable := gives_firstUsable key h
  rw [read]
  cases found : firstUsable key reader (p.values key) with
  | error e =>
    intro a failed
    cases failed
  | ok result =>
    refine .ok ?_
    cases result with
    | none => exact spare
    | some a => exact usable _ found a rfl

end Readers

variable (p : Props) (key : String)

theorem isColor_of_color? {s : String} (h : p.color? key = some s) : IsColor s.toList := by
  obtain ⟨v, -, read⟩ := List.exists_of_findSome?_eq_some h
  obtain ⟨t, -, checked⟩ := Option.bind_eq_some_iff.1 read
  exact ((Sanitize.color?_eq_some_iff t s).1 checked).2

theorem isColor_color {fallback : String} (h : IsColor fallback.toList) :
    IsColor (p.color key fallback).toList := by
  rw [color]
  cases found : p.color? key with
  | none => exact h
  | some s => exact p.isColor_of_color? key found

end Props

namespace Component

def colors : Component → List String
  | container m => [m.background]
  | text m => m.color.toList
  | heading m => m.color.toList
  | card m => m.background.toList
  | progress m => [m.color]
  | divider m => [m.color]
  | _ => []

def Colored (c : Component) : Prop := ∀ s ∈ c.colors, IsColor s.toList

theorem colored_resolve (kind : Kind) (p : Props) :
    Except.Gives Colored (resolve kind p) := by
  have standIns : ∀ s ∈ ["transparent", "var(--mf-primary)", "var(--mf-border)"],
      Sanitize.isColor s.toList = true := by decide
  have chosen (key : String) {fallback : String}
      (h : fallback ∈ ["transparent", "var(--mf-primary)", "var(--mf-border)"]) :
      ∀ s ∈ [p.color key fallback], IsColor s.toList := by
    have standIn := (Sanitize.isColor_iff _).1 (standIns fallback h)
    exact List.forall_mem_singleton.2 (p.isColor_color key standIn)
  have own (key : String) : ∀ s ∈ (p.color? key).toList, IsColor s.toList := fun s hs =>
    p.isColor_of_color? key (Option.mem_toList.1 hs)
  cases kind with
  | container =>
    exact .map (.bind fun _ => .bind fun _ => .bind fun _ => .bind fun _ => .bind fun _ =>
      .bind fun _ => .ok (chosen "background" (by decide)))
  | text =>
    exact .map (.bind fun _ => .bind fun _ => .bind fun _ => .bind fun _ => .ok (own "color"))
  | heading => exact .map (.bind fun _ => .bind fun _ => .bind fun _ => .ok (own "color"))
  | card =>
    exact .map (.bind fun _ => .bind fun _ => .bind fun _ => .bind fun _ => .ok (own "background"))
  | progress =>
    exact .map (.bind fun _ => .bind fun _ => .bind fun _ => .bind fun _ =>
      .ok (chosen "color" (by decide)))
  | divider => exact .map (.bind fun _ => .bind fun _ => .ok (chosen "color" (by decide)))
  | _ => exact .map fun _ _ => List.forall_mem_nil _

end Component

end MiniApp
