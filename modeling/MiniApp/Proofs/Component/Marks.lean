import MiniApp.Proofs.Component.ProjectSafety
import MiniApp.Proofs.Jsx.Marks
import MiniApp.Proofs.Table

/-!
What a component of a project is found to use. The marks of imports stand in what is written for a
component when it has them itself, or when a child has them to which it gives a place.
-/

set_option autoImplicit false

namespace MiniApp

def Kind.placesChildren : Kind → Bool
  | .container | .layout | .card | .carousel | .sheet | .list | .navBar => true
  | _ => false

/-- A press calls the bridge: on a button with an action, or on the back button of a bar. -/
def Component.callsBridge : Component → Bool
  | .button m => (m.action.handler? ProjectRule.bridge).isSome
  | .navBar m => m.showBack
  | _ => false

def runtimeKinds : List Kind := [.carousel, .sheet, .tabBar]

namespace Tree

variable {α σ : Type} {head : Head α σ → Prop} {raw : String → Prop}

/-- One of some trees has what is looked for. -/
def AnyHas (head : Head α σ → Prop) (raw : String → Prop) (ts : List (Tree α σ)) : Prop :=
  ∃ t ∈ ts, t.Has head raw

@[simp]
theorem not_has_text (s : String) : ¬ (Tree.text s : Tree α σ).Has head raw := nofun

@[simp]
theorem has_raw_iff (f : String) : (Tree.raw f : Tree α σ).Has head raw ↔ raw f := by
  constructor
  · rintro ⟨⟩
    assumption
  · exact .raw

theorem has_element_iff {h : Head α σ} (void : h.isVoid = false) (children : List (Tree α σ)) :
    (Tree.element h children).Has head raw ↔ head h ∨ AnyHas head raw children := by
  constructor
  · intro has
    cases has with
    | head here => exact .inl here
    | child _ mem there => exact .inr ⟨_, mem, there⟩
  · rintro (here | ⟨t, mem, there⟩)
    · exact .head here
    · exact .child void mem there

@[simp]
theorem not_anyHas_nil : ¬ AnyHas head raw [] := by simp [AnyHas]

@[simp]
theorem anyHas_cons (t : Tree α σ) (ts : List (Tree α σ)) :
    AnyHas head raw (t :: ts) ↔ t.Has head raw ∨ AnyHas head raw ts := List.exists_mem_cons_iff ..

@[simp]
theorem anyHas_append (ts us : List (Tree α σ)) :
    AnyHas head raw (ts ++ us) ↔ AnyHas head raw ts ∨ AnyHas head raw us := by
  simp only [AnyHas, List.mem_append, or_and_right, exists_or]

@[simp]
theorem anyHas_map {β : Type} (f : β → Tree α σ) (xs : List β) :
    AnyHas head raw (xs.map f) ↔ ∃ x ∈ xs, (f x).Has head raw := by
  simp only [AnyHas, List.mem_map, exists_exists_and_eq_and]

theorem Has.imp {head' : Head α σ → Prop} {raw' : String → Prop} {t : Tree α σ}
    (h : t.Has head raw) (heads : ∀ h, head h → head' h) (raws : ∀ f, raw f → raw' f) :
    t.Has head' raw' := by
  induction h with
  | raw found => exact .raw (raws _ found)
  | head here => exact .head (heads _ here)
  | child void mem _ ih => exact .child void mem ih

theorem has_iff_or (t : Tree α σ) :
    t.Has head raw ↔ t.Has head (fun _ => False) ∨ t.Has (fun _ => False) raw := by
  constructor
  · intro h
    induction h with
    | raw found => exact .inr (.raw found)
    | head here => exact .inl (.head here)
    | child void mem _ ih => exact ih.imp (.child void mem) (.child void mem)
  · rintro (h | h)
    · exact h.imp (fun _ => id) fun _ => False.elim
    · exact h.imp (fun _ => False.elim) fun _ => id

end Tree

section Children

variable {raw : String → Prop} (nothing : ¬ raw "")
include nothing

theorem exists_shown_iff (fs : List String) :
    (∃ f ∈ Children.shown fs, raw f) ↔ ∃ f ∈ fs, raw f := by
  refine exists_congr fun f => and_congr_left fun found => ?_
  have shows : f ≠ "" := fun empty => nothing (empty ▸ found)
  simp [Children.shown, shows]

theorem exists_remaining_iff (c : Children) (placed : List String) :
    (∃ f ∈ c.remaining placed, raw f) ↔
      (∃ f ∈ c.ordered, raw f) ∨ ∃ f ∈ c.extraSlots placed, raw f := by
  rw [← exists_shown_iff nothing c.ordered, Children.remaining]
  simp only [List.mem_append, or_and_right, exists_or]

theorem exists_all_iff (c : Children) (placed : List String) :
    (∃ f ∈ c.all, raw f) ↔
      (∃ f ∈ c.remaining placed, raw f) ∨ ∃ name ∈ placed, ∃ f ∈ c.slot? name, raw f := by
  have values (f : String) : f ∈ c.slots.values ↔ ∃ name, c.slots.get? name = some f := by
    simp [Table.values, Table.get?_eq_some_iff]
  have extra (f : String) : f ∈ c.extraSlots placed ↔
      (∃ name, name ∉ placed ∧ c.slots.get? name = some f) ∧ f ≠ "" := by
    simp [Children.extraSlots, Children.shown, Table.get?_eq_some_iff, and_comm]
  rw [exists_remaining_iff nothing, Children.all, exists_shown_iff nothing]
  constructor
  · rintro ⟨f, mem, found⟩
    have shows : f ≠ "" := fun empty => nothing (empty ▸ found)
    rcases List.mem_append.1 mem with ordered | slotted
    · exact .inl (.inl ⟨f, ordered, found⟩)
    obtain ⟨name, here⟩ := (values f).1 slotted
    by_cases own : name ∈ placed
    · exact .inr ⟨name, own, f, Option.filter_eq_some_iff.2 ⟨here, by simpa using shows⟩, found⟩
    · exact .inl (.inr ⟨f, (extra f).2 ⟨⟨name, own, here⟩, shows⟩, found⟩)
  · rintro ((⟨f, mem, found⟩ | ⟨f, mem, found⟩) | ⟨name, -, f, mem, found⟩)
    · exact ⟨f, List.mem_append_left _ mem, found⟩
    · obtain ⟨⟨name, -, here⟩, -⟩ := (extra f).1 mem
      exact ⟨f, List.mem_append_right _ ((values f).2 ⟨name, here⟩), found⟩
    · have here := (Option.filter_eq_some_iff.1 mem).1
      exact ⟨f, List.mem_append_right _ ((values f).2 ⟨name, here⟩), found⟩

end Children

namespace ProjectRule

open Component Jsx

variable {head : Jsx.Head → Prop} {raw : String → Prop}

@[simp]
theorem has_element (name : String) (classes : List String) (attrs : List (String × Attr))
    (styles : List (String × Jsx.Style)) (children : List Jsx.Tree) :
    (element name classes attrs styles children).Has head raw ↔
      head ⟨name, false, classes, attrs, styles⟩ ∨ Tree.AnyHas head raw children :=
  Tree.has_element_iff rfl children

section Fragments

variable (nothing : ¬ raw "")
include nothing

theorem anyHas_raws (fs : List String) : Tree.AnyHas head raw (raws fs) ↔ ∃ f ∈ fs, raw f := by
  rw [raws, Tree.raws, Tree.anyHas_map, ← exists_shown_iff nothing]
  simp only [Tree.has_raw_iff, Children.shown]

theorem anyHas_slotElement (c : Children) (slot name className : String) :
    Tree.AnyHas (fun _ => False) raw (slotElement c slot name className) ↔
      ∃ f ∈ c.slot? slot, raw f := by
  simp [slotElement, anyHas_raws nothing]

theorem anyHas_groupElement (fs : List String) (className : String) :
    Tree.AnyHas (fun _ => False) raw (groupElement fs className) ↔ ∃ f ∈ fs, raw f := by
  cases fs with
  | nil => simp [groupElement]
  | cons f fs => simp [groupElement, anyHas_raws nothing]

theorem has_layout_iff (m : Layout) (c : Children) :
    (layout m c).Has (fun _ => False) raw ↔ ∃ f ∈ c.all, raw f := by
  rw [exists_all_iff nothing c ["header", "content", "footer"], exists_remaining_iff nothing]
  simp only [layout, has_element, false_or, Tree.anyHas_append, Tree.anyHas_cons,
    Tree.not_anyHas_nil, or_false, anyHas_slotElement nothing, anyHas_raws nothing,
    List.exists_mem_cons_iff, List.not_mem_nil, false_and, exists_false, Option.mem_toList]
  constructor
  · rintro ((header | (ordered | content) | extra) | footer)
    · exact .inr (.inl header)
    · exact .inl (.inl ordered)
    · exact .inr (.inr (.inl content))
    · exact .inl (.inr extra)
    · exact .inr (.inr (.inr footer))
  · rintro ((ordered | extra) | header | content | footer)
    · exact .inl (.inr (.inl (.inl ordered)))
    · exact .inl (.inr (.inr extra))
    · exact .inl (.inl header)
    · exact .inl (.inr (.inl (.inr content)))
    · exact .inr footer

theorem has_card_iff (m : Card) (c : Children) :
    (card m c).Has (fun _ => False) raw ↔ ∃ f ∈ c.all, raw f := by
  rw [exists_all_iff nothing c ["footer"]]
  simp [card, anyHas_slotElement nothing, anyHas_groupElement nothing]

theorem has_sheet_iff (m : Sheet) (c : Children) (handle : String) :
    (sheet m c handle).Has (fun _ => False) raw ↔ ∃ f ∈ c.all, raw f := by
  rw [exists_all_iff nothing c ["content"], or_comm]
  simp [sheet, anyHas_raws nothing]

theorem has_navBar_iff (m : NavBar) (c : Children) :
    (navBar m c).Has (fun _ => False) raw ↔ ∃ f ∈ c.all, raw f := by
  rw [navBar]
  cases m.showBack <;> simp [anyHas_groupElement nothing]

omit nothing in
theorem not_has_progress (m : Progress) : ¬ (progress m).Has (fun _ => False) raw := by
  rw [progress]
  cases m.showLabel <;> simp

omit nothing in
theorem not_has_avatar (m : Avatar) : ¬ (avatar m).Has (fun _ => False) raw := by
  rw [avatar]
  cases m.src <;> simp

/-- What a component shows of its children is all of it or nothing, by its kind. -/
theorem has_fragment_iff (component : Component) (c : Children) (handle : String) :
    (component.jsx c handle).Has (fun _ => False) raw ↔
      component.kind.placesChildren = true ∧ ∃ f ∈ c.all, raw f := by
  cases component with
  | container m => simp [jsx, kind, Kind.placesChildren, container, anyHas_raws nothing]
  | layout m => exact (has_layout_iff nothing m c).trans (and_iff_right rfl).symm
  | card m => exact (has_card_iff nothing m c).trans (and_iff_right rfl).symm
  | carousel m => simp [jsx, kind, Kind.placesChildren, carousel, anyHas_raws nothing]
  | sheet m => exact (has_sheet_iff nothing m c handle).trans (and_iff_right rfl).symm
  | list m => simp [jsx, kind, Kind.placesChildren, list, anyHas_raws nothing]
  | navBar m => exact (has_navBar_iff nothing m c).trans (and_iff_right rfl).symm
  | progress m => exact iff_of_false (not_has_progress m) fun h => Bool.false_ne_true h.1
  | avatar m => exact iff_of_false (not_has_avatar m) fun h => Bool.false_ne_true h.1
  | text | heading | button | image | tabBar | divider | spacer | input | badge =>
    simp [jsx, kind, Kind.placesChildren, paragraph, heading, button, image, tabBar, divider,
      spacer, input, badge]

end Fragments

section Heads

@[simp]
theorem not_anyHas_raws (fs : List String) : ¬ Tree.AnyHas head (fun _ => False) (raws fs) := by
  rw [anyHas_raws not_false]
  simp

theorem not_anyHas_groupElement {className : String}
    (apart : ¬ head ⟨"div", false, [className], [], []⟩) (fs : List String) :
    ¬ Tree.AnyHas head (fun _ => False) (groupElement fs className) := by
  cases fs <;> simp [groupElement, apart]

section Presses

theorem has_presses_button (m : Button) :
    (button m).Has Presses (fun _ => False) ↔ (m.action.handler? bridge).isSome = true := by
  rw [button, pressProp]
  cases m.disabled <;> cases m.action.handler? bridge <;> simp [Presses]

theorem has_presses_navBar (m : NavBar) (c : Children) :
    (navBar m c).Has Presses (fun _ => False) ↔ m.showBack = true := by
  have actions : ¬ Tree.AnyHas Presses (fun _ => False)
      (groupElement c.all "mf-navbar-actions") := not_anyHas_groupElement nofun c.all
  rw [navBar]
  cases m.showBack <;> simp [Presses, actions]

theorem has_presses_iff (component : Component) (c : Children) (handle : String) :
    (component.jsx c handle).Has Presses (fun _ => False) ↔ component.callsBridge = true := by
  cases component with
  | button m => exact has_presses_button m
  | navBar m => exact has_presses_navBar m c
  | progress m =>
    cases h : m.showLabel <;> simp [jsx, callsBridge, progress, Presses, h]
  | avatar m => cases h : m.src <;> simp [jsx, callsBridge, avatar, Presses, h]
  | input m =>
    cases h : m.name <;> cases h' : m.required <;> simp [jsx, callsBridge, input, Presses, h, h']
  | layout m => simp [jsx, callsBridge, layout, slotElement, Presses]
  | card m =>
    have body (fs : List String) : ¬ Tree.AnyHas Presses (fun _ => False)
        (groupElement fs "mf-card-body") := not_anyHas_groupElement (by simp [Presses]) fs
    simp [jsx, callsBridge, card, slotElement, body, Presses]
  | container | text | heading | image | carousel | sheet | tabBar | divider | spacer | list
  | badge =>
    simp [jsx, callsBridge, container, paragraph, heading, image, carousel, sheet, tabBar, divider,
      spacer, list, badge, Presses]

end Presses

section Names

def markupNames : List String :=
  ["div", "header", "footer", "section", "p", "h1", "h2", "h3", "h4", "h5", "h6", "span", "button",
    "label", "ol", "ul", "li", "img", "input", "hr"]

theorem mem_markupNames_tag (m : Heading) : m.tag ∈ markupNames := by
  rw [Heading.tag]
  split <;> decide

def IsForeign (h : Jsx.Head) : Prop := h.name ∉ markupNames

theorem isForeign_iff (name : String) (classes : List String) (attrs : List (String × Attr))
    (styles : List (String × Jsx.Style)) :
    IsForeign ⟨name, false, classes, attrs, styles⟩ ↔ name ∉ markupNames := Iff.rfl

theorem not_has_foreign {component : Component} (h : component.kind ∉ runtimeKinds) (c : Children)
    (handle : String) : ¬ (component.jsx c handle).Has IsForeign (fun _ => False) := by
  have group (fs : List String) (className : String) :
      ¬ Tree.AnyHas IsForeign (fun _ => False) (groupElement fs className) :=
    not_anyHas_groupElement (not_not_intro (by decide : "div" ∈ markupNames)) fs
  cases component with
  | carousel | sheet | tabBar => simp [kind, runtimeKinds] at h
  | heading m => simp [jsx, heading, isForeign_iff, mem_markupNames_tag]
  | list m => cases h : m.ordered <;> simp [jsx, list, isForeign_iff, markupNames, h]
  | progress m => cases h : m.showLabel <;> simp [jsx, progress, isForeign_iff, markupNames, h]
  | avatar m => cases h : m.src <;> simp [jsx, avatar, isForeign_iff, markupNames, h]
  | navBar m => cases h : m.showBack <;> simp [jsx, navBar, isForeign_iff, markupNames, group, h]
  | layout m => simp [jsx, layout, slotElement, isForeign_iff, markupNames]
  | card m => simp [jsx, card, slotElement, isForeign_iff, markupNames, group]
  | container | text | button | image | divider | spacer | input | badge =>
    simp [jsx, container, paragraph, button, image, divider, spacer, input, badge, isForeign_iff,
      markupNames]

theorem has_name_iff {k : Kind} (runtime : k ∈ runtimeKinds) (component : Component) (c : Children)
    (handle : String) :
    (component.jsx c handle).Has (fun h => h.name = k.name) (fun _ => False) ↔
      component.kind = k := by
  have foreign : ∀ k ∈ runtimeKinds, k.name ∉ markupNames := by decide
  have apart : ∀ k ∈ runtimeKinds, ∀ k' ∈ runtimeKinds, k.name = k'.name → k = k' := by decide
  by_cases own : component.kind ∈ runtimeKinds
  · have named : (component.jsx c handle).Has (fun h => h.name = k.name) (fun _ => False) ↔
        component.kind.name = k.name := by
      cases component with
      | carousel m => simp [jsx, kind, Kind.name, carousel]
      | sheet m => simp [jsx, kind, Kind.name, sheet]
      | tabBar m => simp [jsx, kind, Kind.name, tabBar]
      | _ => simp [kind, runtimeKinds] at own
    exact named.trans ⟨apart _ own _ runtime, congrArg Kind.name⟩
  · refine iff_of_false (fun has => not_has_foreign own c handle ?_) fun same =>
      own (same ▸ runtime)
    exact has.imp (fun h named => by rw [IsForeign, named]; exact foreign k runtime) fun _ => id

theorem has_props {component : Component} (runtime : component.kind ∈ runtimeKinds) (c : Children)
    (handle : String) :
    (component.jsx c handle).Has (fun h => h.name = component.kind.name ∧ h.attrs ≠ [])
      (fun _ => False) := by
  cases component with
  | carousel | sheet | tabBar => exact .head ⟨rfl, List.cons_ne_nil _ _⟩
  | _ => simp [kind, runtimeKinds] at runtime

end Names

end Heads

end ProjectRule

open Jsx (Accepted SafeHead)

/-- A text that is found in what is written for a component when the component has it of its own,
or when one of the children has it that the component gives a place. -/
structure Marks (needle : List Char) (own : Component → Prop) : Prop where
  findable : Text.Findable needle
  written : ∀ (component : Component) (c : Children) (handle : String), c.All Accepted →
    (FoundIn needle (component.write .project c handle) ↔
      own component ∨ component.kind.placesChildren = true ∧ ∃ f ∈ c.all, FoundIn needle f)

/-- What is detected in heads marks the components that have such heads. -/
theorem marks_of_detects {needle : List Char} {always only : Jsx.Head → Prop}
    (laws : Detects Jsx.dialect needle SafeHead always only) {own : Component → Prop}
    (always_of : ∀ component c handle, own component →
      (component.jsx c handle).Has always (fun _ => False))
    (of_only : ∀ component c handle, (component.jsx c handle).Has only (fun _ => False) →
      own component) : Marks needle own where
  findable := laws.findable
  written component c handle accepted := by
    have nothing := not_foundIn_empty laws.findable
    have safe := (ProjectRule.safe_jsx accepted handle component).imp fun _ _ => trivial
    have fragments := ProjectRule.has_fragment_iff nothing component c handle
    rw [Component.write, ← fragments]
    constructor
    · intro found
      have has := (Tree.has_iff_or _).1 (laws.has_of_foundIn safe found)
      exact has.imp_left (of_only component c handle)
    · intro has
      refine laws.foundIn_of_has safe ((Tree.has_iff_or _).2 ?_)
      exact has.imp_left (always_of component c handle)

theorem marks_bridge :
    Marks AppSource.bridgeMark.toList fun component => component.callsBridge = true :=
  marks_of_detects Jsx.detects_bridge
    (fun component c handle => (ProjectRule.has_presses_iff component c handle).2)
    fun component c handle => (ProjectRule.has_presses_iff component c handle).1

theorem marks_component {k : Kind} (runtime : k ∈ runtimeKinds) :
    Marks (AppSource.componentMark k.name).toList fun component => component.kind = k := by
  have known : k.name ∈ AppSource.runtimeComponents := List.mem_map_of_mem runtime
  refine marks_of_detects (Jsx.detects_component known) (fun component c handle same => ?_)
    fun component c handle => (ProjectRule.has_name_iff runtime component c handle).1
  subst same
  exact ProjectRule.has_props runtime c handle

end MiniApp
