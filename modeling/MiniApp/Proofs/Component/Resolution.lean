import Mathlib.Tactic.Common
import MiniApp.Component.Registry

set_option autoImplicit false

namespace MiniApp

namespace Component

def markup (c : Children) (handle : String) : Component → Markup.Tree
  | container m => DocumentRule.container m c
  | layout m => DocumentRule.layout m c
  | text m => DocumentRule.paragraph m
  | heading m => DocumentRule.heading m
  | button m => DocumentRule.button m
  | image m => DocumentRule.image m
  | card m => DocumentRule.card m c
  | carousel m => DocumentRule.carousel m c handle
  | sheet m => DocumentRule.sheet m c handle
  | tabBar m => DocumentRule.tabBar m
  | progress m => DocumentRule.progress m
  | divider m => DocumentRule.divider m
  | spacer m => DocumentRule.spacer m
  | input m => DocumentRule.input m handle
  | list m => DocumentRule.list m c
  | avatar m => DocumentRule.avatar m
  | badge m => DocumentRule.badge m
  | navBar m => DocumentRule.navBar m c

def jsx (c : Children) (handle : String) : Component → Jsx.Tree
  | container m => ProjectRule.container m c
  | layout m => ProjectRule.layout m c
  | text m => ProjectRule.paragraph m
  | heading m => ProjectRule.heading m
  | button m => ProjectRule.button m
  | image m => ProjectRule.image m
  | card m => ProjectRule.card m c
  | carousel m => ProjectRule.carousel m c
  | sheet m => ProjectRule.sheet m c handle
  | tabBar m => ProjectRule.tabBar m
  | progress m => ProjectRule.progress m
  | divider m => ProjectRule.divider m
  | spacer m => ProjectRule.spacer m
  | input m => ProjectRule.input m handle
  | list m => ProjectRule.list m c
  | avatar m => ProjectRule.avatar m
  | badge m => ProjectRule.badge m
  | navBar m => ProjectRule.navBar m c

def write (backend : Backend) (c : Children) (handle : String) (component : Component) : String :=
  match backend with
  | .document => (component.markup c handle).render Markup.dialect
  | .project => (component.jsx c handle).render Jsx.dialect

end Component

theorem Except.map_map {ε α β γ : Type} (e : Except ε α) (f : α → β) (g : β → γ) :
    (e.map f).map g = e.map fun a => g (f a) := by
  cases e <;> rfl

theorem DocumentRule.tree_eq_resolve (kind : Kind) (p : Props) (c : Children) (handle : String) :
    DocumentRule.tree kind p c handle =
      (Component.resolve kind p).map (Component.markup c handle) := by
  cases kind <;> rw [DocumentRule.tree, Component.resolve, Except.map_map, bind_pure_comp] <;> rfl

theorem ProjectRule.tree_eq_resolve (kind : Kind) (p : Props) (c : Children) (handle : String) :
    ProjectRule.tree kind p c handle = (Component.resolve kind p).map (Component.jsx c handle) := by
  cases kind <;> rw [ProjectRule.tree, Component.resolve, Except.map_map, bind_pure_comp] <;> rfl

theorem Entry.emit_eq_resolve (e : Entry) (backend : Backend) (props : Fields) (c : Children)
    (handle : String) :
    e.emit backend props c handle =
      (Component.resolve e.kind ⟨props, e.defaults⟩).map (Component.write backend c handle) := by
  cases backend with
  | document => rw [Entry.emit, DocumentRule.tree_eq_resolve, Except.map_map]; rfl
  | project => rw [Entry.emit, ProjectRule.tree_eq_resolve, Except.map_map]; rfl

/-- An entry fails on the same properties, with the same error, for every backend. -/
theorem Entry.emit_eq_error_iff (e : Entry) (backend : Backend) (props : Fields) (c : Children)
    (handle : String) (error : PropError) :
    e.emit backend props c handle = .error error ↔
      Component.resolve e.kind ⟨props, e.defaults⟩ = .error error := by
  rw [Entry.emit_eq_resolve]
  cases Component.resolve e.kind ⟨props, e.defaults⟩ <;> simp [Except.map]

end MiniApp
