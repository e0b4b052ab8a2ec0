import MiniApp.Component.DocumentRule
import MiniApp.Component.ProjectRule
import MiniApp.Proofs.Source.Collect

set_option autoImplicit false

namespace MiniApp

variable {β : Type}

/-- Around a group there is an element unless the group is empty. -/
theorem Tree.collectAll_group {α σ : Type} (head : Head α σ → List β) (raw : String → List β)
    (h : Head α σ) (fs : List String) :
    collectAll head raw (if fs.isEmpty then [] else [element h (raws fs)]) =
      (if fs = [] then [] else head h) ++ (Children.shown fs).flatMap raw := by
  cases fs with
  | nil => rfl
  | cons f fs => simp [Children.shown]

namespace DocumentRule

open Markup

variable (head : Markup.Head → List β) (raw : String → List β)

@[simp]
theorem collect_element (name : String) (classes : List String) (attrs : List (String × Attr))
    (styles : List (String × String)) (children : List Markup.Tree) :
    (element name classes attrs styles children).collect head raw =
      head ⟨name, false, classes, attrs, styles⟩ ++ Tree.collectAll head raw children := by
  rw [element, Tree.collect]

@[simp]
theorem collect_voidElement (name : String) (classes : List String) (attrs : List (String × Attr))
    (styles : List (String × String)) :
    (voidElement name classes attrs styles).collect head raw =
      head ⟨name, true, classes, attrs, styles⟩ := by
  rw [voidElement, Tree.collect, Tree.collectAll, List.append_nil]

@[simp]
theorem collectAll_raws (fs : List String) :
    Tree.collectAll head raw (raws fs) = (Children.shown fs).flatMap raw :=
  Tree.collectAll_raws head raw fs

@[simp]
theorem collectAll_groupElement (fs : List String) (className : String) :
    Tree.collectAll head raw (groupElement fs className) =
      (if fs = [] then [] else head ⟨"div", false, [className], [], []⟩) ++
        (Children.shown fs).flatMap raw := Tree.collectAll_group ..

end DocumentRule

namespace ProjectRule

open Jsx

variable (head : Jsx.Head → List β) (raw : String → List β)

@[simp]
theorem collect_element (name : String) (classes : List String) (attrs : List (String × Attr))
    (styles : List (String × Jsx.Style)) (children : List Jsx.Tree) :
    (element name classes attrs styles children).collect head raw =
      head ⟨name, false, classes, attrs, styles⟩ ++ Tree.collectAll head raw children := by
  rw [element, Tree.collect]

@[simp]
theorem collectAll_raws (fs : List String) :
    Tree.collectAll head raw (raws fs) = (Children.shown fs).flatMap raw :=
  Tree.collectAll_raws head raw fs

@[simp]
theorem collectAll_groupElement (fs : List String) (className : String) :
    Tree.collectAll head raw (groupElement fs className) =
      (if fs = [] then [] else head ⟨"div", false, [className], [], []⟩) ++
        (Children.shown fs).flatMap raw := Tree.collectAll_group ..

end ProjectRule

end MiniApp
