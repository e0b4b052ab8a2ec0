import MiniApp.Proofs.Component.Shown
import MiniApp.Proofs.Markup.References
import MiniApp.Proofs.Table

set_option autoImplicit false

namespace MiniApp

namespace Children

@[simp]
theorem flatMap_shown_singleton {α : Type} (g : String → List α) (fs : List String) :
    (fs.flatMap fun f => (shown [f]).flatMap g) = (shown fs).flatMap g := by
  induction fs with
  | nil => rfl
  | cons f fs ih =>
    rw [List.flatMap_cons, ih, ← List.flatMap_append, ← shown_append, List.singleton_append]

theorem perm_extraSlots (c : Children) {name : String} {placed : List String} (h : name ∉ placed) :
    ((c.slot? name).toList ++ c.extraSlots (name :: placed)).Perm (c.extraSlots placed) := by
  have slot : (c.slot? name).toList =
      shown ((c.slots.entries.filter fun e => e.1 = name).map Prod.snd) := by
    rw [Table.entries_filter_key, slot?, shown]
    cases c.slots.get? name with
    | none => rfl
    | some f => by_cases empty : f = "" <;> simp [empty]
  have own : (c.slots.entries.filter fun e => !placed.contains e.1).filter (fun e => e.1 = name) =
      c.slots.entries.filter fun e => e.1 = name := by
    rw [List.filter_filter]
    refine List.filter_congr fun e _ => ?_
    by_cases here : e.1 = name <;> simp [here, h]
  have others : (c.slots.entries.filter fun e => !placed.contains e.1).filter
      (fun e => !decide (e.1 = name)) =
        c.slots.entries.filter fun e => !(name :: placed).contains e.1 := by
    rw [List.filter_filter]
    refine List.filter_congr fun e _ => ?_
    simp
  have split := List.filter_append_perm (fun e : String × String => e.1 = name)
    (c.slots.entries.filter fun e => !placed.contains e.1)
  rw [own, others] at split
  rw [slot, extraSlots, extraSlots, ← shown_append, ← List.map_append]
  exact (split.map Prod.snd).filter _

theorem perm_all (c : Children) {placed : List String} (apart : placed.Nodup) :
    (c.remaining placed ++ placed.flatMap fun name => (c.slot? name).toList).Perm c.all := by
  have slots : (c.extraSlots placed ++ placed.flatMap fun name => (c.slot? name).toList).Perm
      (c.extraSlots []) := by
    induction placed with
    | nil => rw [List.flatMap_nil, List.append_nil]
    | cons name placed ih =>
      rw [List.nodup_cons] at apart
      rw [List.flatMap_cons, ← List.append_assoc]
      exact ((List.perm_append_comm.trans (c.perm_extraSlots apart.1)).append_right _).trans
        (ih apart.2)
  have everything : c.all = shown c.ordered ++ c.extraSlots [] := by
    simp [all, extraSlots, shown, Table.values]
  rw [everything, remaining, List.append_assoc]
  exact slots.append_left _

def fragments (c : Children) : List String := c.ordered ++ c.slots.values

theorem subperm_fragments_add (c : Children) (slot : Option String) (f : String) :
    (c.add slot f).fragments.Subperm (c.fragments ++ [f]) := by
  rw [fragments, fragments, List.append_assoc]
  cases slot with
  | none =>
    change ((c.ordered ++ [f]) ++ c.slots.values).Subperm _
    rw [List.append_assoc]
    exact (List.perm_append_comm.append_left c.ordered).subperm
  | some name =>
    exact (List.subperm_append_left c.ordered).2 (c.slots.subperm_values_insert name f)

theorem subperm_all_ofList (fs : List (Option String × String)) :
    (ofList fs).all.Subperm (fs.map Prod.snd) := by
  have below (c : Children) : (fs.foldl (fun c f => c.add f.1 f.2) c).fragments.Subperm
      (c.fragments ++ fs.map Prod.snd) := by
    induction fs generalizing c with
    | nil => exact (List.sublist_append_left _ _).subperm
    | cons f fs ih =>
      have first := (List.subperm_append_right (fs.map Prod.snd)).2
        (c.subperm_fragments_add f.1 f.2)
      rw [List.map_cons, List.append_cons]
      exact (ih (c.add f.1 f.2)).trans first
  exact (List.filter_sublist.subperm).trans (below empty)

end Children

namespace Component

/-- The ids of a component, and what refers to them. -/
def ownLinks (handle : String) : Component → List (String × Option String)
  | .carousel _ => [("id", some handle)]
  | .sheet _ =>
    [("data-mf-sheet-open", some handle), ("id", some handle),
      ("aria-labelledby", some (handle ++ "-title")), ("id", some (handle ++ "-title"))]
  | .input _ => [("for", some (handle ++ "-input")), ("id", some (handle ++ "-input"))]
  | _ => []

end Component

namespace DocumentRule

open Component Markup

variable (read : String → List Tag)

section Elements

variable (name : String) (classes : List String) (attrs : List (String × Attr))
  (styles : List (String × String))

@[simp]
theorem links_plain_element (children : List Markup.Tree) :
    linksOf (tagsOf read (element name classes attrs styles children)) =
      attrLinks attrs ++ linksOf (tagsOfAll read children) := linksOf_element ..

@[simp]
theorem links_voidElement :
    linksOf (tagsOf read (voidElement name classes attrs styles)) = attrLinks attrs := by
  rw [voidElement, linksOf_element, if_pos rfl, List.append_nil]

end Elements

@[simp]
theorem links_raws (fs : List String) : linksOf (tagsOfAll read (raws fs)) =
    (Children.shown fs).flatMap fun f => linksOf (read f) := by
  rw [raws, Tree.raws, linksOf_all_map]
  rfl

theorem links_groupElement (fs : List String) (className : String) :
    linksOf (tagsOfAll read (groupElement fs className)) =
      (Children.shown fs).flatMap fun f => linksOf (read f) := by
  rw [groupElement]
  split
  · next none =>
    rw [List.isEmpty_iff.1 none]
    rfl
  · simp

theorem links_slotElement (c : Children) (slot name className : String) :
    linksOf (tagsOfAll read (slotElement c slot name className)) =
      (c.slot? slot).toList.flatMap fun f => linksOf (read f) := by
  simp [slotElement]

theorem attrLinks_pressAttr (action : Action) : attrLinks (pressAttr action) = [] := by
  rw [pressAttr]
  cases action.handler? bridge <;> rfl

theorem links_tabsFrom (active index : Nat) (ts : List Tab) :
    linksOf (tagsOfAll read (tabsFrom active index ts)) = [] := by
  induction ts generalizing index with
  | nil => rfl
  | cons t ts ih =>
    rw [tabsFrom, linksOf_all_cons, ih, List.append_nil, tab]
    cases t.icon <;> cases t.pageId <;> simp

theorem links_dot (index : Nat) : linksOf (tagsOf read (dot index)) = [] := by
  simp [dot]

section Kinds

variable (c : Children)

theorem links_slides (m : Carousel) : linksOf (tagsOfAll read (slides m c)) =
    c.all.flatMap fun f => linksOf (read f) := by
  have images : linksOf (tagsOfAll read (m.slides.map fun s => slideElement [voidElement "img" []
      [("src", .text s.src), ("alt", .text s.alt), ("draggable", .text "false")] []])) = [] := by
    simp [slideElement]
  have fragments : linksOf (tagsOfAll read (c.all.map fun f => slideElement (raws [f]))) =
      c.all.flatMap fun f => linksOf (read f) := by
    simp [slideElement]
  rw [slides]
  split
  · next none =>
    have all : c.all = [] := by simpa using (List.append_eq_nil_iff.1 (List.isEmpty_iff.1 none)).2
    simp [all, slideElement]
  · rw [linksOf_all_append, images, fragments, List.nil_append]

/-- Children have one place or none in a tree, and the links in it are its own and then theirs. -/
def PlacedOnce (c : Children) (own : List (String × Option String)) (t : Markup.Tree) : Prop :=
  ∃ fs : List String, fs.Subperm c.all ∧
    ∀ read, linksOf (tagsOf read t) = own ++ fs.flatMap fun f => linksOf (read f)

theorem placedOnce_leaf {own : List (String × Option String)} {t : Markup.Tree}
    (h : ∀ read, linksOf (tagsOf read t) = own) : PlacedOnce c own t :=
  ⟨[], List.nil_subperm, fun read => by rw [h, List.flatMap_nil, List.append_nil]⟩

theorem placedOnce_layout (m : Layout) : PlacedOnce c [] (layout m c) := by
  refine ⟨(c.slot? "header").toList ++ (Children.shown c.ordered ++ (c.slot? "content").toList ++
    c.extraSlots ["header", "content", "footer"]) ++ (c.slot? "footer").toList, ?_, fun read => ?_⟩
  · have apart : ["header", "content", "footer"].Nodup := by decide
    refine List.Perm.subperm (List.Perm.trans ?_ (c.perm_all apart))
    rw [List.perm_iff_count]
    intro f
    simp [Children.remaining]
    omega
  · simp [layout, links_slotElement]

theorem placedOnce_all {own : List (String × Option String)} {t : Markup.Tree}
    (h : ∀ read, linksOf (tagsOf read t) = own ++ c.all.flatMap fun f => linksOf (read f)) :
    PlacedOnce c own t := ⟨c.all, List.Subperm.refl _, h⟩

theorem subperm_remaining (name : String) :
    ((c.slot? name).toList ++ c.remaining [name]).Subperm c.all := by
  have all := c.perm_all (List.nodup_singleton name)
  rw [List.flatMap_singleton] at all
  exact (List.perm_append_comm.trans all).subperm

theorem placedOnce_card (m : Card) : PlacedOnce c [] (card m c) := by
  refine ⟨c.remaining ["footer"] ++ (c.slot? "footer").toList,
    List.perm_append_comm.subperm.trans (subperm_remaining c "footer"), fun read => ?_⟩
  cases h : m.subtitle <;> simp [card, h, links_groupElement, links_slotElement]

theorem placedOnce_carousel (m : Carousel) (handle : String) :
    PlacedOnce c (ownLinks handle (.carousel m)) (carousel m c handle) :=
  placedOnce_all c fun read => by
    simp [carousel, links_slides, links_dot, ownLinks, Attr.value]

theorem placedOnce_sheet (m : Sheet) (handle : String) :
    PlacedOnce c (ownLinks handle (.sheet m)) (sheet m c handle) := by
  refine ⟨(c.slot? "content").toList ++ c.remaining ["content"], subperm_remaining c "content",
    fun read => ?_⟩
  simp [sheet, ownLinks, Attr.value]

theorem placedOnce_navBar (m : NavBar) : PlacedOnce c [] (navBar m c) :=
  placedOnce_all c fun read => by
    cases h : m.showBack <;> simp [navBar, h, links_groupElement]

theorem links_progress (m : Progress) : linksOf (tagsOf read (progress m)) = [] := by
  cases h : m.showLabel <;> simp [progress, h]

theorem links_avatar (m : Avatar) : linksOf (tagsOf read (avatar m)) = [] := by
  cases h : m.src <;> simp [avatar, h]

theorem links_button (m : Button) : linksOf (tagsOf read (button m)) = [] := by
  cases h : m.disabled <;> simp [button, h, attrLinks_pressAttr]

theorem links_input (m : Input) (handle : String) :
    linksOf (tagsOf read (input m handle)) = ownLinks handle (.input m) := by
  cases name : m.name <;> cases required : m.required <;>
    simp [input, ownLinks, name, required, Attr.value]

/-- A component gives its children one place or none, and has no links but its own. -/
theorem placedOnce_markup (handle : String) (component : Component) :
    PlacedOnce c (component.ownLinks handle) (component.markup c handle) := by
  cases component with
  | container m => exact placedOnce_all c fun read => by simp [Component.markup, container, ownLinks]
  | layout m => exact placedOnce_layout c m
  | text m => exact placedOnce_leaf c fun read => by simp [Component.markup, paragraph, ownLinks]
  | heading m => exact placedOnce_leaf c fun read => by simp [Component.markup, heading, ownLinks]
  | button m => exact placedOnce_leaf c fun read => links_button read m
  | image m => exact placedOnce_leaf c fun read => by simp [Component.markup, image, ownLinks]
  | card m => exact placedOnce_card c m
  | carousel m => exact placedOnce_carousel c m handle
  | sheet m => exact placedOnce_sheet c m handle
  | tabBar m =>
    exact placedOnce_leaf c fun read => by
      simp [Component.markup, tabBar, ownLinks, links_tabsFrom]
  | progress m => exact placedOnce_leaf c fun read => links_progress read m
  | divider m => exact placedOnce_leaf c fun read => by simp [Component.markup, divider, ownLinks]
  | spacer m => exact placedOnce_leaf c fun read => by simp [Component.markup, spacer, ownLinks]
  | input m => exact placedOnce_leaf c fun read => links_input read m handle
  | list m => exact placedOnce_all c fun read => by simp [Component.markup, list, ownLinks]
  | avatar m => exact placedOnce_leaf c fun read => links_avatar read m
  | badge m => exact placedOnce_leaf c fun read => by simp [Component.markup, badge, ownLinks]
  | navBar m => exact placedOnce_navBar c m

end Kinds

end DocumentRule

end MiniApp
