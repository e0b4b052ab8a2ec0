import MiniApp.Proofs.Component.Related
import MiniApp.Proofs.Component.Resolution
import MiniApp.Proofs.Markup.Safety

set_option autoImplicit false

namespace MiniApp

open Markup MiniApp.Tree

namespace DocumentRule

abbrev SafeTrees (ts : List Markup.Tree) : Prop := AllOf SafeHead Accepted ts

theorem safeAttrs_of_all {attrs : List (String × Attr)} (h : attrs.all isPlain = true) :
    ∀ a ∈ attrs, SafeAttr a := fun a ha => .inl (List.all_eq_true.1 h a ha)

section Elements

variable {name : String} {classes : List String} {attrs : List (String × Attr)}
  {styles : List (String × String)}

theorem safe_element {children : List Markup.Tree} (hn : name ∈ blockNames)
    (ha : ∀ a ∈ attrs, SafeAttr a) (hb : SafeTrees children) :
    SafeTree (element name classes attrs styles children) := .element ⟨hn, ha⟩ hb

theorem safe_plain {children : List Markup.Tree} (hn : name ∈ blockNames)
    (ha : attrs.all isPlain = true) (hb : SafeTrees children) :
    SafeTree (element name classes attrs styles children) := safe_element hn (safeAttrs_of_all ha) hb

theorem safe_voidElement (hn : name ∈ voidNames) (ha : attrs.all isPlain = true) :
    SafeTree (voidElement name classes attrs styles) :=
  .element ⟨hn, safeAttrs_of_all ha⟩ AllOf.nil

end Elements

theorem safeAttrs_press (action : Action) : ∀ a ∈ pressAttr action, SafeAttr a := by
  intro a ha
  obtain ⟨code, hcode, rfl⟩ := List.mem_map.1 ha
  exact .inr ⟨action, code, Option.mem_toList.1 hcode, rfl⟩

section Fragments

variable {c : Children} (h : c.All Accepted)
include h

theorem safe_slotElement (slot : String) {name className : String} (hn : name ∈ blockNames) :
    SafeTrees (slotElement c slot name className) := by
  refine List.forall_mem_map.2 fun f hf => safe_plain hn rfl (allOf_raws ?_)
  simpa using h.slot? slot f hf

end Fragments

theorem safe_groupElement {fs : List String} (h : ∀ f ∈ fs, Accepted f)
    (className : String) : SafeTrees (groupElement fs className) := by
  rw [groupElement]
  split
  · exact .nil
  · exact allOf_one (safe_plain (by decide) rfl (allOf_raws h))

section Kinds

open Component

theorem tag_mem_blockNames (m : Heading) : m.tag ∈ blockNames := by
  rw [Heading.tag]
  split <;> decide

theorem safe_button (m : Button) : SafeTree (button m) := by
  refine safe_element (by decide) ?_ (allOf_text m.label)
  rw [List.forall_mem_append, List.forall_mem_append]
  refine ⟨⟨safeAttrs_of_all rfl, ?_⟩, safeAttrs_press m.action⟩
  split <;> exact safeAttrs_of_all rfl

theorem safe_slideElement {children : List Markup.Tree} (h : SafeTrees children) :
    SafeTree (slideElement children) := safe_plain (by decide) rfl h

theorem safe_dot (index : Nat) : SafeTree (dot index) := safe_plain (by decide) rfl .nil

theorem safe_tab (active index : Nat) (t : Tab) : SafeTree (tab active index t) := by
  refine safe_plain (by decide) ?_ (.append ?_ ?_)
  · cases t.pageId <;> rfl
  · exact allOf_map (fun icon => safe_plain (by decide) rfl (allOf_text icon)) _
  · exact allOf_one (safe_plain (by decide) rfl (allOf_text t.label))

theorem safe_tabsFrom (active index : Nat) (ts : List Tab) :
    SafeTrees (tabsFrom active index ts) := by
  induction ts generalizing index with
  | nil => exact .nil
  | cons t ts ih => exact .cons (safe_tab active index t) (ih (index + 1))

theorem safe_progress (m : Progress) : SafeTree (progress m) := by
  refine safe_plain (by decide) rfl (.append ?_ ?_)
  · split
    · exact allOf_one (safe_plain (by decide) rfl
        (.cons (safe_plain (by decide) rfl (allOf_text _))
          (allOf_one (safe_plain (by decide) rfl (allOf_text _)))))
    · exact .nil
  · exact allOf_one (safe_plain (by decide) rfl
      (allOf_one (safe_plain (by decide) rfl .nil)))

theorem safe_input (m : Input) (handle : String) : SafeTree (input m handle) := by
  refine safe_plain (by decide) rfl (.cons ?_ (allOf_one ?_))
  · exact safe_plain (by decide) rfl (allOf_text m.label)
  · refine safe_voidElement (by decide) ?_
    cases m.name <;> cases m.required <;> rfl

theorem safe_avatar (m : Avatar) : SafeTree (avatar m) := by
  rw [avatar]
  cases m.src with
  | some src => exact safe_voidElement (by decide) rfl
  | none => exact safe_plain (by decide) rfl (allOf_text m.initials)

variable {c : Children} (h : c.All Accepted)
include h

theorem safe_layout (m : Layout) : SafeTree (layout m c) := by
  refine safe_plain (by decide) rfl (.append (.append ?_ (allOf_one ?_)) ?_)
  · exact safe_slotElement h "header" (by decide)
  · refine safe_plain (by decide) rfl (.append (.append ?_ ?_) ?_)
    · exact allOf_raws h.ordered
    · exact allOf_raws (h.slot? "content")
    · exact allOf_raws (h.extraSlots _)
  · exact safe_slotElement h "footer" (by decide)

theorem safe_card (m : Card) : SafeTree (card m c) := by
  refine safe_plain (by decide) rfl (.append (.append (.append ?_ ?_) ?_) ?_)
  · exact allOf_one (safe_plain (by decide) rfl (allOf_text m.title))
  · exact allOf_map (fun s => safe_plain (by decide) rfl (allOf_text s)) _
  · exact safe_groupElement (h.remaining ["footer"]) "mf-card-body"
  · exact safe_slotElement h "footer" (by decide)

theorem safe_around {f : List Markup.Tree → Markup.Tree}
    (hf : ∀ ts, SafeTrees ts → SafeTree (f ts)) :
    SafeTrees (c.all.map fun fragment => f (raws [fragment])) :=
  List.forall_mem_map.2 fun fragment hm => hf _ (allOf_raws (by simpa using h.all fragment hm))

theorem safe_slides (m : Carousel) : SafeTrees (slides m c) := by
  have image : ∀ s : Slide, SafeTree (slideElement [voidElement "img" []
      [("src", .text s.src), ("alt", .text s.alt), ("draggable", .text "false")] []]) :=
    fun s => safe_slideElement (allOf_one (safe_voidElement (by decide) rfl))
  rw [slides]
  split
  · exact allOf_one (safe_slideElement (allOf_one (safe_voidElement (by decide) rfl)))
  · exact .append (allOf_map image _) (safe_around h fun _ => safe_slideElement)

theorem safe_carousel (m : Carousel) (handle : String) : SafeTree (carousel m c handle) := by
  refine safe_plain (by decide) rfl (.cons ?_ (allOf_one ?_))
  · exact safe_plain (by decide) rfl (safe_slides h m)
  · exact safe_plain (by decide) rfl (allOf_map safe_dot _)

theorem safe_sheet (m : Sheet) (handle : String) : SafeTree (sheet m c handle) := by
  have content : SafeTrees (raws (c.slot? "content").toList ++ raws (c.remaining ["content"])) :=
    .append (allOf_raws (h.slot? "content")) (allOf_raws (h.remaining ["content"]))
  have panel : SafeTrees [
      element "div" ["mf-sheet-handle"] [] [] [],
      element "h3" ["mf-sheet-title"] [("id", .text (handle ++ "-title"))] [] [.text m.title],
      element "div" ["mf-sheet-content"] [] []
        (raws (c.slot? "content").toList ++ raws (c.remaining ["content"])),
      element "button" ["mf-button", "mf-button-secondary", "mf-sheet-close"]
        [("type", .text "button"), ("data-mf-sheet-close", .flag)] [] [.text m.closeLabel]] :=
    .cons (safe_plain (by decide) rfl .nil)
      (.cons (safe_plain (by decide) rfl (allOf_text _))
        (.cons (safe_plain (by decide) rfl content)
          (allOf_one (safe_plain (by decide) rfl (allOf_text _)))))
  refine safe_plain (by decide) rfl (.cons ?_ (allOf_one ?_))
  · exact safe_plain (by decide) rfl (allOf_text m.triggerLabel)
  · exact safe_plain (by decide) rfl (.cons (safe_plain (by decide) rfl .nil)
      (allOf_one (safe_plain (by decide) rfl panel)))

theorem safe_list (m : ItemList) : SafeTree (list m c) := by
  refine safe_plain ?_ rfl (.append ?_ ?_)
  · split <;> decide
  · exact allOf_map (fun item => safe_plain (by decide) rfl (allOf_text item)) _
  · exact safe_around h fun _ hs => safe_plain (by decide) rfl hs

theorem safe_navBar (m : NavBar) : SafeTree (navBar m c) := by
  refine safe_plain (by decide) rfl (.append (.append ?_ ?_) ?_)
  · split
    · refine allOf_one (safe_element (by decide) ?_ (allOf_text _))
      have back : SafeAttr ("onclick", .script (bridge ++ ".goBack()")) :=
        .inr ⟨.back, _, rfl, rfl⟩
      simp only [List.forall_mem_cons]
      exact ⟨.inl rfl, .inl rfl, back, fun _ hm => absurd hm List.not_mem_nil⟩
    · exact .nil
  · exact allOf_one (safe_plain (by decide) rfl (allOf_text m.title))
  · exact safe_groupElement h.all "mf-navbar-actions"

theorem safe_markup (handle : String) (component : Component) :
    SafeTree (component.markup c handle) := by
  cases component with
  | container m => exact safe_plain (by decide) rfl (allOf_raws h.all)
  | layout m => exact safe_layout h m
  | text m => exact safe_plain (by decide) rfl (allOf_text m.text)
  | heading m => exact safe_plain (tag_mem_blockNames m) rfl (allOf_text m.text)
  | button m => exact safe_button m
  | image m => exact safe_voidElement (by decide) rfl
  | card m => exact safe_card h m
  | carousel m => exact safe_carousel h m handle
  | sheet m => exact safe_sheet h m handle
  | tabBar m => exact safe_plain (by decide) rfl (safe_tabsFrom m.active 0 m.tabs)
  | progress m => exact safe_progress m
  | divider m => exact safe_voidElement (by decide) rfl
  | spacer m => exact safe_plain (by decide) rfl .nil
  | input m => exact safe_input m handle
  | list m => exact safe_list h m
  | avatar m => exact safe_avatar m
  | badge m => exact safe_plain (by decide) rfl (allOf_text m.text)
  | navBar m => exact safe_navBar h m

end Kinds

end DocumentRule

end MiniApp
