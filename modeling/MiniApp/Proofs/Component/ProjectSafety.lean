import MiniApp.Proofs.Component.Related
import MiniApp.Proofs.Component.Resolution
import MiniApp.Proofs.Jsx.Safety

set_option autoImplicit false

namespace MiniApp.ProjectRule

open Jsx MiniApp.Tree

abbrev SafeTrees (ts : List Jsx.Tree) : Prop := AllOf SafeHead Accepted ts

section Elements

variable {name : String} {classes : List String} {exprs : List (String × Attr)}
  {styles : List (String × Jsx.Style)} {children : List Jsx.Tree}

theorem safe_element (attrs : List (String × Attr))
    (plain : isPlainHead ⟨name, false, classes, attrs, styles⟩ = true)
    (safe : ∀ a ∈ exprs, SafeAttr a) (below : SafeTrees children) :
    SafeTree (element name classes (attrs ++ exprs) styles children) :=
  .element (safeHead_of_isPlainHead plain safe) below

theorem safe_plain {attrs : List (String × Attr)}
    (plain : isPlainHead ⟨name, false, classes, attrs, styles⟩ = true)
    (below : SafeTrees children) : SafeTree (element name classes attrs styles children) := by
  have safe := safe_element attrs plain (List.forall_mem_nil _) below
  rwa [List.append_nil] at safe

end Elements

section Expressions

theorem safeAttrs_press (action : Action) : ∀ a ∈ pressProp action, SafeAttr a :=
  List.forall_mem_map.2 fun _ hcode => .handler (Option.mem_toList.1 hcode)

theorem safeAttr_number {name : String} (h : name ∈ plainNames) (d : Double) :
    SafeAttr (name, .expr (Numeral.text d)) := by
  have safe := SafeAttr.data h (.number d)
  rwa [Script.render] at safe

theorem isData_record {fields : List (String × Script)}
    (h : ∀ f ∈ fields, f.1 ∈ dataKeys ∧ f.2.IsData dataKeys) :
    (Script.record fields).IsData dataKeys :=
  .record (fun f hf => (h f hf).1) fun f hf => (h f hf).2

theorem isData_slideRecord (s : Component.Slide) : (slideRecord s).IsData dataKeys := by
  have src : "src" ∈ dataKeys := by decide
  have alt : "alt" ∈ dataKeys := by decide
  refine isData_record ?_
  simp only [List.forall_mem_cons]
  exact ⟨⟨src, .text s.src⟩, ⟨alt, .text s.alt⟩, List.forall_mem_nil _⟩

theorem isData_tabRecord (t : Component.Tab) : (tabRecord t).IsData dataKeys := by
  have label : "label" ∈ dataKeys := by decide
  have pageId : "pageId" ∈ dataKeys := by decide
  have icon : "icon" ∈ dataKeys := by decide
  refine isData_record ?_
  simp only [List.forall_mem_append, List.forall_mem_map, List.forall_mem_singleton]
  exact ⟨⟨⟨label, .text t.label⟩, fun page _ => ⟨pageId, .text page⟩⟩,
    fun name _ => ⟨icon, .text name⟩⟩

theorem safeAttr_list {α : Type} {name : String} (h : name ∈ plainNames) {f : α → Script}
    (hf : ∀ a, (f a).IsData dataKeys) (xs : List α) :
    SafeAttr (name, .expr (Script.list (xs.map f)).render) :=
  .data h (.list (List.forall_mem_map.2 fun a _ => hf a))

end Expressions

section Kinds

open Component

theorem safe_heading (m : Heading) : SafeTree (heading m) := by
  have named : tagNames.contains m.tag = true := by
    rw [Heading.tag]
    split <;> rfl
  refine safe_plain ?_ (allOf_text m.text)
  rw [isPlainHead, named]
  cases m.color <;> rfl

theorem safe_button (m : Button) : SafeTree (button m) := by
  have unbroken : hasBreak (" ".intercalate m.classes) = false := by
    rw [Button.classes]
    cases m.fullWidth <;> cases m.variant <;> rfl
  refine safe_element _ ?_ (safeAttrs_press m.action) (allOf_text m.label)
  rw [isPlainHead, List.all_cons, unbroken]
  cases m.disabled <;> rfl

theorem safe_tabBar (m : TabBar) : SafeTree (tabBar m) := by
  refine safe_element [] rfl ?_ .nil
  refine List.forall_mem_cons.2 ⟨safeAttr_list (by decide) isData_tabRecord m.tabs, ?_⟩
  exact List.forall_mem_singleton.2 (.count (by decide) m.active)

theorem safe_progress (m : Progress) : SafeTree (progress m) := by
  have label : SafeTrees [
      element "span" ["mf-progress-label"] [] [] [.text m.label],
      element "span" ["mf-progress-value"] [] [] [.text (Numeral.text m.value ++ "%")]] :=
    .cons (safe_plain rfl (allOf_text _)) (allOf_one (safe_plain rfl (allOf_text _)))
  have range : ∀ a ∈ [("aria-valuemin", Attr.expr "0"), ("aria-valuemax", .expr "100"),
      ("aria-valuenow", .expr (Numeral.text m.value))], SafeAttr a := by
    simp only [List.forall_mem_cons]
    exact ⟨.count (by decide) 0, .count (by decide) 100, safeAttr_number (by decide) m.value,
      List.forall_mem_nil _⟩
  refine safe_plain rfl (.append ?_ (allOf_one ?_))
  · split
    · exact allOf_one (safe_plain rfl label)
    · exact .nil
  · exact safe_element [("role", .text "progressbar")] rfl range
      (allOf_one (safe_plain rfl .nil))

theorem safe_input (m : Input) (handle : String) : SafeTree (input m handle) := by
  refine safe_plain rfl (.cons (safe_plain rfl (allOf_text m.label)) (allOf_one ?_))
  refine safe_plain ?_ .nil
  cases m.name <;> cases m.required <;> rfl

theorem safe_avatar (m : Avatar) : SafeTree (avatar m) := by
  rw [avatar]
  cases m.src with
  | some src => exact safe_plain rfl .nil
  | none => exact safe_plain rfl (allOf_text m.initials)

theorem safe_badge (m : Badge) : SafeTree (badge m) := by
  refine safe_plain ?_ (allOf_text m.text)
  cases m.tone <;> rfl

variable {c : Children} (h : c.All Accepted)
include h

theorem safe_slotElement (slot : String) {name className : String}
    (plain : isPlainHead ⟨name, false, [className], [], []⟩ = true) :
    SafeTrees (slotElement c slot name className) := by
  refine List.forall_mem_map.2 fun f hf => safe_plain plain (allOf_raws ?_)
  exact List.forall_mem_singleton.2 (h.slot? slot f hf)

omit h in
theorem safe_groupElement {fs : List String} (h : ∀ f ∈ fs, Accepted f) {className : String}
    (plain : isPlainHead ⟨"div", false, [className], [], []⟩ = true) :
    SafeTrees (groupElement fs className) := by
  rw [groupElement]
  split
  · exact .nil
  · exact allOf_one (safe_plain plain (allOf_raws h))

theorem safe_layout (m : Layout) : SafeTree (layout m c) := by
  refine safe_plain rfl (.append (.append ?_ (allOf_one ?_)) ?_)
  · exact safe_slotElement h "header" rfl
  · exact safe_plain rfl (.append (.append (allOf_raws h.ordered) (allOf_raws (h.slot? "content")))
      (allOf_raws (h.extraSlots _)))
  · exact safe_slotElement h "footer" rfl

theorem safe_card (m : Card) : SafeTree (card m c) := by
  refine safe_plain ?_ (.append (.append (.append ?_ ?_) ?_) ?_)
  · cases m.background <;> rfl
  · exact allOf_one (safe_plain rfl (allOf_text m.title))
  · exact allOf_map (fun s => safe_plain rfl (allOf_text s)) _
  · exact safe_groupElement (h.remaining ["footer"]) rfl
  · exact safe_slotElement h "footer" rfl

theorem safe_carousel (m : Carousel) : SafeTree (carousel m c) := by
  refine safe_element [] rfl ?_ (allOf_raws h.all)
  simp only [List.forall_mem_cons]
  exact ⟨safeAttr_list (by decide) isData_slideRecord _, safeAttr_number (by decide) m.interval,
    .data (by decide) (.bool m.autoplay), safeAttr_number (by decide) m.height,
    List.forall_mem_nil _⟩

theorem safe_sheet (m : Sheet) (handle : String) : SafeTree (sheet m c handle) :=
  safe_plain rfl (.append (allOf_raws (h.slot? "content"))
    (allOf_raws (h.remaining ["content"])))

theorem safe_list (m : ItemList) : SafeTree (list m c) := by
  refine safe_plain ?_ (.append ?_ ?_)
  · cases m.ordered <;> rfl
  · exact allOf_map (fun item => safe_plain rfl (allOf_text item)) _
  · refine List.forall_mem_map.2 fun fragment hm => safe_plain rfl (allOf_raws ?_)
    exact List.forall_mem_singleton.2 (h.all fragment hm)

theorem safe_navBar (m : NavBar) : SafeTree (navBar m c) := by
  have handler : Action.handler? bridge .back = some (bridge ++ ".goBack()") := rfl
  refine safe_plain rfl (.append (.append ?_ ?_) ?_)
  · split
    · exact allOf_one (safe_element [("type", .text "button"), ("aria-label", .text "Back")]
        rfl (List.forall_mem_singleton.2 (.handler handler)) (allOf_text _))
    · exact .nil
  · exact allOf_one (safe_plain rfl (allOf_text m.title))
  · exact safe_groupElement h.all rfl

theorem safe_jsx (handle : String) (component : Component) : SafeTree (component.jsx c handle) := by
  cases component with
  | container m => exact safe_plain rfl (allOf_raws h.all)
  | layout m => exact safe_layout h m
  | text m =>
    refine safe_plain ?_ (allOf_text m.text)
    cases m.color <;> rfl
  | heading m => exact safe_heading m
  | button m => exact safe_button m
  | image m => exact safe_plain rfl .nil
  | card m => exact safe_card h m
  | carousel m => exact safe_carousel h m
  | sheet m => exact safe_sheet h m handle
  | tabBar m => exact safe_tabBar m
  | progress m => exact safe_progress m
  | divider m => exact safe_plain rfl .nil
  | spacer m => exact safe_plain rfl .nil
  | input m => exact safe_input m handle
  | list m => exact safe_list h m
  | avatar m => exact safe_avatar m
  | badge m => exact safe_badge m
  | navBar m => exact safe_navBar h m

end Kinds

end MiniApp.ProjectRule
