import MiniApp.Proofs.Component.Colors
import MiniApp.Proofs.Component.Parity
import MiniApp.Proofs.Markup.Styles
import MiniApp.Proofs.Source.Reading

set_option autoImplicit false

namespace MiniApp

namespace Sanitize

theorem IsValue.append {s t : String} (hs : IsValue s) (ht : IsValue t) : IsValue (s ++ t) :=
  forall_append hs ht

theorem isValue_numeral (d : Double) : IsValue (Numeral.text d) := by
  refine Numeral.forall_text (fun c digit => ?_) (List.all_iff_forall_prop.1 (by decide)) d
  exact notMem_forbidden (isValueChar_of_isAlphanum (Text.isAlphanum_of_isDigit digit))

theorem isValue_px (d : Double) : IsValue (DocumentRule.px d) :=
  (isValue_numeral d).append (by decide)

end Sanitize

open Sanitize (IsValue IsColor isValue_numeral isValue_px)

namespace Markup

/-- The values of the styles are values, and the start tag tells the styles. -/
structure StyledHead (h : Head) : Prop where
  values : ∀ s ∈ h.styles, IsValue s.2
  read : stylesOf? (opening h ++ ">") = some h.styles

abbrev StyledTree (t : Markup.Tree) : Prop := t.All StyledHead fun _ => True

def StyledTrees (ts : List Markup.Tree) : Prop := ∀ t ∈ ts, StyledTree t

section Trees

theorem styledTrees_one {t : Markup.Tree} (h : StyledTree t) : StyledTrees [t] :=
  List.forall_mem_singleton.2 h

theorem StyledTrees.append {ts us : List Markup.Tree} (h : StyledTrees ts) (h' : StyledTrees us) :
    StyledTrees (ts ++ us) := List.forall_mem_append.2 ⟨h, h'⟩

theorem styledTrees_text (s : String) : StyledTrees [.text s] := styledTrees_one (.text s)

theorem styledTrees_map {α : Type} {f : α → Markup.Tree} (h : ∀ a, StyledTree (f a)) (xs : List α) :
    StyledTrees (xs.map f) := List.forall_mem_map.2 fun a _ => h a

end Trees

section Names

def styleNames : List String :=
  ["flex-direction", "gap", "padding", "background", "align-items", "justify-content",
    "border-radius", "font-size", "font-weight", "text-align", "color", "height", "object-fit",
    "width", "border-top-width", "border-top-color", "margin"]

/-- The rules name the tag, the attributes and the styles of the element. -/
def isNamed (h : Head) : Bool :=
  (tagNames.contains h.name && h.name != "br") &&
    (h.attrs.all fun a => attrNames.contains a.1 && a.1 != "class" && a.1 != "style") &&
    h.styles.all fun s => styleNames.contains s.1

theorem plainName_of_isNameChar {name : String}
    (h : name.toList ≠ [] ∧ name.toList.all isNameChar = true) : Parse.PlainName name := by
  have ends : (Parse.nameEnds.all fun c => !isNameChar c) = true := by decide
  refine ⟨h.1, List.all_eq_true.2 fun c hc => ?_⟩
  have here : isNameChar c = true := List.all_eq_true.1 h.2 c hc
  have other : Parse.nameEnds.contains c = false := by
    by_contra listed
    rw [Bool.not_eq_false, List.contains_iff_mem] at listed
    have outside := List.all_eq_true.1 ends c listed
    rw [here] at outside
    cases outside
  have blank : Text.isBlank c = false := by
    rw [isNameChar, Bool.or_eq_true, Bool.or_eq_true, beq_iff_eq] at here
    rcases here with (lower | digit) | rfl
    · exact Text.isBlank_of_isAlphanum (Text.isAlphanum_of_isLower lower)
    · exact Text.isBlank_of_isAlphanum (Text.isAlphanum_of_isDigit digit)
    · decide
  rw [Parse.isNameChar, blank, other]
  rfl

theorem styledHead_of_isNamed {h : Head} (named : isNamed h = true)
    (values : ∀ s ∈ h.styles, IsValue s.2) : StyledHead h := by
  have styles : ∀ name ∈ styleNames, ';' ∉ name.toList ∧ ':' ∉ name.toList := by decide
  simp only [isNamed, Bool.and_eq_true, List.all_eq_true, List.contains_iff_mem,
    bne_iff_ne] at named
  obtain ⟨⟨⟨tag, other⟩, own⟩, declared⟩ := named
  have plain : PlainHead h := by
    refine ⟨plainName_of_isNameChar (all_isNameChar_tagNames _ tag), other, fun a ha => ?_⟩
    obtain ⟨⟨listed, notClass⟩, notStyle⟩ := own a ha
    exact ⟨plainName_of_isNameChar (all_isNameChar_attrNames _ listed), notClass, notStyle⟩
  exact ⟨values, stylesOf?_opening plain fun s hs => ⟨styles _ (declared s hs), values s hs⟩⟩

end Names

end Markup

namespace DocumentRule

open Markup Component

section Trees

theorem styledTrees_raws (fs : List String) : StyledTrees (raws fs) :=
  List.forall_mem_map.2 fun _ _ => .raw trivial

variable {name : String} {classes : List String} {attrs : List (String × Attr)}
  {styles : List (String × String)} {children : List Markup.Tree}

theorem styled_element (named : isNamed ⟨name, false, classes, attrs, styles⟩ = true)
    (values : ∀ s ∈ styles, IsValue s.2) (below : StyledTrees children) :
    StyledTree (element name classes attrs styles children) :=
  .element (styledHead_of_isNamed named values) below

theorem styled_plain (named : isNamed ⟨name, false, classes, attrs, []⟩ = true)
    (below : StyledTrees children) : StyledTree (element name classes attrs [] children) :=
  styled_element named (List.forall_mem_nil _) below

theorem styled_voidElement (named : isNamed ⟨name, true, classes, attrs, styles⟩ = true)
    (values : ∀ s ∈ styles, IsValue s.2) : StyledTree (voidElement name classes attrs styles) :=
  .element (styledHead_of_isNamed named values) (List.forall_mem_nil _)

theorem styled_void (named : isNamed ⟨name, true, classes, attrs, []⟩ = true) :
    StyledTree (voidElement name classes attrs []) :=
  styled_voidElement named (List.forall_mem_nil _)

end Trees

section Fragments

variable (c : Children)

theorem styled_slotElement (slot : String) {name className : String}
    (named : isNamed ⟨name, false, [className], [], []⟩ = true) :
    StyledTrees (slotElement c slot name className) :=
  styledTrees_map (fun _ => styled_plain named (styledTrees_raws _)) _

theorem styled_groupElement (fs : List String) (className : String) :
    StyledTrees (groupElement fs className) := by
  rw [groupElement]
  split
  · exact List.forall_mem_nil _
  · exact styledTrees_one (styled_plain rfl (styledTrees_raws fs))

theorem values_colorStyle {color : Option String} (colored : ∀ s ∈ color.toList, IsColor s.toList)
    (name : String) : ∀ s ∈ colorStyle color name, IsValue s.2 :=
  List.forall_mem_map.2 fun s hs => (colored s hs).isValue

end Fragments

section Kinds

variable (c : Children) (handle : String)

theorem styled_container {m : Container} (colored : (Component.container m).Colored) :
    StyledTree (container m c) := by
  have direction : IsValue m.direction.word := by cases m.direction <;> decide
  have align : IsValue m.align.flexValue := by cases m.align <;> decide
  have justify : IsValue m.justify.flexValue := by cases m.justify <;> decide
  have background : IsValue m.background := (List.forall_mem_singleton.1 colored).isValue
  refine styled_element rfl ?_ (styledTrees_raws c.all)
  simp only [List.forall_mem_cons]
  exact ⟨direction, isValue_px m.gap, isValue_px m.padding, background, align, justify,
    isValue_px m.radius, List.forall_mem_nil _⟩

theorem styled_layout (m : Layout) : StyledTree (layout m c) := by
  refine styled_plain rfl (.append (.append ?_ (styledTrees_one ?_)) ?_)
  · exact styled_slotElement c "header" rfl
  · refine styled_element rfl ?_ (.append (.append ?_ ?_) ?_)
    · simp only [List.forall_mem_cons]
      exact ⟨isValue_px m.padding, isValue_px m.gap, List.forall_mem_nil _⟩
    all_goals exact styledTrees_raws _
  · exact styled_slotElement c "footer" rfl

theorem isValue_textAlign (align : TextAlign) : IsValue align.word := by cases align <;> decide

theorem styled_paragraph {m : Paragraph} (colored : (Component.text m).Colored) :
    StyledTree (paragraph m) := by
  refine styled_element ?_ ?_ (styledTrees_text m.text)
  · cases m.color <;> rfl
  · simp only [List.forall_mem_append, List.forall_mem_cons]
    exact ⟨⟨isValue_px m.size, isValue_numeral m.weight, isValue_textAlign m.align,
      List.forall_mem_nil _⟩, values_colorStyle colored "color"⟩

theorem styled_heading {m : Heading} (colored : (Component.heading m).Colored) :
    StyledTree (heading m) := by
  have tag : tagNames.contains m.tag = true ∧ m.tag ≠ "br" := by
    rw [Heading.tag]
    split <;> decide
  refine styled_element ?_ ?_ (styledTrees_text m.text)
  · rw [isNamed, tag.1, bne_iff_ne.2 tag.2]
    cases m.color <;> rfl
  · exact List.forall_mem_cons.2 ⟨isValue_textAlign m.align, values_colorStyle colored "color"⟩

theorem styled_button (m : Button) : StyledTree (button m) := by
  refine styled_plain ?_ (styledTrees_text m.label)
  rw [pressAttr]
  cases m.disabled <;> cases m.action.handler? bridge <;> rfl

theorem styled_image (m : Image) : StyledTree (image m) := by
  have fit : IsValue m.fit.word := by cases m.fit <;> decide
  refine styled_voidElement rfl ?_
  simp only [List.forall_mem_cons]
  exact ⟨isValue_px m.height, isValue_px m.radius, fit, List.forall_mem_nil _⟩

theorem styled_card {m : Card} (colored : (Component.card m).Colored) :
    StyledTree (card m c) := by
  refine styled_element ?_ ?_ (.append (.append (.append ?_ ?_) ?_) ?_)
  · cases m.background <;> rfl
  · simp only [List.forall_mem_append, List.forall_mem_cons]
    exact ⟨⟨isValue_px m.padding, isValue_px m.radius, List.forall_mem_nil _⟩,
      values_colorStyle colored "background"⟩
  · exact styledTrees_one (styled_plain rfl (styledTrees_text m.title))
  · exact styledTrees_map (fun s => styled_plain rfl (styledTrees_text s)) _
  · exact styled_groupElement _ _
  · exact styled_slotElement c "footer" rfl

theorem styled_slides (m : Carousel) : StyledTrees (slides m c) := by
  have slide {children : List Markup.Tree} (h : StyledTrees children) :
      StyledTree (slideElement children) := styled_plain rfl h
  rw [slides]
  split
  · exact styledTrees_one (slide (styledTrees_one (styled_void rfl)))
  · exact .append (styledTrees_map (fun _ => slide (styledTrees_one (styled_void rfl))) _)
      (styledTrees_map (fun _ => slide (styledTrees_raws _)) _)

theorem styled_carousel (m : Carousel) : StyledTree (carousel m c handle) := by
  refine styled_element rfl (List.forall_mem_singleton.2 (isValue_px m.height)) ?_
  refine List.forall_mem_cons.2 ⟨styled_plain rfl (styled_slides c m), styledTrees_one ?_⟩
  exact styled_plain rfl (styledTrees_map (fun _ => styled_plain rfl (List.forall_mem_nil _)) _)

theorem styled_sheet (m : Sheet) : StyledTree (sheet m c handle) := by
  have content := StyledTrees.append (styledTrees_raws (c.slot? "content").toList)
    (styledTrees_raws (c.remaining ["content"]))
  refine styled_plain rfl (List.forall_mem_cons.2 ⟨?_, styledTrees_one ?_⟩)
  · exact styled_plain rfl (styledTrees_text m.triggerLabel)
  · refine styled_plain rfl (List.forall_mem_cons.2 ⟨?_, styledTrees_one (styled_plain rfl ?_)⟩)
    · exact styled_plain rfl (List.forall_mem_nil _)
    · simp only [StyledTrees, List.forall_mem_cons]
      exact ⟨styled_plain rfl (List.forall_mem_nil _), styled_plain rfl (styledTrees_text m.title),
        styled_plain rfl content, styled_plain rfl (styledTrees_text m.closeLabel),
        List.forall_mem_nil _⟩

theorem styled_tab (active index : Nat) (t : Tab) : StyledTree (tab active index t) := by
  refine styled_plain ?_ (.append ?_ ?_)
  · cases t.pageId <;> rfl
  · exact styledTrees_map (fun icon => styled_plain rfl (styledTrees_text icon)) _
  · exact styledTrees_one (styled_plain rfl (styledTrees_text t.label))

theorem styled_tabsFrom (active index : Nat) (ts : List Tab) :
    StyledTrees (tabsFrom active index ts) := by
  induction ts generalizing index with
  | nil => exact List.forall_mem_nil _
  | cons t ts ih => exact List.forall_mem_cons.2 ⟨styled_tab active index t, ih (index + 1)⟩

theorem styled_progress {m : Progress} (colored : (Component.progress m).Colored) :
    StyledTree (progress m) := by
  have width : IsValue (Numeral.text m.value ++ "%") := (isValue_numeral m.value).append (by decide)
  have color : IsValue m.color := (List.forall_mem_singleton.1 colored).isValue
  have fill : StyledTree (element "div" ["mf-progress-fill"] []
      [("width", Numeral.text m.value ++ "%"), ("background", m.color)] []) := by
    refine styled_element rfl ?_ (List.forall_mem_nil _)
    simp only [List.forall_mem_cons]
    exact ⟨width, color, List.forall_mem_nil _⟩
  refine styled_plain rfl (.append ?_ (styledTrees_one ?_))
  · split
    · refine styledTrees_one (styled_plain rfl (List.forall_mem_cons.2 ⟨?_, styledTrees_one ?_⟩))
      · exact styled_plain rfl (styledTrees_text m.label)
      · exact styled_plain rfl (styledTrees_text _)
    · exact List.forall_mem_nil _
  · exact styled_element rfl (List.forall_mem_singleton.2 (isValue_px m.height))
      (styledTrees_one fill)

theorem styled_divider {m : Divider} (colored : (Component.divider m).Colored) :
    StyledTree (divider m) := by
  have color : IsValue m.color := (List.forall_mem_singleton.1 colored).isValue
  have margin : IsValue (px m.spacing ++ " 0") := (isValue_px m.spacing).append (by decide)
  refine styled_voidElement rfl ?_
  simp only [List.forall_mem_cons]
  exact ⟨isValue_px m.thickness, color, margin, List.forall_mem_nil _⟩

theorem styled_spacer (m : Spacer) : StyledTree (spacer m) :=
  styled_element rfl (List.forall_mem_singleton.2 (isValue_px m.height)) (List.forall_mem_nil _)

theorem styled_input (m : Input) : StyledTree (input m handle) := by
  refine styled_plain rfl (List.forall_mem_cons.2 ⟨?_, styledTrees_one (styled_void ?_)⟩)
  · exact styled_plain rfl (styledTrees_text m.label)
  · cases m.name <;> cases m.required <;> rfl

theorem styled_list (m : ItemList) : StyledTree (list m c) := by
  refine styled_plain ?_ (.append ?_ ?_)
  · cases m.ordered <;> rfl
  · exact styledTrees_map (fun item => styled_plain rfl (styledTrees_text item)) _
  · exact styledTrees_map (fun _ => styled_plain rfl (styledTrees_raws _)) _

theorem styled_avatar (m : Avatar) : StyledTree (avatar m) := by
  have sides : ∀ s ∈ [("width", px m.size), ("height", px m.size)], IsValue s.2 := by
    simp only [List.forall_mem_cons]
    exact ⟨isValue_px m.size, isValue_px m.size, List.forall_mem_nil _⟩
  rw [avatar]
  cases m.src with
  | some src => exact styled_voidElement rfl sides
  | none =>
    refine styled_element rfl (List.forall_mem_append.2 ⟨sides, ?_⟩) (styledTrees_text m.initials)
    exact List.forall_mem_singleton.2 (isValue_px m.fontSize)

theorem styled_navBar (m : NavBar) : StyledTree (navBar m c) := by
  refine styled_plain rfl (.append (.append ?_ ?_) ?_)
  · split
    · exact styledTrees_one (styled_plain rfl (styledTrees_text _))
    · exact List.forall_mem_nil _
  · exact styledTrees_one (styled_plain rfl (styledTrees_text m.title))
  · exact styled_groupElement _ _

theorem styled_markup {component : Component} (colored : component.Colored) :
    StyledTree (component.markup c handle) := by
  cases component with
  | container m => exact styled_container c colored
  | layout m => exact styled_layout c m
  | text m => exact styled_paragraph colored
  | heading m => exact styled_heading colored
  | button m => exact styled_button m
  | image m => exact styled_image m
  | card m => exact styled_card c colored
  | carousel m => exact styled_carousel c handle m
  | sheet m => exact styled_sheet c handle m
  | tabBar m => exact styled_plain rfl (styled_tabsFrom m.active 0 m.tabs)
  | progress m => exact styled_progress colored
  | divider m => exact styled_divider colored
  | spacer m => exact styled_spacer m
  | input m => exact styled_input handle m
  | list m => exact styled_list c m
  | avatar m => exact styled_avatar m
  | badge m => exact styled_plain rfl (styledTrees_text m.text)
  | navBar m => exact styled_navBar c m

end Kinds

end DocumentRule

namespace Jsx

def Style.value : Style → String
  | .number d => Numeral.text d
  | .text s => s

def StyledHead (h : Head) : Prop := ∀ s ∈ h.styles, IsValue s.2.value

abbrev StyledTree (t : Jsx.Tree) : Prop := t.All StyledHead fun _ => True

end Jsx

namespace Parity

theorem HeadRenamed.styled {head : Markup.Head} {head' : Jsx.Head} (h : HeadRenamed head head')
    (values : ∀ s ∈ head.styles, IsValue s.2) : Jsx.StyledHead head' := by
  rintro ⟨name, style⟩ hs
  cases style with
  | number d => exact isValue_numeral d
  | text value =>
    have renamed : renamedStyle (name, .text value) ∈ head.styles := by
      rw [h.styles]
      exact List.mem_map_of_mem hs
    exact values _ renamed

theorem exists_of_mem_right {α β : Type} {R : α → β → Prop} {as : List α} {bs : List β}
    (h : List.Forall₂ R as bs) : ∀ b ∈ bs, ∃ a ∈ as, R a b := by
  induction h with
  | nil => exact List.forall_mem_nil _
  | cons first _ ih =>
    refine List.forall_mem_cons.2 ⟨⟨_, List.mem_cons_self, first⟩, fun b hb => ?_⟩
    obtain ⟨a, ha, related⟩ := ih b hb
    exact ⟨a, List.mem_cons_of_mem _ ha, related⟩

theorem Corresponds.styled {R : String → String → Prop} {t : Markup.Tree} {t' : Jsx.Tree}
    (h : Corresponds R t t') (styled : Markup.StyledTree t) : Jsx.StyledTree t' := by
  -- Trees are nested in lists, so the induction goes over the styled elements.
  induction styled generalizing t' with
  | text value =>
    cases h
    exact .text value
  | raw _ =>
    cases h
    exact .raw trivial
  | element heads _ ih =>
    cases h with
    | element renamed _ below =>
      refine .element (renamed.styled heads.values) fun child' hc => ?_
      obtain ⟨child, hc, corresponds⟩ := exists_of_mem_right below child' hc
      exact ih child hc corresponds

end Parity

namespace ProjectRule

open Parity

theorem styled_raws (fs : List String) : ∀ t ∈ raws fs, Jsx.StyledTree t :=
  List.forall_mem_map.2 fun _ _ => .raw trivial

theorem styled_component (name : String) (attrs : List (String × Jsx.Attr))
    {children : List Jsx.Tree} (below : ∀ t ∈ children, Jsx.StyledTree t) :
    Jsx.StyledTree (element name [] attrs [] children) :=
  .element (List.forall_mem_nil _) below

theorem styled_jsx (c : Children) (handle : String) {component : Component}
    (colored : component.Colored) : Jsx.StyledTree (component.jsx c handle) := by
  have twin (static : component.kind ∉ [.carousel, .sheet, .tabBar]) :
      Jsx.StyledTree (component.jsx c handle) := by
    have keeps : KeepsEmptiness Eq := fun _ _ same => same ▸ Iff.rfl
    have self : c.Related Eq c :=
      ⟨List.forall₂_same.2 fun _ _ => rfl, List.forall₂_same.2 fun _ _ => ⟨rfl, rfl⟩⟩
    exact (corresponds_component keeps self static handle).styled
      (DocumentRule.styled_markup c handle colored)
  cases component with
  | carousel m => exact styled_component "Carousel" _ (styled_raws c.all)
  | sheet m =>
    exact styled_component "Sheet" _ (List.forall_mem_append.2 ⟨styled_raws _, styled_raws _⟩)
  | tabBar m => exact styled_component "TabBar" _ (List.forall_mem_nil _)
  | _ => exact twin (by simp [Component.kind])

end ProjectRule

/-- A colour has one of four forms without the blanks around it, and stays as it is when it is
checked again. No style of an element that a rule lays out can end the declaration it is in, so the
start tag in a document declares the styles that the rule has set, in order. -/
theorem styles_contained :
    (∀ s t, Sanitize.color? s = some t ↔ t = Text.trim s ∧ IsColor t.toList) ∧
      (∀ s t, Sanitize.color? s = some t → Sanitize.color? t = some t) ∧
      ∀ (kind : Kind) (p : Props) (c : Children) (handle : String),
        (∀ t, DocumentRule.tree kind p c handle = .ok t → Markup.StyledTree t) ∧
          ∀ t, ProjectRule.tree kind p c handle = .ok t → Jsx.StyledTree t := by
  refine ⟨Sanitize.color?_eq_some_iff, fun _ _ => Sanitize.color?_of_color?,
    fun kind p c handle => ?_⟩
  have colored := Component.colored_resolve kind p
  rw [DocumentRule.tree_eq_resolve, ProjectRule.tree_eq_resolve]
  exact ⟨Except.Gives.map fun component resolved =>
      DocumentRule.styled_markup c handle (colored component resolved),
    Except.Gives.map fun component resolved =>
      ProjectRule.styled_jsx c handle (colored component resolved)⟩

/-- A divider whose colour has blanks around it. -/
theorem styles_contained_divider :
    let p : Props := ⟨[("color", .string " rgb(1, 2, 3) ")], []⟩
    Sanitize.color? " rgb(1, 2, 3) " = some "rgb(1, 2, 3)" ∧
      Sanitize.color? "rgb(1, 2, 3)" = some "rgb(1, 2, 3)" ∧
      ∃ t t', DocumentRule.tree .divider p .empty "mf1" = .ok t ∧
        ProjectRule.tree .divider p .empty "mf1" = .ok t' ∧ Markup.StyledTree t ∧
        Jsx.StyledTree t' := by
  intro p
  have trimmed : Sanitize.color? " rgb(1, 2, 3) " = some "rgb(1, 2, 3)" := by decide
  obtain ⟨-, again, trees⟩ := styles_contained
  obtain ⟨document, project⟩ := trees .divider p .empty "mf1"
  exact ⟨trimmed, again _ _ trimmed, _, _, rfl, rfl, document _ rfl, project _ rfl⟩

end MiniApp
