import Mathlib.Tactic.Common
import MiniApp.Proofs.Component.Related
import MiniApp.Proofs.Component.Resolution

/-!
Both sets of rules lay out the static kinds as the same tree under one renaming: JSX has its own
names for some attributes and for styles, writes lengths as numbers, and wraps what a press does
into a function. Carousels, sheets and tab bars are left out; in a project they are components of
the runtime.
-/

set_option autoImplicit false

namespace MiniApp

namespace Parity

def kebab (name : String) : String :=
  String.ofList (name.toList.flatMap fun c => if c.isUpper then ['-', c.toLower] else [c])

/-- The style of a document for one of JSX. Numbers are lengths, apart from the weight of a font. -/
def renamedStyle : String × Jsx.Style → String × String
  | (name, .number d) =>
    (kebab name, if name = "fontWeight" then Numeral.text d else DocumentRule.px d)
  | (name, .text value) => (kebab name, value)

def renamedAttr (name : String) : String :=
  if name = "htmlFor" then "for" else if name = "onClick" then "onclick" else name

/-- Numbers that a document has in quotes and JSX in braces. -/
def numerals : List String := ["aria-valuemin", "aria-valuemax", "aria-valuenow"]

/-- An attribute of a document beside the prop of JSX that it corresponds to. -/
inductive AttrRenamed : String × Markup.Attr → String × Jsx.Attr → Prop
  | text (name value : String) : AttrRenamed (renamedAttr name, .text value) (name, .text value)
  | flag (name : String) : AttrRenamed (renamedAttr name, .flag) (name, .flag)
  | numeral {name : String} (value : Double) (h : name ∈ numerals) :
      AttrRenamed (name, .text (Numeral.text value)) (name, .expr (Numeral.text value))
  /-- Both do the same action, each on the bridge by its own name. -/
  | press {code code' : String} (action : Action)
      (document : action.handler? DocumentRule.bridge = some code)
      (project : action.handler? ProjectRule.bridge = some code') :
      AttrRenamed (renamedAttr "onClick", .script code) ("onClick", .expr ("() => " ++ code'))

structure HeadRenamed (head : Markup.Head) (head' : Jsx.Head) : Prop where
  name : head.name = head'.name
  classes : " ".intercalate head.classes = " ".intercalate head'.classes
  attrs : List.Forall₂ AttrRenamed head.attrs head'.attrs
  styles : head.styles = head'.styles.map renamedStyle
  /-- In JSX every element may have children. -/
  isVoid : head'.isVoid = false

/-- The same tree in both, with fragments that are related at the same places. -/
inductive Corresponds (R : String → String → Prop) : Markup.Tree → Jsx.Tree → Prop
  | text (value : String) : Corresponds R (.text value) (.text value)
  | raw {f g : String} (h : R f g) : Corresponds R (.raw f) (.raw g)
  | element {head : Markup.Head} {head' : Jsx.Head} {children : List Markup.Tree}
      {children' : List Jsx.Tree} (heads : HeadRenamed head head')
      (childless : head.isVoid = true → children = [])
      (below : List.Forall₂ (Corresponds R) children children') :
      Corresponds R (.element head children) (.element head' children')

variable {R : String → String → Prop}

section Elements

variable {classes classes' : List String} {attrs : List (String × Markup.Attr)}
  {attrs' : List (String × Jsx.Attr)} {styles : List (String × String)}
  {styles' : List (String × Jsx.Style)}
  (hc : " ".intercalate classes = " ".intercalate classes')
  (ha : List.Forall₂ AttrRenamed attrs attrs') (hs : styles = styles'.map renamedStyle)
include hc ha hs

theorem corresponds_element (name : String) {children : List Markup.Tree}
    {children' : List Jsx.Tree} (below : List.Forall₂ (Corresponds R) children children') :
    Corresponds R (DocumentRule.element name classes attrs styles children)
      (ProjectRule.element name classes' attrs' styles' children') :=
  .element ⟨rfl, hc, ha, hs, rfl⟩ (fun h => nomatch h) below

theorem corresponds_voidElement (name : String) :
    Corresponds R (DocumentRule.voidElement name classes attrs styles)
      (ProjectRule.element name classes' attrs' styles' []) :=
  .element ⟨rfl, hc, ha, hs, rfl⟩ (fun _ => rfl) .nil

end Elements

theorem corresponds_plain (name className : String) {children : List Markup.Tree}
    {children' : List Jsx.Tree} (below : List.Forall₂ (Corresponds R) children children') :
    Corresponds R (DocumentRule.element name [className] [] [] children)
      (ProjectRule.element name [className] [] [] children') :=
  .element ⟨rfl, rfl, .nil, rfl, rfl⟩ (fun h => nomatch h) below

theorem corresponds_text (value : String) :
    List.Forall₂ (Corresponds R) [.text value] [.text value] := .cons (.text value) .nil

theorem map_colorStyle (color : Option String) (name : String) :
    (ProjectRule.colorStyle color name).map renamedStyle =
      DocumentRule.colorStyle color (kebab name) := by
  cases color <;> rfl

theorem attrRenamed_press (action : Action) :
    List.Forall₂ AttrRenamed (DocumentRule.pressAttr action) (ProjectRule.pressProp action) := by
  rw [DocumentRule.pressAttr, ProjectRule.pressProp]
  have silent := (action.handler?_eq_none_iff DocumentRule.bridge).trans
    (action.handler?_eq_none_iff ProjectRule.bridge).symm
  cases hd : action.handler? DocumentRule.bridge with
  | none => rw [silent.1 hd]; exact .nil
  | some code =>
    cases hp : action.handler? ProjectRule.bridge with
    | none => exact absurd (silent.2 hp) (by simp [hd])
    | some code' => exact .cons (.press action hd hp) .nil

theorem corresponds_option {α : Type} {t : α → Markup.Tree} {t' : α → Jsx.Tree}
    (h : ∀ a, Corresponds R (t a) (t' a)) (o : Option α) :
    List.Forall₂ (Corresponds R) (o.toList.map t) (o.toList.map t') := by
  cases o with
  | none => exact .nil
  | some a => exact .cons (h a) .nil

section Fragments

variable (keeps : KeepsEmptiness R) {c d : Children}
include keeps

theorem corresponds_raws {fs gs : List String} (h : List.Forall₂ R fs gs) :
    List.Forall₂ (Corresponds R) (DocumentRule.raws fs) (ProjectRule.raws gs) := by
  have shown := Children.forall₂_shown keeps h
  change List.Forall₂ (Corresponds R) ((Children.shown fs).map .raw) ((Children.shown gs).map .raw)
  rw [List.forall₂_map_left_iff, List.forall₂_map_right_iff]
  exact shown.imp fun _ _ => .raw

theorem corresponds_raw {f g : String} (h : R f g) :
    List.Forall₂ (Corresponds R) (DocumentRule.raws [f]) (ProjectRule.raws [g]) :=
  corresponds_raws keeps (.cons h .nil)

theorem corresponds_around {fs gs : List String} (h : List.Forall₂ R fs gs)
    (name className : String) :
    List.Forall₂ (Corresponds R)
      (fs.map fun f => DocumentRule.element name [className] [] [] (DocumentRule.raws [f]))
      (gs.map fun g => ProjectRule.element name [className] [] [] (ProjectRule.raws [g])) := by
  rw [List.forall₂_map_left_iff, List.forall₂_map_right_iff]
  exact h.imp fun _ _ hf => corresponds_plain name className (corresponds_raw keeps hf)

theorem corresponds_slotElement (h : c.Related R d) (slot name className : String) :
    List.Forall₂ (Corresponds R) (DocumentRule.slotElement c slot name className)
      (ProjectRule.slotElement d slot name className) :=
  corresponds_around keeps (h.slot? keeps slot) name className

theorem corresponds_groupElement {fs gs : List String} (h : List.Forall₂ R fs gs)
    (className : String) :
    List.Forall₂ (Corresponds R) (DocumentRule.groupElement fs className)
      (ProjectRule.groupElement gs className) := by
  cases h with
  | nil => exact .nil
  | cons hf hfs =>
    exact .cons (corresponds_plain "div" className (corresponds_raws keeps (.cons hf hfs))) .nil

end Fragments

section Kinds

open Component

variable (keeps : KeepsEmptiness R) {c d : Children} (h : c.Related R d)

theorem corresponds_paragraph (m : Paragraph) :
    Corresponds R (DocumentRule.paragraph m) (ProjectRule.paragraph m) := by
  refine corresponds_element rfl .nil ?_ "p" (corresponds_text m.text)
  rw [List.map_append, map_colorStyle]
  rfl

theorem corresponds_heading (m : Heading) :
    Corresponds R (DocumentRule.heading m) (ProjectRule.heading m) := by
  refine corresponds_element rfl .nil ?_ m.tag (corresponds_text m.text)
  rw [List.map_cons, map_colorStyle]
  rfl

theorem corresponds_button (m : Button) :
    Corresponds R (DocumentRule.button m) (ProjectRule.button m) := by
  refine corresponds_element ?_ ?_ ?_ "button" (corresponds_text m.label)
  · simp
  · have disabled : List.Forall₂ AttrRenamed (if m.disabled then [("disabled", .flag)] else [])
        (if m.disabled then [("disabled", .flag)] else []) := by
      split
      · exact .cons (.flag "disabled") .nil
      · exact .nil
    exact List.rel_append (List.rel_append (.cons (.text "type" "button") .nil) disabled)
      (attrRenamed_press m.action)
  · rfl

theorem corresponds_image (m : Image) :
    Corresponds R (DocumentRule.image m) (ProjectRule.image m) := by
  refine corresponds_voidElement ?_ ?_ ?_ "img"
  · rfl
  · exact .cons (.text "src" _) (.cons (.text "alt" _) (.cons (.text "loading" _) .nil))
  · rfl

theorem numeral_bounds :
    Numeral.text (.ofNat 0) = "0" ∧ Numeral.text (.ofNat 100) = "100" := by decide +kernel

theorem corresponds_progress (m : Progress) :
    Corresponds R (DocumentRule.progress m) (ProjectRule.progress m) := by
  have header := corresponds_plain (R := R) "div" "mf-progress-header"
    (.cons (corresponds_plain "span" "mf-progress-label" (corresponds_text m.label))
      (.cons (corresponds_plain "span" "mf-progress-value"
        (corresponds_text (Numeral.text m.value ++ "%"))) .nil))
  have fill : Corresponds R
      (DocumentRule.element "div" ["mf-progress-fill"] []
        [("width", Numeral.text m.value ++ "%"), ("background", m.color)] [])
      (ProjectRule.element "div" ["mf-progress-fill"] []
        [("width", .text (Numeral.text m.value ++ "%")), ("background", .text m.color)] []) := by
    refine corresponds_element ?_ .nil ?_ "div" .nil <;> rfl
  refine corresponds_plain "div" "mf-progress" (List.rel_append ?_ (.cons ?_ .nil))
  · split
    · exact .cons header .nil
    · exact .nil
  · refine corresponds_element ?_ ?_ ?_ "div" (.cons fill .nil)
    · rfl
    · rw [← numeral_bounds.1, ← numeral_bounds.2]
      exact .cons (.text "role" _) (.cons (.numeral _ (by decide)) (.cons (.numeral _ (by decide))
        (.cons (.numeral _ (by decide)) .nil)))
    · rfl

theorem corresponds_divider (m : Divider) :
    Corresponds R (DocumentRule.divider m) (ProjectRule.divider m) := by
  have margin : DocumentRule.px m.spacing ++ " 0" = Numeral.text m.spacing ++ "px 0" := by
    rw [DocumentRule.px, String.append_assoc]
    rfl
  rw [DocumentRule.divider, margin]
  refine corresponds_voidElement ?_ .nil ?_ "hr" <;> rfl

theorem corresponds_spacer (m : Spacer) :
    Corresponds R (DocumentRule.spacer m) (ProjectRule.spacer m) := by
  refine corresponds_element ?_ (.cons (.text "aria-hidden" "true") .nil) ?_ "div" .nil <;> rfl

theorem corresponds_input (m : Input) (handle : String) :
    Corresponds R (DocumentRule.input m handle) (ProjectRule.input m handle) := by
  refine corresponds_plain "div" "mf-field" (.cons ?_ (.cons ?_ .nil))
  · refine corresponds_element ?_ (.cons (.text "htmlFor" _) .nil) ?_ "label"
      (corresponds_text m.label) <;> rfl
  · have name : List.Forall₂ AttrRenamed (m.name.toList.map fun name => ("name", .text name))
        (m.name.toList.map fun name => ("name", .text name)) := by
      cases m.name with
      | none => exact .nil
      | some name => exact .cons (.text "name" name) .nil
    have required : List.Forall₂ AttrRenamed (if m.required then [("required", .flag)] else [])
        (if m.required then [("required", .flag)] else []) := by
      split
      · exact .cons (.flag "required") .nil
      · exact .nil
    refine corresponds_voidElement ?_ ?_ ?_ "input"
    · rfl
    · exact List.rel_append (List.rel_append (.cons (.text "id" _) (.cons (.text "type" _)
        (.cons (.text "placeholder" _) .nil))) name) required
    · rfl

theorem corresponds_avatar (m : Avatar) :
    Corresponds R (DocumentRule.avatar m) (ProjectRule.avatar m) := by
  rw [DocumentRule.avatar, ProjectRule.avatar]
  cases m.src with
  | some src =>
    refine corresponds_voidElement ?_ (.cons (.text "src" _) (.cons (.text "alt" _) .nil)) ?_ "img"
      <;> rfl
  | none =>
    refine corresponds_element ?_ (.cons (.text "role" _) (.cons (.text "aria-label" _) .nil)) ?_
      "div" (corresponds_text m.initials) <;> rfl

theorem corresponds_badge (m : Badge) :
    Corresponds R (DocumentRule.badge m) (ProjectRule.badge m) := by
  refine corresponds_element ?_ .nil ?_ "span" (corresponds_text m.text) <;> rfl

include keeps h

theorem corresponds_container (m : Container) :
    Corresponds R (DocumentRule.container m c) (ProjectRule.container m d) := by
  refine corresponds_element ?_ .nil ?_ "div" (corresponds_raws keeps (h.all keeps)) <;> rfl

theorem corresponds_layout (m : Layout) :
    Corresponds R (DocumentRule.layout m c) (ProjectRule.layout m d) := by
  refine corresponds_plain "div" "mf-layout"
    (List.rel_append (List.rel_append ?_ (.cons ?_ .nil)) ?_)
  · exact corresponds_slotElement keeps h "header" "header" "mf-layout-header"
  · have content := List.rel_append (List.rel_append (corresponds_raws keeps h.ordered)
      (corresponds_raws keeps (h.slot? keeps "content")))
      (corresponds_raws keeps (h.extraSlots keeps ["header", "content", "footer"]))
    refine corresponds_element ?_ .nil ?_ "div" content <;> rfl
  · exact corresponds_slotElement keeps h "footer" "footer" "mf-layout-footer"

theorem corresponds_card (m : Card) :
    Corresponds R (DocumentRule.card m c) (ProjectRule.card m d) := by
  have title : List.Forall₂ (Corresponds R)
      [DocumentRule.element "h3" ["mf-card-title"] [] [] [.text m.title]]
      [ProjectRule.element "h3" ["mf-card-title"] [] [] [.text m.title]] :=
    .cons (corresponds_plain "h3" "mf-card-title" (corresponds_text m.title)) .nil
  have subtitle := corresponds_option (R := R) (fun s =>
    corresponds_plain "p" "mf-card-subtitle" (corresponds_text s)) m.subtitle
  have body := corresponds_groupElement keeps (h.remaining keeps ["footer"]) "mf-card-body"
  have footer := corresponds_slotElement keeps h "footer" "div" "mf-card-footer"
  refine corresponds_element ?_ .nil ?_ "section"
    (List.rel_append (List.rel_append (List.rel_append title subtitle) body) footer)
  · rfl
  · rw [List.map_append, map_colorStyle]
    rfl

theorem corresponds_list (m : ItemList) :
    Corresponds R (DocumentRule.list m c) (ProjectRule.list m d) := by
  refine corresponds_plain _ "mf-list" (List.rel_append ?_ ?_)
  · rw [List.forall₂_map_left_iff, List.forall₂_map_right_iff, List.forall₂_same]
    exact fun item _ => corresponds_plain "li" "mf-list-item" (corresponds_text item)
  · exact corresponds_around keeps (h.all keeps) "li" "mf-list-item"

theorem corresponds_navBar (m : NavBar) :
    Corresponds R (DocumentRule.navBar m c) (ProjectRule.navBar m d) := by
  refine corresponds_plain "header" "mf-navbar" (List.rel_append (List.rel_append ?_ ?_) ?_)
  · split
    · refine .cons (corresponds_element ?_ ?_ ?_ "button" (corresponds_text "\u2039")) .nil
      · rfl
      · have back : AttrRenamed ("onclick", .script (DocumentRule.bridge ++ ".goBack()"))
            ("onClick", .expr (ProjectRule.onPress (ProjectRule.bridge ++ ".goBack()"))) :=
          .press .back (by decide) (by decide)
        exact .cons (.text "type" _) (.cons (.text "aria-label" _) (.cons back .nil))
      · rfl
    · exact .nil
  · exact .cons (corresponds_plain "h1" "mf-navbar-title" (corresponds_text m.title)) .nil
  · exact corresponds_groupElement keeps (h.all keeps) "mf-navbar-actions"

/-- A component of a static kind is laid out in the same way, whatever relates the fragments of the
children. -/
theorem corresponds_component {component : Component}
    (static : component.kind ∉ [.carousel, .sheet, .tabBar]) (handle : String) :
    Corresponds R (component.markup c handle) (component.jsx d handle) := by
  cases component with
  | container m => exact corresponds_container keeps h m
  | layout m => exact corresponds_layout keeps h m
  | text m => exact corresponds_paragraph m
  | heading m => exact corresponds_heading m
  | button m => exact corresponds_button m
  | image m => exact corresponds_image m
  | card m => exact corresponds_card keeps h m
  | progress m => exact corresponds_progress m
  | divider m => exact corresponds_divider m
  | spacer m => exact corresponds_spacer m
  | input m => exact corresponds_input m handle
  | list m => exact corresponds_list keeps h m
  | avatar m => exact corresponds_avatar m
  | badge m => exact corresponds_badge m
  | navBar m => exact corresponds_navBar keeps h m
  | carousel | sheet | tabBar => simp [Component.kind] at static

end Kinds

end Parity

open Parity

/-- The trees of a static kind correspond for all properties that can be resolved, whatever relates
the fragments of the children. -/
theorem trees_correspond (kind : Kind) (static : kind ∉ [.carousel, .sheet, .tabBar]) (p : Props)
    (resolved : ∃ component, Component.resolve kind p = .ok component)
    {R : String → String → Prop} (keeps : KeepsEmptiness R) {c d : Children}
    (h : c.Related R d) (handle : String) :
    ∃ t t', DocumentRule.tree kind p c handle = .ok t ∧
      ProjectRule.tree kind p d handle = .ok t' ∧ Corresponds R t t' := by
  obtain ⟨component, hr⟩ := resolved
  refine ⟨component.markup c handle, component.jsx d handle, ?_, ?_, ?_⟩
  · rw [DocumentRule.tree_eq_resolve, hr, Except.map]
  · rw [ProjectRule.tree_eq_resolve, hr, Except.map]
  · rw [← Component.kind_of_resolve hr] at static
    exact corresponds_component keeps h static handle

/-- A card with a title, a child that shows something and an empty footer. -/
theorem trees_correspond_card :
    let p : Props := ⟨[("title", .string "a < b")], []⟩
    let c : Children := .ofList [(none, "<hr>"), (some "footer", "")]
    let d : Children := .ofList [(none, "<hr />"), (some "footer", "")]
    let R : String → String → Prop := fun f g => (f, g) ∈ [("<hr>", "<hr />"), ("", "")]
    (∃ component, Component.resolve .card p = .ok component) ∧ KeepsEmptiness R ∧ c.Related R d ∧
      ∃ t t', DocumentRule.tree .card p c "mf1" = .ok t ∧
        ProjectRule.tree .card p d "mf1" = .ok t' ∧ Corresponds R t t' := by
  intro p c d R
  have resolved : ∃ component, Component.resolve .card p = .ok component := ⟨_, rfl⟩
  have keeps : KeepsEmptiness R := by
    intro f g h
    simp only [R, List.mem_cons, Prod.mk.injEq, List.not_mem_nil, or_false] at h
    rcases h with ⟨rfl, rfl⟩ | ⟨rfl, rfl⟩ <;> decide
  have h : c.Related R d := Children.related_ofList
    (.cons ⟨rfl, by simp [R]⟩ (.cons ⟨rfl, by simp [R]⟩ .nil))
  exact ⟨resolved, keeps, h, trees_correspond .card (by decide) p resolved keeps h "mf1"⟩

end MiniApp
