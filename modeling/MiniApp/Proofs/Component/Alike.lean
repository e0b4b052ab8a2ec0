import MiniApp.Proofs.Component.Resolution
import MiniApp.Proofs.Props.Alike
import MiniApp.Proofs.Source.Layout

set_option autoImplicit false

namespace MiniApp

namespace Jsx

theorem lines_congr {h h' : Head} (name : h.name = h'.name) (void : h.isVoid = h'.isVoid)
    (opened : opening h = opening h') (level : Nat) (children : List Tree) :
    Tree.lines dialect level (.element h children) =
      Tree.lines dialect level (.element h' children) := by
  have opened : dialect.opening h = dialect.opening h' := opened
  have bare : dialect.childless h = dialect.childless h' := congrArg (· ++ " />") opened
  have closed : Tree.closing h = Tree.closing h' := by rw [Tree.closing, Tree.closing, name]
  cases void' : h'.isVoid with
  | true => rw [Tree.lines_of_isVoid _ _ void', Tree.lines_of_isVoid _ _ (void ▸ void'), bare]
  | false =>
    have void := void.trans void'
    by_cases none : children = []
    · rw [none, Tree.lines_nil, Tree.lines_nil, bare]
    by_cases text : ∃ s, children = [.text s]
    · obtain ⟨s, rfl⟩ := text
      rw [Tree.lines_text _ _ void, Tree.lines_text _ _ void', opened, closed]
    · have several := not_exists.1 text
      rw [Tree.lines_block _ _ void none several, Tree.lines_block _ _ void' none several, opened,
        closed]

theorem lines_styles_congr (name : String) (classes : List String) (attrs : List (String × Attr))
    {styles styles' : List (String × Style)}
    (h : (styles.map fun s => (s.1, s.2.render)) = styles'.map fun s => (s.1, s.2.render))
    (level : Nat) (children : List Tree) :
    Tree.lines dialect level (ProjectRule.element name classes attrs styles children) =
      Tree.lines dialect level (ProjectRule.element name classes attrs styles' children) := by
  have entries (styles : List (String × Style)) : (styles.map fun s => s.1 ++ ": " ++ s.2.render) =
      (styles.map fun s => (s.1, s.2.render)).map fun s => s.1 ++ ": " ++ s.2 := by
    rw [List.map_map]
    rfl
  have none : styles.isEmpty = styles'.isEmpty := by
    rw [← List.isEmpty_map, h, List.isEmpty_map]
  have opened : opening ⟨name, false, classes, attrs, styles⟩ =
      opening ⟨name, false, classes, attrs, styles'⟩ := by
    rw [opening, opening, styleText, styleText, entries, entries, h, none]
  exact lines_congr (by rfl) (by rfl) opened level children

theorem lines_child_congr {h x x' : Head} (void : h.isVoid = false) (before after : List Tree)
    {xs xs' : List Tree} (level : Nat)
    (same : Tree.lines dialect (level + 1) (.element x xs) =
      Tree.lines dialect (level + 1) (.element x' xs')) :
    Tree.lines dialect level (.element h (before ++ [Tree.element x xs] ++ after)) =
      Tree.lines dialect level (.element h (before ++ [Tree.element x' xs'] ++ after)) := by
  have none (x : Head) (xs : List Tree) : before ++ [Tree.element x xs] ++ after ≠ [] := by simp
  have text (x : Head) (xs : List Tree) (s : String) :
      before ++ [Tree.element x xs] ++ after ≠ [.text s] := by
    intro h
    have child : Tree.element x xs ∈ [Tree.text s] := h ▸ by simp
    cases List.mem_singleton.1 child
  rw [Tree.lines_block _ _ void (none x xs) (text x xs),
    Tree.lines_block _ _ void (none x' xs') (text x' xs')]
  simp only [Tree.linesOfAll_eq_flatMap, List.flatMap_append, List.flatMap_cons, List.flatMap_nil,
    same]

end Jsx

namespace Component

def Alike (a b : Component) : Prop :=
  ∀ backend c handle, a.write backend c handle = b.write backend c handle

theorem Alike.refl (a : Component) : a.Alike a := fun _ _ _ => rfl

theorem alike_of {a b : Component} (markup : ∀ c handle, a.markup c handle = b.markup c handle)
    (jsx : ∀ c handle,
      (a.jsx c handle).lines Jsx.dialect 0 = (b.jsx c handle).lines Jsx.dialect 0) :
    a.Alike b := by
  intro backend c handle
  cases backend with
  | document => rw [write, write, markup]
  | project =>
    rw [write, write]
    exact congrArg finishLines (jsx c handle)

section Resolution

variable {p q : Props} (h : p.Alike q)
include h

theorem ranged_alike (key : String) (fallback lo hi : Nat) :
    Except.Related Double.Alike (p.ranged key fallback lo hi) (q.ranged key fallback lo hi) :=
  (h.number key _).map fun _ _ same => same.clamp _ _

theorem ranged_eq (key : String) (fallback : Nat) {lo : Nat} (positive : 0 < lo) (hi : Nat) :
    p.ranged key fallback lo hi = q.ranged key fallback lo hi :=
  ((h.number key _).map fun _ _ same => same.clamp_eq positive _).eq

theorem color_eq (key fallback : String) : p.color key fallback = q.color key fallback := by
  rw [Props.color, Props.color, h.color?]

theorem textList_eq (key : String) : p.textList key = q.textList key :=
  ((h.items key).map fun _ _ same => Json.filterMap_alike same fun _ _ h => h.scalarText?_eq).eq

theorem container_alike : Except.Related (fun a b => (container a).Alike (container b))
    (Container.resolve p) (Container.resolve q) := by
  rw [Container.resolve, Container.resolve, h.keyword, h.keyword, h.keyword, color_eq h]
  refine .bind_same _ fun direction => .bind (ranged_alike h ..) fun gap gap' hgap => ?_
  refine .bind (ranged_alike h ..) fun padding padding' hpadding => .bind_same _ fun align => ?_
  refine .bind_same _ fun justify => .bind (ranged_alike h ..) fun radius radius' hradius => ?_
  refine alike_of (fun c handle => ?_) (fun c handle => Jsx.lines_styles_congr _ _ _ ?_ 0 _)
  · rw [markup, markup, DocumentRule.container, DocumentRule.container]
    simp only [DocumentRule.px, Numeral.text_congr hgap, Numeral.text_congr hpadding,
      Numeral.text_congr hradius]
  · simp only [List.map_cons, Jsx.Style.render, Numeral.text_congr hgap,
      Numeral.text_congr hpadding, Numeral.text_congr hradius]

theorem layout_alike : Except.Related (fun a b => (layout a).Alike (layout b))
    (Layout.resolve p) (Layout.resolve q) := by
  rw [Layout.resolve, Layout.resolve]
  refine .bind (ranged_alike h ..) fun padding padding' hpadding => ?_
  refine .bind (ranged_alike h ..) fun gap gap' hgap => alike_of ?_ ?_
  · intro c handle
    rw [markup, markup, DocumentRule.layout, DocumentRule.layout]
    simp only [DocumentRule.px, Numeral.text_congr hgap, Numeral.text_congr hpadding]
  · intro c handle
    refine Jsx.lines_child_congr rfl _ _ 0 (Jsx.lines_styles_congr _ _ _ ?_ 1 _)
    simp only [List.map_cons, Jsx.Style.render, Numeral.text_congr hgap,
      Numeral.text_congr hpadding]

theorem image_alike : Except.Related (fun a b => (image a).Alike (image b))
    (Image.resolve p) (Image.resolve q) := by
  rw [Image.resolve, Image.resolve, h.text, h.keyword, h.url?, ranged_eq h "height" 180 (by decide)]
  refine .bind_same _ fun alt => .bind_same _ fun height => ?_
  refine .bind (ranged_alike h ..) fun radius radius' hradius => .bind_same _ fun fit => ?_
  refine alike_of (fun c handle => ?_) (fun c handle => Jsx.lines_styles_congr _ _ _ ?_ 0 _)
  · rw [markup, markup, DocumentRule.image, DocumentRule.image]
    simp only [DocumentRule.px, Numeral.text_congr hradius]
  · simp only [List.map_cons, Jsx.Style.render, Numeral.text_congr hradius]

theorem card_alike : Except.Related (fun a b => (card a).Alike (card b))
    (Card.resolve p) (Card.resolve q) := by
  rw [Card.resolve, Card.resolve, h.text, h.shownText, h.color?]
  refine .bind_same _ fun title => .bind_same _ fun subtitle => ?_
  refine .bind (ranged_alike h ..) fun padding padding' hpadding => ?_
  refine .bind (ranged_alike h ..) fun radius radius' hradius => ?_
  refine alike_of (fun c handle => ?_) (fun c handle => Jsx.lines_styles_congr _ _ _ ?_ 0 _)
  · rw [markup, markup, DocumentRule.card, DocumentRule.card]
    simp only [DocumentRule.px, Numeral.text_congr hpadding, Numeral.text_congr hradius]
  · simp only [List.map_append, List.map_cons, Jsx.Style.render, Numeral.text_congr hpadding,
      Numeral.text_congr hradius]

theorem progress_alike : Except.Related (fun a b => (progress a).Alike (progress b))
    (Progress.resolve p) (Progress.resolve q) := by
  rw [Progress.resolve, Progress.resolve, h.bool, h.text, color_eq h,
    ranged_eq h "height" 8 (by decide)]
  refine .bind (ranged_alike h ..) fun value value' hvalue => .bind_same _ fun height => ?_
  refine .bind_same _ fun showLabel => .bind_same _ fun label => ?_
  refine alike_of (fun c handle => ?_) (fun c handle => ?_)
  · rw [markup, markup, DocumentRule.progress, DocumentRule.progress]
    simp only [Numeral.text_congr hvalue]
  · rw [jsx, jsx, ProjectRule.progress, ProjectRule.progress]
    simp only [Numeral.text_congr hvalue]

theorem divider_alike : Except.Related (fun a b => (divider a).Alike (divider b))
    (Divider.resolve p) (Divider.resolve q) := by
  rw [Divider.resolve, Divider.resolve, color_eq h, ranged_eq h "thickness" 1 (by decide)]
  refine .bind_same _ fun thickness => .bind (ranged_alike h ..) fun spacing spacing' hspacing => ?_
  refine alike_of (fun c handle => ?_) (fun c handle => ?_)
  · rw [markup, markup, DocumentRule.divider, DocumentRule.divider]
    simp only [DocumentRule.px, Numeral.text_congr hspacing]
  · rw [jsx, jsx, ProjectRule.divider, ProjectRule.divider]
    simp only [Numeral.text_congr hspacing]

theorem spacer_alike : Except.Related (fun a b => (spacer a).Alike (spacer b))
    (Spacer.resolve p) (Spacer.resolve q) := by
  rw [Spacer.resolve, Spacer.resolve]
  refine .bind (ranged_alike h ..) fun height height' hheight => ?_
  refine alike_of (fun c handle => ?_) (fun c handle => Jsx.lines_styles_congr _ _ _ ?_ 0 _)
  · rw [markup, markup, DocumentRule.spacer, DocumentRule.spacer]
    simp only [DocumentRule.px, Numeral.text_congr hheight]
  · simp only [List.map_cons, Jsx.Style.render, Numeral.text_congr hheight]

theorem carousel_eq : Carousel.resolve p = Carousel.resolve q := by
  rw [Carousel.resolve, Carousel.resolve, h.bool, ranged_eq h "interval" 3000 (by decide),
    ranged_eq h "height" 200 (by decide)]
  refine Except.Related.eq (.bind (h.items "images") fun images images' same => ?_)
  rw [Json.slidesFrom_alike same]
  exact .of_eq (fun _ => rfl) rfl

theorem tabBar_eq : TabBar.resolve p = TabBar.resolve q := by
  rw [TabBar.resolve, TabBar.resolve]
  refine Except.Related.eq (.bind (h.items "tabs") fun items items' same => ?_)
  rw [Json.filterMap_alike same fun _ _ h => h.tab?_eq]
  refine .bind (ranged_alike h ..) fun active active' hactive => ?_
  rw [hactive.round.toNat_eq]
  exact rfl

theorem action_alike : Except.Related (fun a b => ∀ bridge, a.handler? bridge = b.handler? bridge)
    (Action.resolve p) (Action.resolve q) := by
  have same {x y : Except PropError Action} (h : x = y) :
      Except.Related (fun a b => ∀ bridge, a.handler? bridge = b.handler? bridge) x y :=
    .of_eq (fun _ _ => rfl) h
  rw [Action.resolve, Action.resolve, h.keyword]
  refine .bind_same _ fun choice => ?_
  cases choice with
  | none | back | push | user => exact same rfl
  | toast =>
    have duration := ranged_eq h "duration" 2000 (by decide : 0 < 500) 10000
    refine same ?_
    rw [Action.resolveToast, Action.resolveToast, h.text]
    exact bind_congr fun _ => congrArg (· >>= _) duration
  | pay =>
    dsimp only
    rw [Action.resolvePay, Action.resolvePay, h.text, h.text, h.text, h.text]
    refine .bind (h.number "amount" .zero) fun amount amount' hamount => ?_
    refine .bind_same _ fun currency => .bind_same _ fun description => ?_
    refine .bind_same _ fun success => .bind_same _ fun failure => fun bridge => ?_
    have asked : Numeral.text (if amount.lt .zero then .zero else amount) =
        Numeral.text (if amount'.lt .zero then .zero else amount') := by
      rw [hamount.lt_left]
      split
      · rfl
      · exact Numeral.text_congr hamount
    simp only [Action.handler?, Script.call, Script.renderItems, Script.render, Script.renderFields,
      asked]
  | link =>
    dsimp only
    rw [h.url?]
    exact same rfl
  | navigate =>
    dsimp only
    rw [h.shownText]
    exact same rfl
  | share =>
    refine same ?_
    rw [Action.resolveShare, Action.resolveShare, h.text, h.text, h.url?]
    exact bind_congr fun _ => bind_congr fun label => congrArg (· >>= _) (h.text "shareText" label)
  | copy =>
    refine same ?_
    dsimp only
    rw [Action.resolveCopy, Action.resolveCopy, h.shownText, h.text]

theorem button_alike : Except.Related (fun a b => (button a).Alike (button b))
    (Button.resolve p) (Button.resolve q) := by
  have actions : Except.Related (fun a b => ∀ bridge, a.handler? bridge = b.handler? bridge)
      (actionOf p) (actionOf q) := by
    have same := action_alike h
    rw [actionOf, actionOf]
    generalize Action.resolve p = x at same ⊢
    generalize Action.resolve q = y at same ⊢
    cases x with
    | error e =>
      cases y with
      | error e' =>
        cases same
        exact .of_eq (fun _ _ => rfl) rfl
      | ok => cases same
    | ok a =>
      cases y with
      | error => cases same
      | ok b => exact same
  rw [Button.resolve, Button.resolve, h.text, h.keyword, h.bool, h.bool]
  refine .bind actions fun action action' haction => ?_
  refine .bind_same _ fun label => .bind_same _ fun variant => ?_
  refine .bind_same _ fun fullWidth => .bind_same _ fun disabled => ?_
  refine alike_of (fun c handle => ?_) (fun c handle => ?_)
  · rw [markup, markup, DocumentRule.button, DocumentRule.button, DocumentRule.pressAttr,
      DocumentRule.pressAttr, haction, Button.classes, Button.classes]
  · rw [jsx, jsx, ProjectRule.button, ProjectRule.button, ProjectRule.pressProp,
      ProjectRule.pressProp, haction, Button.classes, Button.classes]

/-- Properties that read alike resolve to components of which no rule shows a difference. -/
theorem resolve_alike (kind : Kind) :
    Except.Related Component.Alike (resolve kind p) (resolve kind q) := by
  have same {α : Type} {x y : Except PropError α} (f : α → Component) (h : x = y) :
      Except.Related Component.Alike (x.map f) (y.map f) :=
    .of_eq Alike.refl (congrArg (Except.map f) h)
  cases kind with
  | container => exact (container_alike h).map fun _ _ => id
  | layout => exact (layout_alike h).map fun _ _ => id
  | button => exact (button_alike h).map fun _ _ => id
  | image => exact (image_alike h).map fun _ _ => id
  | card => exact (card_alike h).map fun _ _ => id
  | progress => exact (progress_alike h).map fun _ _ => id
  | divider => exact (divider_alike h).map fun _ _ => id
  | spacer => exact (spacer_alike h).map fun _ _ => id
  | carousel => exact same _ (carousel_eq h)
  | tabBar => exact same _ (tabBar_eq h)
  | text =>
    refine same _ ?_
    rw [Paragraph.resolve, Paragraph.resolve, h.text, h.keyword, h.color?,
      ranged_eq h "size" 16 (by decide), ranged_eq h "weight" 400 (by decide)]
  | heading =>
    refine same _ ?_
    rw [Heading.resolve, Heading.resolve, h.text, h.keyword, h.color?,
      ranged_eq h "level" 2 (by decide)]
  | sheet =>
    refine same _ ?_
    rw [Sheet.resolve, Sheet.resolve, h.text, h.text, h.text]
  | input =>
    refine same _ ?_
    rw [Input.resolve, Input.resolve, h.text, h.text, h.keyword, h.shownText, h.bool]
  | list =>
    refine same _ ?_
    rw [ItemList.resolve, ItemList.resolve, textList_eq h, h.bool]
  | avatar =>
    refine same _ ?_
    rw [Avatar.resolve, Avatar.resolve, h.text, h.url?, ranged_eq h "size" 48 (by decide)]
  | badge =>
    refine same _ ?_
    rw [Badge.resolve, Badge.resolve, h.text, h.keyword]
  | navBar =>
    refine same _ ?_
    rw [NavBar.resolve, NavBar.resolve, h.text, h.bool]

end Resolution

end Component

end MiniApp
