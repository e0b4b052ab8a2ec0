import MiniApp.Component.Children
import MiniApp.Component.Model
import MiniApp.Source.Markup

/-!
The rules that write components as markup. A rule resolves its properties first and then lays out a
tree around the fragments of the children; what its elements are called, which classes and
attributes they have and in which order they stand is settled here.
-/

set_option autoImplicit false

namespace MiniApp.DocumentRule

open Component Markup

def bridge : String := "AppBridge"

def standInImage : String :=
  "data:image/svg+xml,%3Csvg xmlns='http://www.w3.org/2000/svg' viewBox='0 0 4 3'%3E" ++
    "%3Crect width='4' height='3' fill='%23e5e7eb'/%3E%3C/svg%3E"

def element (name : String) (classes : List String) (attrs : List (String × Attr))
    (styles : List (String × String)) (children : List Markup.Tree) : Markup.Tree :=
  .element ⟨name, false, classes, attrs, styles⟩ children

def voidElement (name : String) (classes : List String) (attrs : List (String × Attr))
    (styles : List (String × String)) : Markup.Tree :=
  .element ⟨name, true, classes, attrs, styles⟩ []

def raws (fragments : List String) : List Markup.Tree := Tree.raws fragments

def px (d : Double) : String := Numeral.text d ++ "px"

def colorStyle (color : Option String) (name : String) : List (String × String) :=
  color.toList.map fun c => (name, c)

def container (m : Container) (c : Children) : Markup.Tree :=
  element "div" ["mf-container"] []
    [("flex-direction", m.direction.word), ("gap", px m.gap), ("padding", px m.padding),
      ("background", m.background), ("align-items", m.align.flexValue),
      ("justify-content", m.justify.flexValue), ("border-radius", px m.radius)]
    (raws c.all)

/-- An element around the fragment of a slot, when the slot shows something. -/
def slotElement (c : Children) (slot name className : String) : List Markup.Tree :=
  (c.slot? slot).toList.map fun fragment => element name [className] [] [] (raws [fragment])

def layout (m : Layout) (c : Children) : Markup.Tree :=
  let content := element "div" ["mf-layout-content"] []
    [("padding", px m.padding), ("gap", px m.gap)]
    (raws c.ordered ++ raws (c.slot? "content").toList ++
      raws (c.extraSlots ["header", "content", "footer"]))
  element "div" ["mf-layout"] [] []
    (slotElement c "header" "header" "mf-layout-header" ++ [content] ++
      slotElement c "footer" "footer" "mf-layout-footer")

def paragraph (m : Paragraph) : Markup.Tree :=
  element "p" ["mf-text"] []
    ([("font-size", px m.size), ("font-weight", Numeral.text m.weight),
      ("text-align", m.align.word)] ++ colorStyle m.color "color")
    [.text m.text]

def heading (m : Heading) : Markup.Tree :=
  element m.tag ["mf-heading"] [] (("text-align", m.align.word) :: colorStyle m.color "color")
    [.text m.text]

def pressAttr (action : Action) : List (String × Attr) :=
  (action.handler? bridge).toList.map fun code => ("onclick", .script code)

def button (m : Button) : Markup.Tree :=
  element "button" m.classes
    ([("type", .text "button")] ++ (if m.disabled then [("disabled", .flag)] else []) ++
      pressAttr m.action)
    [] [.text m.label]

def image (m : Image) : Markup.Tree :=
  voidElement "img" ["mf-image"]
    [("src", .text (m.src.getD standInImage)), ("alt", .text m.alt), ("loading", .text "lazy")]
    [("height", px m.height), ("border-radius", px m.radius), ("object-fit", m.fit.word)]

def groupElement (fragments : List String) (className : String) : List Markup.Tree :=
  if fragments.isEmpty then [] else [element "div" [className] [] [] (raws fragments)]

def card (m : Card) (c : Children) : Markup.Tree :=
  element "section" ["mf-card"] []
    ([("padding", px m.padding), ("border-radius", px m.radius)] ++
      colorStyle m.background "background")
    ([element "h3" ["mf-card-title"] [] [] [.text m.title]] ++
      (m.subtitle.toList.map fun s => element "p" ["mf-card-subtitle"] [] [] [.text s]) ++
      groupElement (c.remaining ["footer"]) "mf-card-body" ++
      slotElement c "footer" "div" "mf-card-footer")

def slideElement (children : List Markup.Tree) : Markup.Tree :=
  element "div" ["mf-carousel-slide"] [] [] children

/-- The slides of a carousel: its images, then one for each child, a stand-in when there is none. -/
def slides (m : Carousel) (c : Children) : List Markup.Tree :=
  let shown := (m.slides.map fun s => slideElement [voidElement "img" []
      [("src", .text s.src), ("alt", .text s.alt), ("draggable", .text "false")] []]) ++
    c.all.map fun fragment => slideElement (raws [fragment])
  if shown.isEmpty then
    [slideElement [voidElement "img" [] [("src", .text standInImage), ("alt", .text "")] []]]
  else shown

def dot (index : Nat) : Markup.Tree :=
  element "button" (["mf-carousel-dot"] ++ if index = 0 then ["mf-active"] else [])
    [("type", .text "button"), ("data-index", .text (toString index)),
      ("aria-label", .text ("Slide " ++ toString (index + 1)))]
    [] []

def carousel (m : Carousel) (c : Children) (handle : String) : Markup.Tree :=
  let shown := slides m c
  element "div" ["mf-carousel"]
    [("id", .text handle), ("data-mf-carousel", .flag),
      ("data-interval", .text (Numeral.text m.interval)),
      ("data-autoplay", .text (Script.boolText m.autoplay))]
    [("height", px m.height)]
    [element "div" ["mf-carousel-track"] [] [] shown,
      element "div" ["mf-carousel-dots"] [] [] ((List.range shown.length).map dot)]

def sheet (m : Sheet) (c : Children) (handle : String) : Markup.Tree :=
  let titleId := handle ++ "-title"
  let panel := element "div" ["mf-sheet-panel"] [] [] [
    element "div" ["mf-sheet-handle"] [] [] [],
    element "h3" ["mf-sheet-title"] [("id", .text titleId)] [] [.text m.title],
    element "div" ["mf-sheet-content"] [] []
      (raws (c.slot? "content").toList ++ raws (c.remaining ["content"])),
    element "button" ["mf-button", "mf-button-secondary", "mf-sheet-close"]
      [("type", .text "button"), ("data-mf-sheet-close", .flag)] [] [.text m.closeLabel]]
  let dialog := element "div" ["mf-sheet"]
    [("id", .text handle), ("data-mf-sheet", .flag), ("role", .text "dialog"),
      ("aria-modal", .text "true"), ("aria-labelledby", .text titleId)]
    [] [element "div" ["mf-sheet-backdrop"] [("data-mf-sheet-close", .flag)] [] [], panel]
  element "div" ["mf-sheet-host"] [] [] [
    element "button" ["mf-button", "mf-button-primary"]
      [("type", .text "button"), ("data-mf-sheet-open", .text handle)] [] [.text m.triggerLabel],
    dialog]

def tab (active index : Nat) (t : Tab) : Markup.Tree :=
  let isActive := index == active
  element "button" (["mf-tab"] ++ if isActive then ["mf-tab-active"] else [])
    ([("type", .text "button"), ("role", .text "tab"),
      ("aria-selected", .text (Script.boolText isActive)),
      ("data-index", .text (toString index))] ++
      t.pageId.toList.map fun page => ("data-page", .text page))
    []
    ((t.icon.toList.map fun icon => element "span" ["mf-tab-icon"] [] [] [.text icon]) ++
      [element "span" ["mf-tab-label"] [] [] [.text t.label]])

def tabsFrom (active index : Nat) : List Tab → List Markup.Tree
  | [] => []
  | t :: ts => tab active index t :: tabsFrom active (index + 1) ts

def tabBar (m : TabBar) : Markup.Tree :=
  element "nav" ["mf-tabbar"] [("data-mf-tabbar", .flag), ("role", .text "tablist")] []
    (tabsFrom m.active 0 m.tabs)

def progress (m : Progress) : Markup.Tree :=
  let value := Numeral.text m.value
  let header := element "div" ["mf-progress-header"] [] [] [
    element "span" ["mf-progress-label"] [] [] [.text m.label],
    element "span" ["mf-progress-value"] [] [] [.text (value ++ "%")]]
  element "div" ["mf-progress"] [] []
    ((if m.showLabel then [header] else []) ++
      [element "div" ["mf-progress-track"]
        [("role", .text "progressbar"), ("aria-valuemin", .text "0"),
          ("aria-valuemax", .text "100"), ("aria-valuenow", .text value)]
        [("height", px m.height)]
        [element "div" ["mf-progress-fill"] []
          [("width", value ++ "%"), ("background", m.color)] []]])

def divider (m : Divider) : Markup.Tree :=
  voidElement "hr" ["mf-divider"] []
    [("border-top-width", px m.thickness), ("border-top-color", m.color),
      ("margin", px m.spacing ++ " 0")]

def spacer (m : Spacer) : Markup.Tree :=
  element "div" ["mf-spacer"] [("aria-hidden", .text "true")] [("height", px m.height)] []

def input (m : Input) (handle : String) : Markup.Tree :=
  let id := handle ++ "-input"
  element "div" ["mf-field"] [] [] [
    element "label" ["mf-field-label"] [("for", .text id)] [] [.text m.label],
    voidElement "input" ["mf-input"]
      ([("id", .text id), ("type", .text m.type.word), ("placeholder", .text m.placeholder)] ++
        (m.name.toList.map fun name => ("name", .text name)) ++
        if m.required then [("required", .flag)] else [])
      []]

def list (m : ItemList) (c : Children) : Markup.Tree :=
  element (if m.ordered then "ol" else "ul") ["mf-list"] [] []
    ((m.items.map fun item => element "li" ["mf-list-item"] [] [] [.text item]) ++
      c.all.map fun fragment => element "li" ["mf-list-item"] [] [] (raws [fragment]))

def avatar (m : Avatar) : Markup.Tree :=
  let sides := [("width", px m.size), ("height", px m.size)]
  match m.src with
  | some src => voidElement "img" ["mf-avatar"] [("src", .text src), ("alt", .text m.name)] sides
  | none =>
    element "div" ["mf-avatar", "mf-avatar-initials"]
      [("role", .text "img"), ("aria-label", .text m.name)]
      (sides ++ [("font-size", px m.fontSize)]) [.text m.initials]

def badge (m : Badge) : Markup.Tree :=
  element "span" ["mf-badge", "mf-badge-" ++ m.tone.word] [] [] [.text m.text]

def navBar (m : NavBar) (c : Children) : Markup.Tree :=
  let back := element "button" ["mf-navbar-back"]
    [("type", .text "button"), ("aria-label", .text "Back"),
      ("onclick", .script (bridge ++ ".goBack()"))] []
    [.text "\u2039"]
  element "header" ["mf-navbar"] [] []
    ((if m.showBack then [back] else []) ++
      [element "h1" ["mf-navbar-title"] [] [] [.text m.title]] ++
      groupElement c.all "mf-navbar-actions")

def tree (kind : Kind) (p : Props) (c : Children) (handle : String) :
    Except PropError Markup.Tree := do
  match kind with
  | .container => return container (← Container.resolve p) c
  | .layout => return layout (← Layout.resolve p) c
  | .text => return paragraph (← Paragraph.resolve p)
  | .heading => return heading (← Heading.resolve p)
  | .button => return button (← Button.resolve p)
  | .image => return image (← Image.resolve p)
  | .card => return card (← Card.resolve p) c
  | .carousel => return carousel (← Carousel.resolve p) c handle
  | .sheet => return sheet (← Sheet.resolve p) c handle
  | .tabBar => return tabBar (← TabBar.resolve p)
  | .progress => return progress (← Progress.resolve p)
  | .divider => return divider (← Divider.resolve p)
  | .spacer => return spacer (← Spacer.resolve p)
  | .input => return input (← Input.resolve p) handle
  | .list => return list (← ItemList.resolve p) c
  | .avatar => return avatar (← Avatar.resolve p)
  | .badge => return badge (← Badge.resolve p)
  | .navBar => return navBar (← NavBar.resolve p) c

end MiniApp.DocumentRule
