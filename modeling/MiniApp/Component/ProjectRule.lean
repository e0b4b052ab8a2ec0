import MiniApp.Component.DocumentRule
import MiniApp.Source.Jsx

/-!
The rules that write components as JSX. Most of them lay out what their counterparts for a document
do, in the terms of JSX; a carousel, a sheet and a tab bar become components of the project's
runtime.
-/

set_option autoImplicit false

namespace MiniApp.ProjectRule

open Component Jsx
open DocumentRule (standInImage)

def bridge : String := "bridge"

def element (name : String) (classes : List String) (attrs : List (String × Attr))
    (styles : List (String × Jsx.Style)) (children : List Jsx.Tree) : Jsx.Tree :=
  .element ⟨name, false, classes, attrs, styles⟩ children

def raws (fragments : List String) : List Jsx.Tree := Tree.raws fragments

def colorStyle (color : Option String) (name : String) : List (String × Jsx.Style) :=
  color.toList.map fun c => (name, .text c)

def onPress (call : String) : String := "() => " ++ call

def container (m : Container) (c : Children) : Jsx.Tree :=
  element "div" ["mf-container"] []
    [("flexDirection", .text m.direction.word), ("gap", .number m.gap),
      ("padding", .number m.padding), ("background", .text m.background),
      ("alignItems", .text m.align.flexValue), ("justifyContent", .text m.justify.flexValue),
      ("borderRadius", .number m.radius)]
    (raws c.all)

def slotElement (c : Children) (slot name className : String) : List Jsx.Tree :=
  (c.slot? slot).toList.map fun fragment => element name [className] [] [] (raws [fragment])

def layout (m : Layout) (c : Children) : Jsx.Tree :=
  let content := element "div" ["mf-layout-content"] []
    [("padding", .number m.padding), ("gap", .number m.gap)]
    (raws c.ordered ++ raws (c.slot? "content").toList ++
      raws (c.extraSlots ["header", "content", "footer"]))
  element "div" ["mf-layout"] [] []
    (slotElement c "header" "header" "mf-layout-header" ++ [content] ++
      slotElement c "footer" "footer" "mf-layout-footer")

def paragraph (m : Paragraph) : Jsx.Tree :=
  element "p" ["mf-text"] []
    ([("fontSize", .number m.size), ("fontWeight", .number m.weight),
      ("textAlign", .text m.align.word)] ++ colorStyle m.color "color")
    [.text m.text]

def heading (m : Heading) : Jsx.Tree :=
  element m.tag ["mf-heading"] [] (("textAlign", .text m.align.word) :: colorStyle m.color "color")
    [.text m.text]

def pressProp (action : Action) : List (String × Attr) :=
  (action.handler? bridge).toList.map fun code => ("onClick", .expr (onPress code))

/-- All classes go into one entry. -/
def button (m : Button) : Jsx.Tree :=
  element "button" [" ".intercalate m.classes]
    ([("type", .text "button")] ++ (if m.disabled then [("disabled", .flag)] else []) ++
      pressProp m.action)
    [] [.text m.label]

def image (m : Image) : Jsx.Tree :=
  element "img" ["mf-image"]
    [("src", .text (m.src.getD standInImage)), ("alt", .text m.alt), ("loading", .text "lazy")]
    [("height", .number m.height), ("borderRadius", .number m.radius),
      ("objectFit", .text m.fit.word)]
    []

def groupElement (fragments : List String) (className : String) : List Jsx.Tree :=
  if fragments.isEmpty then [] else [element "div" [className] [] [] (raws fragments)]

def card (m : Card) (c : Children) : Jsx.Tree :=
  element "section" ["mf-card"] []
    ([("padding", .number m.padding), ("borderRadius", .number m.radius)] ++
      colorStyle m.background "background")
    ([element "h3" ["mf-card-title"] [] [] [.text m.title]] ++
      (m.subtitle.toList.map fun s => element "p" ["mf-card-subtitle"] [] [] [.text s]) ++
      groupElement (c.remaining ["footer"]) "mf-card-body" ++
      slotElement c "footer" "div" "mf-card-footer")

def slideRecord (s : Slide) : Script := .record [("src", .text s.src), ("alt", .text s.alt)]

/-- Slides from images go into a list, those from children stay children. -/
def carousel (m : Carousel) (c : Children) : Jsx.Tree :=
  let slides := if m.slides.isEmpty && c.all.isEmpty then [⟨standInImage, ""⟩] else m.slides
  element "Carousel" []
    [("slides", .expr (Script.list (slides.map slideRecord)).render),
      ("intervalMs", .expr (Numeral.text m.interval)),
      ("autoplay", .expr (Script.bool m.autoplay).render),
      ("height", .expr (Numeral.text m.height))]
    [] (raws c.all)

def sheet (m : Sheet) (c : Children) (handle : String) : Jsx.Tree :=
  element "Sheet" []
    [("id", .text handle), ("triggerLabel", .text m.triggerLabel), ("title", .text m.title),
      ("closeLabel", .text m.closeLabel)]
    [] (raws (c.slot? "content").toList ++ raws (c.remaining ["content"]))

def tabRecord (t : Tab) : Script :=
  .record ([("label", .text t.label)] ++ (t.pageId.toList.map fun page => ("pageId", .text page)) ++
    t.icon.toList.map fun icon => ("icon", .text icon))

def tabBar (m : TabBar) : Jsx.Tree :=
  element "TabBar" []
    [("tabs", .expr (Script.list (m.tabs.map tabRecord)).render),
      ("initialIndex", .expr (toString m.active))]
    [] []

def progress (m : Progress) : Jsx.Tree :=
  let value := Numeral.text m.value
  let header := element "div" ["mf-progress-header"] [] [] [
    element "span" ["mf-progress-label"] [] [] [.text m.label],
    element "span" ["mf-progress-value"] [] [] [.text (value ++ "%")]]
  element "div" ["mf-progress"] [] []
    ((if m.showLabel then [header] else []) ++
      [element "div" ["mf-progress-track"]
        [("role", .text "progressbar"), ("aria-valuemin", .expr "0"),
          ("aria-valuemax", .expr "100"), ("aria-valuenow", .expr value)]
        [("height", .number m.height)]
        [element "div" ["mf-progress-fill"] []
          [("width", .text (value ++ "%")), ("background", .text m.color)] []]])

def divider (m : Divider) : Jsx.Tree :=
  element "hr" ["mf-divider"] []
    [("borderTopWidth", .number m.thickness), ("borderTopColor", .text m.color),
      ("margin", .text (Numeral.text m.spacing ++ "px 0"))]
    []

def spacer (m : Spacer) : Jsx.Tree :=
  element "div" ["mf-spacer"] [("aria-hidden", .text "true")] [("height", .number m.height)] []

def input (m : Input) (handle : String) : Jsx.Tree :=
  let id := handle ++ "-input"
  element "div" ["mf-field"] [] [] [
    element "label" ["mf-field-label"] [("htmlFor", .text id)] [] [.text m.label],
    element "input" ["mf-input"]
      ([("id", .text id), ("type", .text m.type.word), ("placeholder", .text m.placeholder)] ++
        (m.name.toList.map fun name => ("name", .text name)) ++
        if m.required then [("required", .flag)] else [])
      [] []]

def list (m : ItemList) (c : Children) : Jsx.Tree :=
  element (if m.ordered then "ol" else "ul") ["mf-list"] [] []
    ((m.items.map fun item => element "li" ["mf-list-item"] [] [] [.text item]) ++
      c.all.map fun fragment => element "li" ["mf-list-item"] [] [] (raws [fragment]))

def avatar (m : Avatar) : Jsx.Tree :=
  let sides := [("width", .number m.size), ("height", .number m.size)]
  match m.src with
  | some src => element "img" ["mf-avatar"] [("src", .text src), ("alt", .text m.name)] sides []
  | none =>
    element "div" ["mf-avatar mf-avatar-initials"]
      [("role", .text "img"), ("aria-label", .text m.name)]
      (sides ++ [("fontSize", .number m.fontSize)]) [.text m.initials]

def badge (m : Badge) : Jsx.Tree :=
  element "span" ["mf-badge mf-badge-" ++ m.tone.word] [] [] [.text m.text]

def navBar (m : NavBar) (c : Children) : Jsx.Tree :=
  let back := element "button" ["mf-navbar-back"]
    [("type", .text "button"), ("aria-label", .text "Back"),
      ("onClick", .expr (onPress (bridge ++ ".goBack()")))] []
    [.text "\u2039"]
  element "header" ["mf-navbar"] [] []
    ((if m.showBack then [back] else []) ++
      [element "h1" ["mf-navbar-title"] [] [] [.text m.title]] ++
      groupElement c.all "mf-navbar-actions")

def tree (kind : Kind) (p : Props) (c : Children) (handle : String) :
    Except PropError Jsx.Tree := do
  match kind with
  | .container => return container (← Container.resolve p) c
  | .layout => return layout (← Layout.resolve p) c
  | .text => return paragraph (← Paragraph.resolve p)
  | .heading => return heading (← Heading.resolve p)
  | .button => return button (← Button.resolve p)
  | .image => return image (← Image.resolve p)
  | .card => return card (← Card.resolve p) c
  | .carousel => return carousel (← Carousel.resolve p) c
  | .sheet => return sheet (← Sheet.resolve p) c handle
  | .tabBar => return tabBar (← TabBar.resolve p)
  | .progress => return progress (← Progress.resolve p)
  | .divider => return divider (← Divider.resolve p)
  | .spacer => return spacer (← Spacer.resolve p)
  | .input => return input (← Input.resolve p) handle
  | .list => return list (← ItemList.resolve p) c
  | .avatar => return avatar (← Avatar.resolve p)
  | .badge => return badge (← Badge.resolve p)
  | .navBar => return navBar (← NavBar.resolve p) c

end MiniApp.ProjectRule
