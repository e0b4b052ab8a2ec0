import MiniApp.Source.Jsx

set_option autoImplicit false

namespace MiniApp

structure AppSource where
  imports : List String
  body : String

namespace AppSource

def privacyRoute : String := "#/privacy"

def runtimeComponents : List String := ["Carousel", "Sheet", "TabBar"]

def mentions (body needle : String) : Bool := Text.occursIn needle.toList body.toList

def bridgeMark : String := "=\x7b() => bridge."

def componentMark (name : String) : String := "<" ++ name ++ " "

def importLine (names : List String) (module : String) : String :=
  "import \x7b " ++ ", ".intercalate names ++ " \x7d from '" ++ module ++ "';"

def importsFor (output : String) : List String :=
  let components := runtimeComponents.filter fun name => mentions output (componentMark name)
  (if mentions output bridgeMark then [importLine ["bridge"] "./bridge"] else []) ++
    if components.isEmpty then [] else [importLine components "./components"]

def element (name : String) (classes : List String) (attrs : List (String × Jsx.Attr))
    (children : List Jsx.Tree) : Jsx.Tree :=
  .element ⟨name, false, classes, attrs, []⟩ children

def mainElement (children : List Jsx.Tree) : Jsx.Tree :=
  element "main" [] [("id", .text "mf-app")] children

def footer : Jsx.Tree :=
  element "footer" ["mf-footer"] []
    [element "a" [] [("href", .text privacyRoute)] [.text "Privacy Policy"]]

def ofOutput (output : String) (privacyLink : Bool) : AppSource :=
  ⟨importsFor output,
    Jsx.render (mainElement (Tree.raws [output] ++ if privacyLink then [footer] else []))⟩

def placeholder (reason : String) : AppSource :=
  let notice := element "div" ["mf-empty"] [("data-generation-error", .text "true")]
    [element "h2" ["mf-heading"] [] [.text "Nothing to show yet"],
      element "p" ["mf-text", "mf-error-reason"] [] [.text reason]]
  ⟨[], Jsx.render (mainElement [notice])⟩

def text (a : AppSource) : String :=
  finishLines (a.imports ++ (if a.imports.isEmpty then [] else [""]) ++
    ["export default function App() \x7b", indented 1 "return ("] ++ blockLines 2 a.body ++
    [indented 1 ");", "\x7d"]) ++ "\n"

end AppSource

end MiniApp
