import MiniApp.Source.Script
import MiniApp.Source.Tree
import MiniApp.Text.Lines

set_option autoImplicit false

namespace MiniApp.Jsx

/-- An `expr` holds the code of an expression. -/
inductive Attr where
  | text (value : String)
  | flag
  | expr (code : String)
deriving DecidableEq

inductive Style where
  | number (value : Double)
  | text (value : String)
deriving DecidableEq

abbrev Head := MiniApp.Head Attr Style
abbrev Tree := MiniApp.Tree Attr Style

def braced (code : String) : String := "\x7b" ++ code ++ "\x7d"

def propText : String × Attr → String
  | (name, .text value) =>
    if value.toList.any fun c => c == '\n' || c == '\r' then
      " " ++ name ++ "=" ++ braced (Escape.literal value)
    else " " ++ name ++ "=\"" ++ Escape.jsx value ++ "\""
  | (name, .flag) => " " ++ name
  | (name, .expr code) => " " ++ name ++ "=" ++ braced code

def classText (classes : List String) : String :=
  if classes.isEmpty then ""
  else " className=\"" ++ Escape.jsx (" ".intercalate classes) ++ "\""

def Style.render : Style → String
  | .number d => Numeral.text d
  | .text s => Escape.literal s

def styleText (styles : List (String × Style)) : String :=
  if styles.isEmpty then ""
  else
    let entries := ", ".intercalate (styles.map fun s => s.1 ++ ": " ++ s.2.render)
    " style=" ++ braced (braced (" " ++ entries ++ " "))

def opening (h : Head) : String :=
  "<" ++ h.name ++ classText h.classes ++ String.join (h.attrs.map propText) ++ styleText h.styles

def text (s : String) : String :=
  String.ofList ((Text.joinBreaks (Escape.jsx s).toList).flatMap
    (Escape.showBreak ['<', 'b', 'r', ' ', '/', '>']))

def childless (h : Head) : String := opening h ++ " />"

def dialect : Dialect Attr Style := ⟨opening, text, childless⟩

def render (t : Tree) : String := t.render dialect

end MiniApp.Jsx
