import MiniApp.Escape
import MiniApp.Source.Tree

set_option autoImplicit false

namespace MiniApp.Markup

/-- A `script` holds the code of an event handler. -/
inductive Attr where
  | text (value : String)
  | flag
  | script (code : String)
deriving DecidableEq

abbrev Head := MiniApp.Head Attr String
abbrev Tree := MiniApp.Tree Attr String

def codeChar (c : Char) : List Char :=
  match c with
  | '&' => ['&', 'a', 'm', 'p', ';']
  | '"' => ['&', 'q', 'u', 'o', 't', ';']
  | c => [c]

def attrText : String × Attr → String
  | (name, .text value) => " " ++ name ++ "=\"" ++ Escape.attributeValue value ++ "\""
  | (name, .flag) => " " ++ name
  | (name, .script code) => " " ++ name ++ "=\"" ++ Escape.each codeChar code ++ "\""

def classText (classes : List String) : String :=
  if classes.isEmpty then ""
  else " class=\"" ++ Escape.attributeValue (" ".intercalate classes) ++ "\""

def styleText (styles : List (String × String)) : String :=
  if styles.isEmpty then ""
  else
    let declarations := ";".intercalate (styles.map fun s => s.1 ++ ":" ++ s.2)
    " style=\"" ++ Escape.attributeValue declarations ++ "\""

def opening (h : Head) : String :=
  "<" ++ h.name ++ classText h.classes ++ String.join (h.attrs.map attrText) ++ styleText h.styles

def text (s : String) : String :=
  String.ofList ((Text.joinBreaks (Escape.markup s).toList).flatMap
    (Escape.showBreak ['<', 'b', 'r', '>']))

def childless (h : Head) : String :=
  if h.isVoid then opening h ++ ">" else opening h ++ ">" ++ Tree.closing h

def dialect : Dialect Attr String := ⟨opening, text, childless⟩

def render (t : Tree) : String := t.render dialect

end MiniApp.Markup
