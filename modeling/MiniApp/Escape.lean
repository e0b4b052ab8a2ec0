import MiniApp.Text.Blank
import MiniApp.Text.Quoted

/-!
Escaping author text for each place that it can land in: markup and its attributes, JSX, script
string literals, and comments. All but the last work character by character, so each is told by the
text it puts for one character.
-/

set_option autoImplicit false

namespace MiniApp.Escape

def each (f : Char → List Char) (s : String) : String := String.ofList (s.toList.flatMap f)

theorem toList_each (f : Char → List Char) (s : String) :
    (each f s).toList = s.toList.flatMap f := String.toList_ofList

def markupChar (c : Char) : List Char :=
  match c with
  | '&' => ['&', 'a', 'm', 'p', ';']
  | '<' => ['&', 'l', 't', ';']
  | '>' => ['&', 'g', 't', ';']
  | '"' => ['&', 'q', 'u', 'o', 't', ';']
  | '\'' => ['&', '#', '3', '9', ';']
  | c => [c]

def markup (s : String) : String := each markupChar s

/-- Attribute values, with line breaks and tabs written as references so that indenting the
element cannot change them. -/
def attributeChar (c : Char) : List Char :=
  match c with
  | '\n' => ['&', '#', '1', '0', ';']
  | '\r' => ['&', '#', '1', '3', ';']
  | '\t' => ['&', '#', '9', ';']
  | c => markupChar c

def attributeValue (s : String) : String := each attributeChar s

/-- JSX text and string attributes, where braces would open an expression. -/
def jsxChar (c : Char) : List Char :=
  match c with
  | '{' => ['&', '#', '1', '2', '3', ';']
  | '}' => ['&', '#', '1', '2', '5', ';']
  | c => markupChar c

def jsx (s : String) : String := each jsxChar s

def unicodeEscape (n : Nat) : List Char :=
  let digits := (Text.hexDigits n).map Char.toUpper
  '\\' :: 'u' :: List.replicate (4 - digits.length) '0' ++ digits

/-- The inside of a script string literal. Quotes, markup characters, separators and controls are
all escaped, so a literal is safe in a script element and in a handler attribute. -/
def scriptChar (c : Char) : List Char :=
  match c with
  | '\\' => ['\\', '\\']
  | '\n' => ['\\', 'n']
  | '\r' => ['\\', 'r']
  | '\t' => ['\\', 't']
  | c =>
    if c ∈ ['\'', '"', '\x60', '<', '>', '&', '\u2028', '\u2029'] ∨ Text.isControl c = true then
      unicodeEscape c.toNat
    else [c]

def script (s : String) : String := each scriptChar s

def literal (s : String) : String := "'" ++ script s ++ "'"

def partCommentEnd (cs : List Char) : List Char :=
  cs.foldr (fun c rest =>
    if c = '*' ∧ rest.head? = some '/' then '*' :: ' ' :: rest else c :: rest) []

/-- Text for a block comment: comment ends are parted, then angle brackets and control characters
left out. -/
def comment (s : String) : String :=
  String.ofList ((partCommentEnd s.toList).filter fun c =>
    c ≠ '<' ∧ c ≠ '>' ∧ Text.isControl c = false)

def showBreak (tag : List Char) (c : Char) : List Char := if c = '\n' then tag else [c]

end MiniApp.Escape
