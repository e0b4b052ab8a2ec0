import MiniApp.Proofs.Code.Reader
import MiniApp.Proofs.Source.Scanner

set_option autoImplicit false

namespace MiniApp.Jsx

open Scanner

inductive Value where
  | text (value : String)
  | flag
  | expr (tokens : List Code.Token)
deriving DecidableEq

inductive Tag where
  | opening (name : String) (props : List (String × Value))
  | selfClosing (name : String) (props : List (String × Value))
  | closing (name : String)
deriving DecidableEq

structure StartTag where
  name : String
  props : List (String × Value)

def StartTag.add (t : StartTag) (name : List Char) (value : Value) : StartTag :=
  { t with props := t.props ++ [(String.ofList name, value)] }

def references : List (List Char × Char) :=
  [(['a', 'm', 'p'], '&'), (['l', 't'], '<'), (['g', 't'], '>'), (['q', 'u', 'o', 't'], '"'),
    (['#', '3', '9'], '\''), (['#', '1', '2', '3'], '{'), (['#', '1', '2', '5'], '}')]

def isReferenceChar (c : Char) : Bool := c.isLower || c.isDigit || c == '#'

def isNameChar (c : Char) : Bool := c.isAlphanum || c == '-'

def isMarkupChar (c : Char) : Bool := ['<', '>', '{', '}'].contains c

inductive Mode where
  | text
  | textReference (letters : List Char)
  | tagStart
  | closingName (name : List Char)
  | tagName (name : List Char)
  | propName (tag : StartTag) (name : List Char)
  | valueStart (tag : StartTag) (name : List Char)
  | value (tag : StartTag) (name value : List Char)
  | valueReference (tag : StartTag) (name value letters : List Char)
  | expr (tag : StartTag) (name : List Char) (code : Code.Mode)
  | valueEnd (tag : StartTag)
  | slash (tag : StartTag)

/-- One character: the next mode, and the tag that it ends. An expression goes on for as long as its
code does; the brace that cannot be a part of it ends it. -/
def step : Mode → Char → Option (Mode × List Tag)
  | .text, c =>
    if c = '<' then some (.tagStart, [])
    else if isMarkupChar c then none
    else if c = '&' then some (.textReference [], [])
    else some (.text, [])
  | .textReference letters, c =>
    if c = ';' then (references.lookup letters).map fun _ => (.text, [])
    else if isReferenceChar c then some (.textReference (letters ++ [c]), [])
    else none
  | .tagStart, c =>
    if c = '/' then some (.closingName [], [])
    else if isNameChar c then some (.tagName [c], [])
    else none
  | .closingName name, c =>
    if isNameChar c then some (.closingName (name ++ [c]), [])
    else if c = '>' ∧ name ≠ [] then some (.text, [.closing (String.ofList name)])
    else none
  | .tagName name, c =>
    if isNameChar c then some (.tagName (name ++ [c]), [])
    else if c = ' ' then some (.propName ⟨String.ofList name, []⟩ [], [])
    else if c = '>' then some (.text, [.opening (String.ofList name) []])
    else none
  | .propName tag name, c =>
    if isNameChar c then some (.propName tag (name ++ [c]), [])
    else if name = [] then if c = '/' then some (.slash tag, []) else none
    else if c = '=' then some (.valueStart tag name, [])
    else if c = ' ' then some (.propName (tag.add name .flag) [], [])
    else if c = '>' then some (.text, [.opening tag.name (tag.add name .flag).props])
    else none
  | .valueStart tag name, c =>
    if c = '"' then some (.value tag name [], [])
    else if c = '{' then some (.expr tag name Code.start, [])
    else none
  | .value tag name value, c =>
    if c = '"' then some (.valueEnd (tag.add name (.text (String.ofList value))), [])
    else if c = '&' then some (.valueReference tag name value [], [])
    else if isMarkupChar c ∨ c = '\n' ∨ c = '\r' then none
    else some (.value tag name (value ++ [c]), [])
  | .valueReference tag name value letters, c =>
    if c = ';' then
      (references.lookup letters).map fun r => (.value tag name (value ++ [r]), [])
    else if isReferenceChar c then some (.valueReference tag name value (letters ++ [c]), [])
    else none
  | .expr tag name code, c =>
    match Code.step code c, code.complete? with
    | some code', _ => some (.expr tag name code', [])
    | none, some tokens =>
      if c = '}' then some (.valueEnd (tag.add name (.expr tokens)), []) else none
    | none, none => none
  | .valueEnd tag, c =>
    if c = ' ' then some (.propName tag [], [])
    else if c = '>' then some (.text, [.opening tag.name tag.props])
    else none
  | .slash tag, c => if c = '>' then some (.text, [.selfClosing tag.name tag.props]) else none

/-- The tags of a text that ends outside of them all. -/
def read? (s : String) : Option (List Tag) :=
  match scan step .text s.toList with
  | some (.text, tags) => some tags
  | _ => none

theorem read?_eq_some_iff {s : String} {tags : List Tag} :
    read? s = some tags ↔ scan step .text s.toList = some (.text, tags) := by
  rw [read?]
  split
  · next h => simp [h]
  · next h =>
    refine iff_of_false (by simp) fun hs => h _ hs

example : read? "<img alt=\"a &lt; b\" hidden />" =
    some [.selfClosing "img" [("alt", .text "a < b"), ("hidden", .flag)]] := by rfl

example : read? "<p a=\x7bf('\x7d')\x7d>" =
    some [.opening "p" [("a", .expr [.char 'f', .char '(', .literal "\x7d", .char ')'])]] := by rfl

example : read? "<p a=\x7bf(\x7d)\x7d>" = none := by rfl

theorem step_break {m m' : Mode} {c : Char} {out : List Tag} (hc : c = '\n' ∨ c = '\r')
    (h : step m c = some (m', out)) : m = .text ∧ m' = .text ∧ out = [] := by
  cases m with
  | text => rcases hc with rfl | rfl <;> simp_all [step, isMarkupChar]
  | expr tag name code =>
    simp only [step, Code.step_break hc] at h
    rcases hc with rfl | rfl <;> split at h <;> simp_all
  | _ =>
    rcases hc with rfl | rfl <;> simp [step, isNameChar, isReferenceChar] at h

theorem breaksIn_text : BreaksIn step .text where
  only := step_break
  quiet hc := by rcases hc with rfl | rfl | rfl <;> rfl

end MiniApp.Jsx
