import Mathlib.Tactic.Common
import Mathlib.Tactic.SplitIfs
import MiniApp.Proofs.Source.Scanner

set_option autoImplicit false

namespace MiniApp.Markup

open Scanner

inductive Tag where
  | opening (name : String) (attrs : List (String × Option String))
  | closing (name : String)
deriving DecidableEq

structure StartTag where
  name : String
  attrs : List (String × Option String)

def StartTag.add (t : StartTag) (name : List Char) (value : Option (List Char)) : StartTag :=
  { t with attrs := t.attrs ++ [(String.ofList name, value.map String.ofList)] }

def StartTag.tag (t : StartTag) : Tag := .opening t.name t.attrs

def references : List (List Char × Char) :=
  [(['a', 'm', 'p'], '&'), (['l', 't'], '<'), (['g', 't'], '>'), (['q', 'u', 'o', 't'], '"'),
    (['#', '3', '9'], '\''), (['#', '1', '0'], '\n'), (['#', '1', '3'], '\r'), (['#', '9'], '\t')]

def isReferenceChar (c : Char) : Bool := c.isLower || c.isDigit || c == '#'

def isNameChar (c : Char) : Bool := c.isLower || c.isDigit || c == '-'

inductive Mode where
  | text
  | textReference (letters : List Char)
  | tagStart
  | closingName (name : List Char)
  | tagName (name : List Char)
  | attrName (tag : StartTag) (name : List Char)
  | valueStart (tag : StartTag) (name : List Char)
  | value (tag : StartTag) (name value : List Char)
  | valueReference (tag : StartTag) (name value letters : List Char)
  | valueEnd (tag : StartTag)

/-- One character: the next mode, and the tag that it ends. -/
def step : Mode → Char → Option (Mode × List Tag)
  | .text, c =>
    if c = '<' then some (.tagStart, [])
    else if c = '>' then none
    else if c = '&' then some (.textReference [], [])
    else some (.text, [])
  | .textReference letters, c =>
    if c = ';' then (references.lookup letters).map fun _ => (.text, [])
    else if isReferenceChar c then some (.textReference (letters ++ [c]), [])
    else none
  | .tagStart, c =>
    if c = '/' then some (.closingName [], [])
    else if isNameChar c then some (.tagName [c], [])
    else none
  | .closingName name, c =>
    if isNameChar c then some (.closingName (name ++ [c]), [])
    else if c = '>' ∧ name ≠ [] then some (.text, [.closing (String.ofList name)])
    else none
  | .tagName name, c =>
    if isNameChar c then some (.tagName (name ++ [c]), [])
    else if c = ' ' then some (.attrName ⟨String.ofList name, []⟩ [], [])
    else if c = '>' then some (.text, [.opening (String.ofList name) []])
    else none
  | .attrName tag name, c =>
    if isNameChar c then some (.attrName tag (name ++ [c]), [])
    else if name = [] then none
    else if c = '=' then some (.valueStart tag name, [])
    else if c = ' ' then some (.attrName (tag.add name none) [], [])
    else if c = '>' then some (.text, [(tag.add name none).tag])
    else none
  | .valueStart tag name, c => if c = '"' then some (.value tag name [], []) else none
  | .value tag name value, c =>
    if c = '"' then some (.valueEnd (tag.add name (some value)), [])
    else if c = '&' then some (.valueReference tag name value [], [])
    else if c = '<' ∨ c = '\n' ∨ c = '\r' then none
    else some (.value tag name (value ++ [c]), [])
  | .valueReference tag name value letters, c =>
    if c = ';' then
      (references.lookup letters).map fun r => (.value tag name (value ++ [r]), [])
    else if isReferenceChar c then some (.valueReference tag name value (letters ++ [c]), [])
    else none
  | .valueEnd tag, c =>
    if c = ' ' then some (.attrName tag [], [])
    else if c = '>' then some (.text, [tag.tag])
    else none

/-- The tags of a text that ends outside of them all. -/
def read? (s : String) : Option (List Tag) :=
  match scan step .text s.toList with
  | some (.text, tags) => some tags
  | _ => none

theorem read?_eq_some_iff {s : String} {tags : List Tag} :
    read? s = some tags ↔ scan step .text s.toList = some (.text, tags) := by
  rw [read?]
  split
  · next h => simp [h]
  · next h =>
    refine iff_of_false (by simp) fun hs => h _ hs

example : read? "<img alt=\"a &lt; b\" hidden>" =
    some [.opening "img" [("alt", some "a < b"), ("hidden", none)]] := by rfl

example : read? "<b title=\"x\"y\">" = none := by rfl

theorem step_break {m m' : Mode} {c : Char} {out : List Tag} (hc : c = '\n' ∨ c = '\r')
    (h : step m c = some (m', out)) : m = .text ∧ m' = .text ∧ out = [] := by
  cases m with
  | text => rcases hc with rfl | rfl <;> simp_all [step]
  | _ =>
    rcases hc with rfl | rfl <;> simp [step, isNameChar, isReferenceChar] at h

theorem breaksIn_text : BreaksIn step .text where
  only := step_break
  quiet hc := by rcases hc with rfl | rfl | rfl <;> rfl

end MiniApp.Markup
