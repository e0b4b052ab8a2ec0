import MiniApp.Json.Value
import MiniApp.Number.Numeral
import MiniApp.Sanitize
import MiniApp.Text.Lines

/-!
Reading the properties of a component. A property has up to two values, the one that the author set
and the default of the component; null counts as not set. Each reader says which values it can use:
text that it cannot use falls through to the default and then to a fallback, and a value of the
wrong shape is an error.
-/

set_option autoImplicit false

namespace MiniApp

inductive PropError where
  | missing (component property : String)
  | invalid (property expected found : String)
deriving DecidableEq

def PropError.message : PropError → String
  | .missing component property => "Missing property '" ++ property ++ "' on " ++ component
  | .invalid property expected found =>
    "Invalid value for property '" ++ property ++ "': expected " ++ expected ++ ", found " ++ found

def Json.scalarText? : Json → Option String
  | .string s => some s
  | .integer n => some (Numeral.text (.ofInt n))
  | .float d => some (Numeral.text d)
  | .bool true => some "true"
  | .bool false => some "false"
  | _ => none

/-- The author's values over the defaults of the component. -/
structure Props where
  explicit : Fields
  defaults : Fields

namespace Props

/-- The values of a property that are not null, the author's first. -/
def values (p : Props) (key : String) : List Json :=
  ((p.explicit.lookup key).toList ++ (p.defaults.lookup key).toList).filter fun v => !v.isNull

def value? (p : Props) (key : String) : Option Json := (p.values key).head?

def isExplicit (p : Props) (key : String) : Bool :=
  (p.explicit.lookup key).any fun v => !v.isNull

/-- What one value gives a reader: a result, nothing, or the shape that was wanted instead. -/
inductive Reading (α : Type) where
  | found (result : α)
  | unusable
  | wrongShape (expected : String)

/-- The first usable value; a value of the wrong shape before it is an error. -/
def firstUsable {α : Type} (key : String) (read : Json → Reading α) :
    List Json → Except PropError (Option α)
  | [] => .ok none
  | v :: vs =>
    match read v with
    | .found result => .ok (some result)
    | .unusable => firstUsable key read vs
    | .wrongShape expected => .error (.invalid key expected v.kind)

def read {α : Type} (p : Props) (key : String) (reader : Json → Reading α) (fallback : α) :
    Except PropError α :=
  match firstUsable key reader (p.values key) with
  | .error e => .error e
  | .ok result => .ok (result.getD fallback)

def readText (v : Json) : Reading String :=
  match v.scalarText? with
  | some s => .found s
  | none => .wrongShape "text"

def text (p : Props) (key fallback : String) : Except PropError String :=
  p.read key readText fallback

def readShownText (v : Json) : Reading (Option String) :=
  match v.scalarText? with
  | some s => if Text.isBlankText s then .unusable else .found (some s)
  | none => .wrongShape "text"

/-- Text that shows something; blank text counts as not set. -/
def shownText (p : Props) (key : String) : Except PropError (Option String) :=
  p.read key readShownText none

def readNumber (v : Json) : Reading Double :=
  match v with
  | .integer n => .found (.ofInt n)
  | .float d => if d.isFinite then .found d else .unusable
  | .string s =>
    match Numeral.read? s with
    | some d => .found d
    | none => .unusable
  | _ => .wrongShape "number"

def number (p : Props) (key : String) (fallback : Double) : Except PropError Double :=
  p.read key readNumber fallback

def clamped (p : Props) (key : String) (fallback lo hi : Double) : Except PropError Double :=
  (p.number key fallback).map fun d => d.clamp lo hi

def keywordOf (s : String) : String :=
  String.ofList (Text.lowerAscii (Text.trimmed s.toList))

def readBool (v : Json) : Reading Bool :=
  match v with
  | .bool b => .found b
  | .integer n => .found (n != 0)
  | .float d => .found !d.isZero
  | .string s =>
    let word := keywordOf s
    if ["true", "yes", "1"].contains word then .found true
    else if ["false", "no", "0"].contains word then .found false
    else .unusable
  | _ => .wrongShape "boolean"

def bool (p : Props) (key : String) (fallback : Bool) : Except PropError Bool :=
  p.read key readBool fallback

def readKeyword {α : Type} (words : List (String × α)) (v : Json) : Reading α :=
  match v.scalarText? with
  | some s =>
    match words.lookup (keywordOf s) with
    | some a => .found a
    | none => .unusable
  | none => .wrongShape "keyword"

def keyword {α : Type} (p : Props) (key : String) (words : List (String × α)) (fallback : α) :
    Except PropError α :=
  p.read key (readKeyword words) fallback

def choice (p : Props) (key : String) (allowed : List String) (fallback : String) :
    Except PropError String :=
  p.keyword key (allowed.map fun w => (w, w)) fallback

def stringOf? : Json → Option String
  | .string s => some s
  | _ => none

def color? (p : Props) (key : String) : Option String :=
  (p.values key).findSome? fun v => (stringOf? v).bind Sanitize.color?

def color (p : Props) (key fallback : String) : String := (p.color? key).getD fallback

def url? (p : Props) (key : String) : Option String :=
  (p.values key).findSome? fun v => (stringOf? v).bind Sanitize.url?

def textItems (s : String) : List Json :=
  ((Text.lines s.toList).map Text.trimmed).filterMap fun line =>
    if line.isEmpty then none else some (.string (String.ofList line))

def readItems (v : Json) : Reading (List Json) :=
  match v with
  | .array items => .found items
  | .string s => .found (textItems s)
  | _ => .wrongShape "array"

def items (p : Props) (key : String) : Except PropError (List Json) := p.read key readItems []

def textList (p : Props) (key : String) : Except PropError (List String) :=
  (p.items key).map fun vs => vs.filterMap Json.scalarText?

end Props

end MiniApp
