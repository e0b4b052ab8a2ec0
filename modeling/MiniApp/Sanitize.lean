import MiniApp.Text.Blank
import MiniApp.Text.Case

set_option autoImplicit false

namespace MiniApp.Sanitize

def isHexDigit (c : Char) : Bool :=
  c.isDigit || ('a' ≤ c && c ≤ 'f') || ('A' ≤ c && c ≤ 'F')

def isHexColor (cs : List Char) : Bool :=
  match cs with
  | '#' :: ds => 3 ≤ ds.length && ds.length ≤ 8 && ds.all isHexDigit
  | _ => false

def argument? (opening : String) (cs : List Char) : Option (List Char) :=
  let inner := cs.drop opening.toList.length
  if opening.toList.isPrefixOf cs ∧ inner.getLast? = some ')' then some inner.dropLast else none

def isColorArgumentChar (c : Char) : Bool :=
  c.isDigit || Text.isBlank c || c == '.' || c == '%' || c == ',' || c == '/' || c == '+' ||
    c == '-'

def isTokenChar (c : Char) : Bool := c.isAlphanum || c == '-'

def holds (p : Char → Bool) : Option (List Char) → Bool
  | some (c :: cs) => (c :: cs).all p
  | _ => false

def isFunctionColor (cs : List Char) : Bool :=
  ["rgb(", "rgba(", "hsl(", "hsla("].any fun name => holds isColorArgumentChar (argument? name cs)

def isNamedColor (cs : List Char) : Bool :=
  3 ≤ cs.length && cs.length ≤ 20 && cs.all Char.isAlpha

def isTokenColor (cs : List Char) : Bool := holds isTokenChar (argument? "var(--" cs)

def isColor (cs : List Char) : Bool :=
  isHexColor cs || isFunctionColor cs || isNamedColor cs || isTokenColor cs

def color? (s : String) : Option String :=
  let cs := Text.trimmed s.toList
  if isColor cs then some (String.ofList cs) else none

def allowedSchemes : List String := ["http://", "https://", "mailto:", "tel:", "data:image/"]

def startsPath (c : Char) : Bool := c == '/' || c == '?' || c == '#'

/-- No colon, or a path, query or fragment before the first one. -/
def isRelative (cs : List Char) : Bool :=
  !cs.contains ':' || (cs.takeWhile (· ≠ ':')).any startsPath

def hasAllowedScheme (cs : List Char) : Bool :=
  allowedSchemes.any fun scheme => scheme.toList.isPrefixOf (Text.lowerAscii cs)

def url? (s : String) : Option String :=
  let cs := Text.trimmed s.toList
  if cs.isEmpty || cs.any Text.isControl then none
  else if hasAllowedScheme cs || isRelative cs then some (String.ofList cs)
  else none

end MiniApp.Sanitize
