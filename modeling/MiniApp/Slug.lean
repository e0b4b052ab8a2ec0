import MiniApp.Text.Blank
import MiniApp.Text.Case
import MiniApp.Text.Cluster

/-!
Package names. A display name is cut into words at hyphens, underscores and spaces, where case
changes and where digits begin or end; the words in lower case are joined by hyphens, and whatever
is neither a small letter nor a digit counts as a hyphen.
-/

set_option autoImplicit false

namespace MiniApp.Slug

inductive Shape where
  | upper | lower | digit | other
deriving DecidableEq

/-- A cluster has a case when its two case mappings differ. -/
def shape (cluster : List Char) : Shape :=
  let up := Text.upper cluster
  let low := Text.lower cluster
  if up ≠ low ∧ cluster = up then .upper
  else if up ≠ low ∧ cluster = low then .lower
  else if cluster.all Char.isDigit then .digit
  else .other

def isDelimiter (cluster : List Char) : Bool :=
  cluster == ['_'] || cluster == ['-'] || cluster == [' ']

/-- Whether a word starts at a cluster of shape `here`, given its neighbours. The last of several
capitals belongs to the small letter behind it. -/
def startsWord (before here : Shape) (after : Option Shape) : Bool :=
  match before, here with
  | .lower, .upper => true
  | .upper, .digit | .lower, .digit => true
  | .digit, .upper | .digit, .lower => true
  | .upper, .upper => after == some .lower
  | _, _ => false

def wordsFrom (before : Option Shape) (word : List Char) : List (List Char) → List (List Char)
  | [] => [word]
  | c :: cs =>
    let here := shape c
    if isDelimiter c then word :: wordsFrom (some here) [] cs
    else if before.any fun b => startsWord b here (cs.head?.map shape) then
      word :: wordsFrom (some here) c cs
    else wordsFrom (some here) (word ++ c) cs

def words (cs : List Char) : List (List Char) :=
  ((wordsFrom none [] (Text.clusters cs)).filter fun w => !w.isEmpty).map Text.lower

def isNameChar (c : Char) : Bool := c.isLower || c.isDigit

/-- Appends one character to a name that is held backwards: whatever has no place in a name
becomes a hyphen, unless one stands there or nothing does. -/
def addChar (name : List Char) (c : Char) : List Char :=
  if isNameChar c then c :: name
  else match name with
    | [] => []
    | d :: _ => if d = '-' then name else '-' :: name

def squeeze (cs : List Char) : List Char := (cs.foldl addChar []).reverse

def maxLength : Nat := 214

def fallback : String := "mini-app"

def ofKebab (kebab : List Char) : String :=
  let name := Text.strip (· == '-') ((squeeze kebab).take maxLength)
  if name.isEmpty then fallback else String.ofList name

def ofName (displayName : String) : String :=
  ofKebab (['-'].intercalate (words (Text.trimmed displayName.toList)))

def archiveName (displayName : String) : String := ofName displayName ++ ".zip"

end MiniApp.Slug
