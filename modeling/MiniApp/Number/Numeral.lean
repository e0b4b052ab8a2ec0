import MiniApp.Number.Decimal
import MiniApp.Text.Blank

set_option autoImplicit false

namespace MiniApp

namespace Numeral

def hundred : Double := .ofNat 100

def signText (negative : Bool) : String := if negative then "-" else ""

def twoPlaces (units : Nat) : String :=
  let hundredths := Double.roundHalfEven (100 * units) Double.scale
  let cents := hundredths % 100
  toString (hundredths / 100) ++ "." ++ toString (cents / 10) ++ toString (cents % 10)

def dropZeros (s : String) : String :=
  let kept := s.toList.reverse.dropWhile (· == '0')
  String.ofList (kept.dropWhile (· == '.')).reverse

/-- From this whole number on a numeral is written out by its exact digits. -/
def wholeLimit : Nat := Nat.pow 10 15

/-- A number as source text: rounded to hundredths, `0` when it is not a number at all. -/
def text (d : Double) : String :=
  if !d.isFinite then "0"
  else match ((d.mul hundred).round).div hundred with
    | .finite negative units =>
      let whole := units / Double.scale
      if units % Double.scale = 0 ∧ whole < wholeLimit then
        signText (negative && whole != 0) ++ toString whole
      else signText negative ++ dropZeros (twoPlaces units)
    | .infinite negative => signText negative ++ "inf"
    | .nan .. => "NaN"

def isUnitChar (c : Char) : Bool := c.isAlpha || c == '%'

/-- A numeral with blanks around it and a unit such as `px` or `%` behind it. -/
def read? (s : String) : Option Double :=
  let shown := Text.trimmed s.toList
  let number := (shown.reverse.dropWhile isUnitChar).reverse
  ((Decimal.read? (Text.trimmed number)).map Decimal.toDouble).filter Double.isFinite

end Numeral

end MiniApp
