import MiniApp.Number.Double

set_option autoImplicit false

namespace MiniApp

/-- The number `coefficient * 10 ^ exponent`, or its opposite. -/
structure Decimal where
  negative : Bool
  coefficient : Nat
  exponent : Int
deriving DecidableEq

namespace Decimal

def digitValue (c : Char) : Nat := c.toNat - '0'.toNat

def natOfDigits (cs : List Char) : Nat := cs.foldl (fun n c => 10 * n + digitValue c) 0

/-- The nearest floating-point number. What has its first digit beyond the 310th place before the
point is infinite, and what starts below the 330th place after it is zero. -/
def toDouble (d : Decimal) : Double :=
  let top := (Nat.toDigits 10 d.coefficient).length + d.exponent
  if d.coefficient = 0 ∨ top < -330 then .finite d.negative 0
  else if 310 < top then .infinite d.negative
  else match d.exponent with
    | .ofNat e => .ofRatio d.negative (d.coefficient * Nat.pow 10 e * Double.scale) 1
    | .negSucc e => .ofRatio d.negative (d.coefficient * Double.scale) (Nat.pow 10 (e + 1))

def takeSign : List Char → Bool × List Char
  | '-' :: cs => (true, cs)
  | '+' :: cs => (false, cs)
  | cs => (false, cs)

def readExponent : List Char → Option Int
  | [] => some 0
  | c :: cs =>
    if c = 'e' ∨ c = 'E' then
      let (negative, ds) := takeSign cs
      if ds.isEmpty || !ds.all Char.isDigit then none
      else some (if negative then -(natOfDigits ds) else natOfDigits ds)
    else none

/-- The numeral that makes up the whole text: a point may stand first or last, not alone. -/
def read? (cs : List Char) : Option Decimal :=
  let (negative, cs) := takeSign cs
  let whole := cs.takeWhile Char.isDigit
  let rest := cs.dropWhile Char.isDigit
  let (fraction, rest) := match rest with
    | '.' :: rest => (rest.takeWhile Char.isDigit, rest.dropWhile Char.isDigit)
    | rest => ([], rest)
  if whole.isEmpty && fraction.isEmpty then none
  else (readExponent rest).map fun e =>
    ⟨negative, natOfDigits (whole ++ fraction), e - fraction.length⟩

end Decimal

end MiniApp
