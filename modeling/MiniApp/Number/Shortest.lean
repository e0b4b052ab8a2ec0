import MiniApp.Number.Double

/-!
The shortest decimal that reads back as a given floating-point number. Among the grids of multiples
of a power of ten the coarsest that has a point in the interval of numbers rounding to the given
one is taken, and on it the point nearest to the number.
-/

set_option autoImplicit false

namespace MiniApp.Shortest

/-- The interval of magnitudes that round to `units`, its ends in quarters of a unit. The lower gap
is half as wide where the spacing changes, and the ends belong to even neighbours only. -/
structure Interval where
  lo : Nat
  hi : Nat
  closed : Bool

def interval (units : Nat) : Interval :=
  let step := Double.spacing units
  let narrow := 1 < step ∧ units = Nat.pow 2 units.log2
  ⟨4 * units - (if narrow then step else 2 * step), 4 * units + 2 * step, units / step % 2 == 0⟩

def Interval.holds (i : Interval) (num den : Nat) : Bool :=
  if i.closed then i.lo * den ≤ 4 * num && 4 * num ≤ i.hi * den
  else i.lo * den < 4 * num && 4 * num < i.hi * den

def gridStep (place : Nat) : Nat × Nat :=
  if 324 ≤ place then (Nat.pow 10 (place - 324) * Double.scale, 1)
  else (Double.scale, Nat.pow 10 (324 - place))

def onGrid (units place : Nat) : Option Nat :=
  let (num, den) := gridStep place
  let i := interval units
  let below := units * den / num
  let remainder := units * den % num
  match i.holds (below * num) den, i.holds ((below + 1) * num) den with
  | true, true =>
    if 2 * remainder < num ∨ (2 * remainder = num ∧ below % 2 = 0) then some below
    else some (below + 1)
  | true, false => some below
  | false, true => some (below + 1)
  | false, false => none

def search (units : Nat) : Nat → Nat × Int
  | 0 => ((onGrid units 0).getD 0, -324)
  | place + 1 =>
    match onGrid units (place + 1) with
    | some c => (c, place + 1 - 324)
    | none => search units place

/-- Coefficient and exponent of the shortest decimal; the first grid tried is coarser than the
number itself. -/
def decimal (units : Nat) : Nat × Int :=
  search units (units.log2 * 30103 / 100000 + 3)

end MiniApp.Shortest
