/-!
Floating-point numbers of 64 bits, held by value. A finite number is a sign and a whole number of
units, and one unit is 2^-1074, the distance between the smallest two of them. So every finite
number is exact, two of them compare as integers do, and each operation is exact arithmetic
followed by one rounding to the nearest representable number, a half to the even one.
-/

set_option autoImplicit false

namespace MiniApp

/-- A `finite` magnitude counts units of 2^-1074; a `nan` keeps its sign and payload bits. -/
inductive Double where
  | nan (negative : Bool) (payload : Nat)
  | infinite (negative : Bool)
  | finite (negative : Bool) (units : Nat)
deriving DecidableEq

namespace Double

def scale : Nat := Nat.pow 2 1074

/-- The first magnitude beyond all finite ones, 2^1024, in units. -/
def limit : Nat := Nat.pow 2 2098

def roundHalfEven (num den : Nat) : Nat :=
  let q := num / den
  if 2 * (num % den) < den then q
  else if den < 2 * (num % den) then q + 1
  else q + q % 2

/-- The distance between representable magnitudes from `units` up to the next power of two:
53 binary places are kept. -/
def spacing (units : Nat) : Nat := Nat.pow 2 (units.log2 - 52)

/-- The units of the representable magnitude nearest to `num / den` units. -/
def nearestUnits (num den : Nat) : Nat :=
  let step := spacing (num / den)
  roundHalfEven num (den * step) * step

/-- The number nearest to `num / den` units, infinite from `limit` on. -/
def ofRatio (negative : Bool) (num den : Nat) : Double :=
  let u := nearestUnits num den
  if u < limit then .finite negative u else .infinite negative

def ofNat (n : Nat) : Double := ofRatio false (n * scale) 1

def ofInt (n : Int) : Double := ofRatio (n < 0) (n.natAbs * scale) 1

def zero : Double := .finite false 0

def ofBits (word : Nat) : Double :=
  let negative := word / Nat.pow 2 63 % 2 == 1
  let exponent := word / Nat.pow 2 52 % Nat.pow 2 11
  let fraction := word % Nat.pow 2 52
  if exponent = 2047 then
    if fraction = 0 then .infinite negative else .nan negative fraction
  else if exponent = 0 then .finite negative fraction
  else .finite negative ((Nat.pow 2 52 + fraction) * Nat.pow 2 (exponent - 1))

def magnitudeBits (units : Nat) : Nat :=
  if units < Nat.pow 2 52 then units
  else (units.log2 - 51) * Nat.pow 2 52 + (units / spacing units - Nat.pow 2 52)

def toBits : Double → Nat
  | .nan negative payload => negative.toNat * Nat.pow 2 63 + 2047 * Nat.pow 2 52 + payload
  | .infinite negative => negative.toNat * Nat.pow 2 63 + 2047 * Nat.pow 2 52
  | .finite negative units => negative.toNat * Nat.pow 2 63 + magnitudeBits units

def isFinite : Double → Bool
  | .finite .. => true
  | _ => false

def isZero : Double → Bool
  | .finite _ units => units == 0
  | _ => false

/-- Neither zero, nor too small to have 53 places, nor infinite, nor a nan. -/
def isNormal : Double → Bool
  | .finite _ units => Nat.pow 2 52 ≤ units
  | _ => false

def signed (negative : Bool) (units : Nat) : Int := if negative then -units else units

def lt : Double → Double → Bool
  | .finite a u, .finite b v => signed a u < signed b v
  | .finite .., .infinite b => !b
  | .infinite a, .finite .. => a
  | .infinite a, .infinite b => a && !b
  | _, _ => false

/-- Equality of numbers: zero equals zero whatever the signs, and a nan equals nothing. -/
def equals : Double → Double → Bool
  | .finite a u, .finite b v => signed a u == signed b v
  | .infinite a, .infinite b => a == b
  | _, _ => false

def quietNan : Double := .nan false (Nat.pow 2 51)

def mul : Double → Double → Double
  | .nan a p, _ => .nan a p
  | _, .nan b p => .nan b p
  | .finite a u, .finite b v => ofRatio (a != b) (u * v) scale
  | .infinite a, .infinite b => .infinite (a != b)
  | .infinite a, .finite b v => if v = 0 then quietNan else .infinite (a != b)
  | .finite a u, .infinite b => if u = 0 then quietNan else .infinite (a != b)

def div : Double → Double → Double
  | .nan a p, _ => .nan a p
  | _, .nan b p => .nan b p
  | .finite a u, .finite b v =>
    if v = 0 then if u = 0 then quietNan else .infinite (a != b)
    else ofRatio (a != b) (u * scale) v
  | .infinite _, .infinite _ => quietNan
  | .infinite a, .finite b _ => .infinite (a != b)
  | .finite a _, .infinite b => .finite (a != b) 0

/-- The nearest whole number, a half away from zero. -/
def round : Double → Double
  | .finite negative units => .finite negative ((2 * units + scale) / (2 * scale) * scale)
  | d => d

/-- The magnitude without its fraction; zero for what is not finite. -/
def toNat : Double → Nat
  | .finite _ units => units / scale
  | _ => 0

def clamp (d lo hi : Double) : Double :=
  let raised := if d.lt lo then lo else d
  if hi.lt raised then hi else raised

theorem lt_finite (a b : Bool) (u v : Nat) :
    (finite a u).lt (finite b v) = true ↔ signed a u < signed b v := by
  simp [lt]

theorem roundHalfEven_bounds (num den : Nat) (h : 0 < den) :
    2 * num ≤ 2 * den * roundHalfEven num den + den ∧
      2 * den * roundHalfEven num den ≤ 2 * num + den := by
  have hd : den * (num / den) + num % den = num := Nat.div_add_mod num den
  have hlt : num % den < den := Nat.mod_lt num h
  have e1 : 2 * den * (num / den) = 2 * (den * (num / den)) := Nat.mul_assoc ..
  have e2 : 2 * den * (num / den + 1) = 2 * (den * (num / den)) + 2 * den := by
    rw [Nat.mul_add, e1, Nat.mul_one]
  simp only [roundHalfEven]
  split
  · omega
  · split
    · omega
    · rcases Nat.mod_two_eq_zero_or_one (num / den) with h2 | h2 <;> rw [h2]
      · rw [Nat.add_zero]; omega
      · omega

end Double

end MiniApp
