import RouteTable.Decimal.Shortest
import RouteTable.Json

/-!
# Exact arithmetic on numbers

Every number is a whole multiple of the smallest positive double, `2 ^ -1074`; `Number.units` is that multiple.
Integers and doubles are compared by value through it.
-/

namespace RouteTable

namespace Number

/-- Multiples of the smallest positive double that make one. -/
def unitsInOne : Nat := Nat.pow 2 1074

def doubleUnits (x : Float) : Int :=
  match Double.ofFloat? x with
  | some d =>
    let magnitude : Int := (d.significand * Nat.pow 2 d.exponent : Nat)
    if d.negative then -magnitude else magnitude
  | none => 0

def units : Number → Int
  | int n => n * unitsInOne
  | float x => doubleUnits x

def equal (a b : Number) : Bool := a.units == b.units

def less (a b : Number) : Bool := a.units < b.units

def isWhole (n : Number) : Bool := n.units % unitsInOne == 0

/-- The whole number a number is. -/
def whole? (n : Number) : Option Int := if n.isWhole then some (n.units / unitsInOne) else none

/-- A quotient of two decimals is a whole number. -/
def dividesDecimal (x divisor : Double.Digits) : Bool :=
  let shift := x.power - divisor.power
  x.digits * Nat.pow 10 shift.toNat % (divisor.digits * Nat.pow 10 (-shift).toNat) == 0

/-- A whole divisor divides the double of a number, any other divides its shortest decimal. -/
def isMultipleOf (n divisor : Number) : Bool :=
  if divisor.isWhole then doubleUnits n.toFloat % doubleUnits divisor.toFloat == 0
  else
    match Double.ofFloat? n.toFloat, Double.ofFloat? divisor.toFloat with
    | some x, some d => dividesDecimal x.shortest d.shortest
    | _, _ => false

end Number

namespace Json

/-- Equality by value: `1` and `1.0` are equal. -/
def equal : Json → Json → Bool := sameBy Number.equal

end Json

end RouteTable
