/-!
# Shortest decimals of a double

A finite double is `m * 2 ^ q` for a natural number `m`.  The reals that round to it form an interval around it,
closed exactly when `m` is even.  `Double.shortest` tries grids of one, two, ... seventeen digits and takes
the first grid with a point of that interval next to the value; of two such points the nearer one, and the even
one when both are equally near.  All arithmetic is exact and in natural numbers.
-/

namespace RouteTable

/-- A sign, and a magnitude `significand * 2 ^ (exponent - 1074)`. -/
structure Double where
  negative : Bool
  significand : Nat
  exponent : Nat
  /-- The gap below the value is half the gap above it: a power of two above the smallest. -/
  narrowBelow : Bool
deriving DecidableEq, Repr

namespace Double

/-- The parts of a finite double; infinities and what is no number have none. -/
def ofFloat? (x : Float) : Option Double :=
  let bits := x.toBits.toNat
  let biased := (bits / Nat.pow 2 52) % 2048
  let fraction := bits % Nat.pow 2 52
  let negative := bits / Nat.pow 2 63 == 1
  if biased == 2047 then none
  else if biased == 0 then some ⟨negative, fraction, 0, false⟩
  else some ⟨negative, Nat.pow 2 52 + fraction, biased - 1, fraction == 0 && biased > 1⟩

/-- A quotient of natural numbers, kept as numerator and denominator. -/
structure Ratio where
  num : Nat
  den : Nat

/-- Four times the value, and four times the ends of its rounding interval, over one denominator `2 ^ 1076`. -/
def scaled (d : Double) : Nat × Nat × Nat :=
  let unit := Nat.pow 2 d.exponent
  let value := 4 * d.significand * unit
  (value - (if d.narrowBelow then unit else 2 * unit), value, value + 2 * unit)

/-- Position of the leading digit: the `k` with `10 ^ k ≤ num / den < 10 ^ (k + 1)`, for a positive quotient. -/
def leading (r : Ratio) : Int :=
  let guess : Int := (((r.num.log2 : Int) - r.den.log2) * 30103) / 100000 - 1
  let atLeast (k : Int) : Bool :=
    if 0 ≤ k then r.den * Nat.pow 10 k.toNat ≤ r.num else r.den ≤ r.num * Nat.pow 10 (-k).toNat
  if atLeast (guess + 2) then guess + 2 else if atLeast (guess + 1) then guess + 1 else guess

/-- Digits and power of ten of a positive decimal. -/
structure Digits where
  digits : Nat
  power : Int
deriving DecidableEq, Repr

/-- The point of the grid `10 ^ power` next to the value that lies in the rounding interval, if there is one. -/
def onGrid (d : Double) (power : Int) : Option Digits :=
  let (low, value, high) := scaled d
  let up := Nat.pow 10 (-power).toNat
  let down := Nat.pow 2 1076 * Nat.pow 10 power.toNat
  let closed := d.significand % 2 == 0
  let inside (c : Nat) : Bool :=
    if closed then low * up ≤ c * down && c * down ≤ high * up
    else low * up < c * down && c * down < high * up
  let floor := value * up / down
  let rest := value * up - floor * down
  let nearer := if 2 * rest < down then floor else if down < 2 * rest then floor + 1
    else if floor % 2 == 0 then floor else floor + 1
  let farther := if nearer == floor then floor + 1 else floor
  if inside nearer then some ⟨nearer, power⟩ else if inside farther then some ⟨farther, power⟩ else none

/-- Drops trailing zeros into the power of ten. -/
def Digits.trim : Nat → Digits → Digits
  | 0, d => d
  | n + 1, d => if d.digits ≠ 0 ∧ d.digits % 10 = 0 then trim n ⟨d.digits / 10, d.power + 1⟩ else d

/-- Fewest digits that read back as the value, without trailing zeros. -/
def shortest (d : Double) : Digits :=
  if d.significand = 0 then ⟨0, 0⟩
  else
    let (_, value, _) := scaled d
    let top := leading ⟨value, Nat.pow 2 1076⟩
    let found := (List.range 17).findSome? fun (n : Nat) => onGrid d (top - (n : Int))
    (found.getD ⟨0, 0⟩).trim 20

end Double

end RouteTable
