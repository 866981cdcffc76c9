/-!
# Reading numbers

Two readings of decimal text as doubles.  `readFloat?` rounds the exact value once; it also accepts signs, the words
for infinity and for what is no number, and a point without digits on one side.  `Literal.toFloat?` is the reading of
JSON documents: the leading digits that fit into 64 bits are kept as significand, further digits only count, and the
significand is scaled by a power of ten with the rounding of one double operation.
-/

namespace RouteTable

def digitValue (c : Char) : Nat := c.toNat - 48

/-- Value of a digit string, read after the digits of `acc`. -/
def natOfDigits (acc : Nat) : List Char → Nat
  | [] => acc
  | c :: cs => natOfDigits (10 * acc + digitValue c) cs

/-- The double nearest to `mantissa * 10 ^ exponent`. -/
def nearestFloat (mantissa : Nat) (exponent : Int) : Float :=
  let magnitude : Int := (toString mantissa).length + exponent
  if mantissa = 0 ∨ magnitude < -400 then 0.0
  else if 400 < magnitude then 1.0 / 0.0
  else Float.ofScientific mantissa (exponent < 0) exponent.natAbs

/-- An optional sign and at least one digit, up to the end of the text. -/
def readExponent? (cs : List Char) : Option Int :=
  let (negative, digits) := match cs with
    | '-' :: rest => (true, rest)
    | '+' :: rest => (false, rest)
    | rest => (false, rest)
  if digits.isEmpty || !digits.all Char.isDigit then none
  else
    let n : Int := natOfDigits 0 digits
    some (if negative then -n else n)

def readMagnitude? (cs : List Char) : Option Float :=
  match (String.ofList cs).toLower with
  | "inf" => some (1.0 / 0.0)
  | "infinity" => some (1.0 / 0.0)
  | "nan" => some (0.0 / 0.0)
  | _ =>
    let whole := cs.takeWhile Char.isDigit
    let afterWhole := cs.dropWhile Char.isDigit
    let (fraction, tail) := match afterWhole with
      | '.' :: rest => (rest.takeWhile Char.isDigit, rest.dropWhile Char.isDigit)
      | rest => ([], rest)
    if whole.isEmpty && fraction.isEmpty then none
    else
      let mantissa := natOfDigits 0 (whole ++ fraction)
      let value (exponent : Int) := nearestFloat mantissa (exponent - fraction.length)
      match tail with
      | [] => some (value 0)
      | e :: rest => if e = 'e' ∨ e = 'E' then (readExponent? rest).map value else none

/-- Decimal text with an optional sign, as the nearest double. -/
def readFloat? (s : String) : Option Float :=
  match s.toList with
  | '-' :: cs => (readMagnitude? cs).map (fun x => -x)
  | '+' :: cs => readMagnitude? cs
  | cs => readMagnitude? cs

/-- An optional sign and at least one digit. -/
def readInt? (s : String) : Option Int := readExponent? s.toList

/-- A significand below `2 ^ 64` and a power of ten. -/
structure Literal where
  significand : Nat
  exponent : Int
deriving DecidableEq, Repr

namespace Literal

/-- Takes one more digit: it enlarges the significand if that stays below `2 ^ 64` and no digit was dropped before;
`step` is what a digit that counts, and `dropped` what a digit that is dropped, adds to the exponent. -/
def push (step dropped : Int) (full : Bool) (l : Literal) (c : Char) : Bool × Literal :=
  let next := 10 * l.significand + digitValue c
  if full ∨ 0x10000000000000000 ≤ next then (true, { l with exponent := l.exponent + dropped })
  else (false, ⟨next, l.exponent + step⟩)

/-- Integer digits count fully; fraction digits lower the exponent, unless they are dropped. -/
def ofDigits (whole fraction : List Char) : Literal :=
  let (full, l) := whole.foldl (fun (full, l) c => push 0 1 full l c) (false, ⟨0, 0⟩)
  (fraction.foldl (fun (full, l) c => push (-1) 0 full l c) (full, l)).2

/-- Scales by powers of ten that are doubles; `none` is overflow. -/
def scale (x : Float) (exponent : Int) : Nat → Option Float
  | 0 => some x
  | n + 1 =>
    if exponent.natAbs ≤ 308 then
      let power := Float.ofScientific 1 false exponent.natAbs
      if exponent < 0 then some (x / power)
      else
        let y := x * power
        if y.isInf then none else some y
    else if x == 0.0 then some x
    else if 0 ≤ exponent then none
    else scale (x / Float.ofScientific 1 false 308) (exponent + 308) n

def toFloat? (l : Literal) : Option Float := scale (Float.ofNat l.significand) l.exponent 4

end Literal

end RouteTable
