import RouteTable.Decimal.Shortest

/-!
# Decimal notation of doubles

`DecimalNotation` records how digits and a power of ten are laid out; `renderFloat` writes the shortest digits of a
double in the layout of JSON documents.
-/

namespace RouteTable

/-- Where positional notation ends and how the exponent is written. -/
structure DecimalNotation where
  /-- Largest number of digits in front of the point. -/
  maxIntegerDigits : Int
  /-- Largest number of zeros between the point and the first digit. -/
  maxLeadingZeros : Int
  /-- Sign of a non-negative exponent. -/
  positiveSign : String

/-- Numbers from `0.00001` up to sixteen integer digits are positional and keep a fraction; others have a signed
exponent. -/
def jsonNotation : DecimalNotation := ⟨16, 4, "+"⟩

namespace DecimalNotation

/-- Lays out a nonempty digit string whose decimal point stands after `point` digits. -/
def layout (n : DecimalNotation) (digits : List Char) (point : Int) : List Char :=
  let count : Int := digits.length
  if 0 < point ∧ point ≤ n.maxIntegerDigits then
    if count ≤ point then digits ++ List.replicate (point - count).toNat '0' ++ ['.', '0']
    else digits.take point.toNat ++ '.' :: digits.drop point.toNat
  else if point ≤ 0 ∧ -point ≤ n.maxLeadingZeros then
    '0' :: '.' :: (List.replicate (-point).toNat '0' ++ digits)
  else
    let exponent := point - 1
    let mantissa := match digits with
      | d :: rest@(_ :: _) => d :: '.' :: rest
      | ds => ds
    let sign := if exponent < 0 then ['-'] else n.positiveSign.toList
    mantissa ++ 'e' :: (sign ++ (toString exponent.natAbs).toList)

end DecimalNotation

/-- Text of a finite double; infinities and what is no number have none. -/
def renderFloat? (x : Float) : Option String := do
  let d ← Double.ofFloat? x
  let sign := if d.negative then "-" else ""
  if d.significand = 0 then pure (sign ++ "0.0")
  else
    let s := d.shortest
    let digits := (toString s.digits).toList
    pure (sign ++ String.ofList (jsonNotation.layout digits (digits.length + s.power)))

end RouteTable
