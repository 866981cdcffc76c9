import RouteTable.Decimal.Literal
import RouteTable.Tree

/-!
# What YAML scalars mean

A plain scalar is nothing, a flag, an integer, a double or a text, in this order; a quoted one is a text.  The tags of
the core schema ask for one of these.  Integers that take more than 64 but not more than 128 bits are refused.
-/

namespace RouteTable.Yaml.Scalar

def isNull (s : String) : Bool := ["null", "Null", "NULL", "~"].contains s

def bool? (s : String) : Option Bool :=
  if ["true", "True", "TRUE"].contains s then some true
  else if ["false", "False", "FALSE"].contains s then some false
  else none

def digitValue? (radix : Nat) (c : Char) : Option Nat :=
  let value :=
    if '0' ≤ c ∧ c ≤ '9' then c.toNat - 48
    else if 'a' ≤ c ∧ c ≤ 'z' then c.toNat - 87
    else if 'A' ≤ c ∧ c ≤ 'Z' then c.toNat - 55
    else radix
  if value < radix then some value else none

/-- At least one digit. -/
def digits? (radix : Nat) (cs : List Char) : Option Nat :=
  if cs.isEmpty then none else cs.foldlM (fun n c => (digitValue? radix c).map fun d => radix * n + d) 0

/-- Digits after a mark of their radix. -/
def marked? : List Char → Option Nat
  | '0' :: 'x' :: rest => digits? 16 rest
  | '0' :: 'o' :: rest => digits? 8 rest
  | '0' :: 'b' :: rest => digits? 2 rest
  | _ => none

def unsigned : List Char → List Char
  | '+' :: rest => rest
  | '-' :: rest => rest
  | cs => cs

/-- A leading zero before more digits makes a text. -/
def hasLeadingZero (cs : List Char) : Bool :=
  match unsigned cs with
  | '0' :: rest => !rest.isEmpty && rest.all Char.isDigit
  | _ => false

/-- The integer a scalar spells, of any size. -/
def integer? (cs : List Char) : Option Int :=
  let magnitude : Option Nat := (marked? (unsigned cs)).or
    (if hasLeadingZero cs then none else digits? 10 (unsigned cs))
  match cs with
  | '-' :: _ => magnitude.map fun n => -(n : Int)
  | _ => magnitude.map Int.ofNat

inductive IntegerReading
  | value (n : Int)
  /-- Wider than 64 bits. -/
  | wide
  | noInteger

def readInteger (s : String) : IntegerReading :=
  match integer? s.toList with
  | some n =>
    if -0x8000000000000000 ≤ n ∧ n < 0x10000000000000000 then .value n
    else if -0x80000000000000000000000000000000 ≤ n ∧ n < 0x100000000000000000000000000000000 then .wide
    else .noInteger
  | none => .noInteger

def isSigned : List Char → Bool
  | c :: _ => c == '+' || c == '-'
  | [] => false

/-- Doubles, the spellings of infinity and of what is no number included. -/
def float? (s : String) : Option Float :=
  let positive : Option String := match s.toList with
    | '+' :: rest => if isSigned rest then none else some (String.ofList rest)
    | _ => some s
  match positive with
  | none => none
  | some positive =>
    if [".inf", ".Inf", ".INF"].contains positive then some (1.0 / 0.0)
    else if ["-.inf", "-.Inf", "-.INF"].contains s then some (-1.0 / 0.0)
    else if [".nan", ".NaN", ".NAN"].contains s then some (0.0 / 0.0)
    else match readFloat? positive with
      | some x => if x.isFinite then some x else none
      | none => none

/-- The reading of a plain scalar without a tag. -/
def plain? (s : String) : Option Tree :=
  if s = "" ∨ isNull s then some .null
  else match bool? s with
    | some b => some (.bool b)
    | none =>
      match readInteger s with
      | .value n => some (.number (.int n))
      | .wide => none
      | .noInteger =>
        if hasLeadingZero s.toList then some (.text s)
        else some (match float? s with
          | some x => .number (.float x)
          | none => .text s)

/-- Tags of an application, which no document here knows. -/
def isLocalTag (tag : String) : Bool := tag.startsWith "!"

def value? (tag : Option String) (s : String) (plain : Bool) : Option Tree :=
  match tag with
  | none => if plain then plain? s else some (.text s)
  | some "tag:yaml.org,2002:bool" => (bool? s).map .bool
  | some "tag:yaml.org,2002:int" =>
    match readInteger s with
    | .value n => some (.number (.int n))
    | _ => none
  | some "tag:yaml.org,2002:float" => (float? s).map fun x => .number (.float x)
  | some "tag:yaml.org,2002:null" => if isNull s then some .null else none
  | some tag => if isLocalTag tag then none else some (.text s)

end RouteTable.Yaml.Scalar
