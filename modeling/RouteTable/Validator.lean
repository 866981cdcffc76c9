import RouteTable.Decimal.Literal
import RouteTable.Json.Printer
import RouteTable.Request

/-!
# Validators

A validator checks the value of one parameter.  Raw values outside the body are texts; they are first coerced to the
declared type (`coerce`), and what does not parse stays a text for the check to refuse.  An absent value is the declared
default, else a required one is an issue.
-/

namespace RouteTable

structure Issue where
  location : String
  kind : String
  message : String
deriving DecidableEq, Repr

namespace Issue

def text (i : Issue) : String := "[" ++ i.kind ++ "] " ++ i.location ++ ": " ++ i.message

def toJson (i : Issue) : Json :=
  .object [("location", .string i.location), ("kind", .string i.kind), ("message", .string i.message)]

end Issue

namespace Coercion

/-- What stands between the items of an array written as one text. -/
def separator : Option String → Char
  | some "ssv" => ' '
  | some "tsv" => '\t'
  | some "pipes" => '|'
  | _ => ','

/-- Integers of 64 bits. -/
def integer? (raw : String) : Option Int :=
  match readInt? raw with
  | some n => if -0x8000000000000000 ≤ n ∧ n < 0x8000000000000000 then some n else none
  | none => none

/-- Finite doubles. -/
def double? (raw : String) : Option Float :=
  match readFloat? raw with
  | some x => if x.isFinite then some x else none
  | none => none

def scalar (kind : Option String) (raw : String) : Json :=
  match kind with
  | some "integer" => (integer? raw).elim (.string raw) .int
  | some "number" => (double? raw).elim (.string raw) .float
  | some "boolean" => if raw = "true" then .bool true else if raw = "false" then .bool false else .string raw
  | _ => .string raw

/-- The declared type of the items of an array. -/
def itemKind (p : Parameter) : Option String := p.items.bind fun items => (items.field? "type").bind Json.string?

def text (p : Parameter) (raw : String) : Json :=
  match p.kind with
  | some "array" =>
    .array ((Text.split (separator p.collectionFormat) raw).map (scalar (itemKind p)))
  | kind => scalar kind raw

end Coercion

/-- Texts become values of the declared type; other values are left alone, and so is the body. -/
def coerce (p : Parameter) (v : Json) : Json :=
  match p.location, v with
  | .body, v => v
  | _, .string raw => Coercion.text p raw
  | _, v => v

/-- Refuses a value with a reason. -/
abbrev ValueCheck := Json → Except String Unit

structure Validator where
  parameter : Parameter
  check : Option ValueCheck

namespace Validator

def missing (p : Parameter) : Issue :=
  ⟨p.label, "MissingParameter", "required parameter \x60" ++ p.name ++ "\x60 is missing"⟩

/-- The value to hand on, if there is one. -/
def validate (v : Validator) (raw : Option Json) : Except Issue (Option Json) :=
  match raw with
  | none =>
    match v.parameter.default with
    | some default => .ok (some default)
    | none => if v.parameter.required then .error (missing v.parameter) else .ok none
  | some raw =>
    let value := coerce v.parameter raw
    match v.check with
    | none => .ok (some value)
    | some check =>
      match check value with
      | .ok () => .ok (some value)
      | .error message => .error ⟨v.parameter.label, "InvalidParameter", message⟩

def describe (v : Validator) : String :=
  Report.record "ParameterValidator"
    [Report.field "parameter" (Text.quoted v.parameter.label), Report.field "check" (Report.flag v.check.isSome)]

/-- Validators are the same when they were built for the same parameter. -/
def same (a b : Validator) : Bool := a.parameter.same b.parameter

def presence (p : Parameter) : Validator := ⟨p, none⟩

end Validator

end RouteTable
