import RouteTable.Json.Exact
import RouteTable.Json.Printer
import RouteTable.Pattern

/-!
# Schemas of JSON values

A schema is a list of keywords that all have to hold of a value.  `Keyword.errors` says what a keyword finds wrong,
given how the schemas inside it judge; `Schema.errors` ties the knot, with fuel for schemas that refer to themselves.
A keyword holds of every value it does not speak about.  Numbers are compared by value and texts are measured in
characters.
-/

namespace RouteTable

/-- The types of values, in the order in which they are listed. -/
inductive JsonType
  | array | boolean | integer | null | number | object | string
deriving DecidableEq, Repr

namespace JsonType

def all : List JsonType := [array, boolean, integer, null, number, object, string]

def name : JsonType → String
  | array => "array"
  | boolean => "boolean"
  | integer => "integer"
  | null => "null"
  | number => "number"
  | object => "object"
  | string => "string"

/-- A double without a fraction is an integer too. -/
def holds : JsonType → Json → Bool
  | array, .array _ => true
  | boolean, .bool _ => true
  | integer, .number n => n.isWhole
  | null, .null => true
  | number, .number _ => true
  | object, .object _ => true
  | string, .string _ => true
  | _, _ => false

end JsonType

inductive Bound
  | minimum | maximum | exclusiveMinimum | exclusiveMaximum
deriving DecidableEq, Repr

namespace Bound

def admits (b : Bound) (limit n : Number) : Bool :=
  match b with
  | minimum => !n.less limit
  | maximum => !limit.less n
  | exclusiveMinimum => limit.less n
  | exclusiveMaximum => n.less limit

def complaint : Bound → String
  | minimum => " is less than the minimum of "
  | maximum => " is greater than the maximum of "
  | exclusiveMinimum => " is less than or equal to the minimum of "
  | exclusiveMaximum => " is greater than or equal to the maximum of "

end Bound

/-- What is counted in a value. -/
inductive Measure
  | characters | items | members
deriving DecidableEq, Repr

namespace Measure

def count? : Measure → Json → Option Nat
  | characters, .string s => some s.length
  | items, .array vs => some vs.length
  | members, .object fields => some fields.length
  | _, _ => none

def noun (m : Measure) (n : Nat) : String :=
  match m with
  | characters => if n = 1 then "character" else "characters"
  | items => if n = 1 then "item" else "items"
  | members => if n = 1 then "property" else "properties"

def less : Measure → String
  | characters => " is shorter than "
  | _ => " has less than "

def more : Measure → String
  | characters => " is longer than "
  | _ => " has more than "

end Measure

/-- Keywords over schemas of some type. -/
inductive Keyword (σ : Type)
  | never
  | types (ts : List JsonType)
  | const (value : Json)
  | enum (values : List Json)
  | bound (b : Bound) (limit : Number)
  | multipleOf (divisor : Number)
  | atLeast (m : Measure) (limit : Nat)
  | atMost (m : Measure) (limit : Nat)
  | required (names : List String)
  | dependentRequired (names : List (String × List String))
  | pattern (p : Pattern) (source : String)
  | uniqueItems
  | properties (members : List (String × σ))
  | patternProperties (members : List (Pattern × σ))
  | noMembers
  /-- Members by name and by pattern, and no others. -/
  | onlyMembers (named : List (String × σ)) (matching : List (Pattern × σ))
  /-- Members by name and by pattern, and a schema for all others. -/
  | allMembers (named : List (String × σ)) (matching : List (Pattern × σ)) (others : σ)
  | propertyNames (name : σ)
  | noNames
  /-- The items after some number of them. -/
  | items (after : Nat) (item : σ)
  | prefixItems (items : List σ)
  | contains (item : σ) (least : Nat) (most : Option Nat)
  | allOf (schemas : List σ)
  | anyOf (schemas : List σ)
  | oneOf (schemas : List σ)
  | not (schema : σ) (source : Json)
  | conditional (test : σ) (whenTrue whenFalse : Option σ)
  | reference (target : String)

inductive Schema
  | all (keywords : List (Keyword Schema))

namespace Keyword

variable {σ : Type}

/-- The order in which the keywords of a schema are checked. -/
def rank : Keyword σ → Nat
  | never => 0
  | types _ => 1
  | const _ => 2
  | enum _ => 3
  | bound .minimum _ => 4
  | bound .maximum _ => 5
  | bound .exclusiveMinimum _ => 6
  | bound .exclusiveMaximum _ => 7
  | multipleOf _ => 8
  | atLeast .characters _ => 9
  | atMost .characters _ => 10
  | atLeast .items _ => 11
  | atMost .items _ => 12
  | atLeast .members _ => 13
  | atMost .members _ => 14
  | required _ => 15
  | dependentRequired _ => 16
  | pattern .. => 17
  | uniqueItems => 18
  | properties _ => 19
  | patternProperties _ => 20
  | noMembers => 21
  | onlyMembers .. => 21
  | allMembers .. => 21
  | propertyNames _ => 22
  | noNames => 22
  | items .. => 23
  | prefixItems _ => 24
  | contains .. => 25
  | allOf _ => 26
  | anyOf _ => 27
  | oneOf _ => 28
  | not .. => 29
  | conditional .. => 30
  | reference _ => 31

def judge (ok : Bool) (complaint : String) : List String := if ok then [] else [complaint]

def falseText (v : Json) : String := "False schema does not allow " ++ v.render

def typesText : List JsonType → String
  | [t] => " is not of type \"" ++ t.name ++ "\""
  | ts => " is not of types " ++ ", ".intercalate (ts.map fun t => "\"" ++ t.name ++ "\"")

/-- Up to three options in full, of more only the first two. -/
def optionsText : List String → String
  | [] => ""
  | [a] => a
  | [a, b] => a ++ " or " ++ b
  | [a, b, c] => a ++ ", " ++ b ++ " or " ++ c
  | a :: b :: rest => a ++ ", " ++ b ++ " or " ++ toString rest.length ++ " other candidates"

def missing (fields : List (String × Json)) (names : List String) : List String :=
  (names.filter fun name => (OrderedMap.get? fields name).isNone).map fun name =>
    Json.quote name ++ " is a required property"

def hasRepeated : List Json → Bool
  | [] => false
  | v :: vs => vs.any v.equal || hasRepeated vs

def unexpectedText (names : List String) : String :=
  "Additional properties are not allowed (" ++ ", ".intercalate (names.map fun n => "'" ++ n ++ "'")
    ++ (if names.length = 1 then " was" else " were") ++ " unexpected)"

/-- The schemas that name a member or match its name. -/
def schemasFor (named : List (String × σ)) (matching : List (Pattern × σ)) (name : String) : List σ :=
  (OrderedMap.get? named name).toList ++ (matching.filter (·.1.occursIn name)).map (·.2)

/-- What a keyword finds wrong with a value, when `check` is what schemas find wrong. -/
def errors (check : σ → Json → List String) (locate : String → Option σ) (k : Keyword σ) (v : Json) :
    List String :=
  let valid (s : σ) (v : Json) : Bool := (check s v).isEmpty
  match k, v with
  | never, v => [falseText v]
  | types ts, v => judge (ts.any (·.holds v)) (v.render ++ typesText ts)
  | const value, v => judge (value.equal v) (value.render ++ " was expected")
  | enum values, v =>
    judge (values.any (·.equal v)) (v.render ++ " is not one of " ++ optionsText (values.map Json.render))
  | bound b limit, .number n => judge (b.admits limit n) (v.render ++ b.complaint ++ limit.render)
  | multipleOf d, .number n => judge (n.isMultipleOf d) (v.render ++ " is not a multiple of " ++ d.render)
  | atLeast m limit, v =>
    judge ((m.count? v).all (limit ≤ ·)) (v.render ++ m.less ++ toString limit ++ " " ++ m.noun limit)
  | atMost m limit, v =>
    judge ((m.count? v).all (· ≤ limit)) (v.render ++ m.more ++ toString limit ++ " " ++ m.noun limit)
  | required names, .object fields => missing fields names
  | dependentRequired deps, .object fields =>
    deps.flatMap fun (name, names) => if (OrderedMap.get? fields name).isSome then missing fields names else []
  | pattern p source, .string s =>
    judge (p.occursIn s) (v.render ++ " does not match \"" ++ source ++ "\"")
  | uniqueItems, .array vs => judge (!hasRepeated vs) (v.render ++ " has non-unique elements")
  | properties members, .object fields => members.flatMap fun (name, s) =>
    match OrderedMap.get? fields name with
    | some value => check s value
    | none => []
  | patternProperties members, .object fields => members.flatMap fun (p, s) =>
    (fields.filter fun f => p.occursIn f.1).flatMap fun f => check s f.2
  | noMembers, .object (f :: _) => [falseText f.2]
  | onlyMembers named matching, .object fields =>
    let unexpected := (fields.filter fun f => (schemasFor named matching f.1).isEmpty).map (·.1)
    (fields.flatMap fun f => (schemasFor named matching f.1).flatMap (check · f.2))
      ++ judge unexpected.isEmpty (unexpectedText unexpected)
  | allMembers named matching others, .object fields => fields.flatMap fun f =>
    match schemasFor named matching f.1 with
    | [] => check others f.2
    | schemas => schemas.flatMap (check · f.2)
  | propertyNames s, .object fields => fields.flatMap fun f => check s (.string f.1)
  | noNames, .object (_ :: _) => [falseText v]
  | items after s, .array vs => (vs.drop after).flatMap (check s)
  | prefixItems schemas, .array vs => (schemas.zip vs).flatMap fun (s, v) => check s v
  | contains s least most, .array vs =>
    let found := (vs.filter (valid s)).length
    judge (least ≤ found && most.all (found ≤ ·)) ("None of " ++ v.render ++ " are valid under the given schema")
  | allOf schemas, v => schemas.flatMap (check · v)
  | anyOf schemas, v =>
    judge (schemas.any (valid · v))
      (v.render ++ " is not valid under any of the schemas listed in the 'anyOf' keyword")
  | oneOf schemas, v =>
    match (schemas.filter (valid · v)).length with
    | 0 => [v.render ++ " is not valid under any of the schemas listed in the 'oneOf' keyword"]
    | 1 => []
    | _ => [v.render ++ " is valid under more than one of the schemas listed in the 'oneOf' keyword"]
  | not s source, v => judge (!valid s v) (source.render ++ " is not allowed for " ++ v.render)
  | conditional test whenTrue whenFalse, v =>
    let chosen := if valid test v then whenTrue else whenFalse
    (chosen.map (check · v)).getD []
  | reference target, v => ((locate target).map (check · v)).getD []
  | _, _ => []

end Keyword

namespace Schema

def keywords : Schema → List (Keyword Schema)
  | all ks => ks

/-- Allows every value. -/
def any : Schema := all []

/-- What a schema finds wrong with a value, keyword by keyword. -/
def errors (locate : String → Option Schema) : Nat → Schema → Json → List String
  | 0, _, _ => []
  | n + 1, s, v => s.keywords.flatMap fun k => k.errors (errors locate n) locate v

end Schema

/-- A schema with the schemas it refers to, and a bound on its size. -/
structure SchemaDocument where
  root : Schema
  targets : OrderedMap String Schema
  size : Nat

namespace SchemaDocument

/-- Between two steps into a value every part of a document is visited at most once. -/
def errors (d : SchemaDocument) (v : Json) : List String :=
  d.root.errors (OrderedMap.get? d.targets) (d.size * (v.size + 1) + 1) v

end SchemaDocument

end RouteTable
