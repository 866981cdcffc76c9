import RouteTable.Decode

/-!
# Declared parameters

A parameter is named and has a location; all other named keys are optional, and every remaining key of its object is
kept as a constraint, in order.  `Parameter.ofJson` reads it and `Parameter.toJson` writes it.
-/

namespace RouteTable

inductive ParameterLocation
  | path | query | header | body | formData
deriving DecidableEq, Repr

namespace ParameterLocation

def all : List ParameterLocation := [path, query, header, body, formData]

def name : ParameterLocation → String
  | path => "path"
  | query => "query"
  | header => "header"
  | body => "body"
  | formData => "formData"

def ofJson : Decoder ParameterLocation := Decode.variant (all.map fun l => (l.name, l))

end ParameterLocation

/-- `kind` is the key `type`, `allowed` is `enum`. -/
structure Parameter where
  name : String
  location : ParameterLocation
  description : Option String := none
  required : Bool := false
  schema : Option Json := none
  kind : Option String := none
  format : Option String := none
  items : Option Json := none
  collectionFormat : Option String := none
  allowed : Option (List Json) := none
  default : Option Json := none
  constraints : OrderedMap String Json := []

namespace Parameter

/-- What identifies a parameter among those of a route. -/
def key (p : Parameter) : ParameterLocation × String := (p.location, p.name)

def label (p : Parameter) : String := p.location.name ++ ":" ++ p.name

/-- Keys with a field of their own; all others are constraints. -/
def namedKeys : List String :=
  ["name", "in", "description", "required", "schema", "type", "format", "items", "collectionFormat", "enum",
    "default"]

/-- The named keys of an object, each possibly missing. -/
structure Draft where
  name : Option String
  location : Option ParameterLocation
  rest : String → ParameterLocation → Parameter

open Decode in
def draft (fields : List (String × Json)) : Except DecodeError Draft := do
  let name ← field fields "name" (fun v => (text v).map some) none
  let location ← field fields "in" (fun v => (ParameterLocation.ofJson v).map some) none
  let description ← field fields "description" (optional text) none
  let required ← field fields "required" flag false
  let schema ← field fields "schema" (optional any) none
  let kind ← field fields "type" (optional text) none
  let format ← field fields "format" (optional text) none
  let items ← field fields "items" (optional any) none
  let collectionFormat ← field fields "collectionFormat" (optional text) none
  let allowed ← field fields "enum" (optional (list any)) none
  let default ← field fields "default" (optional any) none
  let constraints := fields.filter fun e => !namedKeys.contains e.1
  return { name, location, rest := fun name location =>
    { name, location, description, required, schema, kind, format, items, collectionFormat, allowed, default,
      constraints } }

/-- Bad values are reported before missing keys. -/
def ofJson : Decoder Parameter
  | .object fields => do
    let d ← Decode.inDocumentOrder draft fields
    match d.name, d.location with
    | none, _ => .error (.missingField "name")
    | _, none => .error (.missingField "in")
    | some name, some location => .ok (d.rest name location)
  | v => Decode.mismatch v "struct Parameter"

def entry (key : String) (value : Option Json) : List (String × Json) :=
  match value with
  | some v => [(key, v)]
  | none => []

/-- Absent keys are left out, `required` is always there, the constraints come last. -/
def toJson (p : Parameter) : Json :=
  .object (("name", .string p.name) :: ("in", .string p.location.name) ::
    (entry "description" (p.description.map .string) ++ ("required", .bool p.required) ::
      (entry "schema" p.schema ++ entry "type" (p.kind.map .string) ++ entry "format" (p.format.map .string)
        ++ entry "items" p.items ++ entry "collectionFormat" (p.collectionFormat.map .string)
        ++ entry "enum" (p.allowed.map .array) ++ entry "default" p.default ++ p.constraints)))

def sameOption (same : α → α → Bool) : Option α → Option α → Bool
  | some a, some b => same a b
  | none, none => true
  | _, _ => false

/-- Field by field; the order of constraints does not count. -/
def same (p q : Parameter) : Bool :=
  p.name == q.name && p.location == q.location && p.description == q.description && p.required == q.required
    && sameOption Json.same p.schema q.schema && p.kind == q.kind && p.format == q.format
    && sameOption Json.same p.items q.items && p.collectionFormat == q.collectionFormat
    && sameOption Json.sameItems p.allowed q.allowed && sameOption Json.same p.default q.default
    && OrderedMap.sameUpToOrder Json.same p.constraints q.constraints

/-- Path-level parameters, then operation-level ones; a parameter with the location and name of an earlier one takes
its place. -/
def insert (merged : List Parameter) (p : Parameter) : List Parameter :=
  match merged with
  | [] => [p]
  | q :: rest => if q.key = p.key then p :: rest else q :: insert rest p

def merge (pathLevel operationLevel : List Parameter) : List Parameter :=
  (pathLevel ++ operationLevel).foldl insert []

end Parameter

end RouteTable
