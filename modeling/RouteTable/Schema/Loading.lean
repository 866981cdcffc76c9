import RouteTable.Pattern.Reader
import RouteTable.Schema
import RouteTable.Text

/-!
# Loading schemas

`SchemaDocument.load` reads a schema out of a JSON value.  The value has to satisfy the schema of schemas, its patterns
have to be readable and what it refers to has to be there; the first fault is reported.  References stay inside the
document: `#` and JSON pointers after it.
-/

namespace RouteTable

inductive SchemaFault
  /-- Some part is not what the schema of schemas asks for. -/
  | malformed (complaint : String)
  | badPattern (source : String)
  | noTarget (reference : String)
deriving DecidableEq

namespace SchemaFault

def message : SchemaFault → String
  | malformed complaint => complaint
  | badPattern source => Json.quote source ++ " is not a \"regex\""
  | noTarget reference => "Pointer '" ++ String.ofList (reference.toList.drop 1) ++ "' does not exist"

end SchemaFault

namespace Json

/-- Undoes the escapes of a pointer. -/
def unescapePointer : List Char → List Char
  | '~' :: '1' :: rest => '/' :: unescapePointer rest
  | '~' :: '0' :: rest => '~' :: unescapePointer rest
  | c :: rest => c :: unescapePointer rest
  | [] => []

def child? : Json → String → Option Json
  | object fields, name => OrderedMap.get? fields name
  | array items, name => name.toNat?.bind (items[·]?)
  | _, _ => none

/-- The part of a value that a reference names. -/
def locate? (root : Json) (reference : String) : Option Json :=
  match reference.toList with
  | ['#'] => some root
  | '#' :: '/' :: path =>
    ((splitChars '/' path).map fun token => String.ofList (unescapePointer token)).foldlM child? root
  | _ => none

end Json

namespace Schema

open Keyword

def numeric : Schema := all [types [.number]]

def positive : Schema := all [types [.number], bound .exclusiveMinimum (.int 0)]

def natural : Schema := all [types [.integer], bound .minimum (.int 0)]

def textual : Schema := all [types [.string]]

def boolean : Schema := all [types [.boolean]]

def listed : Schema := all [types [.array]]

def named : Schema := all [types [.object]]

def names : Schema := all [types [.array], uniqueItems, items 0 textual]

def typeName : Schema := all [enum (JsonType.all.map fun t => .string t.name)]

def typeNames : Schema :=
  all [anyOf [typeName, all [types [.array], atLeast .items 1, uniqueItems, items 0 typeName]]]

def schemaLike : Schema := all [types [.boolean, .object]]

def schemaList : Schema := all [types [.array], atLeast .items 1]

/-- Reading collects the references that it meets. -/
abbrev Reading := StateT (List String) (Except SchemaFault)

def expect (shape : Schema) (v : Json) : Reading Unit :=
  match shape.errors (fun _ => none) 4 v with
  | [] => pure ()
  | complaint :: _ => throw (.malformed complaint)

/-- A field, if it is there and has the shape that is asked for. -/
def take? (fields : List (String × Json)) (key : String) (shape : Schema) : Reading (Option Json) :=
  match OrderedMap.get? fields key with
  | some v => do
    expect shape v
    return some v
  | none => pure none

def itemsOf : Json → List Json
  | .array vs => vs
  | _ => []

def fieldsOf : Json → List (String × Json)
  | .object fields => fields
  | _ => []

def readOne (read : Json → Reading Schema) (fields : List (String × Json)) (key : String) :
    Reading (Option Schema) :=
  match OrderedMap.get? fields key with
  | some v => some <$> read v
  | none => pure none

def readList (read : Json → Reading Schema) (fields : List (String × Json)) (key : String) :
    Reading (Option (List Schema)) := do
  match ← take? fields key schemaList with
  | some v => some <$> (itemsOf v).mapM read
  | none => return none

def readMembers (read : Json → Reading Schema) (fields : List (String × Json)) (key : String) :
    Reading (Option (List (String × Schema))) := do
  match ← take? fields key named with
  | some v => some <$> (fieldsOf v).mapM fun (name, v) => (name, ·) <$> read v
  | none => return none

def readPattern (source : String) : Reading Pattern :=
  match Pattern.read? source with
  | some p => pure p
  | none => throw (.badPattern source)

/-- A keyword with one argument, if it is there. -/
def give (k : α → Keyword Schema) (argument : Option α) : List (Keyword Schema) := argument.toList.map k

/-- What the members of an object have to satisfy. -/
def memberKeywords (additional : Option Json) (others : Option Schema) (named : Option (List (String × Schema)))
    (matching : Option (List (Pattern × Schema))) : List (Keyword Schema) :=
  match additional, others with
  | some (.bool false), _ =>
    if named.isNone ∧ matching.isNone then [noMembers] else [onlyMembers (named.getD []) (matching.getD [])]
  | some (.object _), some others => [allMembers (named.getD []) (matching.getD []) others]
  | _, _ => give properties named ++ give patternProperties matching

/-- Keywords with schemas inside. -/
def subschemaKeywords (read : Json → Reading Schema) (fields : List (String × Json)) :
    Reading (List (Keyword Schema)) := do
  let _ ← readMembers read fields "definitions"
  let ref ← take? fields "$ref" textual
  let _ ← readMembers read fields "$defs"
  let first ← readList read fields "prefixItems"
  let rest ← readOne read fields "items"
  let contained ← readOne read fields "contains"
  let others ← readOne read fields "additionalProperties"
  let members ← readMembers read fields "properties"
  let matching ← readMembers read fields "patternProperties"
  let matching ← matching.mapM fun ms => ms.mapM fun (source, s) => (·, s) <$> readPattern source
  let name ← readOne read fields "propertyNames"
  let test ← readOne read fields "if"
  let whenTrue ← readOne read fields "then"
  let whenFalse ← readOne read fields "else"
  let every ← readList read fields "allOf"
  let some_ ← readList read fields "anyOf"
  let one ← readList read fields "oneOf"
  let never ← readOne read fields "not"
  let least ← take? fields "minContains" natural
  let most ← take? fields "maxContains" natural
  let target := ref.bind Json.string?
  modify (· ++ target.toList)
  let count (v : Option Json) : Option Nat := v.bind fun
    | .number n => n.whole?.map Int.toNat
    | _ => none
  return give prefixItems first ++ give (items (first.elim 0 List.length)) rest
    ++ give (contains · ((count least).getD 1) (count most)) contained
    ++ memberKeywords (OrderedMap.get? fields "additionalProperties") others members matching
    ++ (match OrderedMap.get? fields "propertyNames" with
      | some (.bool false) => [noNames]
      | _ => give propertyNames name)
    ++ give (conditional · whenTrue whenFalse) test ++ give allOf every ++ give anyOf some_ ++ give oneOf one
    ++ give (fun s => not s ((OrderedMap.get? fields "not").getD .null)) never ++ give reference target

def typesOf : Json → List JsonType
  | .string name => JsonType.all.filter (·.name = name)
  | .array names => JsonType.all.filter fun t => names.any fun v => v.string? = some t.name
  | _ => []

def textsOf (v : Json) : List String := (itemsOf v).filterMap Json.string?

/-- Keywords that look at a value itself: their shapes and what they mean. -/
def valueKeywords : List (String × Schema × (Json → List (Keyword Schema))) :=
  [("type", typeNames, fun v => [types (typesOf v)]),
    ("const", any, fun v => [const v]),
    ("enum", listed, fun v => [enum (itemsOf v)]),
    ("multipleOf", positive, withNumber multipleOf),
    ("maximum", numeric, withNumber (bound .maximum)),
    ("exclusiveMaximum", numeric, withNumber (bound .exclusiveMaximum)),
    ("minimum", numeric, withNumber (bound .minimum)),
    ("exclusiveMinimum", numeric, withNumber (bound .exclusiveMinimum)),
    ("maxLength", natural, withCount (atMost .characters)),
    ("minLength", natural, withCount (atLeast .characters)),
    ("pattern", textual, fun _ => []),
    ("maxItems", natural, withCount (atMost .items)),
    ("minItems", natural, withCount (atLeast .items)),
    ("uniqueItems", boolean, fun
      | .bool true => [uniqueItems]
      | _ => []),
    ("maxProperties", natural, withCount (atMost .members)),
    ("minProperties", natural, withCount (atLeast .members)),
    ("required", names, fun v => [required (textsOf v)]),
    ("dependentRequired", all [types [.object], allMembers [] [] names], fun v =>
      [dependentRequired ((fieldsOf v).map fun (name, v) => (name, textsOf v))]),
    ("title", textual, fun _ => []), ("description", textual, fun _ => []), ("deprecated", boolean, fun _ => []),
    ("readOnly", boolean, fun _ => []), ("writeOnly", boolean, fun _ => []), ("examples", listed, fun _ => []),
    ("format", textual, fun _ => []), ("contentEncoding", textual, fun _ => []),
    ("contentMediaType", textual, fun _ => [])]
where
  withNumber (k : Number → Keyword Schema) : Json → List (Keyword Schema)
    | .number n => [k n]
    | _ => []
  withCount (k : Nat → Keyword Schema) : Json → List (Keyword Schema)
    | .number n => n.whole?.toList.map fun n => k n.toNat
    | _ => []

def readValueKeywords (fields : List (String × Json)) : Reading (List (Keyword Schema)) := do
  let found ← valueKeywords.mapM fun (key, shape, meaning) => do
    return ((← take? fields key shape).map meaning).getD []
  let matching ← match (OrderedMap.get? fields "pattern").bind Json.string? with
    | some source => do
      let p ← readPattern source
      pure [pattern p (p.plain source)]
    | none => pure []
  return found.flatten ++ matching

/-- Reads a schema; the number bounds the depth of schemas inside schemas. -/
def ofJson : Nat → Json → Reading Schema
  | 0, _ => pure any
  | n + 1, v => do
    expect schemaLike v
    match v with
    | .bool false => return all [never]
    | .object fields => do
      let keywords := (← subschemaKeywords (ofJson n) fields) ++ (← readValueKeywords fields)
      return all (keywords.mergeSort fun a b => a.rank ≤ b.rank)
    | _ => return any

end Schema

namespace SchemaDocument

/-- Reads everything that is referred to, in as many rounds as it takes. -/
def addTargets (root : Json) :
    Nat → List String → OrderedMap String Schema → Except SchemaFault (OrderedMap String Schema)
  | 0, _, targets => .ok targets
  | n + 1, references, targets => do
    match (references.filter fun r => (OrderedMap.get? targets r).isNone).eraseDups with
    | [] => return targets
    | new => do
      let read ← new.mapM fun reference => do
        match root.locate? reference with
        | some v => return (reference, ← (Schema.ofJson v.size v).run [])
        | none => throw (.noTarget reference)
      addTargets root n (read.flatMap (·.2.2)) (targets ++ read.map fun (r, s) => (r, s.1))

def load (v : Json) : Except SchemaFault SchemaDocument := do
  let (root, references) ← (Schema.ofJson v.size v).run []
  let targets ← addTargets v v.size references []
  return { root, targets, size := v.size }

end SchemaDocument

end RouteTable
