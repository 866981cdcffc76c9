import RouteTable.Json.Printer
import RouteTable.Text.Quoted

/-!
# Reading typed values out of JSON

A decoder turns a JSON value into a typed one or names the first fault.  Record decoders accept an object, and an array
that lists the fields in declaration order.  Of several bad entries the first in document order is reported
(`inDocumentOrder`).
-/

namespace RouteTable

/-- What a decoder met where it expected something else. -/
inductive Found
  | null
  | bool (value : Bool)
  | number (value : Number)
  | text (value : String)
  | list
  | table
deriving DecidableEq

namespace Found

def message : Found → String
  | null => "null"
  | bool b => "boolean \x60" ++ (if b then "true" else "false") ++ "\x60"
  | number (.int n) => "integer \x60" ++ toString n ++ "\x60"
  | number (.float x) => "floating point \x60" ++ (Number.float x).render ++ "\x60"
  | text s => "string " ++ Text.quoted s
  | list => "sequence"
  | table => "map"

end Found

namespace Json

def found : Json → Found
  | null => .null
  | bool b => .bool b
  | number n => .number n
  | string s => .text s
  | array _ => .list
  | object _ => .table

end Json

inductive DecodeError
  | wrongType (found : Found) (expected : String)
  | wrongValue (found : Found) (expected : String)
  | wrongLength (length : Nat) (expected : String)
  | missingField (name : String)
  | duplicateField (name : String)
  | unknownField (name : String) (known : List String)
  | unknownVariant (name : String) (known : List String)
deriving DecidableEq

namespace DecodeError

def ticked (s : String) : String := "\x60" ++ s ++ "\x60"

/-- One name, two names with "or", or a list. -/
def oneOf : List String → String
  | [a] => ticked a
  | [a, b] => ticked a ++ " or " ++ ticked b
  | names => "one of " ++ ", ".intercalate (names.map ticked)

def message : DecodeError → String
  | wrongType found expected => "invalid type: " ++ found.message ++ ", expected " ++ expected
  | wrongValue found expected => "invalid value: " ++ found.message ++ ", expected " ++ expected
  | wrongLength length expected => "invalid length " ++ toString length ++ ", expected " ++ expected
  | missingField name => "missing field " ++ ticked name
  | duplicateField name => "duplicate field " ++ ticked name
  | unknownField name known => "unknown field " ++ ticked name ++ ", expected " ++ oneOf known
  | unknownVariant name known => "unknown variant " ++ ticked name ++ ", expected " ++ oneOf known

end DecodeError

abbrev Decoder (α : Type) := Json → Except DecodeError α

namespace Decode

def mismatch (v : Json) (expected : String) : Except DecodeError α := .error (.wrongType v.found expected)

/-- Texts, under the name by which an error calls them. -/
def textAs (expected : String) : Decoder String
  | .string s => .ok s
  | v => mismatch v expected

def text : Decoder String := textAs "a string"

def flag : Decoder Bool
  | .bool b => .ok b
  | v => mismatch v "a boolean"

def any : Decoder Json := .ok

/-- `null` is absence. -/
def optional (decode : Decoder α) : Decoder (Option α)
  | .null => .ok none
  | v => (decode v).map some

def list (decode : Decoder α) : Decoder (List α)
  | .array items => items.mapM decode
  | v => mismatch v "a sequence"

def entry (decode : Decoder α) (e : String × Json) : Except DecodeError (String × α) :=
  (decode e.2).map (e.1, ·)

/-- Objects as maps in document order. -/
def table (decode : Decoder α) : Decoder (OrderedMap String α)
  | .object fields => fields.mapM (entry decode)
  | v => mismatch v "a map"

/-- A field that may be missing. -/
def field (fields : List (String × Json)) (name : String) (decode : Decoder α) (default : α) :
    Except DecodeError α :=
  match OrderedMap.get? fields name with
  | some v => decode v
  | none => .ok default

/-- Builds from all entries, unless one of them is bad on its own; then the first such is reported. -/
def inDocumentOrder (build : List (String × Json) → Except DecodeError α) (fields : List (String × Json)) :
    Except DecodeError α :=
  match fields.findSome? fun e => match build [e] with
    | .error fault => some fault
    | .ok _ => none with
  | some fault => .error fault
  | none => build fields

/-- A record all of whose fields may be missing: an object, or an array of the fields in declaration order. -/
def record (name : String) (fieldNames : List String) (build : List (String × Json) → Except DecodeError α) :
    Decoder α
  | .object fields => inDocumentOrder build fields
  | .array items => do
    let value ← inDocumentOrder build (fieldNames.zip items)
    if fieldNames.length < items.length then .error (.wrongLength items.length "fewer elements in array")
    else .ok value
  | v => mismatch v ("struct " ++ name)

/-- One of some names, or an object with such a name as its only key and `null` as its value. -/
def variant (known : List (String × α)) : Decoder α
  | .string s => named s
  | .object [(s, v)] => do
    let value ← named s
    match v with
    | .null => .ok value
    | v => mismatch v "unit"
  | .object _ => .error (.wrongValue .table "map with a single key")
  | v => mismatch v "string or map"
where
  named (s : String) : Except DecodeError α :=
    match OrderedMap.get? known s with
    | some value => .ok value
    | none => .error (.unknownVariant s (known.map (·.1)))

end Decode

end RouteTable
