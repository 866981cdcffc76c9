import RouteTable.Decode

/-!
# Untyped documents

A tree is what a JSON or YAML text spells before it is known what it is for.  Keys of tables may be any tree and may
repeat.  `Tree.toJson?` turns a tree into a JSON value if all its keys are texts.
-/

namespace RouteTable

inductive Tree
  | null
  | bool (value : Bool)
  | number (value : Number)
  | text (value : String)
  | list (items : List Tree)
  | table (entries : List (Tree × Tree))
deriving Inhabited

namespace Tree

def found : Tree → Found
  | null => .null
  | bool b => .bool b
  | number n => .number n
  | text s => .text s
  | list _ => .list
  | table _ => .table

/-- Doubles that are not finite become `null`. -/
def finite : Number → Json
  | .int n => .int n
  | .float x => if x.isFinite then .float x else .null

mutual
/-- A repeated key keeps its first position and its last value. -/
def toJson? : Tree → Option Json
  | null => some .null
  | bool b => some (.bool b)
  | number n => some (finite n)
  | text s => some (.string s)
  | list items => (itemsToJson? items).map .array
  | table entries => (entriesToJson? entries).map fun fields => .object (OrderedMap.ofEntries fields)

def itemsToJson? : List Tree → Option (List Json)
  | [] => some []
  | t :: rest => do
    let v ← toJson? t
    let vs ← itemsToJson? rest
    return v :: vs

def entriesToJson? : List (Tree × Tree) → Option (List (String × Json))
  | [] => some []
  | (text key, t) :: rest => do
    let v ← toJson? t
    let fields ← entriesToJson? rest
    return (key, v) :: fields
  | _ :: _ => none
end

mutual
def ofJson : Json → Tree
  | .null => null
  | .bool b => bool b
  | .number n => number n
  | .string s => text s
  | .array items => list (itemsOfJson items)
  | .object fields => table (entriesOfJson fields)

def itemsOfJson : List Json → List Tree
  | [] => []
  | v :: vs => ofJson v :: itemsOfJson vs

def entriesOfJson : List (String × Json) → List (Tree × Tree)
  | [] => []
  | (k, v) :: rest => (text k, ofJson v) :: entriesOfJson rest
end

def mismatch (t : Tree) (expected : String) : Except DecodeError α := .error (.wrongType t.found expected)

def toText : Tree → Except DecodeError String
  | text s => .ok s
  | t => t.mismatch "a string"

def toList (decode : Tree → Except DecodeError α) : Tree → Except DecodeError (List α)
  | list items => items.mapM decode
  | t => t.mismatch "a sequence"

def toEntry (decode : Tree → Except DecodeError α) (e : Tree × Tree) : Except DecodeError (String × α) := do
  let key ← toText e.1
  let value ← decode e.2
  return (key, value)

/-- Tables with text keys; of a repeated key the last value counts. -/
def toMap (decode : Tree → Except DecodeError α) : Tree → Except DecodeError (OrderedMap String α)
  | table entries => (entries.mapM (toEntry decode)).map OrderedMap.ofEntries
  | t => t.mismatch "a map"

/-- One of some names, or a table with such a name as its only key and nothing as its value. -/
def toVariant (known : List (String × α)) : Tree → Except DecodeError α
  | text s => named s
  | table [(key, value)] => do
    let variant ← match key with
      | text s => named s
      | number (.int n) => numbered n
      | t => t.mismatch "variant identifier"
    match value with
    | null => .ok variant
    | t => t.mismatch "unit"
  | table _ => .error (.wrongValue .table "map with a single key")
  | t => t.mismatch "string or map"
where
  named (s : String) : Except DecodeError α :=
    match OrderedMap.get? known s with
    | some value => .ok value
    | none => .error (.unknownVariant s (known.map (·.1)))
  numbered (n : Int) : Except DecodeError α :=
    if n < 0 then .error (.wrongType (.number (.int n)) "variant identifier")
    else match known[n.toNat]? with
      | some e => .ok e.2
      | none => .error (.wrongValue (.number (.int n)) ("variant index 0 <= i < " ++ toString known.length))

/-- Which of some fields a key names, by text or by position; other texts and positions name none. -/
def fieldIndex (names : List String) : Tree → Except DecodeError (Option Nat)
  | text s => .ok (names.idxOf? s)
  | number (.int n) =>
    if n < 0 then .error (.wrongType (.number (.int n)) "field identifier")
    else .ok (if n.toNat < names.length then some n.toNat else none)
  | t => t.mismatch "field identifier"

/-- Entries with the fields they name; a field may be named once. -/
def fieldEntries (names : List String) (strict : Bool) :
    List Nat → List (Tree × Tree) → Except DecodeError (List (Nat × Tree))
  | _, [] => .ok []
  | seen, (key, value) :: rest => do
    match ← fieldIndex names key with
    | some i =>
      if seen.contains i then .error (.duplicateField (names.getD i ""))
      else return (i, value) :: (← fieldEntries names strict (i :: seen) rest)
    | none =>
      if strict then
        match key with
        | text s => .error (.unknownField s names)
        | key => .error (.wrongValue key.found ("field index 0 <= i < " ++ toString names.length))
      else fieldEntries names strict seen rest

end Tree

end RouteTable
