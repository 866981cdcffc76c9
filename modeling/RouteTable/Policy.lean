import RouteTable.Callable
import RouteTable.Tree

/-!
# Declared policies

A policy is an authorizer written as data: a set of API keys read from one place of the request, or a table of bearer
tokens with the scopes granted to each.
-/

namespace RouteTable

inductive KeyPlace
  | header | query | cookie
deriving DecidableEq, Repr

def KeyPlace.names : List (String × KeyPlace) := [("header", header), ("query", query), ("cookie", cookie)]

inductive Policy
  | apiKey (location : KeyPlace) (name : String) (keys : List String)
  | bearer (tokens : OrderedMap String (List String))

namespace Policy

/-- The key a request carries. -/
def key? (location : KeyPlace) (name : String) (c : Credentials) : Option String :=
  match location with
  | .header => c.header? name
  | .query => c.query? name
  | .cookie => c.cookie? name

/-- The token of the first authorization header, if that is `Bearer`, one blank and a text. -/
def bearerToken? (c : Credentials) : Option String := do
  let header ← c.header? "authorization"
  let (scheme, token) ← Text.splitOnce? ' ' header
  if Text.sameFolded scheme "bearer" then some (Text.trim token) else none

/-- API keys carry no scopes; a bearer token needs every required scope. -/
def accepts (p : Policy) (scopes : List String) (c : Credentials) : Bool :=
  match p with
  | apiKey location name keys => (key? location name c).any keys.contains
  | bearer tokens =>
    ((bearerToken? c).bind (OrderedMap.get? tokens)).any fun granted => scopes.all granted.contains

def authorizer (p : Policy) (origin : Origin) : Authorizer := ⟨origin, fun _ scopes c => p.accepts scopes c⟩

inductive Kind
  | apiKey | bearer

def Kind.names : List (String × Kind) := [("api_key", apiKey), ("bearer", bearer)]

def Kind.ofTree : Tree → Except DecodeError Kind
  | .text s =>
    match OrderedMap.get? names s with
    | some k => .ok k
    | none => .error (.unknownVariant s (names.map (·.1)))
  | t => t.mismatch "variant identifier"

/-- Fields that were met, in any order. -/
structure Draft where
  location : Option KeyPlace := none
  name : Option String := none
  keys : Option (List String) := none
  tokens : Option (OrderedMap String (List String)) := none

def require (field : String) : Option α → Except DecodeError α
  | some a => .ok a
  | none => .error (.missingField field)

def fieldNames : Kind → List String
  | .apiKey => ["in", "name", "keys"]
  | .bearer => ["tokens"]

def readField (kind : Kind) (d : Draft) (e : Nat × Tree) : Except DecodeError Draft :=
  match kind, e.1 with
  | .apiKey, 0 => return { d with location := some (← Tree.toVariant KeyPlace.names e.2) }
  | .apiKey, 1 => return { d with name := some (← Tree.toText e.2) }
  | .apiKey, _ => return { d with keys := some (← Tree.toList Tree.toText e.2) }
  | .bearer, _ => return { d with tokens := some (← Tree.toMap (Tree.toList Tree.toText) e.2) }

def finish (kind : Kind) (d : Draft) : Except DecodeError Policy :=
  match kind with
  | .apiKey => return .apiKey (← require "in" d.location) (← require "name" d.name) (← require "keys" d.keys)
  | .bearer => return .bearer (← require "tokens" d.tokens)

/-- Reads fields one after the other; the first fault of an entry goes before missing fields. -/
def ofEntries (kind : Kind) : List Nat → Draft → List (Tree × Tree) → Except DecodeError Policy
  | _, d, [] => finish kind d
  | seen, d, e :: rest => do
    match ← Tree.fieldEntries (fieldNames kind) false seen [e] with
    | [] => ofEntries kind seen d rest
    | f :: _ => ofEntries kind (f.1 :: seen) (← readField kind d f) rest

def isKindKey : Tree × Tree → Bool
  | (.text s, _) => s == "kind"
  | _ => false

def variantName : Kind → String
  | .apiKey => "struct variant PolicyManifest::ApiKey"
  | .bearer => "struct variant PolicyManifest::Bearer"

def counted (n : Nat) (noun : String) : String := toString n ++ " " ++ noun ++ (if n = 1 then "" else "s")

/-- Fields in declaration order. -/
def ofItems (kind : Kind) (items : List Tree) : Except DecodeError Policy := do
  let names := fieldNames kind
  let d ← ((List.range names.length).zip items).foldlM (readField kind) {}
  if items.length < names.length then
    .error (.wrongLength items.length (variantName kind ++ " with " ++ counted names.length "element"))
  else if names.length < items.length then
    .error (.wrongLength items.length (counted names.length "element" ++ " in sequence"))
  else finish kind d

/-- A table with a `kind`, or a list that starts with one. -/
def ofTree : Tree → Except DecodeError Policy
  | .table entries => do
    match entries.filter isKindKey with
    | [] => .error (.missingField "kind")
    | [(_, kind)] => ofEntries (← Kind.ofTree kind) [] {} (entries.filter fun e => !isKindKey e)
    | (_, kind) :: _ => do
      let _ ← Kind.ofTree kind
      .error (.duplicateField "kind")
  | .list [] => .error (.missingField "kind")
  | .list (kind :: items) => do ofItems (← Kind.ofTree kind) items
  | t => t.mismatch "internally tagged enum PolicyManifest"

end Policy

end RouteTable
