import RouteTable.Yaml.Token

/-!
# The nodes of a YAML document

A node is a scalar, a sequence, a mapping or an alias; `ρ` is what an alias refers to.  `Node.ofTokens?` builds the
only document of a token list.  A key or value that is left out is an empty plain scalar.
-/

namespace RouteTable.Yaml

/-- What may stand in front of a node. -/
structure Properties where
  anchor : Option String := none
  tag : Option String := none
deriving DecidableEq, Repr

inductive Node (ρ : Type)
  | aliasOf (target : ρ)
  | scalar (p : Properties) (text : String) (plain : Bool)
  | sequence (p : Properties) (items : List (Node ρ))
  | mapping (p : Properties) (entries : List (Node ρ × Node ρ))

namespace Node

def blank (p : Properties) : Node ρ := scalar p "" true

/-- Handles of tags with what they stand for. -/
abbrev Handles := List (String × String)

def defaultHandles : Handles := [("!", "!"), ("!!", "tag:yaml.org,2002:")]

/-- The full text of a tag, if its handle is known. -/
def fullTag? (handles : Handles) (handle suffix : String) : Option String :=
  if handle = "" then some suffix else (handles.find? (·.1 = handle)).map fun e => e.2 ++ suffix

/-- An anchor and a tag in any order. -/
def properties? (handles : Handles) : List Token → Option (Properties × List Token)
  | .anchor name :: .tag handle suffix :: rest =>
    (fullTag? handles handle suffix).map fun tag => (⟨some name, some tag⟩, rest)
  | .tag handle suffix :: .anchor name :: rest =>
    (fullTag? handles handle suffix).map fun tag => (⟨some name, some tag⟩, rest)
  | .anchor name :: rest => some (⟨some name, none⟩, rest)
  | .tag handle suffix :: rest => (fullTag? handles handle suffix).map fun tag => (⟨none, some tag⟩, rest)
  | rest => some ({}, rest)

/-- The tag `!` of a scalar says only that there is no other. -/
def ofScalar (p : Properties) (text : String) (plain : Bool) : Node ρ :=
  if p.tag = some "!" then scalar { p with tag := none } text plain else scalar p text plain

/-- Where a node stands, which decides what may begin it. -/
inductive Place
  | inFlow
  | inBlock
  /-- A sequence need not be indented. -/
  | inMapping
deriving DecidableEq

def endsBlockItem : List Token → Bool
  | .blockEntry :: _ => true
  | .blockEnd :: _ => true
  | _ => false

def endsLooseItem : List Token → Bool
  | .blockEntry :: _ => true
  | .key :: _ => true
  | .value :: _ => true
  | .blockEnd :: _ => true
  | _ => false

def endsBlockPart : List Token → Bool
  | .key :: _ => true
  | .value :: _ => true
  | .blockEnd :: _ => true
  | _ => false

def endsFlowKey : List Token → Bool
  | .value :: _ => true
  | .flowEntry :: _ => true
  | .flowMappingEnd :: _ => true
  | _ => false

def endsFlowValue : List Token → Bool
  | .flowEntry :: _ => true
  | .flowMappingEnd :: _ => true
  | _ => false

def endsPairKey : List Token → Bool
  | .value :: _ => true
  | .flowEntry :: _ => true
  | .flowSequenceEnd :: _ => true
  | _ => false

def endsPairValue : List Token → Bool
  | .flowEntry :: _ => true
  | .flowSequenceEnd :: _ => true
  | _ => false

mutual
def node? (handles : Handles) : Nat → Place → List Token → Option (Node String × List Token)
  | 0, _, _ => none
  | n + 1, place, ts =>
    match ts with
    | .aliasOf name :: rest => some (aliasOf name, rest)
    | ts => do
      let (p, ts) ← properties? handles ts
      match ts with
      | .scalar text plain :: rest => some (ofScalar p text plain, rest)
      | .flowSequenceStart :: rest =>
        (flowItems? handles n true rest).map fun (items, rest) => (sequence p items, rest)
      | .flowMappingStart :: rest =>
        (flowEntries? handles n true rest).map fun (entries, rest) => (mapping p entries, rest)
      | ts =>
        match place, ts with
        | .inMapping, .blockEntry :: _ =>
          (looseItems? handles n ts).map fun (items, rest) => (sequence p items, rest)
        | .inFlow, ts => if p = {} then none else some (blank p, ts)
        | _, .blockSequenceStart :: rest =>
          (blockItems? handles n rest).map fun (items, rest) => (sequence p items, rest)
        | _, .blockMappingStart :: rest =>
          (blockEntries? handles n rest).map fun (entries, rest) => (mapping p entries, rest)
        | _, ts => if p = {} then none else some (blank p, ts)

/-- A node, or an empty one if the tokens start with what ends it. -/
def part? (handles : Handles) : Nat → Place → Bool → List Token → Option (Node String × List Token)
  | 0, _, _, _ => none
  | n + 1, place, ended, ts => if ended then some (blank {}, ts) else node? handles n place ts

def blockItems? (handles : Handles) : Nat → List Token → Option (List (Node String) × List Token)
  | 0, _ => none
  | n + 1, ts =>
    match ts with
    | .blockEntry :: rest => do
      let (item, rest) ← part? handles n .inBlock (endsBlockItem rest) rest
      let (items, rest) ← blockItems? handles n rest
      some (item :: items, rest)
    | .blockEnd :: rest => some ([], rest)
    | _ => none

/-- Items of a sequence that is not indented; it ends where no item follows. -/
def looseItems? (handles : Handles) : Nat → List Token → Option (List (Node String) × List Token)
  | 0, _ => none
  | n + 1, ts =>
    match ts with
    | .blockEntry :: rest => do
      let (item, rest) ← part? handles n .inBlock (endsLooseItem rest) rest
      let (items, rest) ← looseItems? handles n rest
      some (item :: items, rest)
    | ts => some ([], ts)

def blockEntries? (handles : Handles) : Nat → List Token → Option (List (Node String × Node String) × List Token)
  | 0, _ => none
  | n + 1, ts =>
    match ts with
    | .key :: rest => do
      let (key, rest) ← part? handles n .inMapping (endsBlockPart rest) rest
      let (value, rest) ← match rest with
        | .value :: rest => part? handles n .inMapping (endsBlockPart rest) rest
        | rest => some (blank {}, rest)
      let (entries, rest) ← blockEntries? handles n rest
      some ((key, value) :: entries, rest)
    | .blockEnd :: rest => some ([], rest)
    | _ => none

def flowItems? (handles : Handles) : Nat → Bool → List Token → Option (List (Node String) × List Token)
  | 0, _, _ => none
  | n + 1, first, ts =>
    match ts with
    | .flowSequenceEnd :: rest => some ([], rest)
    | ts => do
      let ts ← if first then some ts else match ts with
        | .flowEntry :: rest => some rest
        | _ => none
      match ts with
      | .flowSequenceEnd :: rest => some ([], rest)
      | .key :: rest => do
        let (pair, rest) ← pair? handles n rest
        let (items, rest) ← flowItems? handles n false rest
        some (mapping {} [pair] :: items, rest)
      | ts => do
        let (item, rest) ← node? handles n .inFlow ts
        let (items, rest) ← flowItems? handles n false rest
        some (item :: items, rest)

/-- A single entry inside a flow sequence; an empty key swallows the token that ends it. -/
def pair? (handles : Handles) : Nat → List Token → Option ((Node String × Node String) × List Token)
  | 0, _ => none
  | n + 1, ts => do
    let (key, ts) ← if endsPairKey ts then some (blank {}, ts.drop 1) else node? handles n .inFlow ts
    match ts with
    | .value :: rest => do
      let (value, rest) ← part? handles n .inFlow (endsPairValue rest) rest
      some ((key, value), rest)
    | rest => some ((key, blank {}), rest)

def flowEntries? (handles : Handles) : Nat → Bool → List Token →
    Option (List (Node String × Node String) × List Token)
  | 0, _, _ => none
  | n + 1, first, ts =>
    match ts with
    | .flowMappingEnd :: rest => some ([], rest)
    | ts => do
      let ts ← if first then some ts else match ts with
        | .flowEntry :: rest => some rest
        | _ => none
      match ts with
      | .flowMappingEnd :: rest => some ([], rest)
      | .key :: rest => do
        let (key, rest) ← part? handles n .inFlow (endsFlowKey rest) rest
        let (value, rest) ← match rest with
          | .value :: rest => part? handles n .inFlow (endsFlowValue rest) rest
          | rest => some (blank {}, rest)
        let (entries, rest) ← flowEntries? handles n false rest
        some ((key, value) :: entries, rest)
      | ts => do
        let (key, rest) ← node? handles n .inFlow ts
        let (entries, rest) ← flowEntries? handles n false rest
        some ((key, blank {}) :: entries, rest)
end

/-- Reads directives: at most one version, 1.1 or 1.2, and handles that are not declared twice. -/
def directives? (versionSeen : Bool) (declared : Handles) : List Token → Option (Handles × Bool × List Token)
  | .versionDirective major minor :: rest =>
    if versionSeen ∨ major ≠ 1 ∨ (minor ≠ 1 ∧ minor ≠ 2) then none else directives? true declared rest
  | .tagDirective handle pre :: rest =>
    if (declared.find? (·.1 = handle)).isSome then none
    else directives? versionSeen (declared ++ [(handle, pre)]) rest
  | rest => some (declared ++ defaultHandles, versionSeen || !declared.isEmpty, rest)

def startsNoContent : List Token → Bool
  | [] => true
  | .versionDirective .. :: _ => true
  | .tagDirective .. :: _ => true
  | .documentStart :: _ => true
  | .documentEnd :: _ => true
  | _ => false

/-- The root of the only document, or none if there is no document at all. -/
def ofTokens? (ts : List Token) : Option (Option (Node String)) :=
  match ts with
  | [] => some none
  | ts => do
    let (handles, directed, body) ← directives? false [] ts
    let fuel := 4 * ts.length + 4
    let (root, rest) ← match body with
      | .documentStart :: body =>
        if startsNoContent body then some (blank {}, body) else node? handles fuel .inBlock body
      | body => if directed then none else node? handles fuel .inBlock body
    if rest.all (· == .documentEnd) then some (some root) else none

end Node

end RouteTable.Yaml
