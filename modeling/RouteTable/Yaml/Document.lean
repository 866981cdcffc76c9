import RouteTable.OrderedMap
import RouteTable.Yaml.Node
import RouteTable.Yaml.Token.Lexer

/-!
# YAML documents

`Yaml.read?` answers the root of the only document of a text with every alias replaced by what it refers to.  An anchor
gets as number how many names were known before it; an alias refers to the last node that was given the number its name
had at that point.  Collections may nest 128 deep, and a document may follow aliases a hundred times as often as it has
events.
-/

namespace RouteTable.Yaml

/-- Anchors met so far. -/
structure Anchors where
  numbers : OrderedMap String Nat := []
  /-- The serial number of the anchored node that got a number last. -/
  holders : OrderedMap Nat Nat := []
  nodes : List (Nat × Node Nat) := []
  serial : Nat := 0

namespace Anchors

def target? (a : Anchors) (number : Nat) : Option (Node Nat) := do
  let serial ← OrderedMap.get? a.holders number
  let entry ← a.nodes.find? (·.1 = serial)
  some entry.2

/-- Announces the anchor of a node before its children are met. -/
def announce (a : Anchors) : Option String → Anchors
  | some name =>
    let number := a.numbers.length
    { a with numbers := OrderedMap.put a.numbers name number, holders := OrderedMap.put a.holders number a.serial
             serial := a.serial + 1 }
  | none => a

/-- Stores a node that was announced under a serial number. -/
def store (a : Anchors) (p : Properties) (serial : Nat) (node : Node Nat) : Node Nat × Anchors :=
  (node, if p.anchor.isSome then { a with nodes := (serial, node) :: a.nodes } else a)

end Anchors

namespace Node

mutual
/-- Replaces the names of aliases by numbers. -/
def link (a : Anchors) : Node String → Option (Node Nat × Anchors)
  | aliasOf name => (OrderedMap.get? a.numbers name).map fun number => (aliasOf number, a)
  | scalar p text plain => some ((a.announce p.anchor).store p a.serial (scalar p text plain))
  | sequence p items => do
    let (items, b) ← linkItems (a.announce p.anchor) items
    some (b.store p a.serial (sequence p items))
  | mapping p entries => do
    let (entries, b) ← linkEntries (a.announce p.anchor) entries
    some (b.store p a.serial (mapping p entries))

def linkItems (a : Anchors) : List (Node String) → Option (List (Node Nat) × Anchors)
  | [] => some ([], a)
  | item :: rest => do
    let (item, a) ← link a item
    let (rest, a) ← linkItems a rest
    some (item :: rest, a)

def linkEntries (a : Anchors) :
    List (Node String × Node String) → Option (List (Node Nat × Node Nat) × Anchors)
  | [] => some ([], a)
  | (key, value) :: rest => do
    let (key, a) ← link a key
    let (value, a) ← link a value
    let (rest, a) ← linkEntries a rest
    some ((key, value) :: rest, a)
end

mutual
/-- A scalar or an alias is one event, a collection has one at each end. -/
def events : Node ρ → Nat
  | aliasOf _ => 1
  | scalar .. => 1
  | sequence _ items => 2 + eventsOfItems items
  | mapping _ entries => 2 + eventsOfEntries entries

def eventsOfItems : List (Node ρ) → Nat
  | [] => 0
  | item :: rest => events item + eventsOfItems rest

def eventsOfEntries : List (Node ρ × Node ρ) → Nat
  | [] => 0
  | (key, value) :: rest => events key + events value + eventsOfEntries rest
end

/-- What a node stands for; following an alias is counted. -/
def follow (target? : Nat → Option (Node Nat)) (limit : Nat) : Node Nat → StateT Nat Option (Node Nat)
  | aliasOf number => do
    let jumps ← get
    if jumps < limit then
      set (jumps + 1)
      match target? number with
      | some node => pure node
      | none => failure
    else failure
  | node => pure node

/-- Replaces aliases, down to a depth of collections. -/
def expand (target? : Nat → Option (Node Nat)) (limit : Nat) : Nat → Node Nat → StateT Nat Option (Node Empty)
  | depth, node => do
    match depth, ← follow target? limit node with
    | _, scalar p text plain => pure (scalar p text plain)
    | n + 1, sequence p items => sequence p <$> items.mapM (expand target? limit n)
    | n + 1, mapping p entries =>
      mapping p <$> entries.mapM fun (key, value) => do
        return (← expand target? limit n key, ← expand target? limit n value)
    | _, _ => failure

end Node

def maxDepth : Nat := 128

/-- The root of a text's only document; a text without documents has none. -/
def read? (text : String) : Option (Option (Node Empty)) := do
  let tokens ← Token.scan text
  match ← Node.ofTokens? tokens with
  | none => some none
  | some root => do
    let (root, anchors) ← root.link {}
    let (root, _) ← (root.expand anchors.target? (100 * root.events) maxDepth).run 0
    some (some root)

end RouteTable.Yaml
