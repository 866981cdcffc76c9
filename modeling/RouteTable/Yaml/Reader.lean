import RouteTable.Yaml.Document
import RouteTable.Yaml.Scalar

/-!
# Reading values out of YAML

`Yaml.readTree?` reads a text as an untyped tree, whose keys may be anything; `Yaml.readJson?` reads it as a JSON value,
whose keys are the texts of scalars.  A text without documents is `null`.
-/

namespace RouteTable.Yaml

def isKnown (p : Properties) : Bool := !(p.tag.any Scalar.isLocalTag)

namespace Node

mutual
def toTree? : Node Empty → Option Tree
  | scalar p text plain => Scalar.value? p.tag text plain
  | sequence p items => if isKnown p then (itemsToTree? items).map .list else none
  | mapping p entries => if isKnown p then (entriesToTree? entries).map .table else none

def itemsToTree? : List (Node Empty) → Option (List Tree)
  | [] => some []
  | item :: rest => do
    let t ← toTree? item
    let ts ← itemsToTree? rest
    some (t :: ts)

def entriesToTree? : List (Node Empty × Node Empty) → Option (List (Tree × Tree))
  | [] => some []
  | (key, value) :: rest => do
    let k ← toTree? key
    let v ← toTree? value
    let es ← entriesToTree? rest
    some ((k, v) :: es)
end

/-- The text of a scalar, whatever its style and tag. -/
def text? : Node Empty → Option String
  | scalar _ text _ => some text
  | _ => none

mutual
def toJson? : Node Empty → Option Json
  | scalar p text plain => (Scalar.value? p.tag text plain).bind Tree.toJson?
  | sequence p items => if isKnown p then (itemsToJson? items).map .array else none
  | mapping p entries =>
    if isKnown p then (entriesToJson? entries).map fun es => .object (OrderedMap.ofEntries es) else none

def itemsToJson? : List (Node Empty) → Option (List Json)
  | [] => some []
  | item :: rest => do
    let v ← toJson? item
    let vs ← itemsToJson? rest
    some (v :: vs)

def entriesToJson? : List (Node Empty × Node Empty) → Option (List (String × Json))
  | [] => some []
  | (key, value) :: rest => do
    let k ← text? key
    let v ← toJson? value
    let es ← entriesToJson? rest
    some ((k, v) :: es)
end

end Node

def readTree? (text : String) : Option Tree :=
  match read? text with
  | some (some root) => root.toTree?
  | some none => some .null
  | none => none

def readJson? (text : String) : Option Json :=
  match read? text with
  | some (some root) => root.toJson?
  | some none => some .null
  | none => none

end RouteTable.Yaml
