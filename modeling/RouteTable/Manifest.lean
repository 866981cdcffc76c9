import RouteTable.Module
import RouteTable.Tree

/-!
# Handler manifests

A manifest is one fixed response for every verb, or a table of verbs with a fixed response each.  A document that can
be read as a single response is one.
-/

namespace RouteTable

structure FixedResponse where
  status : Nat
  headers : OrderedMap String String := []
  body : Json := .null

namespace FixedResponse

def fieldNames : List String := ["status", "headers", "body"]

/-- Whole numbers of 16 bits. -/
def status? : Tree → Option Nat
  | .number (.int n) => if 0 ≤ n ∧ n < 0x10000 then some n.toNat else none
  | _ => none

def headers? (t : Tree) : Option (OrderedMap String String) := (Tree.toMap Tree.toText t).toOption

/-- The fields of a response by position; only the status has to be there. -/
def ofFields? (fields : OrderedMap Nat Tree) : Option FixedResponse := do
  let status ← (OrderedMap.get? fields 0).bind status?
  let headers ← match OrderedMap.get? fields 1 with
    | some t => headers? t
    | none => some []
  let body ← match OrderedMap.get? fields 2 with
    | some t => t.toJson?
    | none => some .null
  return { status, headers, body }

/-- A table of the fields and nothing else, or a list of them in order. -/
def ofTree? : Tree → Option FixedResponse
  | .table entries => (Tree.fieldEntries fieldNames true [] entries).toOption.bind ofFields?
  | .list items =>
    if items.length ≤ fieldNames.length then ofFields? ((List.range items.length).zip items) else none
  | _ => none

/-- The response, with its headers set one after the other. -/
def response (r : FixedResponse) : Response :=
  r.headers.foldl (fun response h => response.setHeader h.1 h.2) (.json r.status r.body)

def handler (r : FixedResponse) (origin : Origin) : Handler := ⟨origin, fun _ => r.response⟩

end FixedResponse

namespace Manifest

def export? : Tree × Tree → Option (String × FixedResponse)
  | (.text verb, t) => (FixedResponse.ofTree? t).map (verb, ·)
  | _ => none

def exports? : Tree → Option (OrderedMap String FixedResponse)
  | .table entries => (entries.mapM export?).map OrderedMap.ofEntries
  | _ => none

/-- What a manifest says, if it is well formed. -/
def read? (t : Tree) : Option (Module FixedResponse) :=
  ((FixedResponse.ofTree? t).map Module.callable).or ((exports? t).map Module.ofExports)

/-- The handlers of a manifest, numbered from the first. -/
def handlers (first : Nat) : Module FixedResponse → Module Handler
  | .callable r => .callable (r.handler (.loaded first))
  | .exports entries =>
    .exports ((entries.zipIdx first).map fun ((verb, r), number) => (verb, r.handler (.loaded number)))

end Manifest

end RouteTable
