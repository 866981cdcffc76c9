import RouteTable.Module

/-!
# Handlers by path and verb

A tree of path segments.  A node has a handler for each of some lowercase verbs and perhaps one for every verb; a path
is looked up segment by segment, and empty segments do not count.
-/

namespace RouteTable

inductive HandlerTree
  | node (children : List (String × HandlerTree)) (verbs : OrderedMap String Handler) (any : Option Handler)

namespace HandlerTree

def empty : HandlerTree := node [] [] none

instance : Inhabited HandlerTree := ⟨empty⟩

def children : HandlerTree → OrderedMap String HandlerTree
  | node children _ _ => children

def verbs : HandlerTree → OrderedMap String Handler
  | node _ verbs _ => verbs

def any : HandlerTree → Option Handler
  | node _ _ any => any

def segments (path : String) : List String := (Text.split '/' path).filter (· ≠ "")

/-- Changes the node at some segments; missing nodes start empty. -/
def edit (change : HandlerTree → HandlerTree) : List String → HandlerTree → HandlerTree
  | [], t => change t
  | s :: rest, node children verbs any =>
    node (OrderedMap.put children s (edit change rest ((OrderedMap.get? children s).getD empty))) verbs any

def at? : List String → HandlerTree → Option HandlerTree
  | [], t => some t
  | s :: rest, node children _ _ => (OrderedMap.get? children s).bind (at? rest)

def insert (t : HandlerTree) (path : String) (method : Method) (handler : Handler) : HandlerTree :=
  edit (fun n => node n.children (OrderedMap.put n.verbs method.key handler) n.any) (segments path) t

def insertAny (t : HandlerTree) (path : String) (handler : Handler) : HandlerTree :=
  edit (fun n => node n.children n.verbs (some handler)) (segments path) t

/-- Adds what a module offers at a path. -/
def mount (t : HandlerTree) (path : List String) (module : Module Handler) : HandlerTree :=
  edit (fun n => match module with
    | .callable handler => node n.children n.verbs (some handler)
    | .exports entries => node n.children (OrderedMap.putAll n.verbs entries) n.any) path t

/-- A handler for the verb goes before one for every verb. -/
def lookup (t : HandlerTree) (path : String) (method : Method) : Option Handler :=
  (at? (segments path) t).bind fun n => (OrderedMap.get? n.verbs method.key).or n.any

mutual
/-- Number of handlers, one for every verb counting once. -/
def size : HandlerTree → Nat
  | node children verbs any => verbs.length + (if any.isSome then 1 else 0) + sizeChildren children

def sizeChildren : List (String × HandlerTree) → Nat
  | [] => 0
  | (_, t) :: rest => size t + sizeChildren rest
end

def isEmpty (t : HandlerTree) : Bool := t.size == 0

mutual
def describe : HandlerTree → String
  | node children verbs any =>
    Report.record "HandlerTree"
      [Report.field "verbs" (Report.texts (OrderedMap.keys verbs)), Report.field "any" (Report.flag any.isSome),
        Report.field "children" (Report.map (describeChildren children))]

def describeChildren : List (String × HandlerTree) → List (String × String)
  | [] => []
  | (s, t) :: rest => (s, describe t) :: describeChildren rest
end

end HandlerTree

end RouteTable
