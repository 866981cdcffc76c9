/-!
# Request methods

A method is a case-sensitive token.  `Method.key` is the lowercase spelling under which modules export handlers.
`Verb` lists the seven methods that a path item may declare.
-/

namespace RouteTable

structure Method where
  token : String
deriving DecidableEq, Repr

namespace Method

def isTokenChar (c : Char) : Bool :=
  c.isAlphanum || "!#$%&'*+-.^_\x60|~".toList.contains c

/-- A nonempty token of ASCII letters, digits and the permitted marks. -/
def ofString? (s : String) : Option Method :=
  if s ≠ "" ∧ s.toList.all isTokenChar then some ⟨s⟩ else none

/-- What is wrong with a text that is no method. -/
def invalidMessage : String := "invalid HTTP method"

def key (m : Method) : String := m.token.toLower

end Method

inductive Verb
  | get | post | put | delete | head | options | patch
deriving DecidableEq, Repr

namespace Verb

/-- The order in which the operations of a path are visited. -/
def all : List Verb := [get, post, put, delete, head, options, patch]

/-- The key of an operation in a path item. -/
def key : Verb → String
  | get => "get"
  | post => "post"
  | put => "put"
  | delete => "delete"
  | head => "head"
  | options => "options"
  | patch => "patch"

def method (v : Verb) : Method := ⟨v.key.toUpper⟩

end Verb

end RouteTable
