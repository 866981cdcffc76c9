import RouteTable.Request

/-!
# Handlers and authorizers

Both are functions with an origin.  Two of them are the same when their origins are equal, whatever the functions do.
Whatever is read from a module file gets a number of its own.
-/

namespace RouteTable

/-- Where a handler or authorizer comes from. -/
inductive Origin
  /-- Supplied by the embedding application. -/
  | given (label : String)
  /-- Read from a module file. -/
  | loaded (number : Nat)
deriving DecidableEq

structure Handler where
  origin : Origin
  answer : Request → Response

structure Authorizer where
  origin : Origin
  /-- Takes the scheme, the scopes that are required and the credentials. -/
  accepts : String → List String → Credentials → Bool

def Handler.same (a b : Handler) : Bool := a.origin == b.origin

def Authorizer.same (a b : Authorizer) : Bool := a.origin == b.origin

/-- Answers with what the request carried. -/
def echoAnswer (r : Request) : Response :=
  .json 200 (.object [
    ("handler", .ofOptionString r.routeName),
    ("method", .string r.method.token),
    ("path", .string r.path),
    ("params", r.pathParams.toJson),
    ("query", r.query.toJson),
    ("body", r.body.getD .null)])

def Handler.echo : Handler := ⟨.given "echo", echoAnswer⟩

end RouteTable
