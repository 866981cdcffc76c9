import RouteTable.Description
import RouteTable.Module.Inquiry

/-!
# Security requirements

`requirements` compiles the requirement objects of a route against the security definitions.  The schemes of one object
are all required and the objects are alternatives (`admits`); `flatten` merges the objects into one map, in which the
last mention of a scheme counts.  The authorizer of a scheme comes from its `x-authorize`, or without one from the
security root.
-/

namespace RouteTable

/-- What makes compilation fail. -/
inductive CompileError
  | unknownScheme (scheme path : String) (method : Method)
  | unknownScope (scope scheme path : String) (method : Method)
deriving DecidableEq

namespace CompileError

def message : CompileError → String
  | unknownScheme scheme path method =>
    "Unrecognized security definition (" ++ scheme ++ ") on " ++ method.token ++ " " ++ path
  | unknownScope scope scheme path method =>
    "Unrecognized scope (" ++ scope ++ ") for security definition " ++ scheme ++ " on " ++ method.token ++ " " ++ path

def location : CompileError → String
  | unknownScheme _ path method => path ++ " → " ++ method.token
  | unknownScope _ _ path method => path ++ " → " ++ method.token

def kind : CompileError → String
  | unknownScheme .. => "UnknownSecurityScheme"
  | unknownScope .. => "UnknownScope"

end CompileError

/-- What a route asks of one scheme. -/
structure SecurityEntry where
  scopes : List String
  authorize : Option Authorizer

namespace SecurityEntry

/-- The verdict on a request; there is none without an authorizer. -/
def check (e : SecurityEntry) (scheme : String) (c : Credentials) : Option Bool :=
  e.authorize.map fun a => a.accepts scheme e.scopes c

def same (a b : SecurityEntry) : Bool :=
  a.scopes == b.scopes && Parameter.sameOption Authorizer.same a.authorize b.authorize

def describe (e : SecurityEntry) : String :=
  Report.record "SecurityEntry"
    [Report.field "scopes" (Report.texts e.scopes), Report.field "authorize" (Report.flag e.authorize.isSome)]

end SecurityEntry

abbrev SecurityMap := OrderedMap String SecurityEntry

namespace SecurityMap

def same (m n : SecurityMap) : Bool := OrderedMap.sameUpToOrder SecurityEntry.same m n

def describe (m : SecurityMap) : String := Report.map (m.map fun (scheme, e) => (scheme, e.describe))

/-- Every scheme that has an authorizer accepts. -/
def admits (m : SecurityMap) (c : Credentials) : Bool :=
  m.all fun (scheme, e) => (e.check scheme c).getD true

/-- One map for all requirement objects. -/
def flatten (groups : List SecurityMap) : SecurityMap := groups.foldl OrderedMap.putAll []

end SecurityMap

/-- Where authorizers are looked for. -/
structure SecuritySources where
  /-- The current directory. -/
  cwd : String
  basedir : String
  securityRoot : Option String

/-- Where authorizers are looked for and found. -/
structure SecurityContext extends SecuritySources, Loaders

/-- A scope must be a text that the scheme declares. -/
def SecurityContext.scope (scheme : SecurityScheme) (name path : String) (method : Method) (requested : Json) :
    Except CompileError String :=
  match requested with
  | .string s => if scheme.hasScope s then .ok s else .error (.unknownScope s name path method)
  | v => .error (.unknownScope v.render name path method)

namespace SecuritySources

open SecurityContext (scope)

/-- A scheme with an `x-authorize` has no other source. -/
def authorizerFor (s : SecuritySources) (name : String) (scheme : SecurityScheme) : Inquiry (Option Authorizer) := do
  match scheme.authorize with
  | some reference =>
    match ← Inquiry.resolve .authorizer s.cwd s.basedir reference none with
    | some authorizer => pure (some authorizer)
    | none => do
      Traced.report (.authorizerUnresolved name reference.describe)
      pure none
  | none =>
    match s.securityRoot with
    | some root => Inquiry.resolve .authorizer s.cwd s.basedir (.module (Path.join root name)) none
    | none => pure none

def entry (s : SecuritySources) (definitions : OrderedMap String SecurityScheme) (path : String)
    (method : Method) (request : String × List Json) : Inquiry (Except CompileError (String × SecurityEntry)) := do
  let (name, requested) := request
  match OrderedMap.get? definitions name with
  | none => pure (.error (.unknownScheme name path method))
  | some scheme =>
    match requested.mapM (scope scheme name path method) with
    | .error e => pure (.error e)
    | .ok scopes => do
      let authorize ← s.authorizerFor name scheme
      Traced.report (.requirementCompiled path method name scopes authorize.isSome)
      pure (.ok (name, { scopes, authorize }))

/-- The requirement objects of a route; none without definitions or without a list of requirement objects. -/
def requirements (s : SecuritySources) (definitions : Option (OrderedMap String SecurityScheme))
    (declared : Option SecurityDeclaration) (path : String) (method : Method) :
    Inquiry (Except CompileError (Option (List SecurityMap))) := do
  match definitions, declared.bind SecurityDeclaration.requirements? with
  | some definitions, some alternatives => do
    let groups ← collect (collect (s.entry definitions path method)) alternatives
    pure (groups.map some)
  | _, _ => pure (.ok none)

end SecuritySources

namespace SecurityContext

def authorizerFor (ctx : SecurityContext) (name : String) (scheme : SecurityScheme) : Traced (Option Authorizer) :=
  (ctx.toSecuritySources.authorizerFor name scheme).run ctx.toLoaders

def entry (ctx : SecurityContext) (definitions : OrderedMap String SecurityScheme) (path : String) (method : Method)
    (request : String × List Json) : Traced (Except CompileError (String × SecurityEntry)) :=
  (ctx.toSecuritySources.entry definitions path method request).run ctx.toLoaders

def requirements (ctx : SecurityContext) (definitions : Option (OrderedMap String SecurityScheme))
    (declared : Option SecurityDeclaration) (path : String) (method : Method) :
    Traced (Except CompileError (Option (List SecurityMap))) :=
  (ctx.toSecuritySources.requirements definitions declared path method).run ctx.toLoaders

end SecurityContext

end RouteTable
