import RouteTable.Module

/-!
# API descriptions

The parts of a description that decide its routes.  A `security` field is a list of requirement objects or some other
value, which is kept as it is.  `Description.sites` walks the declared operations: paths in declaration order, and
inside a path the verbs in their fixed order.
-/

namespace RouteTable

/-- Scheme names with the scopes asked of them; a scope may be any value. -/
abbrev Requirement := OrderedMap String (List Json)

inductive SecurityDeclaration
  | requirements (alternatives : List Requirement)
  | malformed (value : Json)

namespace SecurityDeclaration

def requirements? : SecurityDeclaration → Option (List Requirement)
  | requirements alternatives => some alternatives
  | malformed _ => none

end SecurityDeclaration

/-- `kind` is the key `type`, `location` is `in` and `authorize` is `x-authorize`. -/
structure SecurityScheme where
  kind : String := ""
  description : Option String := none
  name : Option String := none
  location : Option String := none
  flow : Option String := none
  authorizationUrl : Option String := none
  tokenUrl : Option String := none
  scopes : OrderedMap String String := []
  authorize : Option (Reference Authorizer) := none

def SecurityScheme.hasScope (s : SecurityScheme) (scope : String) : Bool :=
  (OrderedMap.get? s.scopes scope).isSome

/-- `handler` is the key `x-handler`. -/
structure Operation where
  operationId : Option String := none
  summary : Option String := none
  description : Option String := none
  tags : List String := []
  consumes : Option (List String) := none
  produces : Option (List String) := none
  json : Option Bool := none
  cache : Option Json := none
  config : Option Json := none
  jsonp : Option String := none
  parameters : List Parameter := []
  security : Option SecurityDeclaration := none
  handler : Option (Reference Handler) := none

structure PathItem where
  get : Option Operation := none
  post : Option Operation := none
  put : Option Operation := none
  delete : Option Operation := none
  head : Option Operation := none
  options : Option Operation := none
  patch : Option Operation := none
  parameters : List Parameter := []
  security : Option SecurityDeclaration := none

namespace PathItem

def operation? (item : PathItem) : Verb → Option Operation
  | .get => item.get
  | .post => item.post
  | .put => item.put
  | .delete => item.delete
  | .head => item.head
  | .options => item.options
  | .patch => item.patch

def operations (item : PathItem) : List (Verb × Operation) :=
  Verb.all.filterMap fun v => (item.operation? v).map (v, ·)

end PathItem

structure Description where
  basePath : Option String := none
  consumes : Option (List String) := none
  produces : Option (List String) := none
  json : Option Bool := none
  cache : Option Json := none
  config : Option Json := none
  jsonp : Option String := none
  security : Option SecurityDeclaration := none
  securityDefinitions : Option (OrderedMap String SecurityScheme) := none
  paths : OrderedMap String PathItem := []

/-- A declared operation with the path and item it stands under. -/
structure Site where
  path : String
  item : PathItem
  verb : Verb
  operation : Operation

namespace Description

def sites (api : Description) : List Site :=
  api.paths.flatMap fun (path, item) => item.operations.map fun (verb, operation) => ⟨path, item, verb, operation⟩

def operationCount (api : Description) : Nat := api.sites.length

end Description

end RouteTable
