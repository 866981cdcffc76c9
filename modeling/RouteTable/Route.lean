import RouteTable.HandlerTree
import RouteTable.Security
import RouteTable.Validator

/-!
# Compiled routes

The outline of a route is everything but its validators and handler.  A route decides who may call it
(`Route.authorize`), checks the parameters of a request (`Route.validate`) and answers it (`Route.handle`);
`Route.dispatch` does these in turn.
-/

namespace RouteTable

structure RouteOutline where
  path : String
  name : Option String
  description : Option String
  method : Method
  /-- Every scheme the route names, requirement objects merged. -/
  security : Option SecurityMap
  requirements : List SecurityMap
  consumes : Option (List String)
  produces : Option (List String)
  json : Option Bool
  cache : Option Json
  config : Option Json
  jsonp : Option String

/-- An outline with a path and a method only. -/
def RouteOutline.bare (path : String) (method : Method) : RouteOutline :=
  ⟨path, none, none, method, none, [], none, none, none, none, none, none⟩

/-- Sets the requirement objects and the map made of them. -/
def RouteOutline.withSecurity (o : RouteOutline) (requirements : Option (List SecurityMap)) : RouteOutline :=
  { o with security := requirements.map SecurityMap.flatten, requirements := requirements.getD [] }

structure Route extends RouteOutline where
  /-- One for each merged parameter, in merge order. -/
  validators : List Validator
  handler : Handler

namespace Route

/-- A route without security or without requirement objects is open; else one of the objects has to admit. -/
def authorize (r : Route) (c : Credentials) : Bool :=
  r.security.isNone || r.requirements.isEmpty || r.requirements.any (·.admits c)

/-- Every validator with its own verdict on a request. -/
def verdicts (r : Route) (request : Request) : List (Parameter × Except Issue (Option Json)) :=
  r.validators.map fun v => (v.parameter, v.validate (request.parameter? v.parameter))

def issue? : Parameter × Except Issue (Option Json) → Option Issue
  | (_, .error issue) => some issue
  | _ => none

def value? : Parameter × Except Issue (Option Json) → Option (String × Json)
  | (p, .ok (some value)) => some (p.name, value)
  | _ => none

/-- All issues in validator order, or the values by parameter name. -/
def validate (r : Route) (request : Request) : Except (List Issue) (OrderedMap String Json) :=
  let verdicts := r.verdicts request
  match verdicts.filterMap issue? with
  | [] => .ok (OrderedMap.ofEntries (verdicts.filterMap value?))
  | issues => .error issues

/-- Answers a request, under the name of the route unless the request has one. -/
def handle (r : Route) (request : Request) : Response :=
  r.handler.answer { request with routeName := request.routeName.or r.name }

/-- Authorizes, validates and answers. -/
def dispatch (r : Route) (request : Request) : Response :=
  if r.authorize request.credentials then
    match r.validate request with
    | .ok _ => r.handle request
    | .error issues =>
      .json 400 (.object [("error", .string "Invalid request"), ("issues", .array (issues.map Issue.toJson))])
  else .error 401 "Unauthorized"

def sameLists (same : α → α → Bool) : List α → List α → Bool
  | [], [] => true
  | a :: as, b :: bs => same a b && sameLists same as bs
  | _, _ => false

/-- Field by field, handlers and authorizers by origin. -/
def same (a b : Route) : Bool :=
  a.path == b.path && a.name == b.name && a.description == b.description && a.method == b.method
    && Parameter.sameOption SecurityMap.same a.security b.security
    && sameLists SecurityMap.same a.requirements b.requirements
    && sameLists Validator.same a.validators b.validators
    && a.consumes == b.consumes && a.produces == b.produces && a.json == b.json
    && Parameter.sameOption Json.same a.cache b.cache && Parameter.sameOption Json.same a.config b.config
    && a.jsonp == b.jsonp && a.handler.same b.handler

def describe (r : Route) : String :=
  Report.record "RouteDescriptor"
    [Report.field "method" r.method.token, Report.field "path" (Text.quoted r.path),
      Report.field "name" (Report.optional (r.name.map Text.quoted)),
      Report.field "security" (Report.optional (r.security.map SecurityMap.describe)),
      Report.field "validators" (Report.list (r.validators.map Validator.describe)),
      Report.field "consumes" (Report.optional (r.consumes.map Report.texts)),
      Report.field "produces" (Report.optional (r.produces.map Report.texts)), ".."]

def summaryEntry (e : SecurityEntry) : Json :=
  .object [("scopes", .strings e.scopes), ("authorize", .bool e.authorize.isSome)]

/-- What a listing shows of a route; absent parts are left out. -/
def summary (r : Route) : Json :=
  let part (key : String) (value : Option Json) := Parameter.entry key value
  .object ([("method", .string r.method.token), ("path", .string r.path)]
    ++ part "name" (r.name.map .string) ++ part "description" (r.description.map .string)
    ++ [("parameters", .strings (r.validators.map (·.parameter.label)))]
    ++ part "security" (r.security.map fun m => .object (OrderedMap.mapValues summaryEntry m))
    ++ part "consumes" (r.consumes.map .strings) ++ part "produces" (r.produces.map .strings))

end Route

end RouteTable
