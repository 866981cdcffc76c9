import RouteTable.Proofs.Resolution

/-!
# What compilation answers

An endpoint is a declared operation as a reader meets it, and `Description.endpoints` lists them in the order of the
document.  Compilation of a site fails where its security requirements do and otherwise gives a route if a handler is
found (`Compiler.value_compileSite`).  A table that is answered holds one route for each endpoint that has a handler,
in the order of the endpoints (`Compiler.forall₂_of_compile_ok`).
-/

namespace RouteTable

/-- A declared operation under its path and path item, for a method. -/
structure Endpoint where
  path : String
  item : PathItem
  method : Method
  operation : Operation

/-- The methods of a path item that have an operation, `GET` first and `PATCH` last. -/
def PathItem.declared (item : PathItem) : List (Method × Operation) :=
  [("GET", item.get), ("POST", item.post), ("PUT", item.put), ("DELETE", item.delete), ("HEAD", item.head),
    ("OPTIONS", item.options), ("PATCH", item.patch)].filterMap fun (token, operation) =>
      operation.map (⟨token⟩, ·)

namespace Description

/-- Every declared operation: paths in declaration order, and inside a path the methods in their order. -/
def endpoints (api : Description) : List Endpoint :=
  api.paths.flatMap fun (path, item) => item.declared.map fun (method, operation) => ⟨path, item, method, operation⟩

end Description

/-- A site with the method of its verb. -/
def Site.endpoint (site : Site) : Endpoint := ⟨site.path, site.item, site.verb.method, site.operation⟩

theorem Verb.map_method_all : Verb.all.map Verb.method =
    ["GET", "POST", "PUT", "DELETE", "HEAD", "OPTIONS", "PATCH"].map Method.mk := by decide +kernel

theorem PathItem.declared_eq (item : PathItem) :
    item.declared = item.operations.map fun (verb, operation) => (verb.method, operation) := by
  -- the literal tokens of `declared` are the methods of the verbs, one by one
  have hm := Verb.map_method_all
  simp only [Verb.all, List.map_cons, List.map_nil, List.cons.injEq, and_true] at hm
  obtain ⟨h₁, h₂, h₃, h₄, h₅, h₆, h₇⟩ := hm
  rw [declared, operations, List.map_filterMap]
  simp only [Verb.all, List.filterMap_cons, List.filterMap_nil, operation?, Option.map_map, Function.comp_def,
    h₁, h₂, h₃, h₄, h₅, h₆, h₇]

theorem Description.endpoints_eq (api : Description) : api.endpoints = api.sites.map Site.endpoint := by
  rw [endpoints, sites, List.map_flatMap]
  congr 1
  funext ⟨path, item⟩
  simp only [PathItem.declared_eq, List.map_map]
  rfl

theorem Description.length_endpoints (api : Description) : api.endpoints.length = api.operationCount := by
  rw [endpoints_eq, List.length_map, operationCount]

/-- What stands in front of the paths of a table: a declared base path without the slashes at its end, unless base
paths do not count. -/
def BasePathMode.front (mode : BasePathMode) (basePath : Option String) : String :=
  match mode, basePath with
  | .prependWhenDeclared, some base => Text.dropTrailing '/' base
  | _, _ => ""

theorem BasePathMode.apply_eq (mode : BasePathMode) (basePath : Option String) (path : String) :
    mode.apply basePath path = mode.front basePath ++ path := by
  cases mode with
  | never => exact String.empty_append.symm
  | prependWhenDeclared =>
    cases basePath with
    | none => exact String.empty_append.symm
    | some base => rfl

namespace Compiler

variable {c : Compiler} {api : Description}

/-- The handler that is found for an endpoint. -/
def handler? (c : Compiler) (e : Endpoint) : Option Handler := c.handlerOf? e.path e.method e.operation

/-- The path of an endpoint in the table. -/
def pathOf (c : Compiler) (api : Description) (e : Endpoint) : String :=
  c.config.basePathMode.front api.basePath ++ e.path

theorem routePath_eq (c : Compiler) (api : Description) (site : Site) :
    c.routePath api site.path = c.pathOf api site.endpoint := BasePathMode.apply_eq ..

/-- The compiled requirement objects of a site. -/
def compiledSecurity (c : Compiler) (api : Description) (site : Site) :
    Except CompileError (Option (List SecurityMap)) :=
  (c.securityContext.requirements api.securityDefinitions (declaredSecurity api site) (c.routePath api site.path)
    site.verb.method).value

/-- The route of a site, given its requirement objects and its handler. -/
def routeOf (c : Compiler) (api : Description) (site : Site) (requirements : Option (List SecurityMap))
    (handler : Handler) : Route :=
  let outline := outline api site (c.routePath api site.path) requirements
  { outline with
    validators := (c.validators (Parameter.merge site.item.parameters site.operation.parameters) outline).value
    handler }

theorem value_compileSite (c : Compiler) (api : Description) (site : Site) :
    (c.compileSite api site).value =
      (c.compiledSecurity api site).map fun requirements =>
        (c.handler? site.endpoint).map (c.routeOf api site requirements) := by
  rw [compileSite_eq, Traced.value_bind, compiledSecurity]
  cases (c.securityContext.requirements api.securityDefinitions (declaredSecurity api site)
    (c.routePath api site.path) site.verb.method).value with
  | error e => rfl
  | ok requirements =>
    simp only [Traced.value_bind, value_handlerFor, Except.map, handler?, Site.endpoint]
    cases c.handlerOf? site.path site.verb.method site.operation <;> rfl

theorem value_compile (c : Compiler) (api : Description) :
    (c.compile api).value = (api.sites.mapM fun site => (c.compileSite api site).value).map (·.filterMap id) := by
  rw [compile_eq, Traced.value_bind, Traced.value_collect]
  cases api.sites.mapM fun site => (c.compileSite api site).value <;> rfl

/-- A failure of compilation is the failure of the first site whose requirements fail. -/
theorem fault?_compile (c : Compiler) (api : Description) :
    fault? (c.compile api).value = api.sites.findSome? fun site => fault? (c.compiledSecurity api site) := by
  rw [value_compile, fault?_map, fault?_mapM]
  simp only [value_compileSite, fault?_map]

/-- A route comes from a site when its requirements compile and its handler is found. -/
inductive Emits (c : Compiler) (api : Description) (site : Site) : Route → Prop
  | intro {requirements : Option (List SecurityMap)} {handler : Handler}
      (secured : c.compiledSecurity api site = .ok requirements) (found : c.handler? site.endpoint = some handler) :
      Emits c api site (c.routeOf api site requirements handler)

/-- The sites for whose endpoints a handler is found. -/
def served (c : Compiler) (api : Description) : List Site :=
  api.sites.filter fun site => (c.handler? site.endpoint).isSome

/-- The routes among the outcomes of sites come from the sites that have a handler, one by one. -/
private theorem forall₂_emits {sites : List Site} {outcomes : List (Option Route)}
    (h : List.Forall₂ (fun site outcome => (c.compileSite api site).value = .ok outcome) sites outcomes) :
    List.Forall₂ (c.Emits api) (sites.filter fun site => (c.handler? site.endpoint).isSome)
      (outcomes.filterMap id) := by
  -- on the walk of the sites; a site without a handler leaves both lists as they are
  induction h with
  | nil => exact .nil
  | @cons site outcome sites outcomes head _ ih =>
    rw [value_compileSite, map_eq_ok_iff] at head
    obtain ⟨requirements, secured, rfl⟩ := head
    cases found : c.handler? site.endpoint with
    | none => simpa [found] using ih
    | some handler => simpa [found] using List.Forall₂.cons (Emits.intro secured found) ih

theorem forall₂_of_compile_ok {routes : List Route} (ok : (c.compile api).value = .ok routes) :
    List.Forall₂ (c.Emits api) (c.served api) routes := by
  rw [value_compile, map_eq_ok_iff] at ok
  obtain ⟨outcomes, h, rfl⟩ := ok
  exact forall₂_emits (mapM_eq_ok_iff.1 h)

theorem Emits.row {site : Site} {route : Route} (h : c.Emits api site route) :
    (route.path, route.method, route.name, route.description) =
      (c.pathOf api site.endpoint, site.endpoint.method, site.endpoint.operation.operationId,
        site.endpoint.operation.description) := by
  cases h
  rw [← routePath_eq]
  rfl

theorem filter_endpoints (c : Compiler) (api : Description) :
    (api.endpoints.filter fun e => (c.handler? e).isSome) = (c.served api).map Site.endpoint := by
  rw [Description.endpoints_eq, List.filter_map]
  rfl

/-- The last event of a successful compilation counts the routes and the operations without one. -/
theorem getLast?_events_compile {routes : List Route} (ok : (c.compile api).value = .ok routes) :
    (c.compile api).events.getLast? =
      some (.tableCompiled routes.length (api.operationCount - routes.length) api.basePath) := by
  rw [value_compile, map_eq_ok_iff] at ok
  obtain ⟨outcomes, h, rfl⟩ := ok
  -- every site has an outcome, so what is missing among the routes was dropped
  have hlen : api.sites.length = outcomes.length := (mapM_eq_ok_iff.1 h).length_eq
  rw [compile_eq, Traced.events_bind, Traced.value_collect, h]
  simp [Description.operationCount, hlen]

end Compiler

end RouteTable
