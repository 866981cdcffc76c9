import RouteTable.Config
import RouteTable.Validation

/-!
# Compiling route tables

`compile` visits the declared operations of a description in order.  Each becomes a route, unless no handler is found
for it, and then it is dropped; the first requirement that names an unknown scheme or scope ends compilation.
-/

namespace RouteTable

/-- Everything compilation depends on besides the description and the modules that it names. -/
structure Setup where
  config : Config
  validators : Validation
  /-- Answers whether a handler module exists. -/
  probe : String → Bool
  tree : Option HandlerTree := none
  defaultHandler : Option Handler := none
  strategies : List Strategy := [.tree, .default]
  /-- The current directory. -/
  cwd : String := "/"

/-- A compiler with the modules that descriptions may name. -/
structure Compiler extends Setup, Loaders

namespace Setup

def basedir (c : Setup) : String := Path.absolute c.cwd "" c.config.basedir

def handlerRoot (c : Setup) : String := c.config.handlerRootFrom c.cwd c.basedir

def securitySources (c : Setup) : SecuritySources := ⟨c.cwd, c.basedir, c.config.securityRoot⟩

/-- The path of a route for a declared path. -/
def routePath (c : Setup) (api : Description) (declared : String) : String :=
  c.config.basePathMode.apply api.basePath declared

/-- The handler an operation names: a module has to exist under the handler root. -/
def explicitHandler (c : Setup) (reference : Reference Handler) (method : Method) : Inquiry (Option Handler) := do
  let missing := match reference with
    | .bound _ => none
    | .module path =>
      let location := Path.absolute c.cwd c.handlerRoot path
      if c.probe location then none else some location
  match missing with
  | some location => do
    Traced.report (.handlerModuleMissing location method)
    pure none
  | none =>
    match ← Inquiry.resolve .handler c.cwd c.basedir reference (some method) with
    | some handler => pure (some handler)
    | none => do
      Traced.report (.handlerUnresolved reference.describe method)
      pure none

def fallback? (c : Setup) (declared : String) (method : Method) : Strategy → Option Handler
  | .tree => c.tree.bind fun t => t.lookup declared method
  | .default => c.defaultHandler

/-- The first strategy that has a handler. -/
def fallback (c : Setup) (declared : String) (method : Method) : Option (Strategy × Handler) :=
  c.strategies.findSome? fun s => (c.fallback? declared method s).map (s, ·)

def handlerFor (c : Setup) (declared : String) (method : Method) (operation : Operation) :
    Inquiry (Option Handler) := do
  let explicit ← match operation.handler with
    | some reference => c.explicitHandler reference method
    | none => pure none
  match explicit with
  | some handler => do
    Traced.report (.handlerResolved declared method .operation)
    pure (some handler)
  | none =>
    match c.fallback declared method with
    | some (s, handler) => do
      Traced.report (.handlerResolved declared method (.strategy s))
      pure (some handler)
    | none => pure none

end Setup

namespace Compiler

/-- Security of an operation, else of its path item, else of the description. -/
def declaredSecurity (api : Description) (site : Site) : Option SecurityDeclaration :=
  (site.operation.security.or site.item.security).or api.security

def outline (api : Description) (site : Site) (path : String) (requirements : Option (List SecurityMap)) :
    RouteOutline :=
  let op := site.operation
  RouteOutline.withSecurity
    { path, name := op.operationId, description := op.description, method := site.verb.method
      security := none, requirements := []
      consumes := op.consumes.or api.consumes, produces := op.produces.or api.produces
      json := op.json.or api.json, cache := op.cache.or api.cache, config := op.config.or api.config
      jsonp := op.jsonp.or api.jsonp }
    requirements

end Compiler

namespace Setup

open Compiler (declaredSecurity outline)

/-- The route of an operation, or none if it is dropped. -/
def compileSite (c : Setup) (api : Description) (site : Site) : Inquiry (Except CompileError (Option Route)) := do
  let path := c.routePath api site.path
  let method := site.verb.method
  match ← c.securitySources.requirements api.securityDefinitions (declaredSecurity api site) path method with
  | .error e => pure (.error e)
  | .ok requirements => do
    let outline := outline api site path requirements
    let validators ← c.validators (Parameter.merge site.item.parameters site.operation.parameters) outline
    match ← c.handlerFor site.path method site.operation with
    | some handler => pure (.ok (some { outline with validators, handler }))
    | none => do
      Traced.report (.routeDropped path method)
      pure (.ok none)

def compile (c : Setup) (api : Description) : Inquiry (Except CompileError (List Route)) := do
  match ← collect (c.compileSite api) api.sites with
  | .error e => pure (.error e)
  | .ok outcomes => do
    let routes := outcomes.filterMap id
    Traced.report (.tableCompiled routes.length (outcomes.length - routes.length) api.basePath)
    pure (.ok routes)

end Setup

namespace Compiler

def securityContext (c : Compiler) : SecurityContext := { c.securitySources, c.toLoaders with }

def explicitHandler (c : Compiler) (reference : Reference Handler) (method : Method) : Traced (Option Handler) :=
  (c.toSetup.explicitHandler reference method).run c.toLoaders

def handlerFor (c : Compiler) (declared : String) (method : Method) (operation : Operation) :
    Traced (Option Handler) :=
  (c.toSetup.handlerFor declared method operation).run c.toLoaders

def compileSite (c : Compiler) (api : Description) (site : Site) : Traced (Except CompileError (Option Route)) :=
  (c.toSetup.compileSite api site).run c.toLoaders

def compile (c : Compiler) (api : Description) : Traced (Except CompileError (List Route)) :=
  (c.toSetup.compile api).run c.toLoaders

/-- Two tables are the same when their routes are, in order. -/
def sameTable (a b : List Route) : Bool := Route.sameLists Route.same a b

end Compiler

end RouteTable
