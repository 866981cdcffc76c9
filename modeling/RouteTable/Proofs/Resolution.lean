import RouteTable.Proofs.Inquiries

/-!
# What references stand for

The answers of resolution without its reports: the value of a reference (`Reference.value?`), the authorizer of a
scheme (`SecurityContext.authorizer?`) and the handler of an operation (`Compiler.handlerOf?`).  Each is what the
traced computation answers (`value_resolve`, `SecurityContext.value_authorizerFor`, `Compiler.value_handlerFor`).
-/

namespace RouteTable

variable {α : Type}

/-- What a module has for a method: a callable module serves every method, and one with exports serves no missing
method. -/
def Module.pick? (method : Option Method) : Module α → Option α
  | .callable value => some value
  | .exports entries => method.bind fun m => OrderedMap.get? entries m.key

/-- The value of a reference; a module is taken from a base directory. -/
def Reference.value? (load : Loader α) (cwd basedir : String) (method : Option Method) : Reference α → Option α
  | .bound value => some value
  | .module path =>
    match load (Path.absolute cwd basedir path) with
    | .ok loaded => loaded.pick? method
    | .error _ => none

theorem Reference.value?_module (load : Loader α) (cwd basedir path : String) (method : Option Method) :
    (Reference.module path).value? load cwd basedir method =
      (load (Path.absolute cwd basedir path)).toOption.bind (Module.pick? method) := by
  rw [value?]
  cases load (Path.absolute cwd basedir path) <;> rfl

theorem value_resolve (kind : ModuleKind) (l : Loaders) (cwd basedir : String) (reference : Reference kind.Value)
    (method : Option Method) :
    (resolve kind l cwd basedir reference method).value = reference.value? (l.load kind) cwd basedir method := by
  cases reference with
  | bound value => rfl
  | module path =>
    rw [resolve_module, Reference.value?, Traced.value_bind]
    cases l.load kind (Path.absolute cwd basedir path) with
    | error e => rfl
    | ok loaded =>
      cases loaded with
      | callable value => rfl
      | exports entries =>
        cases method with
        | none => rfl
        | some m =>
          simp only [Module.pick?, Option.bind_some]
          cases OrderedMap.get? entries m.key <;> rfl

/-- The authorizer of a scheme: the value of its `x-authorize`, or without one the module of its name under the
security root. -/
def SecurityContext.authorizer? (ctx : SecurityContext) (name : String) (scheme : SecurityScheme) :
    Option Authorizer :=
  match scheme.authorize, ctx.securityRoot with
  | some reference, _ => reference.value? ctx.authorizers ctx.cwd ctx.basedir none
  | none, some root => (Reference.module (Path.join root name)).value? ctx.authorizers ctx.cwd ctx.basedir none
  | none, none => none

theorem SecurityContext.value_authorizerFor (ctx : SecurityContext) (name : String) (scheme : SecurityScheme) :
    (ctx.authorizerFor name scheme).value = ctx.authorizer? name scheme := by
  rw [authorizerFor_eq, authorizer?]
  cases scheme.authorize with
  | some reference =>
    simp only [Traced.value_bind, value_resolve, Loaders.load]
    cases reference.value? ctx.authorizers ctx.cwd ctx.basedir none <;> rfl
  | none =>
    cases ctx.securityRoot with
    | none => rfl
    | some root => exact value_resolve ..

namespace Compiler

/-- The value of an `x-handler`; a module counts only if it exists under the handler root. -/
def named? (c : Compiler) (method : Method) : Reference Handler → Option Handler
  | .bound handler => some handler
  | .module path =>
    if c.probe (Path.absolute c.cwd c.handlerRoot path) then
      (Reference.module path).value? c.handlers c.cwd c.basedir (some method)
    else none

/-- The handler of an operation: its `x-handler`, else what the first strategy with a handler offers. -/
def handlerOf? (c : Compiler) (path : String) (method : Method) (operation : Operation) : Option Handler :=
  (operation.handler.bind (c.named? method)).or (c.strategies.findSome? (c.fallback? path method))

theorem value_explicitHandler (c : Compiler) (reference : Reference Handler) (method : Method) :
    (c.explicitHandler reference method).value = c.named? method reference := by
  cases reference with
  | bound handler => rfl
  | module path =>
    rw [explicitHandler_eq, named?]
    dsimp only
    cases c.probe (Path.absolute c.cwd c.handlerRoot path) with
    | false => rfl
    | true =>
      simp only [if_true, Traced.value_bind, value_resolve, Loaders.load]
      cases (Reference.module path).value? c.handlers c.cwd c.basedir (some method) <;> rfl

theorem map_fallback (c : Compiler) (path : String) (method : Method) :
    (c.fallback path method).map (·.2) = c.strategies.findSome? (c.fallback? path method) := by
  rw [Setup.fallback, List.map_findSome?]
  congr 1
  funext strategy
  cases h : c.fallback? path method strategy <;> simp [h]

theorem value_handlerFor (c : Compiler) (path : String) (method : Method) (operation : Operation) :
    (c.handlerFor path method operation).value = c.handlerOf? path method operation := by
  rw [handlerFor_eq, handlerOf?, ← map_fallback]
  cases operation.handler with
  | none => cases c.fallback path method <;> rfl
  | some reference =>
    simp only [Traced.value_bind, value_explicitHandler, Option.bind_some]
    cases c.named? method reference with
    | some handler => rfl
    | none => cases c.fallback path method <;> rfl

end Compiler

end RouteTable
