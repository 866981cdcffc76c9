import RouteTable.Compiler
import RouteTable.Proofs.Traced

/-!
# Inquiries that loaders answer

What loaders answer to a sequence of inquiries is the sequence of what they answer (`Inquiry.run_bind`), and the same
holds of a run of steps (`Inquiry.run_collect`).  So whatever loads modules on its way is the traced computation with
the loads filled in, from a reference (`resolve_module`) up to a whole compilation (`Compiler.compile_eq`).
-/

namespace RouteTable

variable {α β ε : Type}

namespace Inquiry

variable (l : Loaders)

@[simp] theorem run_pure (a : α) : (pure a : Inquiry α).run l = pure a := rfl

@[simp] theorem run_bind (i : Inquiry α) (f : α → Inquiry β) :
    (i >>= f).run l = i.run l >>= fun a => (f a).run l := by
  induction i with
  | done a => exact (Traced.pure_bind ..).symm
  | report e rest ih =>
    change Traced.report e >>= (fun _ => (rest >>= f).run l) = _
    rw [ih, run, Traced.bind_assoc]
  | load kind path next ih =>
    change Traced.report _ >>= (fun _ => (next (l.load kind path) >>= f).run l) = _
    rw [ih, run, Traced.bind_assoc]

@[simp] theorem run_lift (t : Traced α) : (liftM t : Inquiry α).run l = t := by
  obtain ⟨value, events⟩ := t
  change (events.foldr report (done value)).run l = _
  induction events with
  | nil => rfl
  | cons e events ih =>
    rw [List.foldr_cons, run, ih]
    rfl

theorem run_ask (kind : ModuleKind) (path : String) :
    (ask kind path).run l = Traced.report (.moduleRequested kind path) >>= fun _ => pure (l.load kind path) := rfl

theorem run_collect (step : α → Inquiry (Except ε β)) (xs : List α) :
    (collect step xs).run l = collect (fun x => (step x).run l) xs := by
  induction xs with
  | nil => rfl
  | cons x xs ih =>
    rw [collect, collect, run_bind, ← ih]
    congr 1
    funext outcome
    cases outcome with
    | error e => rfl
    | ok y =>
      rw [run_bind]
      congr 1
      funext outcomes
      cases outcomes <;> rfl

end Inquiry

theorem resolve_module (kind : ModuleKind) (l : Loaders) (cwd basedir path : String) (method : Option Method) :
    resolve kind l cwd basedir (.module path) method = (do
      let path := Path.absolute cwd basedir path
      Traced.report (.moduleRequested kind path)
      match l.load kind path with
      | .error error => do
        Traced.report (.moduleUnloadable path error)
        pure none
      | .ok (.callable value) => pure (some value)
      | .ok (.exports entries) =>
        match method with
        | none => pure none
        | some method =>
          match OrderedMap.get? entries method.key with
          | some value => pure (some value)
          | none => do
            Traced.report (.exportMissing path method (OrderedMap.keys entries))
            pure none) := by
  rw [resolve, Inquiry.resolve, Inquiry.run_bind, Inquiry.run_ask, Traced.bind_assoc]
  congr 1
  funext _
  rw [Traced.pure_bind]
  cases l.load kind (Path.absolute cwd basedir path) with
  | error e => rfl
  | ok loaded =>
    cases loaded with
    | callable value => rfl
    | exports entries =>
      cases method with
      | none => rfl
      | some m =>
        dsimp only
        cases OrderedMap.get? entries m.key <;> rfl

/-- Loaders that answer alike for the module of a reference give it the same value, and report the same. -/
theorem resolve_module_congr (kind : ModuleKind) (l m : Loaders) (cwd basedir path : String) (method : Option Method)
    (agree : m.load kind (Path.absolute cwd basedir path) = l.load kind (Path.absolute cwd basedir path)) :
    resolve kind m cwd basedir (.module path) method = resolve kind l cwd basedir (.module path) method := by
  rw [resolve_module, resolve_module]
  dsimp only
  rw [agree]

namespace SecurityContext

theorem authorizerFor_eq (ctx : SecurityContext) (name : String) (scheme : SecurityScheme) :
    ctx.authorizerFor name scheme =
      (match scheme.authorize with
      | some reference => do
        match ← resolve .authorizer ctx.toLoaders ctx.cwd ctx.basedir reference none with
        | some authorizer => pure (some authorizer)
        | none => do
          Traced.report (.authorizerUnresolved name reference.describe)
          pure none
      | none =>
        match ctx.securityRoot with
        | some root => resolve .authorizer ctx.toLoaders ctx.cwd ctx.basedir (.module (Path.join root name)) none
        | none => pure none) := by
  rw [authorizerFor, SecuritySources.authorizerFor]
  cases scheme.authorize with
  | some reference =>
    dsimp only
    rw [Inquiry.run_bind, resolve]
    congr 1
    funext found
    cases found <;> rfl
  | none => cases ctx.securityRoot <;> rfl

theorem entry_eq (ctx : SecurityContext) (definitions : OrderedMap String SecurityScheme) (path : String)
    (method : Method) (request : String × List Json) :
    ctx.entry definitions path method request =
      (match OrderedMap.get? definitions request.1 with
      | none => pure (.error (.unknownScheme request.1 path method))
      | some scheme =>
        match request.2.mapM (scope scheme request.1 path method) with
        | .error e => pure (.error e)
        | .ok scopes => do
          let authorize ← ctx.authorizerFor request.1 scheme
          Traced.report (.requirementCompiled path method request.1 scopes authorize.isSome)
          pure (.ok (request.1, { scopes, authorize }))) := by
  rw [entry, SecuritySources.entry]
  cases OrderedMap.get? definitions request.1 with
  | none => rfl
  | some scheme =>
    dsimp only
    cases request.2.mapM (scope scheme request.1 path method) with
    | error e => rfl
    | ok scopes => simp only [Inquiry.run_bind, Inquiry.run_lift, Inquiry.run_pure, authorizerFor]

theorem requirements_eq (ctx : SecurityContext) (definitions : Option (OrderedMap String SecurityScheme))
    (declared : Option SecurityDeclaration) (path : String) (method : Method) :
    ctx.requirements definitions declared path method =
      (match definitions, declared.bind SecurityDeclaration.requirements? with
      | some definitions, some alternatives => do
        let groups ← collect (collect (ctx.entry definitions path method)) alternatives
        pure (groups.map some)
      | _, _ => pure (.ok none)) := by
  rw [requirements]
  unfold SecuritySources.requirements
  cases definitions with
  | none => rfl
  | some definitions =>
    cases declared.bind SecurityDeclaration.requirements? with
    | none => rfl
    | some alternatives =>
      simp only [Inquiry.run_bind, Inquiry.run_collect, Inquiry.run_pure]
      rfl

end SecurityContext

namespace Compiler

theorem explicitHandler_eq (c : Compiler) (reference : Reference Handler) (method : Method) :
    c.explicitHandler reference method =
      (match reference with
      | .bound handler => pure (some handler)
      | .module path =>
        let location := Path.absolute c.cwd c.handlerRoot path
        if c.probe location then do
          match ← resolve .handler c.toLoaders c.cwd c.basedir reference (some method) with
          | some handler => pure (some handler)
          | none => do
            Traced.report (.handlerUnresolved reference.describe method)
            pure none
        else do
          Traced.report (.handlerModuleMissing location method)
          pure none) := by
  rw [explicitHandler]
  unfold Setup.explicitHandler
  cases reference with
  | bound handler => rfl
  | module path =>
    dsimp only
    cases c.probe (Path.absolute c.cwd c.handlerRoot path) with
    | false => rfl
    | true =>
      simp only [if_true, Inquiry.run_bind, resolve]
      congr 1
      funext found
      cases found <;> rfl

theorem handlerFor_eq (c : Compiler) (declared : String) (method : Method) (operation : Operation) :
    c.handlerFor declared method operation = (do
      let explicit ← match operation.handler with
        | some reference => c.explicitHandler reference method
        | none => pure none
      match explicit with
      | some handler => do
        Traced.report (.handlerResolved declared method .operation)
        pure (some handler)
      | none =>
        match c.fallback declared method with
        | some (s, handler) => do
          Traced.report (.handlerResolved declared method (.strategy s))
          pure (some handler)
        | none => pure none) := by
  rw [handlerFor, Setup.handlerFor]
  cases operation.handler with
  | none =>
    dsimp only
    cases c.fallback declared method <;> rfl
  | some reference =>
    dsimp only
    rw [Inquiry.run_bind, explicitHandler]
    congr 1
    funext explicit
    cases explicit with
    | some handler => rfl
    | none => cases c.fallback declared method <;> rfl

theorem compileSite_eq (c : Compiler) (api : Description) (site : Site) :
    c.compileSite api site = (do
      let path := c.routePath api site.path
      let method := site.verb.method
      match ← c.securityContext.requirements api.securityDefinitions (declaredSecurity api site) path method with
      | .error e => pure (.error e)
      | .ok requirements => do
        let outline := outline api site path requirements
        let validators ← c.validators (Parameter.merge site.item.parameters site.operation.parameters) outline
        match ← c.handlerFor site.path method site.operation with
        | some handler => pure (.ok (some { outline with validators, handler }))
        | none => do
          Traced.report (.routeDropped path method)
          pure (.ok none)) := by
  rw [compileSite, Setup.compileSite]
  dsimp only
  rw [Inquiry.run_bind]
  congr 1
  funext requirements
  cases requirements with
  | error e => rfl
  | ok requirements =>
    simp only [Inquiry.run_bind, Inquiry.run_lift]
    congr 1
    funext validators
    congr 1
    funext handler
    cases handler <;> rfl

theorem compile_eq (c : Compiler) (api : Description) :
    c.compile api = (do
      match ← collect (c.compileSite api) api.sites with
      | .error e => pure (.error e)
      | .ok outcomes => do
        let routes := outcomes.filterMap id
        Traced.report (.tableCompiled routes.length (outcomes.length - routes.length) api.basePath)
        pure (.ok routes)) := by
  rw [compile, Setup.compile, Inquiry.run_bind, Inquiry.run_collect]
  congr 1
  funext outcomes
  cases outcomes <;> rfl

end Compiler

end RouteTable
