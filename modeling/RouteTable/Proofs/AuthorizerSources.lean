import RouteTable.Proofs.Requirements
import RouteTable.Proofs.SameTable

/-!
# Where authorizers come from

The authorizer of a scheme is looked for at one path (`SecurityContext.authorizerPath?`), which an `x-authorize` settles
alone.  Compilation asks for the authorizers of the schemes that are required somewhere, each at its path
(`Compiler.AsksFor`), so what a loader answers anywhere else does not count.  In particular a module under the security
root never takes the place of an `x-authorize` that offers nothing (`SecurityContext.authorizer?_eq_none`).
-/

namespace RouteTable

/-- Where the authorizer of a scheme is looked for: at the module that its `x-authorize` names, and without
`x-authorize` at the module of its name under the security root.  An authorizer that is bound is looked for nowhere. -/
def SecurityContext.authorizerPath? (ctx : SecurityContext) (name : String) (scheme : SecurityScheme) : Option String :=
  match scheme.authorize, ctx.securityRoot with
  | some (.bound _), _ => none
  | some (.module path), _ => some (Path.absolute ctx.cwd ctx.basedir path)
  | none, some root => some (Path.absolute ctx.cwd ctx.basedir (Path.join root name))
  | none, none => none

/-- Some requirement object asks for a defined scheme whose authorizer is looked for at a path. -/
inductive SecurityContext.AsksFor (ctx : SecurityContext) :
    Option (OrderedMap String SecurityScheme) → Option SecurityDeclaration → String → Prop
  | intro {definitions : OrderedMap String SecurityScheme} {objects : List Requirement} {object : Requirement}
      {request : String × List Json} {scheme : SecurityScheme} {path : String} (object_mem : object ∈ objects)
      (request_mem : request ∈ object) (defined : OrderedMap.get? definitions request.1 = some scheme)
      (counts : ctx.authorizerPath? request.1 scheme = some path) :
      AsksFor ctx (some definitions) (some (.requirements objects)) path

/-- The security in force at some endpoint asks for a scheme whose authorizer is looked for at a path. -/
def Compiler.AsksFor (c : Compiler) (api : Description) (path : String) : Prop :=
  ∃ e ∈ api.endpoints, c.securityContext.AsksFor api.securityDefinitions (e.security? api) path

namespace SecurityContext

variable {ctx : SecurityContext} {other : Loader Authorizer} {definitions : OrderedMap String SecurityScheme}

/-! ### Two loaders -/

/-- A loader that answers alike at the path of a scheme finds the same authorizer, and reports the same. -/
theorem authorizerFor_of_loader {name : String} {scheme : SecurityScheme}
    (agree : ∀ path, ctx.authorizerPath? name scheme = some path → other path = ctx.authorizers path) :
    ({ ctx with authorizers := other } : SecurityContext).authorizerFor name scheme =
      ctx.authorizerFor name scheme := by
  rw [authorizerFor_eq, authorizerFor_eq]
  rw [authorizerPath?] at agree
  cases declared : scheme.authorize with
  | some reference =>
    cases reference with
    | bound value => rfl
    | module path =>
      rw [declared] at agree
      dsimp only
      rw [resolve_module_congr .authorizer ctx.toLoaders ⟨ctx.handlers, other⟩ _ _ _ _ (agree _ rfl)]
  | none =>
    cases root : ctx.securityRoot with
    | none => rfl
    | some root =>
      rw [declared, root] at agree
      exact resolve_module_congr .authorizer ctx.toLoaders ⟨ctx.handlers, other⟩ _ _ _ _ (agree _ rfl)

theorem entry_of_loader {path : String} {method : Method} {request : String × List Json}
    (agree : ∀ scheme file, OrderedMap.get? definitions request.1 = some scheme →
      ctx.authorizerPath? request.1 scheme = some file → other file = ctx.authorizers file) :
    ({ ctx with authorizers := other } : SecurityContext).entry definitions path method request =
      ctx.entry definitions path method request := by
  rw [entry_eq, entry_eq]
  cases defined : OrderedMap.get? definitions request.1 with
  | none => rfl
  | some scheme => simp only [authorizerFor_of_loader fun file counts => agree scheme file defined counts]

theorem requirements_of_loader {definitions : Option (OrderedMap String SecurityScheme)}
    {declared : Option SecurityDeclaration}
    (agree : ∀ file, ctx.AsksFor definitions declared file → other file = ctx.authorizers file) (path : String)
    (method : Method) :
    ({ ctx with authorizers := other } : SecurityContext).requirements definitions declared path method =
      ctx.requirements definitions declared path method := by
  rw [requirements_eq, requirements_eq]
  cases definitions with
  | none => rfl
  | some definitions =>
    cases declared with
    | none => rfl
    | some declared =>
      cases declared with
      | malformed value => rfl
      | requirements objects =>
        have same : collect (collect
              (({ ctx with authorizers := other } : SecurityContext).entry definitions path method)) objects =
            collect (collect (ctx.entry definitions path method)) objects :=
          Traced.collect_congr fun object object_mem => Traced.collect_congr fun request request_mem =>
            entry_of_loader fun scheme file defined counts => agree file ⟨object_mem, request_mem, defined, counts⟩
        simp only [Option.bind_some, SecurityDeclaration.requirements?, same]

/-! ### Modules that offer no authorizer -/

/-- The module that a scheme names as its `x-authorize` does not load, or exports values under verbs. -/
def Unusable (ctx : SecurityContext) (scheme : SecurityScheme) : Prop :=
  ∃ path, scheme.authorize = some (.module path) ∧
    ∀ authorizer, ctx.authorizers (Path.absolute ctx.cwd ctx.basedir path) ≠ .ok (.callable authorizer)

/-- Nothing takes the place of an `x-authorize` that offers no authorizer. -/
theorem authorizer?_eq_none {name : String} {scheme : SecurityScheme} (unusable : ctx.Unusable scheme) :
    ctx.authorizer? name scheme = none := by
  obtain ⟨path, declared, refused⟩ := unusable
  rw [authorizer?, declared]
  dsimp only
  rw [Reference.value?_module]
  cases loaded : ctx.authorizers (Path.absolute ctx.cwd ctx.basedir path) with
  | error e => rfl
  | ok module =>
    cases module with
    | callable authorizer => exact absurd loaded (refused authorizer)
    | exports entries => rfl

/-- What is recorded of a request for a scheme: its scopes, and no authorizer if the `x-authorize` of the scheme offers
none. -/
structure Records (ctx : SecurityContext) (definitions : OrderedMap String SecurityScheme)
    (request : String × List Json) (entry : String × SecurityEntry) : Prop where
  name : entry.1 = request.1
  scopes : request.2 = entry.2.scopes.map .string
  unauthorized : ∀ scheme, OrderedMap.get? definitions request.1 = some scheme → ctx.Unusable scheme →
    entry.2.authorize = none

theorem Compiles.records {request : String × List Json} {entry : String × SecurityEntry}
    (h : ctx.Compiles definitions request entry) : ctx.Records definitions request entry := by
  refine ⟨h.name, h.scopes, fun scheme defined unusable => ?_⟩
  obtain ⟨_, found, -, authorized⟩ := h.scheme
  obtain rfl := Option.some.inj (found.symm.trans defined)
  rw [authorized, authorizer?_eq_none unusable]

end SecurityContext

namespace Compiler

variable {c : Compiler} {api : Description}

/-- Authorizers have no say in what handler an operation gets. -/
theorem handlerFor_of_authorizers (c : Compiler) (other : Loader Authorizer) (path : String) (method : Method)
    (operation : Operation) :
    ({ c with authorizers := other } : Compiler).handlerFor path method operation =
      c.handlerFor path method operation := by
  have explicit : ∀ reference, ({ c with authorizers := other } : Compiler).explicitHandler reference method =
      c.explicitHandler reference method := by
    intro reference
    cases reference with
    | bound handler => rfl
    | module path =>
      rw [explicitHandler_eq, explicitHandler_eq]
      dsimp only
      rw [resolve_module_congr .handler c.toLoaders ⟨c.handlers, other⟩ _ _ _ _ rfl]
  simp only [handlerFor_eq, explicit]

theorem compileSite_of_authorizers {other : Loader Authorizer} {site : Site}
    (agree : ∀ path, c.securityContext.AsksFor api.securityDefinitions (site.endpoint.security? api) path →
      other path = c.authorizers path) :
    ({ c with authorizers := other } : Compiler).compileSite api site = c.compileSite api site := by
  rw [← declaredSecurity_eq] at agree
  have same := c.securityContext.requirements_of_loader agree (c.routePath api site.path) site.verb.method
  rw [compileSite_eq, compileSite_eq]
  simp only [handlerFor_of_authorizers, ← same]
  rfl

theorem compile_of_authorizers_agree {other : Loader Authorizer}
    (agree : ∀ path, c.AsksFor api path → other path = c.authorizers path) :
    ({ c with authorizers := other } : Compiler).compile api = c.compile api := by
  have sites : collect (({ c with authorizers := other } : Compiler).compileSite api) api.sites =
      collect (c.compileSite api) api.sites := by
    refine Traced.collect_congr fun site mem => compileSite_of_authorizers fun path asks => ?_
    refine agree path ⟨site.endpoint, ?_, asks⟩
    rw [Description.endpoints_eq]
    exact List.mem_map_of_mem mem
  rw [compile_eq, compile_eq, sites]

theorem Emits.records {site : Site} {route : Route} (h : c.Emits api site route)
    {definitions : OrderedMap String SecurityScheme} {objects : List Requirement}
    (defined : api.securityDefinitions = some definitions)
    (declared : site.endpoint.security? api = some (.requirements objects)) :
    route.security = some (SecurityMap.flatten route.requirements) ∧
      List.Forall₂ (List.Forall₂ (c.securityContext.Records definitions)) objects route.requirements := by
  obtain ⟨secured, -⟩ := h
  rw [compiledSecurity, declaredSecurity_eq, defined, declared] at secured
  obtain ⟨groups, rfl, kept⟩ := SecurityContext.forall₂_compiles secured
  exact ⟨rfl, kept.imp fun _ _ group => group.imp fun _ _ entry => entry.records⟩

/-- Compilation does the same with every loader that answers alike at the paths that are asked for: it fails alike or
answers the same routes, with their requirement objects and merged maps, and reports the same.  Every request of an
object is recorded in place with its scopes, and without an authorizer if the `x-authorize` of its scheme does not load
or exports values under verbs, whatever the loader answers elsewhere; the merged map records nothing else. -/
theorem compile_of_authorizers (c : Compiler) (api : Description) :
    (∀ other : Loader Authorizer, (∀ path, c.AsksFor api path → other path = c.authorizers path) →
      ({ c with authorizers := other } : Compiler).compile api = c.compile api) ∧
    ∀ routes, (c.compile api).value = .ok routes →
      List.Forall₂
        (fun e route => ∀ definitions objects, api.securityDefinitions = some definitions →
          e.security? api = some (.requirements objects) →
          List.Forall₂ (List.Forall₂ (c.securityContext.Records definitions)) objects route.requirements ∧
          ∃ merged, route.security = some merged ∧
            ∀ entry ∈ merged, ∃ object ∈ objects, ∃ request ∈ object,
              c.securityContext.Records definitions request entry)
        (api.endpoints.filter fun e => (c.handler? e).isSome) routes := by
  refine ⟨fun other agree => compile_of_authorizers_agree agree, fun routes ok => ?_⟩
  rw [filter_endpoints, List.forall₂_map_left_iff]
  refine (forall₂_of_compile_ok ok).imp fun site route emitted definitions objects defined declared => ?_
  obtain ⟨merged, kept⟩ := emitted.records defined declared
  refine ⟨kept, _, merged, fun entry mem => ?_⟩
  rw [SecurityMap.flatten_eq] at mem
  obtain ⟨group, group_mem, entry_mem⟩ := List.mem_flatten.1 (OrderedMap.mem_of_mem_ofEntries mem)
  obtain ⟨object, object_mem, recorded⟩ := exists_of_forall₂ kept group group_mem
  obtain ⟨request, request_mem, records⟩ := exists_of_forall₂ recorded entry entry_mem
  exact ⟨object, object_mem, request, request_mem, records⟩

/-- A module that does not load, one with exports and none at all are declared, and nothing that another loader has for
the first two under the security root changes the table. -/
theorem compile_of_authorizers_beside_security_root :
    let gate : Authorizer := ⟨.given "gate", fun _ _ _ => false⟩
    let c : Compiler :=
      { config := { basedir := "/srv", securityRoot := some "security" }, validators := .presenceOnly
        handlers := fun path => .error (.notFound path), probe := fun _ => false
        authorizers := fun path =>
          if path = "/srv/security/basic" then .ok (.callable gate)
          else if path = "/srv/auth/verbs" then .ok (.exports [("get", gate)])
          else .error (.notFound path)
        defaultHandler := some .echo }
    let api : Description :=
      { securityDefinitions := some [
          ("oauth2", { scopes := [("write", "")], authorize := some (.module "auth/broken") }),
          ("keys", { authorize := some (.module "auth/verbs") }), ("basic", {})]
        paths := [("/pets",
          { get := some { security := some (.requirements [[("oauth2", [.string "write"]), ("basic", [])],
              [("keys", [])]]) } })] }
    let other : Loader Authorizer := fun path =>
      if path = "/srv/security/oauth2" ∨ path = "/srv/security/keys" then .ok (.callable gate) else c.authorizers path
    ({ c with authorizers := other } : Compiler).compile api = c.compile api ∧
      ∃ route, (c.compile api).value = .ok [route] ∧
        ∃ oauth2 basic keys, route.requirements = [[oauth2, basic], [keys]] ∧
          oauth2.2.authorize = none ∧ keys.2.authorize = none ∧ basic.2.authorize.isSome ∧
          [Json.string "write"] = oauth2.2.scopes.map .string := by
  intro gate c api other
  have value := value_compile c api
  simp only [value_compileSite, compiledSecurity, SecurityContext.value_requirements,
    SecurityContext.value_entry] at value
  have ok : (c.compile api).value = .ok _ := value.trans rfl
  obtain ⟨same, recorded⟩ := compile_of_authorizers c api
  have brokenFile : Path.absolute c.cwd c.basedir "auth/broken" = "/srv/auth/broken" := by decide +kernel
  have verbsFile : Path.absolute c.cwd c.basedir "auth/verbs" = "/srv/auth/verbs" := by decide +kernel
  have basicFile : Path.absolute c.cwd c.basedir (Path.join "security" "basic") = "/srv/security/basic" := by
    decide +kernel
  refine ⟨same other ?_, _, ok, ?_⟩
  · -- the three paths that are asked for are not the two that the other loader has besides
    rintro path ⟨e, mem, asks⟩
    obtain rfl := List.mem_singleton.1 mem
    have apart : path ≠ "/srv/security/oauth2" ∧ path ≠ "/srv/security/keys" := by
      obtain ⟨object_mem, request_mem, defined, counts⟩ := asks
      rcases List.mem_cons.1 object_mem with rfl | object_mem
      · rcases List.mem_cons.1 request_mem with rfl | request_mem
        · obtain rfl := Option.some.inj defined
          rw [← Option.some.inj counts]
          exact brokenFile ▸ by decide
        · obtain rfl := List.mem_singleton.1 request_mem
          obtain rfl := Option.some.inj defined
          rw [← Option.some.inj counts]
          exact basicFile ▸ by decide
      · obtain rfl := List.mem_singleton.1 object_mem
        obtain rfl := List.mem_singleton.1 request_mem
        obtain rfl := Option.some.inj defined
        rw [← Option.some.inj counts]
        exact verbsFile ▸ by decide
    exact if_neg (not_or.2 apart)
  · obtain _ | ⟨route, -⟩ := recorded _ ok
    obtain ⟨objects, -⟩ := route _ _ rfl rfl
    obtain _ | ⟨first, _ | ⟨second, -⟩⟩ := objects
    obtain _ | ⟨oauth2, _ | ⟨basic, -⟩⟩ := first
    obtain _ | ⟨keys, -⟩ := second
    have broken : c.securityContext.Unusable
        { scopes := [("write", "")], authorize := some (.module "auth/broken") } := by
      refine ⟨_, rfl, fun authorizer answered => ?_⟩
      change c.authorizers (Path.absolute c.cwd c.basedir _) = _ at answered
      rw [brokenFile] at answered
      simp [c] at answered
    have verbs : c.securityContext.Unusable { authorize := some (.module "auth/verbs") } := by
      refine ⟨_, rfl, fun authorizer answered => ?_⟩
      change c.authorizers (Path.absolute c.cwd c.basedir _) = _ at answered
      rw [verbsFile] at answered
      simp [c] at answered
    refine ⟨_, _, _, rfl, oauth2.unauthorized _ rfl broken, keys.unauthorized _ rfl verbs, ?_, oauth2.scopes⟩
    decide +kernel

end Compiler

end RouteTable
