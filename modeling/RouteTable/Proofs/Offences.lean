import RouteTable.Proofs.Requirements

/-!
# What makes compilation fail

`Description.offences` lists everything that is wrong with the security of a description, in the order in which a
reader of the document meets it.  Compilation fails with the first entry of this list and succeeds when the list is
empty (`Compiler.fault?_compile_eq`).  The list is read off the description and the base path mode, so nothing else that
a compiler holds has a say in failures.
-/

namespace RouteTable

/-- What is wrong with a scope asked of a scheme: it has to be a text that the scheme declares. -/
def SecurityScheme.offence? (scheme : SecurityScheme) (name path : String) (method : Method) :
    Json → Option CompileError
  | .string text =>
    if text ∈ OrderedMap.keys scheme.scopes then none else some (.unknownScope text name path method)
  | value => some (.unknownScope value.render name path method)

/-- What is wrong with a request for a scheme: that the scheme is not defined, or else its scopes in their order. -/
def SecurityScheme.offences (definitions : OrderedMap String SecurityScheme) (path : String) (method : Method)
    (request : String × List Json) : List CompileError :=
  match OrderedMap.get? definitions request.1 with
  | none => [.unknownScheme request.1 path method]
  | some scheme => request.2.filterMap (scheme.offence? request.1 path method)

/-- What is wrong with the security in force at an endpoint: requirement objects in order, and inside an object the
schemes in order. -/
def Endpoint.offences (e : Endpoint) (api : Description) (mode : BasePathMode) : List CompileError :=
  match api.securityDefinitions, e.security? api with
  | some definitions, some (.requirements objects) =>
    objects.flatMap fun object =>
      object.flatMap (SecurityScheme.offences definitions (mode.front api.basePath ++ e.path) e.method)
  | _, _ => []

/-- What is wrong with the security of a description, endpoint by endpoint. -/
def Description.offences (api : Description) (mode : BasePathMode) : List CompileError :=
  api.endpoints.flatMap fun e => e.offences api mode

theorem SecurityScheme.offence?_isSome_iff {scheme : SecurityScheme} {name path : String} {method : Method}
    {requested : Json} :
    (scheme.offence? name path method requested).isSome ↔
      ∀ text ∈ OrderedMap.keys scheme.scopes, requested ≠ .string text := by
  cases requested with
  | string s =>
    rw [offence?]
    split
    · next h => exact ⟨fun e => (nomatch e), fun e => absurd rfl (e s h)⟩
    · next h => exact ⟨fun _ text ht e => h (Json.string.inj e ▸ ht), fun _ => rfl⟩
  | _ => exact ⟨fun _ _ _ e => (nomatch e), fun _ => rfl⟩

/-- A request for a scheme that is not defined, or for a scope that is no text or none that the scheme declares. -/
inductive SecurityScheme.Refused (definitions : OrderedMap String SecurityScheme) (request : String × List Json) : Prop
  | scheme (unknown : OrderedMap.get? definitions request.1 = none)
  | scope (scheme : SecurityScheme) (requested : Json) (defined : OrderedMap.get? definitions request.1 = some scheme)
      (mem : requested ∈ request.2) (unknown : ∀ text ∈ OrderedMap.keys scheme.scopes, requested ≠ .string text)

theorem SecurityScheme.exists_mem_offences_iff {definitions : OrderedMap String SecurityScheme} (path : String)
    (method : Method) {request : String × List Json} :
    (∃ err, err ∈ offences definitions path method request) ↔ Refused definitions request := by
  rw [offences]
  cases defined : OrderedMap.get? definitions request.1 with
  | none => exact ⟨fun _ => .scheme defined, fun _ => ⟨_, List.mem_singleton.2 rfl⟩⟩
  | some scheme =>
    simp only [List.mem_filterMap]
    constructor
    · rintro ⟨err, requested, mem, he⟩
      exact .scope scheme requested defined mem (offence?_isSome_iff.1 (Option.isSome_of_eq_some he))
    · intro refused
      cases refused with
      | scheme unknown => rw [defined] at unknown; cases unknown
      | scope found requested hd mem unknown =>
        obtain rfl := Option.some.inj (defined.symm.trans hd)
        obtain ⟨err, he⟩ := Option.isSome_iff_exists.1 (offence?_isSome_iff.2 unknown)
        exact ⟨err, requested, mem, he⟩

/-- There is something wrong at an endpoint exactly when the security in force there holds a refused request. -/
theorem Endpoint.exists_mem_offences_iff {e : Endpoint} {api : Description} {mode : BasePathMode} :
    (∃ err, err ∈ e.offences api mode) ↔
      ∃ definitions, api.securityDefinitions = some definitions ∧
        ∃ objects, e.security? api = some (.requirements objects) ∧
          ∃ object ∈ objects, ∃ request ∈ object, SecurityScheme.Refused definitions request := by
  rw [offences]
  cases api.securityDefinitions with
  | none => simp
  | some definitions =>
    cases e.security? api with
    | none => simp
    | some declaration =>
      cases declaration with
      | malformed value => simp
      | requirements objects =>
        simp only [List.mem_flatMap, Option.some.injEq, SecurityDeclaration.requirements.injEq, exists_eq_left',
          ← SecurityScheme.exists_mem_offences_iff (mode.front api.basePath ++ e.path) e.method]
        constructor
        · rintro ⟨err, object, ho, request, hr, he⟩
          exact ⟨object, ho, request, hr, err, he⟩
        · rintro ⟨object, ho, request, hr, err, he⟩
          exact ⟨err, object, ho, request, hr, he⟩

theorem Description.exists_mem_offences_iff {api : Description} {mode : BasePathMode} :
    (∃ err, err ∈ api.offences mode) ↔
      ∃ definitions, api.securityDefinitions = some definitions ∧
        ∃ e ∈ api.endpoints, ∃ objects, e.security? api = some (.requirements objects) ∧
          ∃ object ∈ objects, ∃ request ∈ object, SecurityScheme.Refused definitions request := by
  simp only [offences, List.mem_flatMap]
  constructor
  · rintro ⟨err, e, mem, he⟩
    obtain ⟨definitions, defined, refused⟩ := Endpoint.exists_mem_offences_iff.1 ⟨err, he⟩
    exact ⟨definitions, defined, e, mem, refused⟩
  · rintro ⟨definitions, defined, e, mem, refused⟩
    obtain ⟨err, he⟩ := Endpoint.exists_mem_offences_iff.2 ⟨definitions, defined, refused⟩
    exact ⟨err, e, mem, he⟩

namespace SecurityContext

theorem fault?_scope (scheme : SecurityScheme) (name path : String) (method : Method) (requested : Json) :
    fault? (scope scheme name path method requested) = scheme.offence? name path method requested := by
  cases requested with
  | string s =>
    rw [scope, SecurityScheme.offence?]
    simp only [SecurityScheme.hasScope_iff]
    split <;> rfl
  | _ => rfl

theorem fault?_entry (ctx : SecurityContext) (definitions : OrderedMap String SecurityScheme) (path : String)
    (method : Method) (request : String × List Json) :
    fault? (ctx.entry definitions path method request).value =
      (SecurityScheme.offences definitions path method request).head? := by
  rw [value_entry, SecurityScheme.offences]
  cases OrderedMap.get? definitions request.1 with
  | none => rfl
  | some scheme =>
    dsimp only
    rw [fault?_map, fault?_mapM, List.head?_filterMap]
    simp only [fault?_scope]

end SecurityContext

namespace Compiler

theorem fault?_compiledSecurity (c : Compiler) (api : Description) (site : Site) :
    fault? (c.compiledSecurity api site) = (site.endpoint.offences api c.config.basePathMode).head? := by
  rw [compiledSecurity, declaredSecurity_eq, SecurityContext.value_requirements, routePath_eq, Endpoint.offences]
  cases api.securityDefinitions with
  | none => rfl
  | some definitions =>
    cases site.endpoint.security? api with
    | none => rfl
    | some declaration =>
      cases declaration with
      | malformed value => rfl
      | requirements objects =>
        dsimp only
        simp only [fault?_map, fault?_mapM, SecurityContext.fault?_entry, List.head?_flatMap]
        rfl

/-- The error of compilation is the first offence in document order. -/
theorem fault?_compile_eq (c : Compiler) (api : Description) :
    fault? (c.compile api).value = (api.offences c.config.basePathMode).head? := by
  rw [fault?_compile, Description.offences, Description.endpoints_eq, List.head?_flatMap, List.findSome?_map]
  simp only [fault?_compiledSecurity]
  rfl

/-- Compilation fails exactly when the security in force at some endpoint holds a refused request, and then as the first
offence in document order says.  A compiler with the same base path mode fails alike, whatever else it holds. -/
theorem compile_eq_error_iff (c : Compiler) (api : Description) :
    ((∃ err, (c.compile api).value = .error err) ↔
      ∃ definitions, api.securityDefinitions = some definitions ∧
        ∃ e ∈ api.endpoints, ∃ objects, e.security? api = some (.requirements objects) ∧
          ∃ object ∈ objects, ∃ request ∈ object, SecurityScheme.Refused definitions request) ∧
      (∀ err, (c.compile api).value = .error err ↔ (api.offences c.config.basePathMode).head? = some err) ∧
      ∀ (other : Compiler) (err : CompileError),
        ({ other with config := { other.config with basePathMode := c.config.basePathMode } }.compile api).value =
            .error err ↔
          (c.compile api).value = .error err := by
  have first : ∀ (c : Compiler) (err : CompileError),
      (c.compile api).value = .error err ↔ (api.offences c.config.basePathMode).head? = some err := by
    intro c err
    rw [← fault?_eq_some_iff, fault?_compile_eq]
  refine ⟨?_, first c, fun other err => ?_⟩
  · rw [← @Description.exists_mem_offences_iff api c.config.basePathMode]
    simp only [first]
    rw [← Option.isSome_iff_exists, List.isSome_head?]
    exact ⟨List.exists_mem_of_ne_nil _, fun ⟨_, mem⟩ => List.ne_nil_of_mem mem⟩
  · -- the offences of both compilers are those of one base path mode
    rw [first, first]

/-- An operation that has no handler still makes compilation fail, here with a number for a scope; the scheme that is
not defined comes later in the document. -/
example :
    let c : Compiler :=
      { config := {}, validators := .presenceOnly, handlers := fun path => .error (.notFound path)
        probe := fun _ => false, authorizers := fun path => .error (.notFound path) }
    let api : Description :=
      { basePath := some "/v1/", securityDefinitions := some [("oauth2", { scopes := [("write", "")] })]
        paths := [
          ("/pets", { get := some {}, security := some (.requirements [[("oauth2", [.string "write", .int 7])]]) }),
          ("/owners", { get := some { security := some (.requirements [[("basic", [])]]) } })] }
    fault? (c.compile api).value = some (.unknownScope "7" "oauth2" "/v1/pets" ⟨"GET"⟩) := by
  decide +kernel

end Compiler

end RouteTable
