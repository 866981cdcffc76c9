import RouteTable.Proofs.Compilation

/-!
# What requirement objects compile to

An entry of a requirement object is compiled when its scheme is defined and its scopes are texts that the scheme
declares (`SecurityContext.Compiles`).  The requirement objects of a site compile entry by entry
(`SecurityContext.forall₂_compiles`), and only under security definitions and a list of objects
(`SecurityContext.value_requirements`).  `Endpoint.security?` is the declaration that counts for an endpoint.
-/

namespace RouteTable

/-- The security in force at an endpoint: that of its operation, without one that of its path item, and without one
there that of the description. -/
def Endpoint.security? (e : Endpoint) (api : Description) : Option SecurityDeclaration :=
  match e.operation.security, e.item.security with
  | some declared, _ => some declared
  | none, some declared => some declared
  | none, none => api.security

theorem Compiler.declaredSecurity_eq (api : Description) (site : Site) :
    declaredSecurity api site = site.endpoint.security? api := by
  rw [declaredSecurity, Endpoint.security?, Site.endpoint]
  cases site.operation.security with
  | some declared => rfl
  | none => cases site.item.security <;> rfl

theorem SecurityScheme.hasScope_iff {scheme : SecurityScheme} {scope : String} :
    scheme.hasScope scope ↔ scope ∈ OrderedMap.keys scheme.scopes := OrderedMap.isSome_get?_iff

namespace SecurityContext

variable {ctx : SecurityContext} {definitions : OrderedMap String SecurityScheme} {path : String} {method : Method}

theorem scope_eq_ok_iff {scheme : SecurityScheme} {name text : String} {requested : Json} :
    scope scheme name path method requested = .ok text ↔
      requested = .string text ∧ text ∈ OrderedMap.keys scheme.scopes := by
  rw [← SecurityScheme.hasScope_iff]
  cases requested with
  | string s =>
    rw [scope, Json.string.injEq]
    split
    · next h =>
      rw [Except.ok.injEq]
      exact ⟨fun e => ⟨e, e ▸ h⟩, And.left⟩
    · next h => exact ⟨fun e => (nomatch e), fun e => absurd (e.1 ▸ e.2) h⟩
  | _ => exact ⟨fun e => (nomatch e), fun e => (nomatch e.1)⟩

theorem mapM_scope_eq_ok_iff {scheme : SecurityScheme} {name : String} {requested : List Json} {scopes : List String} :
    requested.mapM (scope scheme name path method) = .ok scopes ↔
      requested = scopes.map .string ∧ ∀ text ∈ scopes, text ∈ OrderedMap.keys scheme.scopes := by
  rw [mapM_eq_ok_iff]
  simp only [scope_eq_ok_iff]
  constructor
  · intro h
    induction h with
    | nil => exact ⟨rfl, fun _ h => (nomatch h)⟩
    | cons head _ ih =>
      obtain ⟨rfl, hs⟩ := head
      refine ⟨by rw [ih.1]; rfl, ?_⟩
      intro text ht
      rcases List.mem_cons.1 ht with rfl | ht
      · exact hs
      · exact ih.2 text ht
  · rintro ⟨rfl, h⟩
    rw [List.forall₂_map_left_iff]
    exact List.forall₂_same.2 fun text ht => ⟨rfl, h text ht⟩

theorem value_entry (ctx : SecurityContext) (definitions : OrderedMap String SecurityScheme) (path : String)
    (method : Method) (request : String × List Json) :
    (ctx.entry definitions path method request).value =
      match OrderedMap.get? definitions request.1 with
      | none => .error (.unknownScheme request.1 path method)
      | some scheme =>
        (request.2.mapM (scope scheme request.1 path method)).map fun scopes =>
          (request.1, ⟨scopes, ctx.authorizer? request.1 scheme⟩) := by
  rw [entry_eq]
  cases OrderedMap.get? definitions request.1 with
  | none => rfl
  | some scheme =>
    dsimp only
    cases request.2.mapM (scope scheme request.1 path method) with
    | error e => rfl
    | ok scopes => simp only [Except.map, Traced.value_bind, Traced.value_pure, value_authorizerFor]

/-- What a compiled entry keeps of the request for a scheme. -/
structure Compiles (ctx : SecurityContext) (definitions : OrderedMap String SecurityScheme)
    (request : String × List Json) (entry : String × SecurityEntry) : Prop where
  name : entry.1 = request.1
  scopes : request.2 = entry.2.scopes.map .string
  scheme : ∃ scheme, OrderedMap.get? definitions request.1 = some scheme ∧
    (∀ text ∈ entry.2.scopes, text ∈ OrderedMap.keys scheme.scopes) ∧
    entry.2.authorize = ctx.authorizer? request.1 scheme

theorem compiles_of_entry_ok {request : String × List Json} {entry : String × SecurityEntry}
    (ok : (ctx.entry definitions path method request).value = .ok entry) : ctx.Compiles definitions request entry := by
  rw [value_entry] at ok
  cases defined : OrderedMap.get? definitions request.1 with
  | none => rw [defined] at ok; cases ok
  | some scheme =>
    simp only [defined, map_eq_ok_iff] at ok
    obtain ⟨scopes, asked, rfl⟩ := ok
    obtain ⟨texts, declared⟩ := mapM_scope_eq_ok_iff.1 asked
    exact ⟨rfl, texts, scheme, defined, declared, rfl⟩

theorem value_requirements (ctx : SecurityContext) (definitions : Option (OrderedMap String SecurityScheme))
    (declared : Option SecurityDeclaration) (path : String) (method : Method) :
    (ctx.requirements definitions declared path method).value =
      match definitions, declared with
      | some definitions, some (.requirements objects) =>
        (objects.mapM fun object : Requirement => object.mapM fun request =>
          (ctx.entry definitions path method request).value).map some
      | _, _ => .ok none := by
  rw [requirements_eq]
  cases definitions with
  | none => rfl
  | some definitions =>
    cases declared with
    | none => rfl
    | some declared =>
      cases declared with
      | malformed value => rfl
      | requirements objects =>
        simp only [Option.bind_some, SecurityDeclaration.requirements?, Traced.value_bind, Traced.value_pure,
          Traced.value_collect]

/-- Compiled requirement objects keep every request of every object, in place. -/
theorem forall₂_compiles {objects : List Requirement} {requirements : Option (List SecurityMap)}
    (ok : (ctx.requirements (some definitions) (some (.requirements objects)) path method).value = .ok requirements) :
    ∃ groups, requirements = some groups ∧ List.Forall₂ (List.Forall₂ (ctx.Compiles definitions)) objects groups := by
  rw [value_requirements] at ok
  obtain ⟨groups, h, rfl⟩ := map_eq_ok_iff.1 ok
  refine ⟨groups, rfl, (mapM_eq_ok_iff.1 h).imp fun object group ok => ?_⟩
  exact (mapM_eq_ok_iff.1 ok).imp fun request entry ok => compiles_of_entry_ok ok

end SecurityContext

end RouteTable
