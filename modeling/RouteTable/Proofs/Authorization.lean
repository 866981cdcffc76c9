import RouteTable.Proofs.Requirements

/-!
# Who may call a route

`Compiler.Permits` says when an endpoint lets credentials pass, read off the description alone: without definitions,
without a list of requirement objects, for an empty list, or when one object is accepted as a whole.  An object is
accepted with the scopes it asks for itself, so the merged map of a route has no say (`Emits.authorize_iff`).
-/

namespace RouteTable

variable {α β : Type}

private theorem forall_mem_iff_of_forall₂ {R : α → β → Prop} {P : α → Prop} {Q : β → Prop} {l : List α} {m : List β}
    (h : List.Forall₂ R l m) (hR : ∀ a b, R a b → (P a ↔ Q b)) : (∀ a ∈ l, P a) ↔ ∀ b ∈ m, Q b := by
  induction h with
  | nil => simp
  | cons head _ ih => rw [List.forall_mem_cons, List.forall_mem_cons, hR _ _ head, ih]

private theorem exists_mem_iff_of_forall₂ {R : α → β → Prop} {P : α → Prop} {Q : β → Prop} {l : List α} {m : List β}
    (h : List.Forall₂ R l m) (hR : ∀ a b, R a b → (P a ↔ Q b)) : (∃ a ∈ l, P a) ↔ ∃ b ∈ m, Q b := by
  induction h with
  | nil => simp
  | cons head _ ih => rw [List.exists_mem_cons_iff, List.exists_mem_cons_iff, hR _ _ head, ih]

theorem SecurityEntry.check_getD_iff {e : SecurityEntry} {scheme : String} {cred : Credentials} :
    (e.check scheme cred).getD true = true ↔
      ∀ authorizer, e.authorize = some authorizer → authorizer.accepts scheme e.scopes cred = true := by
  rw [check]
  cases e.authorize with
  | none => exact iff_of_true rfl fun _ h => (nomatch h)
  | some authorizer =>
    exact ⟨fun h _ same => Option.some.inj same ▸ h, fun h => h authorizer rfl⟩

namespace SecurityContext

variable {ctx : SecurityContext} {definitions : OrderedMap String SecurityScheme} {cred : Credentials}

/-- A scheme accepts credentials for the scopes asked of it, unless it has no authorizer. -/
def SchemeAccepts (ctx : SecurityContext) (definitions : OrderedMap String SecurityScheme) (cred : Credentials)
    (request : String × List Json) : Prop :=
  ∃ scheme scopes, OrderedMap.get? definitions request.1 = some scheme ∧ request.2 = scopes.map .string ∧
    ∀ authorizer, ctx.authorizer? request.1 scheme = some authorizer →
      authorizer.accepts request.1 scopes cred = true

theorem Compiles.check_iff {request : String × List Json} {entry : String × SecurityEntry}
    (h : ctx.Compiles definitions request entry) :
    (entry.2.check entry.1 cred).getD true = true ↔ ctx.SchemeAccepts definitions cred request := by
  obtain ⟨scheme, defined, -, authorized⟩ := h.scheme
  rw [SecurityEntry.check_getD_iff, h.name, authorized]
  constructor
  · intro accepted
    exact ⟨scheme, _, defined, h.scopes, accepted⟩
  · rintro ⟨_, scopes, hs, asked, accepted⟩
    obtain rfl := Option.some.inj (defined.symm.trans hs)
    have same : entry.2.scopes = scopes :=
      List.map_injective_iff.2 (fun _ _ => Json.string.inj) (h.scopes.symm.trans asked)
    rwa [same]

theorem admits_iff {object : Requirement} {group : SecurityMap}
    (h : List.Forall₂ (ctx.Compiles definitions) object group) :
    group.admits cred = true ↔ ∀ request ∈ object, ctx.SchemeAccepts definitions cred request := by
  rw [SecurityMap.admits, List.all_eq_true]
  exact (forall_mem_iff_of_forall₂ h fun request entry kept => kept.check_iff.symm).symm

end SecurityContext

namespace Compiler

variable {c : Compiler} {api : Description} {cred : Credentials}

/-- When an endpoint lets credentials pass. -/
inductive Permits (c : Compiler) (api : Description) (e : Endpoint) (cred : Credentials) : Prop
  | noDefinitions (missing : api.securityDefinitions = none)
  | undeclared (missing : e.security? api = none)
  | malformed (value : Json) (declared : e.security? api = some (.malformed value))
  | noObjects (declared : e.security? api = some (.requirements []))
  | object (definitions : OrderedMap String SecurityScheme) (objects : List Requirement) (object : Requirement)
      (defined : api.securityDefinitions = some definitions)
      (declared : e.security? api = some (.requirements objects)) (mem : object ∈ objects)
      (accepted : ∀ request ∈ object, c.securityContext.SchemeAccepts definitions cred request)

theorem permits_iff {e : Endpoint} {definitions : OrderedMap String SecurityScheme} {objects : List Requirement}
    (defined : api.securityDefinitions = some definitions)
    (declared : e.security? api = some (.requirements objects)) :
    c.Permits api e cred ↔ objects = [] ∨
      ∃ object ∈ objects, ∀ request ∈ object, c.securityContext.SchemeAccepts definitions cred request := by
  constructor
  · intro h
    cases h with
    | noDefinitions missing => rw [defined] at missing; cases missing
    | undeclared missing => rw [declared] at missing; cases missing
    | malformed value h => rw [declared] at h; cases h
    | noObjects h =>
      rw [declared] at h
      cases h
      exact Or.inl rfl
    | object _ _ object hd h mem accepted =>
      rw [declared] at h
      rw [defined] at hd
      cases h
      cases hd
      exact Or.inr ⟨object, mem, accepted⟩
  · rintro (rfl | ⟨object, mem, accepted⟩)
    · exact .noObjects declared
    · exact .object definitions objects object defined declared mem accepted

theorem authorize_routeOf (c : Compiler) (api : Description) (site : Site)
    (requirements : Option (List SecurityMap)) (handler : Handler) (cred : Credentials) :
    (c.routeOf api site requirements handler).authorize cred =
      match requirements with
      | none => true
      | some groups => groups.isEmpty || groups.any (·.admits cred) := by
  cases requirements <;> rfl

theorem Emits.authorize_iff {site : Site} {route : Route} (h : c.Emits api site route) :
    route.authorize cred = true ↔ c.Permits api site.endpoint cred := by
  obtain ⟨secured, -⟩ := h
  rw [compiledSecurity, declaredSecurity_eq] at secured
  rw [authorize_routeOf]
  -- an open route has no requirement objects at all; the last case alone compares objects with their maps
  cases defined : api.securityDefinitions with
  | none =>
    rw [defined, SecurityContext.value_requirements] at secured
    obtain rfl := Except.ok.inj secured
    exact iff_of_true rfl (.noDefinitions defined)
  | some definitions =>
    cases declared : site.endpoint.security? api with
    | none =>
      rw [defined, declared, SecurityContext.value_requirements] at secured
      obtain rfl := Except.ok.inj secured
      exact iff_of_true rfl (.undeclared declared)
    | some declaration =>
      rw [defined, declared] at secured
      cases declaration with
      | malformed value =>
        rw [SecurityContext.value_requirements] at secured
        obtain rfl := Except.ok.inj secured
        exact iff_of_true rfl (.malformed value declared)
      | requirements objects =>
        obtain ⟨groups, rfl, kept⟩ := SecurityContext.forall₂_compiles secured
        have empty : groups.isEmpty = true ↔ objects = [] := by
          rw [List.isEmpty_iff, ← List.length_eq_zero_iff, ← kept.length_eq, List.length_eq_zero_iff]
        have some_admits : groups.any (·.admits cred) = true ↔
            ∃ object ∈ objects, ∀ request ∈ object, c.securityContext.SchemeAccepts definitions cred request := by
          rw [List.any_eq_true]
          exact (exists_mem_iff_of_forall₂ kept fun object group kept =>
            (SecurityContext.admits_iff kept).symm).symm
        rw [permits_iff defined declared, ← empty, ← some_admits]
        exact Bool.or_eq_true_iff

/-- Every route of a table lets credentials pass exactly when the endpoint that it comes from permits them. -/
theorem forall₂_authorize_iff {routes : List Route} (ok : (c.compile api).value = .ok routes) :
    List.Forall₂
      (fun e route => (route.path = c.pathOf api e ∧ route.method = e.method) ∧
        ∀ cred, route.authorize cred = true ↔ c.Permits api e cred)
      (api.endpoints.filter fun e => (c.handler? e).isSome) routes := by
  rw [filter_endpoints, List.forall₂_map_left_iff]
  refine (forall₂_of_compile_ok ok).imp fun site route h => ⟨?_, fun cred => h.authorize_iff⟩
  have row := h.row
  rw [Prod.mk.injEq, Prod.mk.injEq] at row
  exact ⟨row.1, row.2.1⟩

/-- A scheme that two objects name is asked for the scopes of each: `GET` is open to everyone by the object without
scopes, although the merged map of the route holds the scope that the other object asks for. -/
theorem authorize_iff_of_two_objects :
    let unscoped : Authorizer := ⟨.given "unscoped", fun _ scopes _ => scopes.isEmpty⟩
    let c : Compiler :=
      { config := { securityRoot := some "security" }, validators := .presenceOnly
        handlers := fun path => .error (.notFound path), probe := fun _ => false
        authorizers := fun _ => .ok (.callable unscoped), defaultHandler := some .echo }
    let api : Description :=
      { securityDefinitions := some [("oauth2", { scopes := [("write", "")] })]
        security := some (.requirements [[("oauth2", [.string "write"])]])
        paths := [("/pets",
          { get := some { security := some (.requirements [[("oauth2", [])], [("oauth2", [.string "write"])]]) }
            post := some {} })] }
    ∃ get post, (c.compile api).value = .ok [get, post] ∧
      get.security.map (OrderedMap.mapValues (·.scopes)) = some [("oauth2", ["write"])] ∧
      ∀ cred, get.authorize cred = true ∧ post.authorize cred = false := by
  intro unscoped c api
  have ok : (c.compile api).value = .ok _ := rfl
  have permitted := forall₂_authorize_iff ok
  obtain _ | ⟨⟨-, get⟩, _ | ⟨⟨-, post⟩, -⟩⟩ := permitted
  refine ⟨_, _, ok, rfl, fun cred => ⟨(get cred).2 ?_, ?_⟩⟩
  · -- by the first object, which asks for no scope
    refine .object _ _ [("oauth2", [])] rfl rfl (by simp) fun request mem => ?_
    obtain rfl := List.mem_singleton.1 mem
    refine ⟨_, [], rfl, rfl, fun authorizer found => ?_⟩
    obtain rfl := Option.some.inj found
    rfl
  · -- `POST` inherits one object, and that asks for the scope
    rw [← Bool.not_eq_true, post cred, permits_iff rfl rfl]
    rintro (none | ⟨object, mem, accepted⟩)
    · cases none
    · obtain rfl := List.mem_singleton.1 mem
      obtain ⟨_, scopes, defined, asked, accepted⟩ := accepted _ (List.mem_singleton.2 rfl)
      obtain rfl := Option.some.inj defined
      obtain rfl : ["write"] = scopes := List.map_injective_iff.2 (fun _ _ => Json.string.inj) asked
      exact Bool.false_ne_true (accepted unscoped rfl)

end Compiler

end RouteTable
