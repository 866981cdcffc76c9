import Mathlib.Data.List.TakeWhile
import RouteTable.Proofs.Compilation
import RouteTable.Schema.Engine

/-!
# What a base path changes

Two compilers that differ in their base path mode run in step: what one of them answers or reports about a path, the
other answers or reports about the path behind the base path, and all else is the same.  `Traced.under` moves the paths
of a computation; sequencing (`Traced.bind_under`, `Traced.collect_under`) carries the correspondence from each part of
the compiler to the table (`Compiler.compile_under_basePath`).
-/

namespace RouteTable

variable {α β γ δ : Type} (front : String)

namespace Text

theorem exists_dropTrailing (c : Char) (s : String) :
    ∃ dropped, s = dropTrailing c s ++ dropped ∧ ∀ ch ∈ dropped.toList, ch = c := by
  refine ⟨String.ofList (s.toList.reverse.takeWhile (· == c)).reverse, ?_, fun ch h => ?_⟩
  · rw [dropTrailing, ← String.ofList_append, ← List.reverse_append, List.takeWhile_append_dropWhile,
      List.reverse_reverse, String.ofList_toList]
  · rw [String.toList_ofList, List.mem_reverse] at h
    simpa using List.mem_takeWhile_imp h

theorem getLast?_dropTrailing (c : Char) (s : String) : (dropTrailing c s).toList.getLast? ≠ some c := by
  rw [dropTrailing, String.toList_ofList, List.getLast?_reverse]
  intro h
  have kept := List.head?_dropWhile_not (· == c) s.toList.reverse
  rw [h] at kept
  simp at kept

end Text

/-! ### Paths behind a front -/

namespace CompileError

/-- The same complaint about a path behind a front. -/
def under : CompileError → CompileError
  | unknownScheme scheme path method => unknownScheme scheme (front ++ path) method
  | unknownScope scope scheme path method => unknownScope scope scheme (front ++ path) method

end CompileError

namespace Event

/-- The same report about a route whose path is behind a front.  Reports of handlers name declared paths, and those of
modules name files. -/
def under : Event → Event
  | requirementCompiled path method scheme scopes authorize =>
    requirementCompiled (front ++ path) method scheme scopes authorize
  | schemaRefused path method parameter error => schemaRefused (front ++ path) method parameter error
  | routeDropped path method => routeDropped (front ++ path) method
  | e => e

end Event

/-- The same outline for a path behind a front. -/
def RouteOutline.under (o : RouteOutline) : RouteOutline := { o with path := front ++ o.path }

/-- The same route at a path behind a front. -/
def Route.under (r : Route) : Route := { r with path := front ++ r.path }

/-- An outcome with the path of its error, or with what it answers, behind a front. -/
def outcomeUnder (g : α → β) : Except CompileError α → Except CompileError β
  | .ok a => .ok (g a)
  | .error e => .error (e.under front)

namespace Traced

/-- A computation with its reports behind a front, and with another value. -/
def under (g : α → β) (t : Traced α) : Traced β := ⟨g t.value, t.events.map (Event.under front)⟩

variable {front}

/-- Steps that correspond one by one make computations that correspond. -/
theorem bind_under {t : Traced α} {u : Traced β} {f : α → Traced γ} {k : β → Traced δ} {g : α → β} {h : γ → δ}
    (first : u = t.under front g) (rest : ∀ a, k (g a) = (f a).under front h) :
    u >>= k = (t >>= f).under front h := by
  subst first
  calc t.under front g >>= k
      = ⟨(k (g t.value)).value, t.events.map (Event.under front) ++ (k (g t.value)).events⟩ := rfl
    _ = (t >>= f).under front h := by simp [rest, under]

theorem collect_under {step : α → Traced (Except CompileError γ)} {other : α → Traced (Except CompileError δ)}
    {g : γ → δ} (h : ∀ a, other a = (step a).under front (outcomeUnder front g)) (xs : List α) :
    collect other xs = (collect step xs).under front (outcomeUnder front (List.map g)) := by
  induction xs with
  | nil => rfl
  | cons x xs ih =>
    refine bind_under (h x) fun outcome => ?_
    cases outcome with
    | error e => rfl
    | ok c =>
      refine bind_under ih fun outcomes => ?_
      cases outcomes <;> rfl

theorem mapM_under {step other : α → Traced β} (h : ∀ a, other a = (step a).under front id) (xs : List α) :
    xs.mapM other = (xs.mapM step).under front id := by
  suffices loop : ∀ done, List.mapM.loop other xs done = (List.mapM.loop step xs done).under front id from loop []
  induction xs with
  | nil => exact fun _ => rfl
  | cons x xs ih => exact fun done => bind_under (h x) fun b => ih (b :: done)

end Traced

/-! ### Parts of the compiler -/

theorem resolve_under (kind : ModuleKind) (l : Loaders) (cwd basedir : String) (reference : Reference kind.Value)
    (method : Option Method) :
    resolve kind l cwd basedir reference method = (resolve kind l cwd basedir reference method).under front id := by
  cases reference with
  | bound value => rfl
  | module path =>
    rw [resolve_module]
    refine Traced.bind_under (g := id) rfl fun _ => ?_
    cases l.load kind (Path.absolute cwd basedir path) with
    | error e => rfl
    | ok loaded =>
      cases loaded with
      | callable value => rfl
      | exports entries =>
        cases method with
        | none => rfl
        | some m =>
          dsimp only [id_eq]
          cases OrderedMap.get? entries m.key <;> rfl

namespace SecurityContext

variable (ctx : SecurityContext)

theorem authorizerFor_under (name : String) (scheme : SecurityScheme) :
    ctx.authorizerFor name scheme = (ctx.authorizerFor name scheme).under front id := by
  rw [authorizerFor_eq]
  cases scheme.authorize with
  | some reference =>
    refine Traced.bind_under (resolve_under ..) fun found => ?_
    cases found <;> rfl
  | none =>
    cases ctx.securityRoot with
    | none => rfl
    | some root => exact resolve_under ..

theorem scope_under (scheme : SecurityScheme) (name path : String) (method : Method) (requested : Json) :
    scope scheme name (front ++ path) method requested =
      outcomeUnder front id (scope scheme name path method requested) := by
  unfold scope
  split
  · split <;> rfl
  · rfl

theorem mapM_scope_under (scheme : SecurityScheme) (name path : String) (method : Method) (requested : List Json) :
    requested.mapM (scope scheme name (front ++ path) method) =
      outcomeUnder front id (requested.mapM (scope scheme name path method)) := by
  induction requested with
  | nil => rfl
  | cons v rest ih =>
    rw [List.mapM_cons, List.mapM_cons, scope_under, ih]
    cases scope scheme name path method v with
    | error e => rfl
    | ok s => cases rest.mapM (scope scheme name path method) <;> rfl

theorem entry_under (definitions : OrderedMap String SecurityScheme) (path : String) (method : Method)
    (request : String × List Json) :
    ctx.entry definitions (front ++ path) method request =
      (ctx.entry definitions path method request).under front (outcomeUnder front id) := by
  rw [entry_eq, entry_eq]
  cases OrderedMap.get? definitions request.1 with
  | none => rfl
  | some scheme =>
    dsimp only
    rw [mapM_scope_under]
    cases request.2.mapM (scope scheme request.1 path method) with
    | error e => rfl
    | ok scopes => exact Traced.bind_under (authorizerFor_under ..) fun authorize => rfl

theorem group_under (definitions : OrderedMap String SecurityScheme) (path : String) (method : Method)
    (object : Requirement) :
    collect (ctx.entry definitions (front ++ path) method) object =
      (collect (ctx.entry definitions path method) object).under front (outcomeUnder front id) := by
  have h := Traced.collect_under (ctx.entry_under front definitions path method) object
  rwa [List.map_id_fun] at h

theorem requirements_under (definitions : Option (OrderedMap String SecurityScheme))
    (declared : Option SecurityDeclaration) (path : String) (method : Method) :
    ctx.requirements definitions declared (front ++ path) method =
      (ctx.requirements definitions declared path method).under front (outcomeUnder front id) := by
  rw [requirements_eq, requirements_eq]
  split
  · next definitions alternatives _ =>
    have groups := Traced.collect_under (ctx.group_under front definitions path method) alternatives
    rw [List.map_id_fun] at groups
    refine Traced.bind_under groups fun outcome => ?_
    cases outcome <;> rfl
  · rfl

end SecurityContext

/-- A validation that does not look at the path of a route but for its reports. -/
def Validation.PathBlind (validation : Validation) : Prop :=
  ∀ front parameters outline,
    validation parameters (outline.under front) = (validation parameters outline).under front id

theorem Validation.pathBlind_presenceOnly : presenceOnly.PathBlind := fun _ _ _ => rfl

theorem Validation.pathBlind_bySchema (engine : SchemaEngine) : (bySchema engine).PathBlind := by
  intro front parameters outline
  refine Traced.mapM_under (fun p => ?_) parameters
  rw [Validator.bySchema, Validator.bySchema]
  cases p.valueSchema? with
  | none => rfl
  | some schema =>
    dsimp only
    cases engine schema <;> rfl

namespace Compiler

variable {c : Compiler} {api : Description}

theorem explicitHandler_under (c : Compiler) (reference : Reference Handler) (method : Method) :
    c.explicitHandler reference method = (c.explicitHandler reference method).under front id := by
  rw [explicitHandler_eq]
  cases reference with
  | bound handler => rfl
  | module path =>
    dsimp only
    split
    · refine Traced.bind_under (resolve_under ..) fun found => ?_
      cases found <;> rfl
    · rfl

theorem handlerFor_under (c : Compiler) (declared : String) (method : Method) (operation : Operation) :
    c.handlerFor declared method operation = (c.handlerFor declared method operation).under front id := by
  rw [handlerFor_eq]
  cases operation.handler with
  | none => cases c.fallback declared method <;> rfl
  | some reference =>
    refine Traced.bind_under (explicitHandler_under ..) fun explicit => ?_
    cases explicit with
    | some handler => rfl
    | none =>
      dsimp only [id_eq]
      cases c.fallback declared method <;> rfl

/-- The compiler in another base path mode. -/
def withMode (c : Compiler) (mode : BasePathMode) : Compiler :=
  { c with config := { c.config with basePathMode := mode } }

/-- What is compiled of a site behind a front is what is compiled of it without, at the path behind the front. -/
theorem compileSite_under (blind : c.validators.PathBlind) {mode : BasePathMode} (site : Site)
    (moved : (c.withMode mode).routePath api site.path = front ++ c.routePath api site.path) :
    (c.withMode mode).compileSite api site =
      (c.compileSite api site).under front (outcomeUnder front (Option.map (Route.under front))) := by
  rw [compileSite_eq, compileSite_eq, moved]
  refine Traced.bind_under (SecurityContext.requirements_under ..) fun outcome => ?_
  cases outcome with
  | error e => rfl
  | ok requirements =>
    have validated := blind front (Parameter.merge site.item.parameters site.operation.parameters)
      (outline api site (c.routePath api site.path) requirements)
    refine Traced.bind_under validated fun validators => ?_
    refine Traced.bind_under (handlerFor_under ..) fun found => ?_
    cases found <;> rfl

theorem compile_under (blind : c.validators.PathBlind) {mode : BasePathMode}
    (moved : ∀ path, (c.withMode mode).routePath api path = front ++ c.routePath api path) :
    (c.withMode mode).compile api =
      (c.compile api).under front (outcomeUnder front (List.map (Route.under front))) := by
  rw [compile_eq, compile_eq]
  have sites := Traced.collect_under (fun site => compileSite_under front blind site (moved site.path)) api.sites
  refine Traced.bind_under sites fun outcome => ?_
  cases outcome with
  | error e => rfl
  | ok outcomes =>
    -- the routes among the moved outcomes are the moved routes, so there are as many
    have routes : (outcomes.map (Option.map (Route.under front))).filterMap id =
        (outcomes.filterMap id).map (Route.under front) := by
      rw [List.filterMap_map, List.map_filterMap]
      rfl
    simp only [outcomeUnder, routes, List.length_map]
    rfl

/-- A declared base path without the slashes at its end stands in front of the paths of routes, of errors and of the
reports about them, and it changes nothing else: the same operations are dropped, and every route keeps its place and
the rest of its fields. -/
theorem compile_under_basePath (c : Compiler)
    (stock : (∃ engine, c.validators = .bySchema engine) ∨ c.validators = .presenceOnly) {api : Description}
    {base : String} (declared : api.basePath = some base) :
    let front := Text.dropTrailing '/' base
    let prepending := (c.withMode .prependWhenDeclared).compile api
    let plain := (c.withMode .never).compile api
    (∃ slashes, base = front ++ slashes ∧ ∀ ch ∈ slashes.toList, ch = '/') ∧ front.toList.getLast? ≠ some '/' ∧
      prepending.value = outcomeUnder front (List.map (Route.under front)) plain.value ∧
      prepending.events = plain.events.map (Event.under front) := by
  intro front prepending plain
  have blind : (c.withMode .never).validators.PathBlind := by
    rcases stock with ⟨engine, h⟩ | h
    · exact h ▸ Validation.pathBlind_bySchema engine
    · exact h ▸ Validation.pathBlind_presenceOnly
  have run : prepending = plain.under front (outcomeUnder front (List.map (Route.under front))) := by
    refine compile_under front (c := c.withMode .never) blind fun path => ?_
    rw [Setup.routePath, Setup.routePath, declared]
    rfl
  refine ⟨Text.exists_dropTrailing '/' base, Text.getLast?_dropTrailing '/' base, ?_, ?_⟩
  · rw [run]
    rfl
  · rw [run]
    rfl

/-- The tree is asked for the declared path, so `/pets` is served from it, and `/owners`, for which it has nothing, is
dropped. -/
theorem compile_under_basePath_pets :
    let c : Compiler :=
      { config := {}, validators := .bySchema SchemaDocument.engine, probe := fun _ => false
        handlers := fun path => .error (.notFound path), authorizers := fun path => .error (.notFound path)
        tree := some (HandlerTree.empty.insertAny "/pets" .echo) }
    let api : Description :=
      { basePath := some "/v1//"
        paths := [("/pets", { get := some { operationId := some "list" } }), ("/owners", { put := some {} })] }
    ((∃ engine, c.validators = .bySchema engine) ∨ c.validators = .presenceOnly) ∧ api.basePath = some "/v1//" ∧
      ∃ route, ((c.withMode .never).compile api).value = .ok [route] ∧
        ((c.withMode .prependWhenDeclared).compile api).value = .ok [{ route with path := "/v1/pets" }] ∧
        Event.routeDropped "/v1/owners" ⟨"PUT"⟩ ∈ ((c.withMode .prependWhenDeclared).compile api).events := by
  intro c api
  have stock : (∃ engine, c.validators = .bySchema engine) ∨ c.validators = .presenceOnly := .inl ⟨_, rfl⟩
  obtain ⟨-, -, value, events⟩ := @compile_under_basePath c stock api "/v1//" rfl
  have front : Text.dropTrailing '/' "/v1//" = "/v1" := by decide +kernel
  have plain : ((c.withMode .never).compile api).value = .ok _ := rfl
  have dropped : Event.routeDropped "/owners" ⟨"PUT"⟩ ∈ ((c.withMode .never).compile api).events := by decide +kernel
  rw [front] at value events
  rw [plain] at value
  refine ⟨stock, rfl, _, plain, value, ?_⟩
  rw [events]
  exact List.mem_map_of_mem dropped

end Compiler

end RouteTable
