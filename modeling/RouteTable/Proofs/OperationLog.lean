import RouteTable.Proofs.Fallthrough
import RouteTable.Proofs.Offences
import RouteTable.Proofs.Reporting

/-!
# The log accounts for every operation

The compiler's own events are its warnings about an `x-handler`, the outcomes of operations and the summary; whatever
else is reported while it works comes from the requirements, the validators and the modules.  `Compiler.Tells` says what
the compiler itself reports of one endpoint: at most one warning, and then the outcome.  A compilation visits the
endpoints one by one and, if none fails, ends with the summary (`Compiler.log_of_compile`).
-/

namespace RouteTable

/-- The events that the compiler reports itself. -/
def ownEvents (events : List Event) : List Event := events.filter fun e => e.component = .compiler

@[simp] theorem ownEvents_append (a b : List Event) : ownEvents (a ++ b) = ownEvents a ++ ownEvents b :=
  List.filter_append ..

theorem mem_ownEvents {event : Event} {events : List Event} :
    event ∈ ownEvents events ↔ event ∈ events ∧ event.component = .compiler := by
  simp [ownEvents]

theorem ownEvents_of_only {t : Traced α} (h : t.Only Event.Aside) : ownEvents t.events = [] := by
  rw [ownEvents, List.filter_eq_nil_iff]
  exact fun e mem own => h.holds e mem (of_decide_eq_true own)

/-- What happens at one endpoint: the route it gets, if any, and what is reported while its requirements are compiled,
its validators are made and its handler is looked for. -/
structure Visit where
  route : Option Route
  security : List Event
  validation : List Event
  handling : List Event

def Visit.events (v : Visit) : List Event := v.security ++ v.validation ++ v.handling

namespace Compiler

variable {c : Compiler} {api : Description}

/-- The warning that an endpoint calls for: one if it has an `x-handler` that is not honoured, which is about the module
that is missing under the handler root, or else about the reference that does not resolve. -/
inductive Warns (c : Compiler) (e : Endpoint) : List Event → Prop
  | none (undeclared : e.operation.handler = none) : Warns c e []
  | missing (path : String) (declared : e.operation.handler = some (.module path))
      (absent : c.probe (Path.absolute c.cwd c.handlerRoot path) = false) :
      Warns c e [.handlerModuleMissing (Path.absolute c.cwd c.handlerRoot path) e.method]
  | unresolved (path : String) (declared : e.operation.handler = some (.module path))
      (present : c.probe (Path.absolute c.cwd c.handlerRoot path) = true)
      (ignored : ∀ handler, ¬ c.Honours e.method (.module path) handler) :
      Warns c e [.handlerUnresolved (Reference.module path).describe e.method]

/-- What the compiler itself reports of an endpoint, which ends with the outcome: a route whose handler is that of an
honoured `x-handler`, a route whose handler a strategy supplies, or no route. -/
inductive Tells (c : Compiler) (api : Description) (e : Endpoint) : Option Route → List Event → Prop
  | honoured (route : Route) (reference : Reference Handler) (declared : e.operation.handler = some reference)
      (honoured : c.Honours e.method reference route.handler)
      (row : (route.path, route.method) = (c.pathOf api e, e.method)) :
      Tells c api e (some route) [.handlerResolved e.path e.method .operation]
  | supplied (route : Route) (warnings : List Event) (strategy : Strategy) (warned : c.Warns e warnings)
      (supplied : c.fallback e.path e.method = some (strategy, route.handler))
      (row : (route.path, route.method) = (c.pathOf api e, e.method)) :
      Tells c api e (some route) (warnings ++ [.handlerResolved e.path e.method (.strategy strategy)])
  | dropped (warnings : List Event) (warned : c.Warns e warnings)
      (nothing : c.fallback e.path e.method = none) :
      Tells c api e none (warnings ++ [.routeDropped (c.pathOf api e) e.method])

/-- A visit of an endpoint: the compiler itself reports nothing about requirements, leaves the validators to report what
they like, and then tells what became of the endpoint. -/
structure Accounts (c : Compiler) (api : Description) (e : Endpoint) (visit : Visit) : Prop where
  security : ownEvents visit.security = []
  validation : ∃ outline : RouteOutline, (outline.path, outline.method) = (c.pathOf api e, e.method) ∧
    visit.validation = (c.validators (Parameter.merge e.item.parameters e.operation.parameters) outline).events
  handling : c.Tells api e visit.route (ownEvents visit.handling)

/-! ### One endpoint -/

theorem ownEvents_explicitHandler_of_honours {method : Method} {reference : Reference Handler} {handler : Handler}
    (honoured : c.Honours method reference handler) : ownEvents (c.explicitHandler reference method).events = [] := by
  cases honoured with
  | bound handler => rfl
  | module path handler present resolved =>
    have resolving := ownEvents_of_only (only_resolve .handler c.toLoaders c.cwd c.basedir (.module path) (some method))
    rw [explicitHandler_eq]
    simp [present, resolved, resolving]

theorem warns_explicitHandler {e : Endpoint} {reference : Reference Handler}
    (declared : e.operation.handler = some reference) (ignored : c.named? e.method reference = none) :
    c.Warns e (ownEvents (c.explicitHandler reference e.method).events) := by
  cases reference with
  | bound handler => nomatch ignored
  | module path =>
    rw [explicitHandler_eq]
    cases present : c.probe (Path.absolute c.cwd c.handlerRoot path) with
    | false =>
      simp only [present]
      exact .missing path declared present
    | true =>
      have resolving :=
        ownEvents_of_only (only_resolve .handler c.toLoaders c.cwd c.basedir (.module path) (some e.method))
      have unresolved :
          (resolve .handler c.toLoaders c.cwd c.basedir (.module path) (some e.method)).value = none := by
        rw [named?, if_pos present] at ignored
        exact (value_resolve ..).trans ignored
      simp only [present, if_true, Traced.events_bind, unresolved, ownEvents_append, resolving, List.nil_append]
      refine .unresolved path declared present fun handler honoured => ?_
      rw [honours_iff, ignored] at honoured
      cases honoured

theorem ownEvents_handlerFor_of_honours {e : Endpoint} {reference : Reference Handler} {handler : Handler}
    (declared : e.operation.handler = some reference) (honoured : c.Honours e.method reference handler) :
    ownEvents (c.handlerFor e.path e.method e.operation).events = [.handlerResolved e.path e.method .operation] := by
  have silent := ownEvents_explicitHandler_of_honours honoured
  rw [handlerFor_eq, declared]
  simp only [Traced.events_bind, value_explicitHandler, honours_iff.1 honoured, ownEvents_append, silent]
  rfl

/-- Without an `x-handler` that is honoured there may be a warning first, and then the strategies decide. -/
theorem exists_warns_handlerFor {e : Endpoint}
    (ignored : ∀ reference handler, e.operation.handler = some reference → ¬ c.Honours e.method reference handler) :
    ∃ warnings, c.Warns e warnings ∧
      ownEvents (c.handlerFor e.path e.method e.operation).events =
        warnings ++ ((c.fallback e.path e.method).map fun found =>
          Event.handlerResolved e.path e.method (.strategy found.1)).toList := by
  cases declared : e.operation.handler with
  | none =>
    refine ⟨[], .none declared, ?_⟩
    rw [handlerFor_eq, declared]
    cases c.fallback e.path e.method <;> rfl
  | some reference =>
    have unnamed : c.named? e.method reference = none := by
      rw [Option.eq_none_iff_forall_ne_some]
      exact fun handler h => ignored reference handler declared (honours_iff.2 h)
    refine ⟨_, warns_explicitHandler declared unnamed, ?_⟩
    rw [handlerFor_eq, declared]
    simp only [Traced.events_bind, value_explicitHandler, unnamed, ownEvents_append]
    cases c.fallback e.path e.method <;> rfl

theorem tells_handlerFor_of_found {e : Endpoint} (route : Route) (found : c.handler? e = some route.handler)
    (row : (route.path, route.method) = (c.pathOf api e, e.method)) :
    c.Tells api e (some route) (ownEvents (c.handlerFor e.path e.method e.operation).events) := by
  by_cases honoured : ∃ reference handler, e.operation.handler = some reference ∧ c.Honours e.method reference handler
  · obtain ⟨reference, handler, declared, honoured⟩ := honoured
    rw [handler?, handlerOf?_of_honours declared honoured] at found
    rw [ownEvents_handlerFor_of_honours declared honoured]
    exact .honoured route reference declared (Option.some.inj found ▸ honoured) row
  · have ignored : ∀ reference handler, e.operation.handler = some reference →
        ¬ c.Honours e.method reference handler := fun reference handler declared h =>
      honoured ⟨reference, handler, declared, h⟩
    obtain ⟨warnings, warned, own⟩ := exists_warns_handlerFor ignored
    rw [handler?, handlerOf?_of_not_honours ignored, ← map_fallback, Option.map_eq_some_iff] at found
    obtain ⟨⟨strategy, handler⟩, supplied, rfl⟩ := found
    rw [own, supplied]
    exact .supplied route warnings strategy warned supplied row

theorem tells_handlerFor_of_dropped {e : Endpoint} (dropped : c.handler? e = none) :
    c.Tells api e none
      (ownEvents (c.handlerFor e.path e.method e.operation).events ++ [.routeDropped (c.pathOf api e) e.method]) := by
  have ignored : ∀ reference handler, e.operation.handler = some reference →
      ¬ c.Honours e.method reference handler := by
    intro reference handler declared honoured
    rw [handler?, handlerOf?_of_honours declared honoured] at dropped
    cases dropped
  obtain ⟨warnings, warned, own⟩ := exists_warns_handlerFor ignored
  rw [handler?, handlerOf?_of_not_honours ignored, ← map_fallback, Option.map_eq_none_iff] at dropped
  rw [own, dropped, Option.map_none, Option.toList_none, List.append_nil]
  exact .dropped warnings warned dropped

/-- The visit of a site whose requirements compile. -/
def visit (c : Compiler) (api : Description) (site : Site) (requirements : Option (List SecurityMap)) : Visit where
  route := (c.handler? site.endpoint).map (c.routeOf api site requirements)
  security := (c.securityContext.requirements api.securityDefinitions (declaredSecurity api site)
    (c.routePath api site.path) site.verb.method).events
  validation := (c.validators (Parameter.merge site.item.parameters site.operation.parameters)
    (outline api site (c.routePath api site.path) requirements)).events
  handling := (c.handlerFor site.path site.verb.method site.operation).events ++
    match c.handler? site.endpoint with
    | some _ => []
    | none => [.routeDropped (c.routePath api site.path) site.verb.method]

theorem events_compileSite {site : Site} {requirements : Option (List SecurityMap)}
    (secured : c.compiledSecurity api site = .ok requirements) :
    (c.compileSite api site).events = (c.visit api site requirements).events := by
  have handled : (c.handlerFor site.path site.verb.method site.operation).value = c.handler? site.endpoint :=
    value_handlerFor ..
  rw [compiledSecurity] at secured
  rw [compileSite_eq, Traced.events_bind, secured]
  simp only [Traced.events_bind, handled, Visit.events, visit, List.append_assoc]
  cases c.handler? site.endpoint <;> rfl

theorem ownEvents_requirements (c : Compiler) (api : Description) (site : Site) :
    ownEvents (c.securityContext.requirements api.securityDefinitions (declaredSecurity api site)
      (c.routePath api site.path) site.verb.method).events = [] :=
  ownEvents_of_only (SecurityContext.only_requirements ..)

theorem accounts_visit (c : Compiler) (api : Description) (site : Site) (requirements : Option (List SecurityMap)) :
    c.Accounts api site.endpoint (c.visit api site requirements) := by
  have row : (c.routePath api site.path, site.verb.method) = (c.pathOf api site.endpoint, site.endpoint.method) :=
    congrArg (·, site.verb.method) (routePath_eq c api site)
  refine ⟨ownEvents_requirements .., ⟨_, row, rfl⟩, ?_⟩
  cases found : c.handler? site.endpoint with
  | some handler =>
    simp only [visit, found, Option.map_some, List.append_nil]
    exact tells_handlerFor_of_found (c.routeOf api site requirements handler) found row
  | none =>
    simp only [visit, found, Option.map_none, ownEvents_append, routePath_eq]
    exact tells_handlerFor_of_dropped found

/-- A site whose requirements fail is left before the compiler tells anything. -/
theorem ownEvents_compileSite_of_error {site : Site} {err : CompileError}
    (failed : (c.compileSite api site).value = .error err) : ownEvents (c.compileSite api site).events = [] := by
  have quiet := ownEvents_requirements c api site
  rw [value_compileSite, map_eq_error_iff, compiledSecurity] at failed
  rw [compileSite_eq, Traced.events_bind, ownEvents_append, quiet, failed]
  rfl

/-! ### A whole compilation -/

/-- Sites that compile are visited one by one. -/
theorem exists_visits {sites : List Site} {outcomes : List (Option Route)}
    (passed : List.Forall₂ (fun site outcome => (c.compileSite api site).value = .ok outcome) sites outcomes) :
    ∃ visits : List Visit, List.Forall₂ (c.Accounts api) (sites.map Site.endpoint) visits ∧
      visits.map Visit.route = outcomes ∧
      (sites.flatMap fun site => (c.compileSite api site).events) = visits.flatMap Visit.events := by
  induction passed with
  | nil => exact ⟨[], .nil, rfl, rfl⟩
  | @cons site outcome sites outcomes head _ ih =>
    obtain ⟨visits, accounts, routes, events⟩ := ih
    rw [value_compileSite, map_eq_ok_iff] at head
    obtain ⟨requirements, secured, rfl⟩ := head
    refine ⟨c.visit api site requirements :: visits, .cons (accounts_visit ..) accounts, ?_, ?_⟩
    · rw [List.map_cons, routes, visit]
    · rw [List.flatMap_cons, List.flatMap_cons, events, events_compileSite secured]

/-- A successful compilation visits every endpoint in the order of the document and then reports the summary, which
counts the routes and the endpoints without one.  A compilation that fails visits the endpoints before the first with an
offence; what it reports after them comes from the requirements of the endpoint that fails, and there is no summary. -/
theorem log_of_compile (c : Compiler) (api : Description) :
    (∀ routes, (c.compile api).value = .ok routes →
      ∃ visits dropped, List.Forall₂ (c.Accounts api) api.endpoints visits ∧ routes = visits.filterMap Visit.route ∧
        dropped = (visits.filter fun visit => visit.route.isNone).length ∧
        routes.length + dropped = api.operationCount ∧
        (c.compile api).events =
          visits.flatMap Visit.events ++ [.tableCompiled routes.length dropped api.basePath]) ∧
      ∀ err, (c.compile api).value = .error err →
        ∃ before e after visits rest, api.endpoints = before ++ e :: after ∧
          (∀ passed ∈ before, passed.offences api c.config.basePathMode = []) ∧
          (e.offences api c.config.basePathMode).head? = some err ∧ List.Forall₂ (c.Accounts api) before visits ∧
          (c.compile api).events = visits.flatMap Visit.events ++ rest ∧ ownEvents rest = [] := by
  have value := Traced.value_collect (c.compileSite api) api.sites
  constructor
  · intro routes ok
    rw [value_compile, map_eq_ok_iff] at ok
    obtain ⟨outcomes, passed, rfl⟩ := ok
    obtain ⟨visits, accounts, made, events⟩ := exists_visits (mapM_eq_ok_iff.1 passed)
    rw [← Description.endpoints_eq] at accounts
    rw [passed] at value
    have routes : outcomes.filterMap id = visits.filterMap Visit.route := by rw [← made, List.filterMap_map]; rfl
    have counted : (outcomes.filterMap id).length + (visits.filter fun visit => visit.route.isNone).length =
        api.operationCount := by
      have split := List.length_eq_length_filter_add (l := visits) fun visit => visit.route.isSome
      simp only [Option.not_isSome] at split
      rw [routes, List.length_filterMap_eq_countP, List.countP_eq_length_filter, ← api.length_endpoints,
        accounts.length_eq, split]
    have all : outcomes.length = api.operationCount := by
      rw [← api.length_endpoints, accounts.length_eq, ← made, List.length_map]
    refine ⟨visits, _, accounts, routes, rfl, counted, ?_⟩
    rw [compile_eq, Traced.events_bind, value, Traced.events_collect_of_ok value, events]
    simp only [Traced.events_bind, Traced.events_report, Traced.events_pure, List.append_nil, all, ← counted,
      Nat.add_sub_cancel_left]
  · intro err failed
    rw [value_compile, map_eq_error_iff] at failed
    rw [failed] at value
    obtain ⟨before, site, after, outcomes, sites, passed, refused, collected⟩ := Traced.events_collect_of_error value
    obtain ⟨visits, accounts, -, events⟩ := exists_visits passed
    refine ⟨before.map Site.endpoint, site.endpoint, after.map Site.endpoint, visits, (c.compileSite api site).events,
      ?_, ?_, ?_, accounts, ?_, ownEvents_compileSite_of_error refused⟩
    · rw [Description.endpoints_eq, sites, List.map_append, List.map_cons]
    · intro e mem
      obtain ⟨b, hb, rfl⟩ := List.mem_map.1 mem
      obtain ⟨outcome, -, ok⟩ := exists_of_forall₂ passed.flip b hb
      rw [← List.head?_eq_none_iff, ← fault?_compiledSecurity, fault?_eq_none_iff]
      rw [value_compileSite, map_eq_ok_iff] at ok
      exact ok.imp fun _ h => h.1
    · rwa [← fault?_eq_some_iff, value_compileSite, fault?_map, fault?_compiledSecurity] at refused
    · rw [compile_eq, Traced.events_bind, value, collected, events, Traced.events_pure, List.append_nil]

/-- One operation has a handler, one has none and one names a module that is missing.  With a scheme that is not defined
the last of them makes compilation fail after two visits. -/
theorem log_of_compile_pets :
    let c : Compiler :=
      { config := {}, validators := .presenceOnly, handlers := fun path => .error (.notFound path)
        probe := fun _ => false, authorizers := fun path => .error (.notFound path) }
    let api (objects : List Requirement) : Description :=
      { basePath := some "/v1/", securityDefinitions := some []
        paths := [
          ("/pets", { post := some { handler := some (.bound .echo) }, get := some {} }),
          ("/owners",
            { put := some { handler := some (.module "owners"), security := some (.requirements objects) } })] }
    (∃ routes, (c.compile (api [])).value = .ok routes ∧
      ∃ visits, List.Forall₂ (c.Accounts (api [])) (api []).endpoints visits ∧
        (c.compile (api [])).events = visits.flatMap Visit.events ++ [.tableCompiled 1 2 (some "/v1/")]) ∧
      (c.compile (api [[("basic", [])]])).value = .error (.unknownScheme "basic" "/v1/owners" ⟨"PUT"⟩) ∧
      ∃ before e after visits rest, (api [[("basic", [])]]).endpoints = before ++ e :: after ∧
        e.offences (api [[("basic", [])]]) c.config.basePathMode ≠ [] ∧
        List.Forall₂ (c.Accounts (api [[("basic", [])]])) before visits ∧
        (c.compile (api [[("basic", [])]])).events = visits.flatMap Visit.events ++ rest ∧ ownEvents rest = [] := by
  intro c api
  have ok : (c.compile (api [])).value = .ok _ := rfl
  have failed : (c.compile (api [[("basic", [])]])).value =
      .error (.unknownScheme "basic" "/v1/owners" ⟨"PUT"⟩) := fault?_eq_some_iff.1 (by decide +kernel)
  obtain ⟨visits, dropped, accounts, -, -, counted, events⟩ := (log_of_compile c (api [])).1 _ ok
  have left : dropped = 2 := Nat.add_left_cancel (counted.trans (by decide +kernel))
  obtain ⟨before, e, after, visited, rest, endpoints, -, offence, told, log, quiet⟩ :=
    (log_of_compile c (api [[("basic", [])]])).2 _ failed
  refine ⟨⟨_, ok, visits, accounts, ?_⟩, failed, before, e, after, visited, rest, endpoints, ?_, told, log, quiet⟩
  · rw [events, left]
    rfl
  · intro nothing
    rw [nothing] at offence
    cases offence

end Compiler

end RouteTable
