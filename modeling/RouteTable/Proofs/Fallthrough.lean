import RouteTable.Proofs.SingleOperation

/-!
# Handlers that fall through

An `x-handler` is honoured when it is bound, or names a module that exists under the handler root and resolves for the
method (`Compiler.Honours`).  Its handler is then that of the route, whatever else a compiler could offer.  One that is
not honoured counts for nothing, and the first strategy with a handler decides (`Compiler.handler_fallthrough`).
-/

namespace RouteTable.Compiler

variable {c : Compiler} {api : Description}

/-- An `x-handler` is honoured with a handler. -/
inductive Honours (c : Compiler) (method : Method) : Reference Handler → Handler → Prop
  | bound (handler : Handler) : Honours c method (.bound handler) handler
  | module (path : String) (handler : Handler) (found : c.probe (Path.absolute c.cwd c.handlerRoot path) = true)
      (resolved : (resolve .handler c.toLoaders c.cwd c.basedir (.module path) (some method)).value = some handler) :
      Honours c method (.module path) handler

theorem honours_iff {method : Method} {reference : Reference Handler} {handler : Handler} :
    c.Honours method reference handler ↔ c.named? method reference = some handler := by
  cases reference with
  | bound value =>
    constructor
    · rintro ⟨⟩
      rfl
    · intro h
      obtain rfl := Option.some.inj h
      exact .bound value
  | module path =>
    rw [named?]
    constructor
    · rintro (_ | ⟨_, _, found, resolved⟩)
      rw [if_pos found]
      exact (value_resolve ..).symm.trans resolved
    · intro h
      by_cases found : c.probe (Path.absolute c.cwd c.handlerRoot path) = true
      · rw [if_pos found] at h
        exact .module path handler found ((value_resolve ..).trans h)
      · rw [if_neg found] at h
        cases h

/-- An operation with an `x-handler` that is honoured has the handler that this gives. -/
theorem handlerOf?_of_honours {path : String} {method : Method} {operation : Operation} {reference : Reference Handler}
    {handler : Handler} (declared : operation.handler = some reference)
    (honoured : c.Honours method reference handler) : c.handlerOf? path method operation = some handler := by
  rw [handlerOf?, declared, Option.bind_some, honours_iff.1 honoured, Option.some_or]

/-- Without an `x-handler` that is honoured the first strategy with a handler decides. -/
theorem handlerOf?_of_not_honours {path : String} {method : Method} {operation : Operation}
    (ignored : ∀ reference handler, operation.handler = some reference → ¬ c.Honours method reference handler) :
    c.handlerOf? path method operation = c.strategies.findSome? (c.fallback? path method) := by
  have nothing : operation.handler.bind (c.named? method) = none := by
    rw [Option.bind_eq_none_iff]
    intro reference declared
    rw [Option.eq_none_iff_forall_ne_some]
    exact fun handler h => ignored reference handler declared (honours_iff.2 h)
  rw [handlerOf?, nothing, Option.none_or]

/-- Taking an `x-handler` that is not honoured away from an operation changes nothing. -/
theorem value_compile_dropHandler {path : String} {item : PathItem} {verb : Verb} {operation : Operation}
    (distinct : (OrderedMap.keys api.paths).Nodup) (found : OrderedMap.get? api.paths path = some item)
    (declared : item.operation? verb = some operation)
    (ignored : ∀ reference handler, operation.handler = some reference →
      ¬ c.Honours verb.method reference handler) :
    (c.compile (api.adjustOperation path verb fun o => { o with handler := none })).value = (c.compile api).value := by
  refine value_compile_congr (Description.sites_adjustOperation ..) (List.map_id _).symm fun site mem => ?_
  rw [Site.adjust, id]
  by_cases hp : site.path = path
  · rw [if_pos hp]
    by_cases hv : site.verb = verb
    · -- the operation itself: it loses a handler that was not used
      obtain rfl := Description.eq_of_mem_sites distinct mem (Description.mem_sites found declared) hp hv
      rw [if_pos rfl]
      refine value_compileSite_congr (by cases verb <;> rfl) ?_ (by cases verb <;> rfl)
      have dropped : c.handlerOf? path verb.method { operation with handler := none } =
          c.strategies.findSome? (c.fallback? path verb.method) :=
        handlerOf?_of_not_honours fun _ _ named => absurd named.symm (Option.some_ne_none _)
      exact dropped.trans (handlerOf?_of_not_honours ignored).symm
    · rw [if_neg hv]
      exact value_compileSite_congr (by cases verb <;> rfl) rfl (by cases verb <;> rfl)
  · rw [if_neg hp]
    rfl

/-- An `x-handler` that is honoured makes the handler of the route, whatever the handler tree, the strategies and the
default handler are.  One that is not might as well be missing: the first strategy that has a handler for the declared
path and the method decides, and without one the operation has no route. -/
theorem handler_fallthrough {path : String} {item : PathItem} {verb : Verb} {operation : Operation}
    (distinct : (OrderedMap.keys api.paths).Nodup) (found : OrderedMap.get? api.paths path = some item)
    (declared : item.operation? verb = some operation) :
    (∀ reference handler, operation.handler = some reference → c.Honours verb.method reference handler →
      ∀ tree strategies defaultHandler routes,
        ({ c with tree, strategies, defaultHandler }.compile api).value = .ok routes →
          (routesAt routes (c.routePath api path) verb.method).map (·.handler) = [handler]) ∧
    ((∀ reference handler, operation.handler = some reference → ¬ c.Honours verb.method reference handler) →
      (c.compile (api.adjustOperation path verb fun o => { o with handler := none })).value = (c.compile api).value ∧
      ∀ routes, (c.compile api).value = .ok routes →
        (routesAt routes (c.routePath api path) verb.method).map (·.handler) =
            (c.strategies.findSome? (c.fallback? path verb.method)).toList ∧
          (routesAt routes (c.routePath api path) verb.method = [] ↔
            ∀ strategy ∈ c.strategies, c.fallback? path verb.method strategy = none)) := by
  have mem := Description.mem_sites found declared
  constructor
  · intro reference handler named honoured tree strategies defaultHandler routes ok
    let other : Compiler := { c with tree, strategies, defaultHandler }
    obtain ⟨requirements, -, one⟩ := routesAt_of_compile_ok distinct ok mem
    -- what makes an `x-handler` honoured is the same for both compilers
    have resolved : c.named? verb.method reference = some handler := honours_iff.1 honoured
    have handled : other.handlerOf? path verb.method operation = some handler :=
      handlerOf?_of_honours named (honours_iff.2 resolved)
    rw [handler?, Site.endpoint, handled] at one
    exact congrArg (List.map (·.handler)) one
  · intro ignored
    refine ⟨value_compile_dropHandler distinct found declared ignored, fun routes ok => ?_⟩
    obtain ⟨requirements, -, one⟩ := routesAt_of_compile_ok distinct ok mem
    rw [handler?, Site.endpoint, handlerOf?_of_not_honours ignored] at one
    dsimp only at one
    rw [one, ← List.findSome?_eq_none_iff]
    cases c.strategies.findSome? (c.fallback? path verb.method) with
    | none => exact ⟨rfl, iff_of_true rfl rfl⟩
    | some handler => exact ⟨rfl, iff_of_false (List.cons_ne_nil _ _) (Option.some_ne_none handler)⟩

/-- A module with an export for `GET` alone serves `GET`, also where there is nothing to fall back to; `POST` names the
same module and falls through to the handler tree, which is asked for the path without the base path. -/
theorem handler_fallthrough_pets :
    let named (label : String) : Handler := ⟨.given label, echoAnswer⟩
    let c : Compiler :=
      { config := {}, validators := .presenceOnly, handlers := fun _ => .ok (.exports [("get", named "module")])
        probe := fun _ => true, authorizers := fun path => .error (.notFound path)
        tree := some (HandlerTree.empty.insert "/pets" ⟨"POST"⟩ (named "tree")), defaultHandler := some .echo }
    let operation : Operation := { handler := some (.module "pets") }
    let api : Description :=
      { basePath := some "/v1", paths := [("/pets", { get := some operation, post := some operation })] }
    (∀ routes, ({ c with tree := none, strategies := [], defaultHandler := none }.compile api).value = .ok routes →
      (routesAt routes "/v1/pets" ⟨"GET"⟩).map (·.handler) = [named "module"]) ∧
    (c.compile (api.adjustOperation "/pets" .post fun o => { o with handler := none })).value = (c.compile api).value ∧
    ∃ routes, (c.compile api).value = .ok routes ∧
      (routesAt routes "/v1/pets" ⟨"POST"⟩).map (·.handler) = [named "tree"] := by
  intro named c operation api
  have get : Verb.get.method = ⟨"GET"⟩ := by decide +kernel
  have post : Verb.post.method = ⟨"POST"⟩ := by decide +kernel
  have getKey : Method.key ⟨"GET"⟩ = "get" := by decide +kernel
  have postKey : Method.key ⟨"POST"⟩ = "post" := by decide +kernel
  have segments : HandlerTree.segments "/pets" = ["pets"] := by decide +kernel
  have prefixed : c.routePath api "/pets" = "/v1/pets" := by decide +kernel
  have distinct : (OrderedMap.keys api.paths).Nodup := by decide
  have exported : c.named? ⟨"GET"⟩ (.module "pets") = some (named "module") := by
    change OrderedMap.get? [("get", named "module")] (Method.key ⟨"GET"⟩) = _
    rw [getKey]
    rfl
  have missing : c.named? ⟨"POST"⟩ (.module "pets") = none := by
    change OrderedMap.get? [("get", named "module")] (Method.key ⟨"POST"⟩) = _
    rw [postKey]
    rfl
  have planted : c.fallback? "/pets" ⟨"POST"⟩ .tree = some (named "tree") := by
    change (HandlerTree.empty.insert "/pets" ⟨"POST"⟩ (named "tree")).lookup "/pets" ⟨"POST"⟩ = _
    rw [HandlerTree.lookup, HandlerTree.insert, segments, postKey]
    rfl
  have served := (@handler_fallthrough c api "/pets" _ .get operation distinct rfl rfl).1
  have fallen := (@handler_fallthrough c api "/pets" _ .post operation distinct rfl rfl).2
  rw [get, prefixed] at served
  rw [post, prefixed] at fallen
  have ignored : ∀ reference handler, operation.handler = some reference →
      ¬ c.Honours ⟨"POST"⟩ reference handler := by
    rintro _ handler ⟨⟩ honoured
    rw [honours_iff, missing] at honoured
    cases honoured
  obtain ⟨same, rest⟩ := fallen ignored
  obtain ⟨routes, ok⟩ : ∃ routes, (c.compile api).value = .ok routes := fault?_eq_none_iff.1 (by decide +kernel)
  refine ⟨served _ _ rfl (honours_iff.2 exported) none [] none, same, routes, ok, (rest routes ok).1.trans ?_⟩
  rw [List.findSome?_cons, planted]
  rfl

end RouteTable.Compiler
