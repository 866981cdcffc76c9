import RouteTable.CommandLine
import RouteTable.Proofs.DistinctKeys
import RouteTable.Proofs.Remembering
import RouteTable.Proofs.SingleOperation
import RouteTable.Schema.Engine

/-!
# Commands that agree on one table

Every command prepares and compiles on its own, and all of them come to the same table (`Command.routes`): `check` counts
it, `inspect` lists it and `invoke` sends a request through its only route under a path and a method
(`Command.commands_agree`).
-/

namespace RouteTable

/-! ### Methods in letters of any case -/

namespace Method

theorem isUpper_toUpper_or_eq (c : Char) : c.toUpper.isUpper = true ∨ c.toUpper = c := by
  unfold Char.toUpper
  split
  · next lower =>
    left
    have above : 97 ≤ c.val.toNat := lower.1
    have below : c.val.toNat ≤ 122 := lower.2
    have shifted : (c.val + ('A'.val - 'a'.val)).toNat = (c.val.toNat + 4294967264) % 2 ^ 32 := UInt32.toNat_add ..
    have low : 65 ≤ (c.val + ('A'.val - 'a'.val)).toNat := by omega
    have high : (c.val + ('A'.val - 'a'.val)).toNat ≤ 90 := by omega
    exact decide_eq_true ⟨UInt32.le_iff_toNat_le.2 low, UInt32.le_iff_toNat_le.2 high⟩
  · exact .inr rfl

theorem isTokenChar_toUpper {c : Char} (h : isTokenChar c = true) : isTokenChar c.toUpper = true := by
  rcases isUpper_toUpper_or_eq c with upper | same
  · unfold isTokenChar Char.isAlphanum Char.isAlpha
    rw [upper]
    rfl
  · rw [same, h]

theorem ofString?_toUpper {s : String} (h : (ofString? s).isSome) : ofString? s.toUpper = some ⟨s.toUpper⟩ := by
  rw [ofString?] at h
  split at h
  · next valid =>
    rw [ofString?, if_pos]
    rw [String.toUpper, Ne, String.map_eq_empty, String.toList_map, List.all_map, List.all_eq_true]
    exact ⟨valid.1, fun c mem => isTokenChar_toUpper (List.all_eq_true.1 valid.2 c mem)⟩
  · cases h

end Method

/-- A table has at most one route for each declared operation. -/
theorem Compiler.length_le_of_compile_ok {c : Compiler} {api : Description} {routes : List Route}
    (ok : (c.compile api).value = .ok routes) : routes.length ≤ api.operationCount := by
  rw [← (forall₂_of_compile_ok ok).length_eq]
  exact List.length_filter_le ..

namespace Command

open Compiler (routesAt)

variable {s : Surroundings} {args : CompileArguments}

/-! ### The table of the commands -/

/-- A command that is prepared has loaded the description and the configuration. -/
theorem loads_of_prepare {api : Description} {setup : Setup} {store : ModuleStore}
    (ok : prepare s args = .ok (api, setup, store)) :
    Description.load s.disk args.spec = .ok api ∧ config s args = .ok setup.config := by
  rw [prepare] at ok
  obtain ⟨loaded, load, ok⟩ := bind_eq_ok_iff.1 ok
  obtain ⟨c, configured, ok⟩ := bind_eq_ok_iff.1 ok
  cases named : args.handlers with
  | none =>
    rw [named] at ok
    cases ok
    exact ⟨load, configured⟩
  | some dir =>
    rw [named] at ok
    obtain ⟨⟨tree, store⟩, -, ok⟩ := bind_eq_ok_iff.1 ok
    cases ok
    exact ⟨load, configured⟩

/-- The table of a command is that of a compiler with the modules of the store after it. -/
theorem exists_compiler_of_compile {api : Description} {setup : Setup} {store : ModuleStore} {table : List Route}
    (compiled : (compile s api setup store).value.1 = .ok table) : ∃ c : Compiler, (c.compile api).value = .ok table :=
  ⟨{ setup, (compile s api setup store).value.2.loaders s.disk with },
    (congrArg Traced.value (Inquiry.run_loaders s.disk store _)).trans compiled⟩

theorem routes_eq_ok_iff {table : List Route} :
    routes s args = .ok table ↔
      ∃ api setup store, prepare s args = .ok (api, setup, store) ∧
        (compile s api setup store).value.1 = .ok table := by
  rw [routes, bind_eq_ok_iff]
  constructor
  · rintro ⟨⟨api, setup, store⟩, prepared, compiled⟩
    refine ⟨api, setup, store, prepared, ?_⟩
    dsimp only at compiled
    split at compiled
    · next ok => exact Except.ok.inj compiled ▸ ok
    · cases compiled
  · rintro ⟨api, setup, store, prepared, compiled⟩
    refine ⟨(api, setup, store), prepared, ?_⟩
    dsimp only
    rw [compiled]

theorem result_inspectRun_iff (json : Bool) :
    (inspectRun s args json).result = .ok () ↔ ∃ table, routes s args = .ok table := by
  unfold inspectRun
  cases routes s args with
  | error f => exact ⟨fun h => (nomatch h), fun ⟨_, h⟩ => (nomatch h)⟩
  | ok table => cases json <;> exact ⟨fun _ => ⟨table, rfl⟩, fun _ => rfl⟩

theorem output_inspectRun {table : List Route} (ok : routes s args = .ok table) :
    (inspectRun s args true).output = (Json.array (table.map Route.summary)).renderPretty ++ "\n" := by
  unfold inspectRun
  rw [ok]
  rfl

theorem result_checkRun_iff : (checkRun s args).result = .ok () ↔ ∃ table, routes s args = .ok table := by
  simp only [routes_eq_ok_iff]
  unfold checkRun
  cases prepared : prepare s args with
  | error f => exact ⟨fun h => (nomatch h), fun ⟨_, _, _, _, h, _⟩ => (nomatch h)⟩
  | ok found =>
    obtain ⟨api, setup, store⟩ := found
    dsimp only
    cases compiled : (compile s api setup store).value.1 with
    | ok table => exact ⟨fun _ => ⟨table, api, setup, store, rfl, compiled⟩, fun _ => rfl⟩
    | error e =>
      refine ⟨fun h => (nomatch h), ?_⟩
      rintro ⟨table, _, _, _, h, ok⟩
      cases h
      cases compiled.symm.trans ok

/-- What `check` writes of a table: how many routes there are, for how many declared operations, and how many operations
have none. -/
def tableReport (spec : String) (routes declared dropped : Nat) : String :=
  "✅ " ++ spec ++ ": " ++ toString routes ++ " route(s) compiled from " ++ toString declared ++ " operation(s)\n" ++
    (if dropped = 0 then "" else "   " ++ toString dropped ++ " operation(s) had no handler\n")

theorem output_checkRun {api : Description} {setup : Setup} {store : ModuleStore} {table : List Route}
    (prepared : prepare s args = .ok (api, setup, store))
    (compiled : (compile s api setup store).value.1 = .ok table) :
    ∃ dropped, table.length + dropped = api.operationCount ∧
      (checkRun s args).output = tableReport args.spec table.length api.operationCount dropped := by
  obtain ⟨c, ok⟩ := exists_compiler_of_compile compiled
  refine ⟨api.operationCount - table.length, Nat.add_sub_of_le (Compiler.length_le_of_compile_ok ok), ?_⟩
  unfold checkRun
  rw [prepared]
  dsimp only
  rw [compiled, tableReport]
  have dropped : (api.operationCount - table.length = 0) ↔ ¬ table.length < api.operationCount := by omega
  simp only [dropped, ite_not]

/-! ### Requests -/

/-- A route is listed under its path and method. -/
def Listed (entry : Json) (path method : String) : Prop :=
  entry.field? "path" = some (.string path) ∧ entry.field? "method" = some (.string method)

theorem listed_summary_iff {route : Route} {path method : String} :
    Listed route.summary path method ↔ (route.path, route.method) = (path, ⟨method⟩) := by
  have place : route.summary.field? "path" = some (.string route.path) := rfl
  have token : route.summary.field? "method" = some (.string route.method.token) := rfl
  rw [Listed, place, token, Option.some.injEq, Json.string.injEq, Option.some.injEq, Json.string.injEq, Prod.mk.injEq,
    Method.mk.injEq]

theorem exists_listed_iff {table : List Route} {path method : String} :
    (∃ entry ∈ table.map Route.summary, Listed entry path method) ↔ ∃ route, route ∈ routesAt table path ⟨method⟩ := by
  simp only [routesAt, List.mem_filter, decide_eq_true_eq]
  constructor
  · rintro ⟨entry, mem, listed⟩
    obtain ⟨route, there, rfl⟩ := List.mem_map.1 mem
    exact ⟨route, there, listed_summary_iff.1 listed⟩
  · rintro ⟨route, there, key⟩
    exact ⟨_, List.mem_map_of_mem there, listed_summary_iff.2 key⟩

theorem body?_eq {body : Option String} (valid : ∀ text ∈ body, (Json.read? text).isSome) :
    body? body = .ok (body.bind Json.read?) := by
  cases body with
  | none => rfl
  | some text =>
    obtain ⟨v, read⟩ := Option.isSome_iff_exists.1 (valid text rfl)
    simp only [body?, Option.bind_some, read]

/-- The request that `invoke` sends. -/
def requestOf (method path : String) (params query headers cookies : Pairs) (body : Option String) : Request :=
  { method := ⟨method.toUpper⟩, path, pathParams := params, query, headers, cookies, body := body.bind Json.read? }

def noRoute (method path : String) : Failure := ⟨"No route for " ++ method.toUpper ++ " " ++ path, []⟩

theorem respond_eq {table : List Route} (ok : routes s args = .ok table) {method : String}
    (token : (Method.ofString? method).isSome) {body : Option String}
    (valid : ∀ text ∈ body, (Json.read? text).isSome) (path : String) (params query headers cookies : Pairs) :
    respond s args method path params query headers cookies body =
      match (routesAt table path ⟨method.toUpper⟩).head? with
      | some route => .ok (route.dispatch (requestOf method path params query headers cookies body))
      | none => .error (noRoute method path) := by
  have named : methodNamed method = .ok ⟨method.toUpper⟩ := by rw [methodNamed, Method.ofString?_toUpper token]
  have key : (fun r : Route => decide (r.method = ⟨method.toUpper⟩ ∧ r.path = path)) =
      fun r => decide ((r.path, r.method) = (path, ⟨method.toUpper⟩)) := by
    funext r
    rw [decide_eq_decide, Prod.mk.injEq, and_comm]
  rw [respond, named, body?_eq valid, ok, routesAt, List.head?_filter, ← key]
  rfl

/-- The commands agree on one table.  `check` succeeds where `inspect` does.  It counts the entries that `inspect` lists
and the declared operations, and the operations without a route are what is left.  A request to which `invoke` finds no
route is one whose path and method, in capitals, are not listed; else there is one route under them, and `invoke` writes
what this route answers. -/
theorem commands_agree (s : Surroundings) (args : CompileArguments) :
    (∀ json, (run s (.check args)).result = .ok () ↔ (run s (.inspect args json)).result = .ok ()) ∧
    ((run s (.check args)).result = .ok () →
      ∃ api table entries dropped, Description.load s.disk args.spec = .ok api ∧ routes s args = .ok table ∧
        entries = table.map Route.summary ∧
        (run s (.inspect args true)).output = (Json.array entries).renderPretty ++ "\n" ∧
        entries.length + dropped = api.operationCount ∧
        (run s (.check args)).output = tableReport args.spec entries.length api.operationCount dropped ∧
        ∀ method path params query headers cookies body, (Method.ofString? method).isSome →
          (∀ text ∈ body, (Json.read? text).isSome) →
          let answer := run s (.invoke args method path params query headers cookies body)
          (answer.result = .error (noRoute method path) ↔
            ¬ ∃ entry ∈ entries, Listed entry path method.toUpper) ∧
          ((∃ entry ∈ entries, Listed entry path method.toUpper) →
            ∃ route, routesAt table path ⟨method.toUpper⟩ = [route] ∧
              answer = { output := (route.dispatch
                (requestOf method path params query headers cookies body)).toJson.renderPretty ++ "\n" })) := by
  refine ⟨fun json => result_checkRun_iff.trans (result_inspectRun_iff json).symm, fun succeeded => ?_⟩
  obtain ⟨table, ok⟩ := result_checkRun_iff.1 succeeded
  obtain ⟨api, setup, store, prepared, compiled⟩ := routes_eq_ok_iff.1 ok
  obtain ⟨dropped, counted, report⟩ := output_checkRun prepared compiled
  have load := (loads_of_prepare prepared).1
  refine ⟨api, table, _, dropped, load, ok, rfl, output_inspectRun ok, ?_, ?_, ?_⟩
  · rwa [List.length_map]
  · rw [List.length_map]
    exact report
  · intro method path params query headers cookies body token valid answer
    have responds := respond_eq ok token valid path params query headers cookies
    rw [exists_listed_iff]
    cases found : routesAt table path ⟨method.toUpper⟩ with
    | nil =>
      have refused : answer.result = .error (noRoute method path) := by
        simp only [answer, run, responds, found, List.head?_nil]
        rfl
      exact ⟨iff_of_true refused (by simp), fun ⟨_, h⟩ => nomatch h⟩
    | cons route rest =>
      -- no other route stands beside the first
      obtain ⟨c, compiledAnew⟩ := exists_compiler_of_compile compiled
      have alone := Compiler.routesAt_of_mem (Description.nodup_keys_of_load load) compiledAnew
        (found ▸ List.mem_cons_self : route ∈ routesAt table path ⟨method.toUpper⟩)
      have answered : answer = { output := (route.dispatch
          (requestOf method path params query headers cookies body)).toJson.renderPretty ++ "\n" } := by
        simp only [answer, run, responds, found, List.head?_cons]
      refine ⟨iff_of_false ?_ fun h => h ⟨route, List.mem_cons_self⟩, fun _ => ⟨route, found ▸ alone, answered⟩⟩
      rw [answered]
      exact fun h => nomatch h

/-- A method may be given in small letters; one that is not declared under the path has no route. -/
theorem commands_agree_pets :
    let text := "paths:\n  /pets:\n    get:\n      operationId: list\n"
    let s : Surroundings :=
      ⟨{ entries := [("api.yaml", .file ⟨text.toUTF8, 0⟩)] }, fun _ => none, SchemaDocument.engine⟩
    let args : CompileArguments := { spec := "api.yaml" }
    (run s (.check args)).result = .ok () ∧
      (∃ response : Response, run s (.invoke args "get" "/pets" [] [] [] [] none) =
        { output := response.toJson.renderPretty ++ "\n" }) ∧
      (run s (.invoke args "put" "/pets" [] [] [] [] (some "1"))).result = .error ⟨"No route for PUT /pets", []⟩ := by
  intro text s args
  obtain ⟨⟨⟩, succeeded⟩ : ∃ u, (run s (.check args)).result = .ok u := fault?_eq_none_iff.1 (by decide +kernel)
  obtain ⟨api, table, entries, dropped, -, ok, rfl, -, -, -, answers⟩ := (commands_agree s args).2 succeeded
  let keys (found : Except Failure (List Route)) := found.toOption.map (List.map fun r => (r.path, r.method))
  have computed : keys (routes s args) = some [("/pets", ⟨"GET"⟩)] := by decide +kernel
  have rows : table.map (fun r => (r.path, r.method)) = [("/pets", ⟨"GET"⟩)] :=
    Option.some.inj ((congrArg keys ok).symm.trans computed)
  have listed (path method : String) : (∃ entry ∈ table.map Route.summary, Listed entry path method) ↔
      (path, Method.mk method) ∈ [("/pets", ⟨"GET"⟩)] := by
    rw [exists_listed_iff, ← rows, List.mem_map]
    simp only [routesAt, List.mem_filter, decide_eq_true_eq]
  have get := answers "get" "/pets" [] [] [] [] none (by decide +kernel) (fun _ h => nomatch h)
  have put := answers "put" "/pets" [] [] [] [] (some "1") (by decide +kernel) (by decide +kernel)
  obtain ⟨route, -, answered⟩ := get.2 ((listed ..).2 (by decide +kernel))
  have message : noRoute "put" "/pets" = ⟨"No route for PUT /pets", []⟩ := by decide +kernel
  exact ⟨succeeded, ⟨_, answered⟩, message ▸ put.1.2 fun h => absurd ((listed ..).1 h) (by decide +kernel)⟩

end Command

end RouteTable
