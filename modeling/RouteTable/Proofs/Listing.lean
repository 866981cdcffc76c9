import Mathlib.Data.List.Nodup
import RouteTable.Proofs.Compilation

/-!
# Tables list the declared operations

A table has one row for each endpoint whose handler is found, in the order of the document, and no two of its rows
have the same path and method: paths are distinct keys, the methods of a path item are distinct, and a base path in
front keeps paths apart.
-/

namespace RouteTable

theorem PathItem.pairwise_declared (item : PathItem) : item.declared.Pairwise fun a b => a.1 ≠ b.1 := by
  rw [declared, List.pairwise_filterMap]
  -- every entry keeps the token it stands under, so it is enough that the tokens differ
  have tokens : List.Pairwise (fun a b : String × Option Operation => a.1 ≠ b.1)
      [("GET", item.get), ("POST", item.post), ("PUT", item.put), ("DELETE", item.delete), ("HEAD", item.head),
        ("OPTIONS", item.options), ("PATCH", item.patch)] := by
    simp
  refine tokens.imp ?_
  intro a b hab x hx y hy h
  obtain ⟨_, _, rfl⟩ := Option.map_eq_some_iff.1 hx
  obtain ⟨_, _, rfl⟩ := Option.map_eq_some_iff.1 hy
  exact hab (Method.mk.inj h)

/-- Under distinct paths no two endpoints have the same path and method. -/
theorem Description.nodup_endpoints {api : Description} (distinct : (OrderedMap.keys api.paths).Nodup) :
    (api.endpoints.map fun e => (e.path, e.method)).Nodup := by
  rw [List.Nodup, List.pairwise_map, endpoints, List.pairwise_flatMap]
  refine ⟨fun entry _ => ?_, ?_⟩
  · rw [List.pairwise_map]
    refine entry.2.pairwise_declared.imp ?_
    intro a b hab h
    exact hab (Prod.mk.inj h).2
  · refine (List.pairwise_map.1 distinct).imp ?_
    intro a b hab e he f hf h
    obtain ⟨_, _, rfl⟩ := List.mem_map.1 he
    obtain ⟨_, _, rfl⟩ := List.mem_map.1 hf
    exact hab (Prod.mk.inj h).1

namespace Compiler

variable {c : Compiler} {api : Description}

/-- A table that is answered has one row for each endpoint whose handler is found, in the order of the document, and no
row besides.  Its rows differ in path or method, and the operations it leaves out are counted in the last event. -/
theorem rows_of_compile_ok {routes : List Route} (distinct : (OrderedMap.keys api.paths).Nodup)
    (ok : (c.compile api).value = .ok routes) :
    (routes.map fun r => (r.path, r.method, r.name, r.description)) =
        ((api.endpoints.filter fun e => (c.handler? e).isSome).map fun e =>
          (c.pathOf api e, e.method, e.operation.operationId, e.operation.description)) ∧
      (routes.map fun r => (r.path, r.method)).Nodup ∧
      ∃ dropped, dropped = (api.endpoints.filter fun e => (c.handler? e).isNone).length ∧
        routes.length + dropped = api.operationCount ∧
        (c.compile api).events.getLast? = some (.tableCompiled routes.length dropped api.basePath) := by
  have emitted := forall₂_of_compile_ok ok
  have rows : (routes.map fun r => (r.path, r.method, r.name, r.description)) =
      ((api.endpoints.filter fun e => (c.handler? e).isSome).map fun e =>
        (c.pathOf api e, e.method, e.operation.operationId, e.operation.description)) := by
    rw [filter_endpoints, List.map_map, ← List.forall₂_eq_eq_eq, List.forall₂_map_left_iff,
      List.forall₂_map_right_iff]
    exact emitted.flip.imp fun route site h => h.row
  have counted : routes.length + (api.endpoints.filter fun e => (c.handler? e).isNone).length =
      api.operationCount := by
    have h := congrArg List.length rows
    rw [List.length_map, List.length_map] at h
    have split := List.length_eq_length_filter_add (l := api.endpoints) fun e => (c.handler? e).isSome
    simp only [Option.not_isSome] at split
    rw [← api.length_endpoints, split, h]
  refine ⟨rows, ?_, _, rfl, counted, ?_⟩
  · -- the keys of the table are the keys of some endpoints, each under the same base path
    have keys := congrArg (List.map fun row => (row.1, row.2.1)) rows
    simp only [List.map_map, Function.comp_def] at keys
    have injective : Function.Injective fun key : String × Method =>
        (c.config.basePathMode.front api.basePath ++ key.1, key.2) := by
      rintro ⟨p, m⟩ ⟨q, n⟩ h
      rw [Prod.mk.injEq, String.append_right_inj] at h
      exact Prod.ext h.1 h.2
    have apart := (Description.nodup_endpoints distinct).map injective
    rw [List.map_map] at apart
    rw [keys]
    exact apart.sublist (List.filter_sublist.map _)
  · rw [getLast?_events_compile ok, ← counted, Nat.add_sub_cancel_left]

/-- The one operation whose handler is bound makes a row; the operations without a handler do not, whether they name a
module that is missing or none. -/
theorem rows_of_compile_ok_pets :
    let c : Compiler :=
      { config := {}, validators := .presenceOnly, handlers := fun path => .error (.notFound path)
        probe := fun _ => false, authorizers := fun path => .error (.notFound path) }
    let api : Description :=
      { basePath := some "/v1/"
        paths := [
          ("/pets", { post := some { operationId := some "add", handler := some (.bound .echo) }, get := some {} }),
          ("/owners", { put := some { handler := some (.module "owners") } })] }
    (OrderedMap.keys api.paths).Nodup ∧ ∃ routes, (c.compile api).value = .ok routes ∧
      (routes.map fun r => (r.path, r.method, r.name, r.description)) =
        [("/v1/pets", ⟨"POST"⟩, some "add", none)] ∧
      (c.compile api).events.getLast? = some (.tableCompiled 1 2 (some "/v1/")) := by
  intro c api
  have distinct : (OrderedMap.keys api.paths).Nodup := by decide
  have ok : (c.compile api).value = .ok _ := rfl
  obtain ⟨rows, -, dropped, hd, -, summary⟩ := rows_of_compile_ok distinct ok
  have left : dropped = 2 := hd.trans (by decide +kernel)
  exact ⟨distinct, _, ok, rows.trans (by decide +kernel), summary.trans (by rw [left]; rfl)⟩

end Compiler

end RouteTable
