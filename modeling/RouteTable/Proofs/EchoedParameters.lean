import RouteTable.Callable
import RouteTable.Proofs.RepeatedKeys
import RouteTable.Proofs.RequestViews

/-!
# Echoed parameters

An echo makes its objects from the left, where a later value replaces an earlier one, and a parameter is looked up from
the right.  Both give the last value of a name, so an echo holds what is read (`Pairs.exists_toJson_eq`), and that is what
validators are given (`Request.echo_of_parameters`).
-/

namespace RouteTable

/-- An object holds what is read under some names: each of them once, where it occurs first, if anything is read under
it, and then just that. -/
structure HoldsRead (names : List String) (read? : String → Option String) (fields : OrderedMap String Json) :
    Prop where
  order : OrderedMap.keys fields = names.eraseDups
  once : (OrderedMap.keys fields).Nodup
  present : ∀ name, name ∈ OrderedMap.keys fields ↔ (read? name).isSome
  value : ∀ name, OrderedMap.get? fields name = (read? name).map .string

theorem Pairs.exists_toJson_eq (pairs : Pairs) :
    ∃ fields, pairs.toJson = .object fields ∧ HoldsRead (pairs.map (·.1)) pairs.last? fields := by
  refine ⟨_, rfl, ?_⟩
  have value : ∀ name, OrderedMap.get? (OrderedMap.ofEntries (pairs.map fun e => (e.1, Json.string e.2))) name =
      (pairs.last? name).map .string := by
    intro name
    rw [OrderedMap.get?_ofEntries_map pairs Prod.fst, last?_eq_getLast?, valuesOf, ← List.getLast?_map, List.map_map]
    rfl
  refine ⟨?_, OrderedMap.nodup_keys_ofEntries _, ?_, value⟩
  · rw [OrderedMap.keys_ofEntries, List.map_map]
    rfl
  · intro name
    rw [← OrderedMap.isSome_get?_iff, value, Option.isSome_map]

/-- An echo holds the path parameters and the query of a request in an object each.  There every name stands once, in the
order of the first occurrences, with the value that is read under it, and a validator of a path or query parameter of
this name is given the same value. -/
theorem Request.echo_of_parameters (r : Request) :
    ∃ body params query, Handler.echo.answer r = .json 200 body ∧
      body.field? "params" = some (.object params) ∧ HoldsRead (r.pathParams.map (·.1)) r.pathParam? params ∧
      body.field? "query" = some (.object query) ∧ HoldsRead (r.query.map (·.1)) r.query? query ∧
      ∀ p : Parameter,
        r.parameter? { p with location := .path } = OrderedMap.get? params p.name ∧
        r.parameter? { p with location := .query } = OrderedMap.get? query p.name := by
  obtain ⟨params, paramsEq, paramsHeld⟩ := r.pathParams.exists_toJson_eq
  obtain ⟨query, queryEq, queryHeld⟩ := r.query.exists_toJson_eq
  refine ⟨_, params, query, rfl, ?_, paramsHeld, ?_, queryHeld, fun p => ?_⟩
  · rw [← paramsEq]
    rfl
  · rw [← queryEq]
    rfl
  · exact ⟨(paramsHeld.value p.name).symm, (queryHeld.value p.name).symm⟩

end RouteTable
