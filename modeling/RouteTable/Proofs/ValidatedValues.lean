import RouteTable.Proofs.Merge
import RouteTable.Proofs.SameTable
import RouteTable.Schema.Engine

/-!
# The values of a validated request

A request that passes has one value for every parameter name for which some validator hands a value on.  Validators are
told apart by location and name, and values by name alone: of two parameters with one name, in different locations, the
value of the later one counts (`Compiler.values_of_validate_ok`), and the other is lost (`Compiler.value_of_path_lost`).
No value is lost exactly when the parameters that have one differ in name.
-/

namespace RouteTable

/-- The value that a validator hands on for a request, if its verdict is a value. -/
def Validator.value? (v : Validator) (request : Request) : Option Json :=
  match v.validate (request.parameter? v.parameter) with
  | .ok value => value
  | .error _ => none

theorem Validator.value?_eq_some_iff {v : Validator} {request : Request} {x : Json} :
    v.value? request = some x ↔ v.validate (request.parameter? v.parameter) = .ok (some x) := by
  rw [value?]
  cases v.validate (request.parameter? v.parameter) with
  | error issue => exact ⟨fun h => (nomatch h), fun h => (nomatch h)⟩
  | ok value => exact ⟨congrArg Except.ok, Except.ok.inj⟩

namespace Route

variable {r : Route} {request : Request} {values : OrderedMap String Json}

/-- The validators that hand a value on, in order. -/
def yielding (r : Route) (request : Request) : List Validator :=
  r.validators.filter fun v => (v.value? request).isSome

/-- The values that are handed on, under the names of their parameters. -/
def entries (r : Route) (request : Request) : List (String × Json) :=
  r.validators.filterMap fun v => (v.value? request).map (v.parameter.name, ·)

theorem eq_ofEntries_of_validate_ok (valid : r.validate request = .ok values) :
    values = OrderedMap.ofEntries (r.entries request) := by
  have same : (r.verdicts request).filterMap Route.value? = r.entries request := by
    rw [verdicts, List.filterMap_map, entries]
    congr 1
    funext v
    rw [Function.comp_apply, Validator.value?]
    cases v.validate (request.parameter? v.parameter) with
    | error issue => rfl
    | ok value => cases value <;> rfl
  rw [validate] at valid
  split at valid
  · rw [← same]
    exact (Except.ok.inj valid).symm
  · cases valid

theorem map_fst_entries (r : Route) (request : Request) :
    (r.entries request).map (·.1) = (r.yielding request).map (·.parameter.name) := by
  rw [entries, yielding]
  induction r.validators with
  | nil => rfl
  | cons v vs ih =>
    cases h : v.value? request with
    | none =>
      rw [List.filterMap_cons_none (by rw [h]; rfl), List.filter_cons_of_neg (by simp [h])]
      exact ih
    | some x =>
      rw [List.filterMap_cons_some (by rw [h]; rfl), List.filter_cons_of_pos (by simp [h]), List.map_cons,
        List.map_cons, ih]

theorem length_entries (r : Route) (request : Request) : (r.entries request).length = (r.yielding request).length := by
  have h := congrArg List.length (r.map_fst_entries request)
  rwa [List.length_map, List.length_map] at h

/-- A name has the value that the last validator of the name hands on. -/
theorem get?_of_validate_ok (valid : r.validate request = .ok values) (name : String) :
    OrderedMap.get? values name =
      r.validators.reverse.findSome? fun v => if v.parameter.name = name then v.value? request else none := by
  rw [eq_ofEntries_of_validate_ok valid, OrderedMap.get?_ofEntries, entries, ← List.filterMap_reverse]
  induction r.validators.reverse with
  | nil => rfl
  | cons v vs ih =>
    cases h : v.value? request with
    | none =>
      rw [List.filterMap_cons_none (by rw [h]; rfl), List.findSome?_cons, h, ite_self]
      exact ih
    | some x =>
      rw [List.filterMap_cons_some (by rw [h]; rfl), List.findSome?_cons, List.findSome?_cons, h, ih]

theorem get?_eq_some_iff_of_validate_ok (valid : r.validate request = .ok values) {name : String} {x : Json} :
    OrderedMap.get? values name = some x ↔
      ∃ before v after, r.validators = before ++ v :: after ∧ v.parameter.name = name ∧ v.value? request = some x ∧
        ∀ later ∈ after, later.parameter.name = name → later.value? request = none := by
  rw [get?_of_validate_ok valid, findSome?_reverse_eq_some_iff]
  simp only [Option.ite_none_right_eq_some, ite_eq_right_iff, and_assoc]

end Route

namespace Compiler

variable {c : Compiler} {api : Description}

/-- Validators by schema are for parameters that differ in location or name. -/
theorem nodup_keys_of_compile_ok {engine : SchemaEngine} (stock : c.validators = .bySchema engine)
    {routes : List Route} (ok : (c.compile api).value = .ok routes) {route : Route} (mem : route ∈ routes) :
    (route.validators.map fun v => (v.parameter.location, v.parameter.name)).Nodup := by
  obtain ⟨site, -, emitted⟩ := exists_of_forall₂ (forall₂_of_compile_ok ok) route mem
  rw [emitted.validators_eq stock, List.map_map]
  exact Parameter.nodup_keys_merge ..

/-- The values of a request that passes, under validators by schema: these differ in location or name.  There is a value
for every name under which some validator hands one on, in the order of the validators, and it is the value of the last
of them.  So a value is lost only to a later parameter of the same name in another location, and none is lost exactly
when the validators that hand a value on differ in name. -/
theorem values_of_validate_ok {engine : SchemaEngine} (stock : c.validators = .bySchema engine) {routes : List Route}
    (ok : (c.compile api).value = .ok routes) {route : Route} (mem : route ∈ routes) {request : Request}
    {values : OrderedMap String Json} (valid : route.validate request = .ok values) :
    (route.validators.map fun v => (v.parameter.location, v.parameter.name)).Nodup ∧
    OrderedMap.keys values = ((route.yielding request).map (·.parameter.name)).eraseDups ∧
    (∀ name x, OrderedMap.get? values name = some x ↔
      ∃ before v after, route.validators = before ++ v :: after ∧ v.parameter.name = name ∧
        v.validate (request.parameter? v.parameter) = .ok (some x) ∧
        ∀ later ∈ after, later.parameter.name = name → later.value? request = none) ∧
    (values.length = (route.yielding request).length ↔
      ((route.yielding request).map (·.parameter.name)).Nodup) := by
  refine ⟨nodup_keys_of_compile_ok stock ok mem, ?_, fun name x => ?_, ?_⟩
  · rw [Route.eq_ofEntries_of_validate_ok valid, OrderedMap.keys_ofEntries, Route.map_fst_entries]
  · simp only [← Validator.value?_eq_some_iff]
    exact Route.get?_eq_some_iff_of_validate_ok valid
  · rw [Route.eq_ofEntries_of_validate_ok valid, ← Route.length_entries, OrderedMap.length_ofEntries_eq_iff,
      Route.map_fst_entries]

/-- The path has a value for `id` and the query has none, so the value of the path stays although the query comes later;
the value of `limit` is its default. -/
theorem values_of_validate_ok_pets :
    let c : Compiler :=
      { config := {}, validators := .bySchema SchemaDocument.engine, probe := fun _ => false
        handlers := fun path => .error (.notFound path), authorizers := fun path => .error (.notFound path)
        defaultHandler := some .echo }
    let api : Description :=
      { paths := [("/pets",
          { get := some { parameters := [{ name := "id", location := .query }] }
            parameters := [{ name := "id", location := .path },
              { name := "limit", location := .query, default := some (.int 10) }] })] }
    let request : Request := { pathParams := [("id", "7")] }
    ∃ route values, (c.compile api).value = .ok [route] ∧ route.validate request = .ok values ∧
      OrderedMap.keys values = ["id", "limit"] ∧ OrderedMap.get? values "id" = some (.string "7") ∧
      values.length = (route.yielding request).length := by
  intro c api request
  have ok : (c.compile api).value = .ok [_] := rfl
  obtain ⟨-, keys, last, kept⟩ := @values_of_validate_ok c api SchemaDocument.engine rfl _ ok _ List.mem_cons_self request
    [("id", .string "7"), ("limit", .int 10)] rfl
  refine ⟨_, _, ok, rfl, keys.trans (by decide +kernel), (last _ _).2 ?_, kept.2 (by decide +kernel)⟩
  refine ⟨[], _, _, rfl, rfl, rfl, fun later mem named => ?_⟩
  obtain _ | ⟨_, mem⟩ := mem
  · -- `limit` has another name
    exact absurd named (by decide)
  · obtain rfl := List.mem_singleton.1 mem
    rfl

/-- The path and the query both have a value for `id`, and that of the path is lost. -/
theorem value_of_path_lost :
    let c : Compiler :=
      { config := {}, validators := .bySchema SchemaDocument.engine, probe := fun _ => false
        handlers := fun path => .error (.notFound path), authorizers := fun path => .error (.notFound path)
        defaultHandler := some .echo }
    let api : Description :=
      { paths := [("/pets",
          { get := some { parameters := [{ name := "id", location := .path }, { name := "id", location := .query }] } })] }
    let request : Request := { pathParams := [("id", "7")], query := [("id", "8")] }
    ∃ route inPath inQuery values, (c.compile api).value = .ok [route] ∧ route.validators = [inPath, inQuery] ∧
      inPath.validate (request.parameter? inPath.parameter) = .ok (some (.string "7")) ∧
      inQuery.validate (request.parameter? inQuery.parameter) = .ok (some (.string "8")) ∧
      route.validate request = .ok values ∧
      OrderedMap.get? values inPath.parameter.name ≠ some (.string "7") ∧ values.length ≠ 2 := by
  intro c api request
  refine ⟨_, _, _, [("id", .string "8")], rfl, rfl, rfl, rfl, rfl, ?_, ?_⟩
  · simp [OrderedMap.get?]
  · decide

end Compiler

end RouteTable
