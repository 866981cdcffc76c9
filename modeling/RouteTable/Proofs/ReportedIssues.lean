import RouteTable.Proofs.MergedParameters
import RouteTable.Proofs.RequestViews
import RouteTable.Proofs.ValidatedValues
import RouteTable.Proofs.Verdicts

/-!
# The issues of a request

A validator refuses a request on its own account (`Validator.refuses`).  A route refuses a request if one of its
validators does, and then every validator that refuses it has an issue, in order (`Route.validate_eq_error_iff`).  What a
route says depends on the data that its parameters read, and on nothing else in the request
(`Route.validate_of_readsAlike`).
-/

namespace RouteTable

/-- What a list is mapped to, for those of its elements that are mapped to something. -/
theorem filterMap_eq_iff {α β : Type} {f : α → Option β} {l : List α} {m : List β} :
    l.filterMap f = m ↔ List.Forall₂ (fun a b => f a = some b) (l.filter fun a => (f a).isSome) m := by
  induction l generalizing m with
  | nil => simp [eq_comm]
  | cons a l ih =>
    cases found : f a with
    | none =>
      rw [List.filterMap_cons_none found, List.filter_cons_of_neg (by simp [found])]
      exact ih
    | some b =>
      rw [List.filterMap_cons_some found, List.filter_cons_of_pos (by simp [found]), List.forall₂_cons_left_iff]
      constructor
      · rintro rfl
        exact ⟨b, _, found, ih.1 rfl, rfl⟩
      · rintro ⟨c, rest, same, related, rfl⟩
        rw [ih.2 related, Option.some.inj (found.symm.trans same)]

namespace Validator

/-- A value is absent although it is required and has no default, or it is supplied and its check does not take it. -/
def refuses (v : Validator) : Option Json → Bool
  | none => v.parameter.required && v.parameter.default.isNone
  | some raw => v.check.any fun check => (fault? (check (coerce v.parameter raw))).isSome

/-- The issue that a validator has with a value. -/
structure Complains (v : Validator) (raw : Option Json) (issue : Issue) : Prop where
  verdict : v.validate raw = .error issue
  location : issue.location = v.parameter.label
  kind : issue.kind = if raw.isNone then "MissingParameter" else "InvalidParameter"

theorem validate_eq_error_iff {v : Validator} {raw : Option Json} {issue : Issue} :
    v.validate raw = .error issue ↔ v.Complains raw issue := by
  refine ⟨fun verdict => ?_, Complains.verdict⟩
  cases raw with
  | none =>
    obtain ⟨-, -, rfl⟩ := validate_none_eq_error_iff.1 verdict
    exact ⟨verdict, rfl, rfl⟩
  | some raw =>
    obtain ⟨check, message, -, -, rfl⟩ := validate_some_eq_error_iff.1 verdict
    exact ⟨verdict, rfl, rfl⟩

theorem isSome_fault?_validate (v : Validator) (raw : Option Json) :
    (fault? (v.validate raw)).isSome = v.refuses raw := by
  rw [Bool.eq_iff_iff, Option.isSome_iff_exists]
  simp only [fault?_eq_some_iff]
  cases raw with
  | none => simp [validate_none_eq_error_iff, refuses]
  | some raw =>
    simp only [validate_some_eq_error_iff, refuses, Option.any_eq_true, Option.isSome_iff_exists, fault?_eq_some_iff]
    constructor
    · rintro ⟨_, check, message, attached, refused, -⟩
      exact ⟨check, attached, message, refused⟩
    · rintro ⟨check, attached, message, refused⟩
      exact ⟨_, check, message, attached, refused, rfl⟩

end Validator

/-- Two requests hold the same data where a parameter reads: the last value under its name in the path, the query or the
form, the first header whose name is the same up to case, or the body. -/
def Parameter.ReadsAlike (p : Parameter) (r s : Request) : Prop :=
  match p.location with
  | .path => (r.pathParams.valuesOf p.name).getLast? = (s.pathParams.valuesOf p.name).getLast?
  | .query => (r.query.valuesOf p.name).getLast? = (s.query.valuesOf p.name).getLast?
  | .formData => (r.form.valuesOf p.name).getLast? = (s.form.valuesOf p.name).getLast?
  | .header =>
    ((r.headers.filter (Text.sameFolded ·.1 p.name)).map (·.2)).head? =
      ((s.headers.filter (Text.sameFolded ·.1 p.name)).map (·.2)).head?
  | .body => r.body = s.body

theorem Text.sameFolded_eq (a b : String) :
    sameFolded a b = (a.toList.map Char.toLower == b.toList.map Char.toLower) := by
  change (a.map Char.toLower == b.map Char.toLower) = _
  rw [Bool.eq_iff_iff, beq_iff_eq, beq_iff_eq, ← String.toList_inj, String.toList_map, String.toList_map]

theorem Pairs.firstFolded?_cons_of_folded {header : String × String} {name : String}
    (folded : Text.sameFolded header.1 name = true) (rest : Pairs) :
    firstFolded? (header :: rest) name = some header.2 := by
  rw [firstFolded?, List.find?_cons, folded]
  rfl

theorem Parameter.ReadsAlike.parameter?_eq {p : Parameter} {r s : Request} (h : p.ReadsAlike r s) :
    r.parameter? p = s.parameter? p := by
  unfold ReadsAlike at h
  unfold Request.parameter?
  cases place : p.location with
  | path =>
    simp only [place, ← Pairs.last?_eq_getLast?] at h
    exact congrArg (Option.map Json.string) h
  | query =>
    simp only [place, ← Pairs.last?_eq_getLast?] at h
    exact congrArg (Option.map Json.string) h
  | formData =>
    simp only [place, ← Pairs.last?_eq_getLast?] at h
    exact congrArg (Option.map Json.string) h
  | header =>
    simp only [place, ← Pairs.firstFolded?_eq_head?] at h
    exact congrArg (Option.map Json.string) h
  | body =>
    simp only [place] at h
    exact h

namespace Route

variable {r : Route} {request : Request}

/-- The validators that refuse a request, in order. -/
def refusing (r : Route) (request : Request) : List Validator :=
  r.validators.filter fun v => v.refuses (request.parameter? v.parameter)

theorem forall₂_issues_iff {issues : List Issue} :
    (r.verdicts request).filterMap issue? = issues ↔
      List.Forall₂ (fun v issue => v.Complains (request.parameter? v.parameter) issue) (r.refusing request) issues := by
  have faults : (r.verdicts request).filterMap issue? =
      r.validators.filterMap fun v => fault? (v.validate (request.parameter? v.parameter)) := by
    rw [verdicts, List.filterMap_map]
    congr 1
    funext v
    rw [Function.comp_apply]
    cases v.validate (request.parameter? v.parameter) <;> rfl
  rw [faults, filterMap_eq_iff, refusing]
  simp only [Validator.isSome_fault?_validate, fault?_eq_some_iff, Validator.validate_eq_error_iff]

theorem issues_eq_nil_iff : (r.verdicts request).filterMap issue? = [] ↔ r.refusing request = [] := by
  rw [forall₂_issues_iff, List.forall₂_nil_right_iff]

/-- A request is refused with the issues of the validators that refuse it, one by one. -/
theorem validate_eq_error_iff {issues : List Issue} :
    r.validate request = .error issues ↔ r.refusing request ≠ [] ∧
      List.Forall₂ (fun v issue => v.Complains (request.parameter? v.parameter) issue) (r.refusing request) issues := by
  rw [← forall₂_issues_iff, ne_eq, ← issues_eq_nil_iff, validate]
  cases (r.verdicts request).filterMap issue? <;> simp

/-- A request is refused if some validator refuses it. -/
theorem exists_validate_eq_error_iff :
    (∃ issues, r.validate request = .error issues) ↔
      ∃ v ∈ r.validators, v.refuses (request.parameter? v.parameter) = true := by
  have none_refuses : r.refusing request = [] ↔
      ¬∃ v ∈ r.validators, v.refuses (request.parameter? v.parameter) = true := by
    simp [refusing]
  rw [← not_iff_not, ← none_refuses, ← issues_eq_nil_iff, validate]
  cases (r.verdicts request).filterMap issue? <;> simp

theorem validate_of_readsAlike {other : Request} (alike : ∀ v ∈ r.validators, v.parameter.ReadsAlike request other) :
    r.validate request = r.validate other := by
  have same : r.verdicts request = r.verdicts other := by
    refine List.map_congr_left fun v mem => ?_
    rw [(alike v mem).parameter?_eq]
  rw [validate, validate, same]

end Route

namespace Compiler

variable {c : Compiler} {api : Description}

/-- A route that comes from an endpoint has a validator for each of its merged parameters, in order, and no two labels
are the same.  It refuses a request exactly when a parameter is absent that is required and has no default, or one is
supplied that its check does not take.  Then there is one issue for each of these parameters, in their order and under
their labels, whatever the other parameters hold.  Data of a request that no parameter of the endpoint reads makes no
difference. -/
theorem issues_of_compile_ok {engine : SchemaEngine} (stock : c.validators = .bySchema engine) {routes : List Route}
    (ok : (c.compile api).value = .ok routes) {route : Route} (mem : route ∈ routes) :
    ∃ e ∈ api.endpoints, route.path = c.pathOf api e ∧ route.method = e.method ∧
      let merged := Parameter.merge e.item.parameters e.operation.parameters
      route.validators = merged.map (Parameter.validator engine) ∧ (route.validators.map (·.parameter.label)).Nodup ∧
      ∀ request : Request,
        ((∃ issues, route.validate request = .error issues) ↔
          ∃ v ∈ route.validators, v.refuses (request.parameter? v.parameter) = true) ∧
        (∀ issues, route.validate request = .error issues →
          List.Forall₂ (fun v issue => v.Complains (request.parameter? v.parameter) issue) (route.refusing request)
            issues) ∧
        ∀ other, (∀ p ∈ merged, p.ReadsAlike request other) → route.validate request = route.validate other := by
  obtain ⟨site, served, emitted⟩ := exists_of_forall₂ (forall₂_of_compile_ok ok) route mem
  obtain ⟨same_path, same_method, -, -⟩ := by simpa only [Prod.mk.injEq] using emitted.row
  have built := emitted.validators_eq stock
  have declared : site.endpoint ∈ api.endpoints := by
    rw [Description.endpoints_eq]
    exact List.mem_map_of_mem (List.mem_filter.1 served).1
  refine ⟨site.endpoint, declared, same_path, same_method, built, ?_, fun request => ⟨?_, ?_, ?_⟩⟩
  · rw [built, List.map_map]
    exact Parameter.nodup_labels (Parameter.nodup_keys_merge ..)
  · exact Route.exists_validate_eq_error_iff
  · exact fun issues refused => (Route.validate_eq_error_iff.1 refused).2
  · intro other alike
    refine Route.validate_of_readsAlike fun v mem => ?_
    rw [built, List.mem_map] at mem
    obtain ⟨p, mem, rfl⟩ := mem
    exact alike p mem

/-- One parameter is not of its type and another is missing, while a third is supplied.  Both issues are told, and
nothing changes when there is a second header of the same name and a query value that no parameter reads. -/
theorem issues_of_compile_ok_pets :
    let c : Compiler :=
      { config := {}, validators := .bySchema SchemaDocument.engine, probe := fun _ => false
        handlers := fun path => .error (.notFound path), authorizers := fun path => .error (.notFound path)
        defaultHandler := some .echo }
    let api : Description :=
      { paths := [("/pets",
          { get := some { parameters := [{ name := "id", location := .query, required := true }] }
            parameters := [{ name := "deep", location := .query, kind := some "boolean" },
              { name := "Key", location := .header, required := true }] })] }
    let request : Request := { query := [("deep", "maybe")], headers := [("key", "k")] }
    let other : Request := { query := [("deep", "maybe"), ("page", "2")], headers := [("key", "k"), ("KEY", "l")] }
    ∃ route issues, (c.compile api).value = .ok [route] ∧
      route.validators.map (·.parameter.label) = ["query:deep", "header:Key", "query:id"] ∧
      route.validate request = .error issues ∧
      issues.map (fun issue => (issue.location, issue.kind)) =
        [("query:deep", "InvalidParameter"), ("query:id", "MissingParameter")] ∧
      route.validate other = .error issues := by
  intro c api request other
  obtain ⟨route, ok⟩ : ∃ route, (c.compile api).value = .ok [route] := ⟨_, rfl⟩
  obtain ⟨e, declared, -, -, built, -, told⟩ := @issues_of_compile_ok c api SchemaDocument.engine rfl _ ok _ List.mem_cons_self
  obtain rfl := List.mem_singleton.1 declared
  obtain ⟨fails, exact, alike⟩ := told request
  let deep : Parameter := { name := "deep", location := .query, kind := some "boolean" }
  let key : Parameter := { name := "Key", location := .header, required := true }
  let id : Parameter := { name := "id", location := .query, required := true }
  let atDeep : Validator := deep.validator SchemaDocument.engine
  let atKey : Validator := key.validator SchemaDocument.engine
  let atId : Validator := id.validator SchemaDocument.engine
  have built : route.validators = [atDeep, atKey, atId] := built
  have folded : Text.sameFolded "key" "Key" = true := by
    rw [Text.sameFolded_eq]
    decide +kernel
  have refusing : route.refusing request = [atDeep, atId] := by
    have deep_refuses : atDeep.refuses (request.parameter? atDeep.parameter) = true := by decide +kernel
    have key_takes : ¬atKey.refuses (request.parameter? atKey.parameter) = true := by
      have supplied : request.parameter? atKey.parameter = some (.string "k") :=
        congrArg (Option.map Json.string) (Pairs.firstFolded?_cons_of_folded folded [])
      rw [supplied]
      decide +kernel
    have id_refuses : atId.refuses (request.parameter? atId.parameter) = true := by decide +kernel
    rw [Route.refusing, built, List.filter_cons, if_pos deep_refuses, List.filter_cons, if_neg key_takes,
      List.filter_cons, if_pos id_refuses, List.filter_nil]
  obtain ⟨issues, refused⟩ := fails.2 ⟨atId, by simp [built], rfl⟩
  have each := exact issues refused
  rw [refusing] at each
  obtain _ | ⟨first, _ | ⟨second, _ | _⟩⟩ := each
  refine ⟨route, _, ok, by rw [built]; rfl, refused, ?_, ?_⟩
  · simp only [List.map_cons, first.location, first.kind, second.location, second.kind]
    rfl
  · rw [← alike other ?_, refused]
    intro p mem
    have mem : p ∈ [deep, key, id] := mem
    simp only [List.mem_cons, List.not_mem_nil, or_false] at mem
    rcases mem with rfl | rfl | rfl
    · rfl
    · change ((request.headers.filter (Text.sameFolded ·.1 "Key")).map (·.2)).head? =
        ((other.headers.filter (Text.sameFolded ·.1 "Key")).map (·.2)).head?
      rw [← Pairs.firstFolded?_eq_head?, ← Pairs.firstFolded?_eq_head?, Pairs.firstFolded?_cons_of_folded folded,
        Pairs.firstFolded?_cons_of_folded folded]
    · rfl

end Compiler

end RouteTable
