import RouteTable.Proofs.IntegerParameters
import RouteTable.Proofs.ValidatedValues

/-!
# Checked values

A check takes every value that was supplied and is handed on, whether this is the value as it came or a text that was
coerced (`Validator.validate_eq_ok_some_iff`).  A declared default is handed on as it is declared, and no check sees it.
So handlers are given values that checks take and declared defaults, and nothing else (`Validation.checked_or_default`).
All of them are checked when the checks take the defaults, and not otherwise (`Validation.default_not_checked`).
-/

namespace RouteTable

/-- What is handed on is the supplied value, coerced, if the check takes it, or the default of an absent one. -/
theorem Validator.validate_eq_ok_some_iff {v : Validator} {raw : Option Json} {x : Json} :
    v.validate raw = .ok (some x) ↔
      (∃ given, raw = some given ∧ x = coerce v.parameter given ∧ v.Accepts x) ∨
        raw = none ∧ v.parameter.default = some x := by
  cases raw with
  | none =>
    rw [validate_none_eq_ok_iff]
    constructor
    · rintro ⟨declared, -⟩
      exact .inr ⟨rfl, declared.symm⟩
    · rintro (⟨given, absent, -⟩ | ⟨-, declared⟩)
      · cases absent
      · exact ⟨declared.symm, fun _ => by rw [declared]; rfl⟩
  | some given =>
    rw [validate_some_eq_ok_iff, Option.some.injEq]
    constructor
    · rintro ⟨rfl, accepted⟩
      exact .inl ⟨given, rfl, rfl, accepted⟩
    · rintro (⟨_, same, rfl, accepted⟩ | ⟨absent, -⟩)
      · cases same
        exact ⟨rfl, accepted⟩
      · cases absent

/-- The check takes all that is handed on exactly when it takes the declared default, if there is one. -/
theorem Validator.forall_accepts_iff {v : Validator} :
    (∀ raw x, v.validate raw = .ok (some x) → v.Accepts x) ↔ ∀ default ∈ v.parameter.default, v.Accepts default := by
  simp only [validate_eq_ok_some_iff]
  constructor
  · exact fun sound default declared => sound none default (.inr ⟨rfl, declared⟩)
  · rintro sound raw x (⟨-, -, -, accepted⟩ | ⟨-, declared⟩)
    · exact accepted
    · exact sound x declared

/-- A value that a route hands on comes from one of its validators, which has checked it unless it is a default. -/
theorem Route.accepts_or_default_of_validate_ok {r : Route} {request : Request} {values : OrderedMap String Json}
    (valid : r.validate request = .ok values) {name : String} {x : Json}
    (found : OrderedMap.get? values name = some x) :
    ∃ v ∈ r.validators, v.parameter.name = name ∧
      (v.Accepts x ∨ request.parameter? v.parameter = none ∧ v.parameter.default = some x) := by
  obtain ⟨before, v, after, split, named, handed, -⟩ := (get?_eq_some_iff_of_validate_ok valid).1 found
  refine ⟨v, by simp [split], named, ?_⟩
  obtain ⟨-, -, -, accepted⟩ | default := Validator.validate_eq_ok_some_iff.1 (Validator.value?_eq_some_iff.1 handed)
  · exact .inl accepted
  · exact .inr default

namespace Validation

/-- A validator by schema with a check: the check is that of the schema which its parameter declares.  It takes every
supplied value that is handed on, and this is the value as it came, coerced.  An absent value hands on the declared
default, as it is declared.  So the check takes all that is handed on exactly when it takes this default, if there is
one.  And under each name a handler is given a value that the check of a parameter of the name takes, or the declared
default of one that is absent. -/
theorem checked_or_default (engine : SchemaEngine) (parameters : List Parameter) (outline : RouteOutline) :
    let validators := (Validation.bySchema engine parameters outline).value
    (∀ v ∈ validators, ∀ check, v.check = some check →
      (∃ schema complaints, v.parameter.valueSchema? = some schema ∧ engine schema = .ok complaints ∧
        check = Validator.checkOf complaints) ∧
      (∀ raw x, v.validate (some raw) = .ok (some x) → x = coerce v.parameter raw ∧ check x = .ok ()) ∧
      (∀ x, v.validate none = .ok (some x) ↔ v.parameter.default = some x) ∧
      ((∀ raw x, v.validate raw = .ok (some x) → check x = .ok ()) ↔
        ∀ default ∈ v.parameter.default, check default = .ok ())) ∧
    ∀ route : Route, route.validators = validators → ∀ request values, route.validate request = .ok values →
      ∀ name x, OrderedMap.get? values name = some x →
        ∃ v ∈ validators, v.parameter.name = name ∧
          (v.Accepts x ∨ request.parameter? v.parameter = none ∧ v.parameter.default = some x) := by
  intro validators
  constructor
  · intro v made check attached
    refine ⟨?_, fun raw x handed => ?_, fun x => ?_, ?_⟩
    · have built := congrArg Validator.check (eq_of_mem_bySchema made)
      rw [attached, Parameter.validator, eq_comm, Option.map_eq_some_iff] at built
      obtain ⟨complaints, found, rfl⟩ := built
      obtain ⟨schema, declared, taken⟩ := Parameter.complaints?_eq_some_iff.1 found
      exact ⟨schema, complaints, declared, taken, rfl⟩
    · obtain ⟨same, accepted⟩ := Validator.validate_some_eq_ok_iff.1 handed
      obtain rfl := Option.some.inj same
      exact ⟨rfl, (Validator.accepts_iff attached).1 accepted⟩
    · rw [Validator.validate_eq_ok_some_iff]
      simp
    · simp only [← Validator.accepts_iff attached]
      exact Validator.forall_accepts_iff
  · intro route made request values valid name x found
    rw [← made]
    exact Route.accepts_or_default_of_validate_ok valid found

/-- A supplied value is checked, and the default of an absent one is handed on although it lies above the maximum. -/
theorem checked_or_default_limit :
    let limit : Parameter :=
      { name := "limit", location := .query, kind := some "integer", default := some (.int 50)
        constraints := [("maximum", .int 10)] }
    let outline : RouteOutline := .bare "/pets" ⟨"GET"⟩
    let validators := (Validation.bySchema SchemaDocument.engine [limit] outline).value
    let route : Route := { outline with validators, handler := .echo }
    ∃ v check, v ∈ validators ∧ v.check = some check ∧ v.validate (some (.string "7")) = .ok (some (.int 7)) ∧
      check (.int 7) = .ok () ∧ v.validate none = .ok (some (.int 50)) ∧
      ∃ values, route.validate {} = .ok values ∧ OrderedMap.get? values "limit" = some (.int 50) ∧
        ∃ v ∈ validators, v.Accepts (.int 50) ∨ v.parameter.default = some (.int 50) := by
  intro limit outline validators route
  obtain ⟨sound, given⟩ := checked_or_default SchemaDocument.engine [limit] outline
  have integer := Parameter.isInteger_of_maximum "limit" 10 (some (.int 50))
  obtain ⟨check, checked, takes, -⟩ := integer.exists_check SchemaDocument.engine_knowsIntegers
  let made : Validator := limit.validator SchemaDocument.engine
  have built : validators = [made] := Validation.value_bySchema ..
  have mem_made : made ∈ validators := built ▸ List.mem_cons_self
  have attached : made.check = some check := congrArg Validator.check checked
  obtain ⟨-, supplied, absent, -⟩ := sound _ mem_made check attached
  have value : coerce limit (.string "7") = .int 7 := by
    rw [integer.coerce_eq, show Coercion.integer? "7" = some 7 by decide +kernel]
    rfl
  have handed : made.validate (some (.string "7")) = .ok (some (.int 7)) := by
    refine Validator.validate_some_eq_ok_iff.2 ⟨congrArg some value.symm, (Validator.accepts_iff attached).2 ?_⟩
    rw [show coerce made.parameter (.string "7") = .int 7 from value, takes]
    simp [IntegerRange.Holds]
  have defaulted : route.validate {} = .ok [("limit", .int 50)] := by
    rw [show route = { outline with validators := [made], handler := .echo } by rw [← built]]
    rfl
  obtain ⟨v, mem, -, from_v⟩ := given route rfl _ _ defaulted "limit" (.int 50) rfl
  exact ⟨_, check, mem_made, attached, handed, (supplied _ _ handed).2, (absent _).2 rfl, _, defaulted, rfl, v, mem,
    from_v.imp_right And.right⟩

/-- The check does not take the default that is handed on. -/
theorem default_not_checked :
    let limit : Parameter :=
      { name := "limit", location := .query, kind := some "integer", default := some (.int 50)
        constraints := [("maximum", .int 10)] }
    ∃ v check, v ∈ (Validation.bySchema SchemaDocument.engine [limit] (.bare "/pets" ⟨"GET"⟩)).value ∧ v.check = some check ∧
      v.validate none = .ok (some (.int 50)) ∧ check (.int 50) ≠ .ok () := by
  intro limit
  obtain ⟨check, checked, takes, -⟩ :=
    (Parameter.isInteger_of_maximum "limit" 10 (some (.int 50))).exists_check SchemaDocument.engine_knowsIntegers
  refine ⟨limit.validator SchemaDocument.engine, check, ?_, congrArg Validator.check checked, rfl, fun accepted => ?_⟩
  · rw [Validation.value_bySchema]
    exact List.mem_cons_self
  · have bounded : (50 : Int) ≤ 10 := ((takes 50).1 accepted).2 10 rfl
    exact absurd bounded (by decide)

end Validation

end RouteTable
