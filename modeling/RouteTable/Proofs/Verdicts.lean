import RouteTable.Proofs.Traced
import RouteTable.Validation

/-!
# What a validator says

A supplied value is coerced and checked, and the value that is handed on is the one that was checked.  An absent value
is the declared default, as it is declared, and without one it is nothing, or an issue if it is required.  A validator by
schema depends on its parameter and the engine alone (`Parameter.validator`): its check is that of the schema of the
parameter, if the engine can use it.
-/

namespace RouteTable

/-! ### Verdicts -/

namespace Validator

variable {v : Validator} {raw : Json} {outcome : Option Json} {issue : Issue}

/-- A validator without a check accepts every value. -/
def Accepts (v : Validator) (x : Json) : Prop := ∀ check ∈ v.check, check x = .ok ()

theorem accepts_iff {check : ValueCheck} (attached : v.check = some check) {x : Json} :
    v.Accepts x ↔ check x = .ok () := by
  simp [Accepts, attached]

theorem validate_some_eq_ok_iff :
    v.validate (some raw) = .ok outcome ↔
      outcome = some (coerce v.parameter raw) ∧ v.Accepts (coerce v.parameter raw) := by
  simp only [validate, Accepts]
  cases v.check with
  | none => simp [eq_comm]
  | some check =>
    cases checked : check (coerce v.parameter raw) <;> simp [checked, eq_comm]

theorem validate_some_eq_error_iff :
    v.validate (some raw) = .error issue ↔
      ∃ check message, v.check = some check ∧ check (coerce v.parameter raw) = .error message ∧
        issue = ⟨v.parameter.label, "InvalidParameter", message⟩ := by
  simp only [validate]
  cases v.check with
  | none => simp
  | some check =>
    cases checked : check (coerce v.parameter raw) <;> simp [checked, eq_comm]

theorem validate_none_eq_ok_iff :
    v.validate none = .ok outcome ↔
      outcome = v.parameter.default ∧ (v.parameter.required = true → v.parameter.default.isSome) := by
  simp only [validate]
  cases v.parameter.default with
  | some default =>
    simp only [Except.ok.injEq, Option.isSome_some, implies_true, and_true]
    exact eq_comm
  | none => cases v.parameter.required <;> cases outcome <;> simp

theorem validate_none_eq_error_iff :
    v.validate none = .error issue ↔
      v.parameter.required = true ∧ v.parameter.default = none ∧ issue = missing v.parameter := by
  simp only [validate]
  cases v.parameter.default with
  | some default => simp
  | none => cases v.parameter.required <;> simp [eq_comm]

end Validator

/-! ### Validators by schema -/

variable {engine : SchemaEngine}

/-- What an engine finds wrong with values by the schema of a parameter, if there is one that it can use. -/
def Parameter.complaints? (engine : SchemaEngine) (p : Parameter) : Option (Json → List String) :=
  p.valueSchema?.bind fun schema => (engine schema).toOption

theorem Parameter.complaints?_eq_some_iff {p : Parameter} {complaints : Json → List String} :
    p.complaints? engine = some complaints ↔
      ∃ schema, p.valueSchema? = some schema ∧ engine schema = .ok complaints := by
  rw [complaints?, Option.bind_eq_some_iff]
  refine exists_congr fun schema => and_congr_right fun _ => ?_
  cases engine schema <;> simp [Except.toOption]

/-- The validator by schema of a parameter. -/
def Parameter.validator (engine : SchemaEngine) (p : Parameter) : Validator :=
  ⟨p, (p.complaints? engine).map Validator.checkOf⟩

theorem Validator.checkOf_eq_ok_iff {complaints : Json → List String} {v : Json} :
    checkOf complaints v = .ok () ↔ complaints v = [] := by
  rw [checkOf]
  cases complaints v <;> simp

theorem Validator.value_bySchema (engine : SchemaEngine) (outline : RouteOutline) (p : Parameter) :
    (bySchema engine outline p).value = p.validator engine := by
  rw [bySchema, Parameter.validator, Parameter.complaints?]
  cases p.valueSchema? with
  | none => rfl
  | some schema =>
    dsimp only [Option.bind_some]
    cases engine schema <;> rfl

namespace Validation

theorem value_bySchema (engine : SchemaEngine) (parameters : List Parameter) (outline : RouteOutline) :
    (bySchema engine parameters outline).value = parameters.map (Parameter.validator engine) := by
  rw [bySchema, Traced.value_mapM]
  simp only [Validator.value_bySchema]

/-- Validators by schema are for the parameters they were made from, in order. -/
theorem map_parameter_bySchema (engine : SchemaEngine) (parameters : List Parameter) (outline : RouteOutline) :
    (bySchema engine parameters outline).value.map Validator.parameter = parameters := by
  rw [value_bySchema, List.map_map]
  exact List.map_id parameters

theorem eq_of_mem_bySchema {parameters : List Parameter} {outline : RouteOutline} {v : Validator}
    (made : v ∈ (bySchema engine parameters outline).value) : v = v.parameter.validator engine := by
  rw [value_bySchema, List.mem_map] at made
  obtain ⟨p, -, rfl⟩ := made
  rfl

end Validation

end RouteTable
