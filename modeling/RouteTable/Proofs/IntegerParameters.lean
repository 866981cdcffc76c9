import RouteTable.Proofs.CollectionFormats
import RouteTable.Proofs.IntegerSchemas
import RouteTable.Proofs.ParameterSchemas
import RouteTable.Proofs.Verdicts

/-!
# Integer parameters

The schema of an integer with bounds has a type and at most two bounds.  Where a flag next to a bound is on, the bound
moves to the key of the flag, and a flag without its bound is left out (`Parameter.IsInteger.get?_schemaFields`).  Texts
that do not denote an integer stay texts, and the type refuses them.  So for an engine that knows integers the texts that
are taken are those of integers within the bounds (`Validation.integer_values`).
-/

namespace RouteTable

/-- A lower and an upper bound, each possibly missing, with flags that make them strict. -/
structure IntegerRange where
  lower : Option Int
  upper : Option Int
  strictBelow : Option Bool
  strictAbove : Option Bool

namespace IntegerRange

/-- A flag without its bound does not count. -/
def Holds (r : IntegerRange) (n : Int) : Prop :=
  (∀ m ∈ r.lower, if r.strictBelow = some true then m < n else m ≤ n) ∧
    ∀ m ∈ r.upper, if r.strictAbove = some true then n < m else n ≤ m

/-- A bound stands in the range under its own key, or under that of its flag. -/
def Declares (r : IntegerRange) : Bound → Int → Prop
  | .minimum, m => r.strictBelow ≠ some true ∧ r.lower = some m
  | .exclusiveMinimum, m => r.strictBelow = some true ∧ r.lower = some m
  | .maximum, m => r.strictAbove ≠ some true ∧ r.upper = some m
  | .exclusiveMaximum, m => r.strictAbove = some true ∧ r.upper = some m

theorem holds_iff {r : IntegerRange} {n : Int} : r.Holds n ↔ ∀ b m, r.Declares b m → b.Allows m n := by
  obtain ⟨lower, upper, strictBelow, strictAbove⟩ := r
  constructor
  · rintro ⟨below, above⟩ (_ | _ | _ | _) m ⟨strict, rfl⟩
    · exact (if_neg strict).mp (below m rfl)
    · exact (if_neg strict).mp (above m rfl)
    · exact (if_pos strict).mp (below m rfl)
    · exact (if_pos strict).mp (above m rfl)
  · intro all
    refine ⟨fun m mem => ?_, fun m mem => ?_⟩
    · split
      · next strict => exact all .exclusiveMinimum m ⟨strict, mem⟩
      · next strict => exact all .minimum m ⟨strict, mem⟩
    · split
      · next strict => exact all .exclusiveMaximum m ⟨strict, mem⟩
      · next strict => exact all .maximum m ⟨strict, mem⟩

end IntegerRange

namespace Parameter

/-- An integer outside the body with bounds and their flags, and no other constraint on its value. -/
structure IsInteger (p : Parameter) (r : IntegerRange) : Prop where
  outside : p.location ≠ .body
  kind : p.kind = some "integer"
  items : p.items = none
  allowed : p.allowed = none
  lower : OrderedMap.get? p.constraints "minimum" = r.lower.map .int
  upper : OrderedMap.get? p.constraints "maximum" = r.upper.map .int
  strictBelow : OrderedMap.get? p.constraints "exclusiveMinimum" = r.strictBelow.map .bool
  strictAbove : OrderedMap.get? p.constraints "exclusiveMaximum" = r.strictAbove.map .bool
  others : ∀ key ∈ ["maxLength", "minLength", "pattern", "maxItems", "minItems", "uniqueItems", "multipleOf"],
    OrderedMap.get? p.constraints key = none

variable {p : Parameter} {r : IntegerRange}

/-- An integer for which only a maximum is declared. -/
theorem isInteger_of_maximum (name : String) (upper : Int) (default : Option Json) :
    IsInteger
      { name, location := .query, kind := some "integer", default, constraints := [("maximum", .int upper)] }
      ⟨none, some upper, none, none⟩ := by
  have unconstrained : ∀ key ∈
      ["maxLength", "minLength", "pattern", "maxItems", "minItems", "uniqueItems", "multipleOf"],
      key ∉ ["maximum"] := by decide
  exact ⟨by simp, rfl, rfl, rfl, rfl, rfl, rfl, rfl,
    fun key mem => OrderedMap.get?_eq_none_iff.2 (unconstrained key mem)⟩

theorem IsInteger.get?_schemaFields (h : p.IsInteger r) (k : String) :
    OrderedMap.get? p.schemaFields k =
      if k = "type" then some (.string "integer")
      else if k = "minimum" then if r.strictBelow = some true then none else r.lower.map .int
      else if k = "exclusiveMinimum" then if r.strictBelow = some true then r.lower.map .int else none
      else if k = "maximum" then if r.strictAbove = some true then none else r.upper.map .int
      else if k = "exclusiveMaximum" then if r.strictAbove = some true then r.upper.map .int else none
      else none := by
  have declared := p.nodup_keys_declaredFields
  have raised := nodup_keys_applyFlag declared "exclusiveMaximum" "maximum"
  have above : OrderedMap.get? p.declaredFields "exclusiveMaximum" = r.strictAbove.map .bool := by
    rw [get?_declaredFields_of_mem p (by decide), h.strictAbove]
  have below : OrderedMap.get? (applyFlag "exclusiveMaximum" "maximum" p.declaredFields) "exclusiveMinimum" =
      r.strictBelow.map .bool := by
    rw [get?_applyFlag declared above, if_neg (by decide), if_neg (by simp), get?_declaredFields_of_mem p (by decide),
      h.strictBelow]
  have lower : OrderedMap.get? p.declaredFields "minimum" = r.lower.map .int := by
    rw [get?_declaredFields_of_mem p (by decide), h.lower]
  have upper : OrderedMap.get? p.declaredFields "maximum" = r.upper.map .int := by
    rw [get?_declaredFields_of_mem p (by decide), h.upper]
  rw [schemaFields_eq, get?_applyFlag raised below, get?_applyFlag declared above, get?_applyFlag declared above]
  by_cases known : k ∈ ["type", "minimum", "exclusiveMinimum", "maximum", "exclusiveMaximum"]
  · simp only [List.mem_cons, List.not_mem_nil, or_false] at known
    rcases known with rfl | rfl | rfl | rfl | rfl
    · simp [get?_declaredFields, h.kind]
    · simp [lower]
    · simp [lower]
    · simp [upper]
    · simp [upper]
  · have covered : ∀ key ∈ schemaKeywords,
        key ∉ ["type", "minimum", "exclusiveMinimum", "maximum", "exclusiveMaximum"] →
        key ∈ ["maxLength", "minLength", "pattern", "maxItems", "minItems", "uniqueItems", "multipleOf"] := by decide
    have constraint : k ∈ schemaKeywords → OrderedMap.get? p.constraints k = none :=
      fun mem => h.others k (covered k mem known)
    simp only [List.mem_cons, List.not_mem_nil, or_false, not_or] at known
    have nothing : OrderedMap.get? p.declaredFields k = none := by
      rw [get?_declaredFields, if_neg known.1, h.items, h.allowed]
      simpa using fun _ _ => constraint
    simp [known, nothing]

/-- The schema of an integer holds its type and bounds. -/
theorem IsInteger.exists_field (h : p.IsInteger r) {k : String} {v : Json}
    (found : OrderedMap.get? p.schemaFields k = some v) : ∃ keyword : IntegerKeyword, keyword.field = (k, v) := by
  have bounded : ∀ {o : Option Int} (b : Bound), o.map Json.int = some v →
      ∃ keyword : IntegerKeyword, keyword.field = (b.key, v) := by
    intro o b same
    obtain ⟨n, -, rfl⟩ := Option.map_eq_some_iff.1 same
    exact ⟨.bound b n, rfl⟩
  rw [h.get?_schemaFields] at found
  split at found
  · next type => exact ⟨.integer, by rw [type, ← Option.some.inj found]; rfl⟩
  split at found
  · next key => exact key ▸ bounded .minimum (Option.ite_none_left_eq_some.1 found).2
  split at found
  · next key => exact key ▸ bounded .exclusiveMinimum (Option.ite_none_right_eq_some.1 found).2
  split at found
  · next key => exact key ▸ bounded .maximum (Option.ite_none_left_eq_some.1 found).2
  split at found
  · next key => exact key ▸ bounded .exclusiveMaximum (Option.ite_none_right_eq_some.1 found).2
  · cases found

theorem IsInteger.integerSchema (h : p.IsInteger r) : IntegerSchema p.schemaFields :=
  ⟨p.nodup_keys_schemaFields,
    fun _ mem => h.exists_field (OrderedMap.get?_eq_some_of_mem p.nodup_keys_schemaFields mem)⟩

theorem IsInteger.mem_schemaFields_iff {k : String} {v : Json} :
    (k, v) ∈ p.schemaFields ↔ OrderedMap.get? p.schemaFields k = some v :=
  ⟨OrderedMap.get?_eq_some_of_mem p.nodup_keys_schemaFields, OrderedMap.mem_of_get?_eq_some⟩

theorem IsInteger.integer_mem (h : p.IsInteger r) : IntegerKeyword.integer.field ∈ p.schemaFields :=
  OrderedMap.mem_of_get?_eq_some (h.get?_schemaFields "type")

theorem IsInteger.bound_mem_iff (h : p.IsInteger r) (b : Bound) (m : Int) :
    (IntegerKeyword.bound b m).field ∈ p.schemaFields ↔ r.Declares b m := by
  have int : ∀ o : Option Int, o.map Json.int = some (.int m) ↔ o = some m := by
    rintro (_ | n) <;> simp [Json.int]
  rw [IntegerKeyword.field, mem_schemaFields_iff, h.get?_schemaFields]
  cases b <;> simp [Bound.key, IntegerRange.Declares, int]

/-- The keywords of an integer ask for what its range does. -/
theorem IsInteger.forall_field_iff (h : p.IsInteger r) (n : Int) :
    (∀ k : IntegerKeyword, k.field ∈ p.schemaFields → k.AllowsInt n) ↔ r.Holds n := by
  rw [IntegerRange.holds_iff]
  constructor
  · exact fun all b m declared => all (.bound b m) ((h.bound_mem_iff b m).2 declared)
  · rintro all (_ | ⟨b, m⟩) mem
    · trivial
    · exact all b m ((h.bound_mem_iff b m).1 mem)

theorem IsInteger.valueSchema?_eq (h : p.IsInteger r) : p.valueSchema? = some (.object p.schemaFields) := by
  have nonempty : p.schemaFields ≠ [] := by
    intro empty
    have type := h.get?_schemaFields "type"
    rw [empty] at type
    simp [OrderedMap.get?] at type
  rw [valueSchema?, if_neg h.outside, h.kind, if_neg (by decide)]
  cases fields : p.schemaFields with
  | nil => exact absurd fields nonempty
  | cons field rest => rfl

/-- The validator of an integer checks its type and its bounds. -/
theorem IsInteger.exists_check {engine : SchemaEngine} (knows : engine.KnowsIntegers) (h : p.IsInteger r) :
    ∃ check, p.validator engine = ⟨p, some check⟩ ∧ (∀ n, check (.int n) = .ok () ↔ r.Holds n) ∧
      ∀ s, check (.string s) ≠ .ok () := by
  obtain ⟨complaints, taken⟩ := knows.takes h.integerSchema
  refine ⟨Validator.checkOf complaints, ?_, fun n => ?_, fun s accepted => ?_⟩
  · rw [validator, complaints?_eq_some_iff.2 ⟨_, h.valueSchema?_eq, taken⟩]
    rfl
  · rw [Validator.checkOf_eq_ok_iff, knows.int h.integerSchema taken, h.forall_field_iff]
  · rw [Validator.checkOf_eq_ok_iff, knows.text h.integerSchema taken] at accepted
    exact accepted .integer h.integer_mem

theorem IsInteger.coerce_eq (h : p.IsInteger r) (raw : String) :
    coerce p (.string raw) = (Coercion.integer? raw).elim (.string raw) .int := by
  rw [coerce_string h.outside, Coercion.text, h.kind]
  rfl

end Parameter

/-- With an engine that knows integers, a validator by schema for an integer with bounds takes those texts that denote an
integer of 64 bits within the bounds, and hands this integer on.  Every other text is an issue at the label of the
parameter. -/
theorem Validation.integer_values {engine : SchemaEngine} (knows : engine.KnowsIntegers) {parameters : List Parameter}
    {outline : RouteOutline} {v : Validator} (made : v ∈ (Validation.bySchema engine parameters outline).value)
    {r : IntegerRange} (integer : v.parameter.IsInteger r) (raw : String) :
    (∀ x, v.validate (some (.string raw)) = .ok (some x) ↔
      ∃ n, x = .int n ∧ DecimalInteger raw.toList n ∧ IsWord n ∧ r.Holds n) ∧
    ((¬∃ n, DecimalInteger raw.toList n ∧ IsWord n ∧ r.Holds n) →
      ∃ message, v.validate (some (.string raw)) = .error ⟨v.parameter.label, "InvalidParameter", message⟩) := by
  obtain ⟨check, checked, takesInt, takesNoText⟩ := integer.exists_check knows
  have attached : v.check = some check := by rw [eq_of_mem_bySchema made, checked]
  have refuses : ∀ x, check x ≠ .ok () → ∃ message, check x = .error message := by
    intro x refused
    cases checked : check x with
    | ok _ => exact absurd checked refused
    | error message => exact ⟨message, rfl⟩
  have taken : ∀ n,
      DecimalInteger raw.toList n ∧ IsWord n ∧ r.Holds n ↔ Coercion.integer? raw = some n ∧ r.Holds n := by
    intro n
    rw [Coercion.integer?_eq_some_iff, and_assoc]
  simp only [taken, Validator.validate_some_eq_ok_iff, Validator.validate_some_eq_error_iff,
    Validator.accepts_iff attached]
  cases read : Coercion.integer? raw with
  | some n =>
    have value : coerce v.parameter (.string raw) = .int n := by
      rw [integer.coerce_eq, read]
      rfl
    rw [value, takesInt]
    refine ⟨by simp, fun outside => ?_⟩
    obtain ⟨message, refused⟩ := refuses (.int n) fun ok => outside ⟨n, rfl, (takesInt n).1 ok⟩
    exact ⟨message, check, message, attached, refused, rfl⟩
  | none =>
    have value : coerce v.parameter (.string raw) = .string raw := by
      rw [integer.coerce_eq, read]
      rfl
    rw [value]
    refine ⟨by simp [takesNoText], fun _ => ?_⟩
    obtain ⟨message, refused⟩ := refuses (.string raw) (takesNoText raw)
    exact ⟨message, check, message, attached, refused, rfl⟩

/-- Zero lies outside a strict bound of zero, and a flag without its bound does not count. -/
theorem Validation.integer_values_limit :
    let limit : Parameter :=
      { name := "limit", location := .query, kind := some "integer"
        constraints := [("minimum", .int 0), ("exclusiveMinimum", .bool true), ("exclusiveMaximum", .bool true)] }
    let range : IntegerRange := ⟨some 0, none, some true, some true⟩
    let outline : RouteOutline := .bare "/pets" ⟨"GET"⟩
    limit.IsInteger range ∧ ∃ v, v ∈ (Validation.bySchema SchemaDocument.engine [limit] outline).value ∧
      v.validate (some (.string "+07")) = .ok (some (.int 7)) ∧
      ∃ message, v.validate (some (.string "-0")) = .error ⟨"query:limit", "InvalidParameter", message⟩ := by
  intro limit range outline
  have unconstrained : ∀ key ∈
      ["maxLength", "minLength", "pattern", "maxItems", "minItems", "uniqueItems", "multipleOf"],
      key ∉ OrderedMap.keys limit.constraints := by decide
  have integer : limit.IsInteger range :=
    ⟨by decide, rfl, rfl, rfl, rfl, rfl, rfl, rfl, fun key mem => OrderedMap.get?_eq_none_iff.2 (unconstrained key mem)⟩
  obtain ⟨v, made, named⟩ :
      ∃ v, v ∈ (Validation.bySchema SchemaDocument.engine [limit] outline).value ∧ v.parameter = limit := by
    rw [Validation.value_bySchema]
    exact ⟨_, List.mem_cons_self, rfl⟩
  have values := Validation.integer_values SchemaDocument.engine_knowsIntegers made (named ▸ integer)
  refine ⟨integer, v, made,
    ((values "+07").1 _).2 ⟨7, rfl, ?_, by simp [IsWord], by simp [range, IntegerRange.Holds]⟩, ?_⟩
  · exact readInt?_eq_some_iff.1 (by decide +kernel)
  · rw [show "query:limit" = v.parameter.label by rw [named]; rfl]
    refine (values "-0").2 ?_
    rintro ⟨n, denoted, -, holds⟩
    have zero : some n = some 0 := (readInt?_eq_some_iff.2 denoted).symm.trans (by decide +kernel)
    obtain rfl := Option.some.inj zero
    simp [range, IntegerRange.Holds] at holds

end RouteTable
