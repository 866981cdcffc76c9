import RouteTable.Proofs.FlatSchemas

/-!
# Schemas of integers

A schema of an integer has the type of integers and bounds that are integers.  An engine knows integers if it takes all
of these schemas and judges integers and texts keyword by keyword: the type takes integers and no texts, a bound compares
integers and takes every text (`SchemaEngine.KnowsIntegers`).  `SchemaDocument.engine` is one of them
(`SchemaDocument.engine_knowsIntegers`).
-/

namespace RouteTable

namespace Bound

def key : Bound → String
  | minimum => "minimum"
  | maximum => "maximum"
  | exclusiveMinimum => "exclusiveMinimum"
  | exclusiveMaximum => "exclusiveMaximum"

/-- What a bound asks of an integer. -/
def Allows : Bound → Int → Int → Prop
  | minimum, m, n => m ≤ n
  | maximum, m, n => n ≤ m
  | exclusiveMinimum, m, n => m < n
  | exclusiveMaximum, m, n => n < m

end Bound

/-- A keyword in the schema of an integer. -/
inductive IntegerKeyword
  | integer
  | bound (b : Bound) (limit : Int)

namespace IntegerKeyword

/-- The field that holds a keyword. -/
def field : IntegerKeyword → String × Json
  | integer => ("type", .string "integer")
  | bound b limit => (b.key, .int limit)

def AllowsInt : IntegerKeyword → Int → Prop
  | integer, _ => True
  | bound b limit, n => b.Allows limit n

/-- Texts have another type; bounds do not speak about them. -/
def AllowsText : IntegerKeyword → Prop
  | integer => False
  | bound _ _ => True

end IntegerKeyword

/-- The fields of a schema of an integer. -/
structure IntegerSchema (fields : OrderedMap String Json) : Prop where
  distinct : fields.keys.Nodup
  keyword : ∀ e ∈ fields, ∃ k : IntegerKeyword, k.field = e

/-- What an engine makes of a schema of an integer: it takes the schema, and what it allows is what all keywords allow.
-/
structure SchemaEngine.KnowsIntegers (engine : SchemaEngine) : Prop where
  takes : ∀ {fields}, IntegerSchema fields → ∃ complaints, engine (.object fields) = .ok complaints
  int : ∀ {fields complaints}, IntegerSchema fields → engine (.object fields) = .ok complaints →
    ∀ n, complaints (.int n) = [] ↔ ∀ k : IntegerKeyword, k.field ∈ fields → k.AllowsInt n
  text : ∀ {fields complaints}, IntegerSchema fields → engine (.object fields) = .ok complaints →
    ∀ s, complaints (.string s) = [] ↔ ∀ k : IntegerKeyword, k.field ∈ fields → k.AllowsText

/-! ### The engine of documents -/

theorem Number.unitsInOne_pos : (0 : Int) < unitsInOne := by decide +kernel

theorem Number.less_int (a b : Int) : less (int a) (int b) = decide (a < b) := by
  simp only [less, units, Int.mul_lt_mul_right unitsInOne_pos]

theorem Number.isWhole_int (n : Int) : isWhole (int n) = true := by
  rw [isWhole, units, Int.mul_emod_left, beq_self_eq_true]

theorem Bound.admits_int (b : Bound) (m n : Int) : b.admits (.int m) (.int n) = true ↔ b.Allows m n := by
  cases b <;> simp [admits, Allows, Number.less_int]

theorem Keyword.judge_eq_nil_iff {ok : Bool} {complaint : String} : judge ok complaint = [] ↔ ok = true := by
  cases ok <;> simp [judge]

namespace IntegerKeyword

/-- A keyword as a document has it. -/
def inDocument : IntegerKeyword → Keyword Schema
  | integer => .types [.integer]
  | bound b limit => .bound b (.int limit)

variable (k : IntegerKeyword) (check : Schema → Json → List String) (locate : String → Option Schema)

theorem errors_int (n : Int) : k.inDocument.errors check locate (.int n) = [] ↔ k.AllowsInt n := by
  cases k with
  | integer => simp [inDocument, Json.int, Keyword.errors, Keyword.judge_eq_nil_iff, JsonType.holds,
      Number.isWhole_int, AllowsInt]
  | bound b limit => rw [inDocument, Json.int, Keyword.errors, Keyword.judge_eq_nil_iff, Bound.admits_int, AllowsInt]

theorem errors_string (s : String) : k.inDocument.errors check locate (.string s) = [] ↔ k.AllowsText := by
  cases k with
  | integer => simp [inDocument, Keyword.errors, Keyword.judge_eq_nil_iff, JsonType.holds, AllowsText]
  | bound b limit => exact iff_of_true rfl trivial

theorem typesOf_integer : Schema.typesOf (.string "integer") = [.integer] := by decide +kernel

/-- How a document reads a keyword. -/
theorem exists_get?_valueKeywords : ∃ shape read, OrderedMap.get? Schema.valueKeywords k.field.1 = some (shape, read) ∧
    read k.field.2 = [k.inDocument] ∧ Schema.Shaped shape k.field.2 := by
  cases k with
  | integer =>
    have shaped : Schema.Shaped Schema.typeNames (.string "integer") := by
      rw [Schema.Shaped]
      decide +kernel
    exact ⟨_, _, rfl, congrArg (fun types => [Keyword.types types]) typesOf_integer, shaped⟩
  | bound b limit => cases b <;> exact ⟨_, _, rfl, rfl, rfl⟩

end IntegerKeyword

namespace IntegerSchema

variable {fields : OrderedMap String Json}

theorem field_of_get? (h : IntegerSchema fields) {key : String} {v : Json}
    (found : OrderedMap.get? fields key = some v) : ∃ k : IntegerKeyword, k.field = (key, v) :=
  h.keyword _ (OrderedMap.mem_of_get?_eq_some found)

theorem distinct_valueKeywords : (OrderedMap.keys Schema.valueKeywords).Nodup := by decide +kernel

theorem flat (h : IntegerSchema fields) : Schema.Flat fields := by
  have bounds : ∀ b : Bound, b.key ∉ Schema.nestingKeys ∧ b.key ≠ "pattern" := by
    rintro (_ | _ | _ | _) <;> decide
  have others : ∀ k : IntegerKeyword, k.field.1 ∉ Schema.nestingKeys ∧ k.field.1 ≠ "pattern" := by
    rintro (_ | ⟨b, _⟩)
    · decide
    · exact bounds b
  refine ⟨fun key mem => ?_, ?_, fun entry mem v found => ?_⟩
  · refine Option.eq_none_iff_forall_ne_some.2 fun v found => ?_
    obtain ⟨k, same⟩ := h.field_of_get? found
    exact (others k).1 (same ▸ mem)
  · refine Option.eq_none_iff_forall_ne_some.2 fun v found => ?_
    obtain ⟨k, same⟩ := h.field_of_get? found
    exact (others k).2 (by rw [same])
  · obtain ⟨k, same⟩ := h.field_of_get? found
    obtain ⟨shape, read, known, -, shaped⟩ := k.exists_get?_valueKeywords
    rw [same, OrderedMap.get?_eq_some_of_mem distinct_valueKeywords mem] at known
    rw [Option.some.inj known]
    simpa [same] using shaped

/-- The keywords that a document has for a schema of an integer. -/
theorem forall_flatKeywords (h : IntegerSchema fields) {P : Keyword Schema → Prop} :
    (∀ k ∈ Schema.flatKeywords fields, P k) ↔ ∀ k : IntegerKeyword, k.field ∈ fields → P k.inDocument := by
  constructor
  · intro all k mem
    obtain ⟨shape, read, known, reads, -⟩ := k.exists_get?_valueKeywords
    refine all _ (List.mem_flatMap.2 ⟨_, OrderedMap.mem_of_get?_eq_some known, ?_⟩)
    have present : OrderedMap.get? fields k.field.1 = some k.field.2 :=
      OrderedMap.get?_eq_some_of_mem h.distinct mem
    simp [present, reads]
  · intro all k' mem
    obtain ⟨entry, known, mem⟩ := List.mem_flatMap.1 mem
    cases found : OrderedMap.get? fields entry.1 with
    | none => simp [found] at mem
    | some v =>
      obtain ⟨k, same⟩ := h.field_of_get? found
      obtain ⟨shape, read, known', reads, -⟩ := k.exists_get?_valueKeywords
      rw [same, OrderedMap.get?_eq_some_of_mem distinct_valueKeywords known] at known'
      have isRead : k' ∈ [k.inDocument] := by
        rw [← reads, same]
        simpa [found, Option.some.inj known'] using mem
      rw [List.mem_singleton.1 isRead]
      exact all k (same ▸ OrderedMap.mem_of_get?_eq_some found)

end IntegerSchema

theorem SchemaDocument.engine_knowsIntegers : engine.KnowsIntegers := by
  have judges : ∀ {fields complaints}, IntegerSchema fields → engine (.object fields) = .ok complaints → ∀ v, ∃ check,
      complaints v = [] ↔ ∀ k : IntegerKeyword, k.field ∈ fields →
        k.inDocument.errors check (fun _ => none) v = [] := by
    intro fields complaints schema taken v
    obtain ⟨complaints', taken', checks⟩ := exists_engine_of_flat schema.flat
    obtain rfl := Except.ok.inj (taken.symm.trans taken')
    obtain ⟨check, iff⟩ := checks v
    exact ⟨check, iff.trans schema.forall_flatKeywords⟩
  refine ⟨fun schema => ?_, fun schema taken n => ?_, fun schema taken s => ?_⟩
  · obtain ⟨complaints, taken, -⟩ := exists_engine_of_flat schema.flat
    exact ⟨complaints, taken⟩
  · obtain ⟨check, iff⟩ := judges schema taken (.int n)
    simpa only [IntegerKeyword.errors_int] using iff
  · obtain ⟨check, iff⟩ := judges schema taken (.string s)
    simpa only [IntegerKeyword.errors_string] using iff

end RouteTable
