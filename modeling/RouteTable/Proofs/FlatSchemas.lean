import RouteTable.Schema.Engine

/-!
# Schemas without schemas inside

Reading a schema carries the references that it meets along, from keyword to keyword.  A schema that holds no schema and
no pattern meets none, so it loads when its values have the shapes that their keywords ask for.  It then refuses a value
exactly when one of its keywords does (`SchemaDocument.exists_engine_of_flat`).
-/

namespace RouteTable

namespace Schema

variable {α β : Type} {references : List String}

theorem run_bind_of_run_eq_ok {r : Reading α} {f : α → Reading β} {a : α} {later : List String}
    (ok : r.run references = .ok (a, later)) : (r >>= f).run references = (f a).run later := by
  rw [StateT.run_bind, ok]
  rfl

theorem run_mapM {read : α → Reading β} {f : α → β} {xs : List α}
    (reads : ∀ x ∈ xs, (read x).run references = .ok (f x, references)) :
    (xs.mapM read).run references = .ok (xs.map f, references) := by
  induction xs with
  | nil => rfl
  | cons x xs ih =>
    have first := reads x List.mem_cons_self
    have rest := ih fun y mem => reads y (List.mem_cons_of_mem _ mem)
    rw [List.mapM_cons, run_bind_of_run_eq_ok first, run_bind_of_run_eq_ok rest]
    rfl

/-- A value has a shape. -/
def Shaped (shape : Schema) (v : Json) : Prop := shape.errors (fun _ => none) 4 v = []

theorem run_expect {shape : Schema} {v : Json} (shaped : Shaped shape v) :
    (expect shape v).run references = .ok ((), references) := by
  rw [expect, shaped]
  rfl

theorem run_take? {fields : List (String × Json)} {key : String} {shape : Schema}
    (shaped : ∀ v, OrderedMap.get? fields key = some v → Shaped shape v) :
    (take? fields key shape).run references = .ok (OrderedMap.get? fields key, references) := by
  rw [take?]
  cases found : OrderedMap.get? fields key with
  | none => rfl
  | some v =>
    dsimp only
    rw [run_bind_of_run_eq_ok (run_expect (shaped v found))]
    rfl

/-- Keys whose values hold schemas, refer to one or count the items that one allows. -/
def nestingKeys : List String :=
  ["definitions", "$ref", "$defs", "prefixItems", "items", "contains", "additionalProperties", "properties",
    "patternProperties", "propertyNames", "if", "then", "else", "allOf", "anyOf", "oneOf", "not", "minContains",
    "maxContains"]

/-- A schema with no schemas inside and no pattern, whose other keywords have the shapes that are asked for. -/
structure Flat (fields : List (String × Json)) : Prop where
  nesting : ∀ key ∈ nestingKeys, OrderedMap.get? fields key = none
  pattern : OrderedMap.get? fields "pattern" = none
  shaped : ∀ k ∈ valueKeywords, ∀ v, OrderedMap.get? fields k.1 = some v → Shaped k.2.1 v

/-- The keywords of a flat schema, in the order in which they are read. -/
def flatKeywords (fields : List (String × Json)) : List (Keyword Schema) :=
  valueKeywords.flatMap fun k => ((OrderedMap.get? fields k.1).map k.2.2).getD []

variable {fields : List (String × Json)}

theorem run_subschemaKeywords (flat : Flat fields) (read : Json → Reading Schema) :
    (subschemaKeywords read fields).run references = .ok ([], references) := by
  have absent := flat.nesting
  simp only [nestingKeys, List.forall_mem_cons] at absent
  simp only [subschemaKeywords, readMembers, take?, absent, pure_bind, readList, readOne, give,
    List.append_assoc, memberKeywords, Option.getD_none, bind_pure_comp, Option.bind_none, Option.toList_none,
    List.map_nil, List.nil_append, Option.mapM_none, List.append_nil, StateT.run_map, StateT.run_modify, map_pure]
  rfl

theorem run_readValueKeywords (flat : Flat fields) :
    (readValueKeywords fields).run references = .ok (flatKeywords fields, references) := by
  rw [readValueKeywords, run_bind_of_run_eq_ok (run_mapM
    (f := fun k => ((OrderedMap.get? fields k.1).map k.2.2).getD []) fun k mem => ?_), flat.pattern]
  · simp only [Option.bind_none, bind_pure_comp, map_pure, List.append_nil, StateT.run_pure, flatKeywords,
      List.flatMap_def]
    rfl
  · dsimp only
    rw [run_bind_of_run_eq_ok (run_take? (flat.shaped k mem))]
    rfl

theorem run_ofJson (flat : Flat fields) (n : Nat) :
    (ofJson (n + 1) (.object fields)).run references =
      .ok (all ((flatKeywords fields).mergeSort fun a b => a.rank ≤ b.rank), references) := by
  have shaped : Shaped schemaLike (.object fields) := rfl
  rw [ofJson, run_bind_of_run_eq_ok (run_expect shaped)]
  dsimp only
  rw [run_bind_of_run_eq_ok (run_subschemaKeywords flat _), run_bind_of_run_eq_ok (run_readValueKeywords flat)]
  rfl

end Schema

namespace SchemaDocument

open Schema

variable {fields : List (String × Json)}

theorem addTargets_nil (root : Json) (n : Nat) (targets : OrderedMap String Schema) :
    addTargets root n [] targets = .ok targets := by
  cases n <;> rfl

theorem load_of_flat (flat : Flat fields) :
    load (.object fields) =
      .ok ⟨all ((flatKeywords fields).mergeSort fun a b => a.rank ≤ b.rank), [], (Json.object fields).size⟩ := by
  have size : (Json.object fields).size = Json.sizeFields fields + 1 := Nat.add_comm _ _
  rw [load, size, run_ofJson flat]
  dsimp only [bind, Except.bind]
  rw [addTargets_nil]
  rfl

/-- A flat schema can be used, and allows what each of its keywords allows. -/
theorem exists_engine_of_flat (flat : Flat fields) :
    ∃ complaints, engine (.object fields) = .ok complaints ∧ ∀ v, ∃ check,
      complaints v = [] ↔ ∀ k ∈ flatKeywords fields, k.errors check (fun _ => none) v = [] := by
  refine ⟨_, by rw [engine, load_of_flat flat],
    fun v => ⟨Schema.errors (fun _ => none) ((Json.object fields).size * (v.size + 1)), ?_⟩⟩
  rw [errors, Schema.errors, List.flatMap_eq_nil_iff]
  simp only [keywords, List.mem_mergeSort]
  rfl

end SchemaDocument

end RouteTable
