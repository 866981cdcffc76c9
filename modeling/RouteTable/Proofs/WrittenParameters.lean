import RouteTable.Proofs.ParameterSchemas
import RouteTable.Proofs.ProperReading

/-!
# Parameters that are written and read back

`Parameter.Reads` says what an object is read as, key by key: a `null` under an optional key is as good as no entry, and
all entries under other keys are constraints.  An object that has each named key at most once is read exactly so
(`Parameter.ofJson_eq_ok_iff`).  What a parameter writes reads as the parameter again if something has been read as it
(`Parameter.Reads.written`), so every parameter that is read survives writing (`Parameter.ofJson_toJson`).
-/

namespace RouteTable

variable {α : Type}

/-- A value that is not `null`. -/
def Json.present? : Json → Option Json
  | null => none
  | v => some v

namespace Decode

/-! ### Decoders with one spelling for each value -/

/-- A decoder accepts exactly what an encoder writes. -/
def Exact (decode : Decoder α) (encode : α → Json) : Prop := ∀ v a, decode v = .ok a ↔ v = encode a

theorem exact_text : Exact text .string := by
  intro v a
  cases v <;> simp [text, textAs, mismatch]

theorem exact_flag : Exact flag .bool := by
  intro v a
  cases v <;> simp [flag, mismatch]

theorem exact_any : Exact any id := by
  intro v a
  rw [any, Except.ok.injEq, id]

theorem Exact.list {decode : Decoder α} {encode : α → Json} (h : Exact decode encode) :
    Exact (list decode) fun l => .array (l.map encode) := by
  intro v l
  cases v with
  | array items =>
    rw [Decode.list, mapM_eq_ok_iff, Json.array.injEq, ← List.forall₂_eq_eq_eq, List.forall₂_map_right_iff]
    simp only [h _ _]
  | _ => simp [Decode.list, mismatch]

theorem exact_values : Exact (list any) .array := by
  simpa using exact_any.list

variable {decode : Decoder α} {encode : α → Json} {fields : List (String × Json)} {key : String}

theorem Exact.optional_eq_ok_iff (h : Exact decode encode) {v : Json} {o : Option α} :
    optional decode v = .ok o ↔ v.present? = o.map encode := by
  have written : ∀ v, (∃ a, decode v = .ok a ∧ some a = o) ↔ some v = o.map encode := by
    intro v
    cases o with
    | none => simp
    | some b => simp [h v]
  cases v with
  | null => cases o <;> simp [optional, Json.present?]
  | _ => exact map_eq_ok_iff.trans (written _)

theorem Exact.field_optional_eq_ok_iff (h : Exact decode encode) {o : Option α} :
    field fields key (optional decode) none = .ok o ↔
      (OrderedMap.get? fields key).bind Json.present? = o.map encode := by
  rw [field]
  cases OrderedMap.get? fields key with
  | none => cases o <;> simp
  | some v => exact h.optional_eq_ok_iff

theorem Exact.field_eq_ok_iff (h : Exact decode encode) {a b : α} :
    field fields key decode a = .ok b ↔ (OrderedMap.get? fields key).getD (encode a) = encode b := by
  rw [field]
  cases OrderedMap.get? fields key with
  | none =>
    -- the encoder is injective, as the decoder undoes it
    have undone : encode a = encode b ↔ a = b := by
      rw [← h, (h _ _).2 rfl, Except.ok.injEq]
    rw [Option.getD_none, undone, Except.ok.injEq]
  | some v => exact h v b

theorem field_optional_any_eq_ok_iff {o : Option Json} :
    field fields key (optional any) none = .ok o ↔ (OrderedMap.get? fields key).bind Json.present? = o := by
  rw [exact_any.field_optional_eq_ok_iff, Option.map_id, id]

/-- A field that is missing is told from one that is there. -/
theorem field_map_some_eq_ok_iff {decode : Decoder α} {a : α} :
    field fields key (fun v => (decode v).map some) none = .ok (some a) ↔
      ∃ v, OrderedMap.get? fields key = some v ∧ decode v = .ok a := by
  rw [field]
  cases OrderedMap.get? fields key with
  | none => simp
  | some v => simp [map_eq_ok_iff]

/-- A field can be read from part of an object if it is missing there or stands there as in the object. -/
theorem field_of_part {part : List (String × Json)} {default a : α} (ok : field fields key decode default = .ok a)
    (same : OrderedMap.get? part key = none ∨ OrderedMap.get? part key = OrderedMap.get? fields key) :
    ∃ b, field part key decode default = .ok b := by
  rw [field] at ok ⊢
  rcases same with missing | same
  · exact ⟨default, by rw [missing]⟩
  · exact ⟨a, by rw [same, ok]⟩

/-- Where no entry is bad on its own, a record is built from all of them. -/
theorem inDocumentOrder_of_entries {build : List (String × Json) → Except DecodeError α}
    (h : ∀ e ∈ fields, ∃ a, build [e] = .ok a) : inDocumentOrder build fields = build fields := by
  rw [inDocumentOrder, List.findSome?_eq_none_iff.2]
  intro e mem
  obtain ⟨a, built⟩ := h e mem
  rw [built]

end Decode

namespace Parameter

open Decode

/-- Keys under which `null` is as good as no entry. -/
def optionalKeys : List String :=
  ["description", "schema", "type", "format", "items", "collectionFormat", "enum", "default"]

/-- What a parameter writes under a named key. -/
def value? (p : Parameter) : String → Option Json
  | "name" => some (.string p.name)
  | "in" => some (.string p.location.name)
  | "description" => p.description.map .string
  | "required" => some (.bool p.required)
  | "schema" => p.schema
  | "type" => p.kind.map .string
  | "format" => p.format.map .string
  | "items" => p.items
  | "collectionFormat" => p.collectionFormat.map .string
  | "enum" => p.allowed.map .array
  | "default" => p.default
  | _ => none

/-- What an object is read as. -/
structure Reads (fields : List (String × Json)) (p : Parameter) : Prop where
  name : OrderedMap.get? fields "name" = some (.string p.name)
  location : ∃ v, OrderedMap.get? fields "in" = some v ∧ ParameterLocation.ofJson v = .ok p.location
  required : (OrderedMap.get? fields "required").getD (.bool false) = .bool p.required
  optional : ∀ key ∈ optionalKeys, (OrderedMap.get? fields key).bind Json.present? = p.value? key
  constraints : p.constraints = fields.filter fun e => e.1 ∉ namedKeys

variable {fields : List (String × Json)} {p : Parameter}

theorem filter_namedKeys (fields : List (String × Json)) :
    (fields.filter fun e => !namedKeys.contains e.1) = fields.filter fun e => e.1 ∉ namedKeys :=
  List.filter_congr fun e _ => by simp

theorem exists_draft_iff :
    (∃ d name location, draft fields = .ok d ∧ d.name = some name ∧ d.location = some location ∧
      d.rest name location = p) ↔ Reads fields p := by
  constructor
  · rintro ⟨d, name, location, drafted, hasName, hasLocation, same⟩
    -- the eleven named keys, in the order in which they are read
    simp only [draft, bind_eq_ok_iff] at drafted
    obtain ⟨_, hname, _, hlocation, _, hdescription, _, hrequired, _, hschema, _, hkind, _, hformat, _, hitems, _,
      hcollectionFormat, _, hallowed, _, hdefault, done⟩ := drafted
    cases done
    dsimp only at hasName hasLocation
    subst hasName hasLocation
    obtain ⟨_, named, isText⟩ := field_map_some_eq_ok_iff.1 hname
    rw [exact_text] at isText
    subst isText
    rw [← same]
    refine ⟨named, field_map_some_eq_ok_iff.1 hlocation, exact_flag.field_eq_ok_iff.1 hrequired, ?_,
      filter_namedKeys fields⟩
    simp only [optionalKeys, List.forall_mem_cons]
    exact ⟨exact_text.field_optional_eq_ok_iff.1 hdescription, field_optional_any_eq_ok_iff.1 hschema,
      exact_text.field_optional_eq_ok_iff.1 hkind, exact_text.field_optional_eq_ok_iff.1 hformat,
      field_optional_any_eq_ok_iff.1 hitems, exact_text.field_optional_eq_ok_iff.1 hcollectionFormat,
      exact_values.field_optional_eq_ok_iff.1 hallowed, field_optional_any_eq_ok_iff.1 hdefault,
      List.forall_mem_nil _⟩
  · intro h
    have hname : field fields "name" (fun v => (text v).map some) none = .ok (some p.name) :=
      field_map_some_eq_ok_iff.2 ⟨_, h.name, rfl⟩
    have hlocation := field_map_some_eq_ok_iff.2 h.location
    have hrequired := exact_flag.field_eq_ok_iff.2 h.required
    have hdescription := exact_text.field_optional_eq_ok_iff.2 (h.optional "description" (by decide))
    have hschema := field_optional_any_eq_ok_iff.2 (h.optional "schema" (by decide))
    have hkind := exact_text.field_optional_eq_ok_iff.2 (h.optional "type" (by decide))
    have hformat := exact_text.field_optional_eq_ok_iff.2 (h.optional "format" (by decide))
    have hitems := field_optional_any_eq_ok_iff.2 (h.optional "items" (by decide))
    have hcollectionFormat := exact_text.field_optional_eq_ok_iff.2 (h.optional "collectionFormat" (by decide))
    have hallowed := exact_values.field_optional_eq_ok_iff.2 (h.optional "enum" (by decide))
    have hdefault := field_optional_any_eq_ok_iff.2 (h.optional "default" (by decide))
    refine ⟨⟨some p.name, some p.location, fun name location => { p with name, location }⟩, _, _, ?_, rfl, rfl, rfl⟩
    rw [draft, hname, hlocation, hrequired, hdescription, hschema, hkind, hformat, hitems, hcollectionFormat, hallowed,
      hdefault, filter_namedKeys, ← h.constraints]
    rfl

/-- What is missing under a key is missing in parts of the object as well, so a part is read if the object is. -/
theorem exists_draft_of_part {part : List (String × Json)} {d : Draft} (drafted : draft fields = .ok d)
    (same : ∀ key ∈ namedKeys,
      OrderedMap.get? part key = none ∨ OrderedMap.get? part key = OrderedMap.get? fields key) :
    ∃ d, draft part = .ok d := by
  simp only [draft, bind_eq_ok_iff] at drafted
  obtain ⟨_, hname, _, hlocation, _, hdescription, _, hrequired, _, hschema, _, hkind, _, hformat, _, hitems, _,
    hcollectionFormat, _, hallowed, _, hdefault, -⟩ := drafted
  simp only [namedKeys, List.forall_mem_cons] at same
  obtain ⟨name, location, description, required, schema, kind, format, items, collectionFormat, allowed, default, -⟩ :=
    same
  obtain ⟨_, name⟩ := field_of_part hname name
  obtain ⟨_, location⟩ := field_of_part hlocation location
  obtain ⟨_, description⟩ := field_of_part hdescription description
  obtain ⟨_, required⟩ := field_of_part hrequired required
  obtain ⟨_, schema⟩ := field_of_part hschema schema
  obtain ⟨_, kind⟩ := field_of_part hkind kind
  obtain ⟨_, format⟩ := field_of_part hformat format
  obtain ⟨_, items⟩ := field_of_part hitems items
  obtain ⟨_, collectionFormat⟩ := field_of_part hcollectionFormat collectionFormat
  obtain ⟨_, allowed⟩ := field_of_part hallowed allowed
  obtain ⟨_, default⟩ := field_of_part hdefault default
  rw [draft, name, location, description, required, schema, kind, format, items, collectionFormat, allowed, default]
  exact ⟨_, rfl⟩

/-- Whatever is read from an object is what it reads as. -/
theorem reads_of_ofJson {v : Json} (read : ofJson v = .ok p) : ∃ fields, v = .object fields ∧ Reads fields p := by
  cases v with
  | object fields =>
    obtain ⟨d, drafted, given⟩ := bind_eq_ok_iff.1 read
    split at given
    · cases given
    · cases given
    · next name location hasName hasLocation =>
      have built := build_of_inDocumentOrder drafted
      exact ⟨fields, rfl, exists_draft_iff.1 ⟨d, name, location, built, hasName, hasLocation, Except.ok.inj given⟩⟩
  | _ => cases read

/-- An object that has each named key at most once is read as the parameter that it reads as. -/
theorem ofJson_eq_ok_iff (once : ∀ e ∈ fields, e.1 ∈ namedKeys → OrderedMap.get? fields e.1 = some e.2) :
    ofJson (.object fields) = .ok p ↔ Reads fields p := by
  constructor
  · intro read
    obtain ⟨_, same, reads⟩ := reads_of_ofJson read
    exact Json.object.inj same ▸ reads
  · intro reads
    obtain ⟨d, name, location, drafted, hasName, hasLocation, same⟩ := exists_draft_iff.2 reads
    -- alone, an entry is read as it is in the object, so none of them is bad on its own
    have entries : ∀ e ∈ fields, ∃ d, draft [e] = .ok d := by
      intro e mem
      refine exists_draft_of_part drafted fun key named => ?_
      by_cases own : e.1 = key
      · subst own
        exact Or.inr (by rw [once e mem named, OrderedMap.get?, if_pos rfl])
      · exact Or.inl (by rw [OrderedMap.get?, if_neg own, OrderedMap.get?])
    rw [ofJson, inDocumentOrder_of_entries entries]
    exact bind_eq_ok_iff.2 ⟨d, drafted, by rw [hasName, hasLocation, ← same]⟩

/-! ### Writing -/

/-- The entries that a parameter writes: its named keys in their order, and its constraints behind them. -/
def written (p : Parameter) : List (String × Json) :=
  (namedKeys.flatMap fun key => entry key (p.value? key)) ++ p.constraints

theorem toJson_eq (p : Parameter) : p.toJson = .object p.written := by
  simp [toJson, written, namedKeys, value?, entry]

theorem mem_entry_iff {key : String} {value : Option Json} {e : String × Json} :
    e ∈ entry key value ↔ e.1 = key ∧ value = some e.2 := by
  cases value with
  | none => simp [entry]
  | some v => simp [entry, Prod.ext_iff, eq_comm]

theorem keys_written (p : Parameter) :
    OrderedMap.keys p.written =
      (namedKeys.filter fun key => (p.value? key).isSome) ++ OrderedMap.keys p.constraints := by
  rw [written, OrderedMap.keys, List.map_append, ← OrderedMap.keys, keys_flatMap_entry]
  rfl

theorem Reads.unnamed (h : Reads fields p) : ∀ e ∈ p.constraints, e.1 ∉ namedKeys := by
  intro e mem
  rw [h.constraints] at mem
  simpa using (List.mem_filter.1 mem).2

theorem get?_written (unnamed : ∀ e ∈ p.constraints, e.1 ∉ namedKeys) {key : String} (named : key ∈ namedKeys) :
    OrderedMap.get? p.written key = p.value? key := by
  have absent : OrderedMap.get? p.constraints key = none := by
    rw [OrderedMap.get?_eq_none_iff]
    intro mem
    obtain ⟨e, constraint, rfl⟩ := List.mem_map.1 mem
    exact unnamed e constraint named
  rw [written, OrderedMap.get?_append, get?_flatMap_entry, if_pos named, absent, Option.or_none]

/-- Every named key is written once. -/
theorem get?_written_of_mem (unnamed : ∀ e ∈ p.constraints, e.1 ∉ namedKeys) {e : String × Json} (mem : e ∈ p.written)
    (named : e.1 ∈ namedKeys) : OrderedMap.get? p.written e.1 = some e.2 := by
  rw [get?_written unnamed named]
  rcases List.mem_append.1 mem with mem | constraint
  · obtain ⟨key, -, isEntry⟩ := List.mem_flatMap.1 mem
    obtain ⟨rfl, value⟩ := mem_entry_iff.1 isEntry
    exact value
  · exact absurd named (unnamed e constraint)

/-- What is read as a parameter is written so that it reads as the parameter again. -/
theorem Reads.written (h : Reads fields p) : Reads p.written p := by
  have values : ∀ key ∈ namedKeys, OrderedMap.get? p.written key = p.value? key :=
    fun key named => get?_written h.unnamed named
  refine ⟨values "name" (by decide), ⟨.string p.location.name, values "in" (by decide), ?_⟩, ?_, ?_, ?_⟩
  · cases p.location <;> rfl
  · rw [values "required" (by decide)]
    rfl
  · intro key mem
    have present : ∀ o : Option Json, (o.bind Json.present?).bind Json.present? = o.bind Json.present? := by
      rintro (_ | _ | _) <;> rfl
    have named : key ∈ namedKeys := (by decide : optionalKeys ⊆ namedKeys) mem
    rw [values key named, ← h.optional key mem, present]
  · have none_left :
        ((namedKeys.flatMap fun key => entry key (p.value? key)).filter fun e => e.1 ∉ namedKeys) = [] := by
      rw [List.filter_eq_nil_iff]
      intro e mem
      obtain ⟨key, named, isEntry⟩ := List.mem_flatMap.1 mem
      simpa [(mem_entry_iff.1 isEntry).1] using named
    rw [Parameter.written, List.filter_append, none_left, List.nil_append, eq_comm, List.filter_eq_self]
    exact fun e mem => by simpa using h.unnamed e mem

theorem nodup_keys_written (unnamed : ∀ e ∈ p.constraints, e.1 ∉ namedKeys)
    (distinct : (OrderedMap.keys p.constraints).Nodup) : (OrderedMap.keys p.written).Nodup := by
  rw [keys_written, List.nodup_append']
  refine ⟨(by decide : namedKeys.Nodup).filter _, distinct, fun key named constraint => ?_⟩
  obtain ⟨e, mem, rfl⟩ := List.mem_map.1 constraint
  exact unnamed e mem (List.mem_filter.1 named).1

/-- A parameter that is read is written as an object that is read as the same parameter, and so is written the same
again.  What was read and what is written agree in every key: what has a field of its own stands under its key and, if
nothing was repeated, there alone, and all else is a constraint, in its order.  Every other object that reads as the
parameter, with whatever nulls, order of keys or lack of `required`, is read as it too. -/
theorem ofJson_toJson {v : Json} (read : ofJson v = .ok p) :
    ofJson p.toJson = .ok p ∧ (ofJson p.toJson).map toJson = .ok p.toJson ∧
    (∃ fields written, v = .object fields ∧ p.toJson = .object written ∧ Reads fields p ∧ Reads written p ∧
      (∀ key ∈ namedKeys, OrderedMap.get? written key = p.value? key) ∧
      ((OrderedMap.keys fields).Nodup → (OrderedMap.keys written).Nodup)) ∧
    ∀ others, (OrderedMap.keys others).Nodup → Reads others p → ofJson (.object others) = .ok p := by
  obtain ⟨fields, rfl, reads⟩ := reads_of_ofJson read
  have again : ofJson p.toJson = .ok p := by
    rw [toJson_eq, ofJson_eq_ok_iff fun e mem named => get?_written_of_mem reads.unnamed mem named]
    exact reads.written
  refine ⟨again, by rw [again]; rfl, ⟨fields, p.written, rfl, p.toJson_eq, reads, reads.written,
    fun key named => get?_written reads.unnamed named, fun distinct => ?_⟩, fun others distinct same => ?_⟩
  · have constraints : (OrderedMap.keys p.constraints).Nodup := by
      rw [reads.constraints]
      exact distinct.sublist (List.filter_sublist.map _)
    exact nodup_keys_written reads.unnamed constraints
  · exact (ofJson_eq_ok_iff fun e mem _ => OrderedMap.get?_eq_some_of_mem distinct mem).2 same

/-- Constraints stand between the named keys, `required` is missing, and a `null` under a constraint is kept. -/
theorem ofJson_toJson_of_shuffled_keys :
    let v : Json := .object [("minimum", .int 1), ("default", .null), ("in", .object [("query", .null)]),
      ("x-note", .null), ("enum", .array [.null, .int 2]), ("name", .string "limit"), ("description", .null),
      ("type", .string "integer"), ("maximum", .int 9)]
    ∃ p, ofJson v = .ok p ∧ ofJson p.toJson = .ok p ∧
      p.toJson = .object [("name", .string "limit"), ("in", .string "query"), ("required", .bool false),
        ("type", .string "integer"), ("enum", .array [.null, .int 2]), ("minimum", .int 1), ("x-note", .null),
        ("maximum", .int 9)] := by
  intro v
  have read : ofJson v = .ok _ := rfl
  exact ⟨_, read, (ofJson_toJson read).1, rfl⟩

end Parameter

end RouteTable
