import RouteTable.Description.File
import RouteTable.Proofs.ProperReading

/-!
# Distinct keys

A reader gives a repeated key its last value and keeps one entry of it, so no object inside a value that was read from a
text repeats a key (`Json.Distinct`).  The paths of a description that was loaded are therefore distinct
(`Description.nodup_keys_of_load`).
-/

namespace RouteTable

namespace Json

/-- No object inside a value repeats a key. -/
inductive Distinct : Json → Prop
  | null : Distinct null
  | bool (b : Bool) : Distinct (bool b)
  | number (n : Number) : Distinct (number n)
  | string (s : String) : Distinct (string s)
  | array (items : List Json) (inside : ∀ v ∈ items, Distinct v) : Distinct (array items)
  | object (fields : List (String × Json)) (keys : (OrderedMap.keys fields).Nodup)
      (inside : ∀ e ∈ fields, Distinct e.2) : Distinct (object fields)

theorem Distinct.of_mem_parts {v w : Json} (distinct : v.Distinct) (h : w ∈ v.parts) : w.Distinct := by
  cases distinct with
  | array items inside => exact inside w h
  | object fields keys inside =>
    obtain ⟨e, he, rfl⟩ := List.mem_map.1 h
    exact inside e he
  | _ => cases h

theorem distinct_object_ofEntries {entries : List (String × Json)} (h : ∀ e ∈ entries, e.2.Distinct) :
    (object (OrderedMap.ofEntries entries)).Distinct :=
  .object _ (OrderedMap.nodup_keys_ofEntries entries) fun e he => h e (OrderedMap.mem_of_mem_ofEntries he)

mutual
theorem distinct_settle : ∀ v : Json, v.settle.Distinct
  | .null => .null
  | .bool b => .bool b
  | .number n => .number n
  | .string s => .string s
  | .array items => .array _ (distinct_of_mem_settleItems items)
  | .object fields => distinct_object_ofEntries (distinct_of_mem_settleFields fields)

theorem distinct_of_mem_settleItems : ∀ items : List Json, ∀ v ∈ settleItems items, v.Distinct
  | [], _, h => nomatch h
  | v :: vs, w, h => by
    rw [settleItems, List.mem_cons] at h
    rcases h with rfl | h
    · exact distinct_settle v
    · exact distinct_of_mem_settleItems vs w h

theorem distinct_of_mem_settleFields : ∀ fields : List (String × Json), ∀ e ∈ settleFields fields, e.2.Distinct
  | [], _, h => nomatch h
  | (k, v) :: rest, e, h => by
    rw [settleFields, List.mem_cons] at h
    rcases h with rfl | h
    · exact distinct_settle v
    · exact distinct_of_mem_settleFields rest e h
end

theorem distinct_of_read? {text : String} {v : Json} (h : read? text = some v) : v.Distinct := by
  obtain ⟨raw, -, rfl⟩ := Option.map_eq_some_iff.1 h
  exact distinct_settle raw

end Json

/-! ### Values read from YAML -/

namespace Tree

theorem distinct_finite (n : Number) : (finite n).Distinct := by
  cases n with
  | int n => exact .number _
  | float x =>
    rw [finite]
    split
    · exact .number _
    · exact .null

mutual
theorem distinct_of_toJson? : ∀ {t : Tree} {v : Json}, t.toJson? = some v → v.Distinct
  | .null, _, h => Option.some.inj h ▸ .null
  | .bool b, _, h => Option.some.inj h ▸ .bool b
  | .number n, _, h => Option.some.inj h ▸ distinct_finite n
  | .text s, _, h => Option.some.inj h ▸ .string s
  | .list items, _, h => by
    obtain ⟨vs, read, rfl⟩ := Option.map_eq_some_iff.1 h
    exact .array _ (distinct_of_itemsToJson? read)
  | .table entries, _, h => by
    obtain ⟨fields, read, rfl⟩ := Option.map_eq_some_iff.1 h
    exact Json.distinct_object_ofEntries (distinct_of_entriesToJson? read)

theorem distinct_of_itemsToJson? : ∀ {items : List Tree} {vs : List Json}, itemsToJson? items = some vs →
    ∀ v ∈ vs, v.Distinct
  | [], _, h, v, mem => by
    obtain rfl := Option.some.inj h
    cases mem
  | t :: rest, _, h, v, mem => by
    simp only [itemsToJson?, Option.bind_eq_bind, Option.bind_eq_some_iff] at h
    obtain ⟨w, readOne, ws, readRest, done⟩ := h
    obtain rfl := Option.some.inj done
    rcases List.mem_cons.1 mem with rfl | mem
    · exact distinct_of_toJson? readOne
    · exact distinct_of_itemsToJson? readRest v mem

theorem distinct_of_entriesToJson? : ∀ {entries : List (Tree × Tree)} {fields : List (String × Json)},
    entriesToJson? entries = some fields → ∀ e ∈ fields, e.2.Distinct
  | [], _, h, e, mem => by
    obtain rfl := Option.some.inj h
    cases mem
  | (.text key, t) :: rest, _, h, e, mem => by
    simp only [entriesToJson?, Option.bind_eq_bind, Option.bind_eq_some_iff] at h
    obtain ⟨w, readOne, ws, readRest, done⟩ := h
    obtain rfl := Option.some.inj done
    rcases List.mem_cons.1 mem with rfl | mem
    · exact distinct_of_toJson? readOne
    · exact distinct_of_entriesToJson? readRest e mem
end

end Tree

namespace Yaml

namespace Node

mutual
theorem distinct_of_toJson? : ∀ {node : Node Empty} {v : Json}, node.toJson? = some v → v.Distinct
  | scalar p text plain, _, h => by
    obtain ⟨t, -, read⟩ := Option.bind_eq_some_iff.1 h
    exact Tree.distinct_of_toJson? read
  | sequence p items, _, h => by
    rw [toJson?] at h
    split at h
    · obtain ⟨vs, read, rfl⟩ := Option.map_eq_some_iff.1 h
      exact .array _ (distinct_of_itemsToJson? read)
    · cases h
  | mapping p entries, _, h => by
    rw [toJson?] at h
    split at h
    · obtain ⟨fields, read, rfl⟩ := Option.map_eq_some_iff.1 h
      exact Json.distinct_object_ofEntries (distinct_of_entriesToJson? read)
    · cases h

theorem distinct_of_itemsToJson? : ∀ {items : List (Node Empty)} {vs : List Json}, itemsToJson? items = some vs →
    ∀ v ∈ vs, v.Distinct
  | [], _, h, v, mem => by
    obtain rfl := Option.some.inj h
    cases mem
  | item :: rest, _, h, v, mem => by
    simp only [itemsToJson?, Option.bind_eq_bind, Option.bind_eq_some_iff] at h
    obtain ⟨w, readOne, ws, readRest, done⟩ := h
    obtain rfl := Option.some.inj done
    rcases List.mem_cons.1 mem with rfl | mem
    · exact distinct_of_toJson? readOne
    · exact distinct_of_itemsToJson? readRest v mem

theorem distinct_of_entriesToJson? : ∀ {entries : List (Node Empty × Node Empty)} {fields : List (String × Json)},
    entriesToJson? entries = some fields → ∀ e ∈ fields, e.2.Distinct
  | [], _, h, e, mem => by
    obtain rfl := Option.some.inj h
    cases mem
  | (key, value) :: rest, _, h, e, mem => by
    simp only [entriesToJson?, Option.bind_eq_bind, Option.bind_eq_some_iff] at h
    obtain ⟨k, -, w, readOne, ws, readRest, done⟩ := h
    obtain rfl := Option.some.inj done
    rcases List.mem_cons.1 mem with rfl | mem
    · exact distinct_of_toJson? readOne
    · exact distinct_of_entriesToJson? readRest e mem
end

end Node

theorem distinct_of_readJson? {text : String} {v : Json} (h : readJson? text = some v) : v.Distinct := by
  rw [readJson?] at h
  split at h
  · exact Node.distinct_of_toJson? h
  · exact Option.some.inj h ▸ .null
  · cases h

end Yaml

/-! ### Descriptions -/

/-- A table has the keys of the object it is read from. -/
theorem Decode.keys_of_mapM_entry {α : Type} {decode : Decoder α} {fields : List (String × Json)}
    {m : OrderedMap String α} (ok : fields.mapM (entry decode) = .ok m) :
    OrderedMap.keys m = OrderedMap.keys fields := by
  refine OrderedMap.keys_eq_of_forall₂ (mapM_eq_ok_iff.1 ok) fun e f read => ?_
  obtain ⟨a, -, rfl⟩ := map_eq_ok_iff.1 read
  rfl

theorem Decode.nodup_keys_of_table {α : Type} {decode : Decoder α} {v : Json} {m : OrderedMap String α}
    (distinct : v.Distinct) (ok : table decode v = .ok m) : (OrderedMap.keys m).Nodup := by
  cases distinct with
  | object fields keys inside =>
    rw [keys_of_mapM_entry ok]
    exact keys
  | _ => cases ok

namespace Description

theorem nodup_keys_of_ofJson {v : Json} {api : Description} (distinct : v.Distinct) (ok : ofJson v = .ok api) :
    (OrderedMap.keys api.paths).Nodup := by
  obtain ⟨fields, inside, built⟩ := Decode.exists_build_of_record ok
  simp only [ofFields, bind_eq_ok_iff] at built
  obtain ⟨_, _, _, _, _, _, _, _, _, _, _, _, _, _, _, _, _, _, paths, read, done⟩ := built
  cases done
  rw [Decode.field] at read
  cases found : OrderedMap.get? fields "paths" with
  | none =>
    rw [found] at read
    cases read
    exact List.nodup_nil
  | some w =>
    rw [found] at read
    exact Decode.nodup_keys_of_table (distinct.of_mem_parts (inside _ (OrderedMap.mem_of_get?_eq_some found))) read

theorem nodup_keys_of_ofValue {v : Json} {api : Description} (distinct : v.Distinct) (ok : ofValue v = .ok api) :
    (OrderedMap.keys api.paths).Nodup :=
  nodup_keys_of_ofJson distinct (mapError_eq_ok_iff.1 ok)

theorem nodup_keys_of_ofYaml {text : String} {api : Description} (ok : ofYaml text = .ok api) :
    (OrderedMap.keys api.paths).Nodup := by
  rw [ofYaml] at ok
  split at ok
  · next v read => exact nodup_keys_of_ofValue (Yaml.distinct_of_readJson? read) ok
  · cases ok

theorem nodup_keys_of_ofJsonText {text : String} {api : Description} (ok : ofJsonText text = .ok api) :
    (OrderedMap.keys api.paths).Nodup := by
  rw [ofJsonText] at ok
  split at ok
  · next v read => exact nodup_keys_of_ofValue (Json.distinct_of_read? read) ok
  · cases ok

/-- The paths of a description that is loaded from a file are distinct. -/
theorem nodup_keys_of_load {d : Disk} {path : String} {api : Description} (ok : load d path = .ok api) :
    (OrderedMap.keys api.paths).Nodup := by
  rw [load] at ok
  split at ok
  · cases ok
  · rw [mapError_eq_ok_iff] at ok
    split at ok
    · exact nodup_keys_of_ofYaml ok
    · exact nodup_keys_of_ofJsonText ok

end Description

end RouteTable
