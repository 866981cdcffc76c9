import RouteTable.Proofs.WrittenParameters

/-!
# Records field by field

A record is built from what its object holds under the names of its fields, one decoder for each (`Operation.Reads` and
its siblings, with `Operation.ofFields_eq_ok_iff` and its siblings).  So when one value becomes another of the same shape,
what is read of the second follows from what the objects hold under these names (`Decode.record_of_inRecord`), and the
fields under which both hold the same are read the same (`Operation.Reads.congr` and its siblings).
-/

namespace RouteTable

variable {α : Type}

namespace OrderedMap

variable {κ : Type} [DecidableEq κ]

/-- The values under a key, in order. -/
def valuesOf (m : OrderedMap κ α) (key : κ) : List α := (m.filter (·.1 = key)).map (·.2)

theorem get?_eq_head?_valuesOf (m : OrderedMap κ α) (key : κ) : m.get? key = (m.valuesOf key).head? := by
  induction m with
  | nil => rfl
  | cons e rest ih =>
    by_cases h : e.1 = key
    · simp [get?, valuesOf, h]
    · simpa [get?, valuesOf, h] using ih

theorem mem_valuesOf {m : OrderedMap κ α} {key : κ} {v : α} : v ∈ m.valuesOf key ↔ (key, v) ∈ m := by
  simp [valuesOf]

/-- Without repeated keys there is at most one. -/
theorem valuesOf_eq_toList {m : OrderedMap κ α} (distinct : m.keys.Nodup) (key : κ) :
    m.valuesOf key = (m.get? key).toList := by
  induction m with
  | nil => rfl
  | cons e rest ih =>
    rw [keys, List.map_cons, List.nodup_cons] at distinct
    have later := ih distinct.2
    by_cases h : e.1 = key
    · have none : OrderedMap.get? rest key = none := get?_eq_none_iff.2 (h ▸ distinct.1)
      rw [none] at later
      simpa [get?, valuesOf, h] using later
    · simpa [get?, valuesOf, h] using later

theorem valuesOf_singleton_self (key : κ) (v : α) : valuesOf [(key, v)] key = [v] := by simp [valuesOf]

theorem valuesOf_singleton_of_ne {key other : κ} (h : key ≠ other) (v : α) : valuesOf [(key, v)] other = [] := by
  simp [valuesOf, h]

end OrderedMap

namespace Decode

/-! ### From one record to another -/

/-- What a decoder may be given in place of a value. -/
abbrev Likeness := Json → Json → Prop

/-- Two records in objects, or in arrays of the fields in declaration order, whose entries are related. -/
inductive InRecord (names : List String) (related : List (String × Json) → List (String × Json) → Prop) : Likeness
  | object {fields others : List (String × Json)} (h : related fields others) :
    InRecord names related (.object fields) (.object others)
  | array {items others : List Json} (short : others.length ≤ names.length)
      (h : related (names.zip items) (names.zip others)) :
    InRecord names related (.array items) (.array others)

variable {names : List String} {related : List (String × Json) → List (String × Json) → Prop}
  {build : List (String × Json) → Except DecodeError α} {fields others : List (String × Json)}

theorem InRecord.ne_null {v w : Json} (h : InRecord names related v w) : v ≠ .null ∧ w ≠ .null := by
  cases h <;> exact ⟨fun h => (nomatch h), fun h => (nomatch h)⟩

theorem inDocumentOrder_eq_ok_iff {a : α} :
    inDocumentOrder build fields = .ok a ↔ (∀ e ∈ fields, ∃ b, build [e] = .ok b) ∧ build fields = .ok a := by
  constructor
  · intro ok
    refine ⟨fun e mem => ?_, build_of_inDocumentOrder ok⟩
    rw [inDocumentOrder] at ok
    split at ok
    · cases ok
    · next none =>
      have good := List.findSome?_eq_none_iff.1 none e mem
      cases built : build [e] with
      | ok b => exact ⟨b, rfl⟩
      | error fault =>
        rw [built] at good
        cases good
  · rintro ⟨entries, built⟩
    rw [inDocumentOrder_of_entries entries, built]

/-- Each new entry is an old one, or on its own it is related to an old one or to none. -/
def EntryWise (related : List (String × Json) → List (String × Json) → Prop) : Prop :=
  ∀ fields others, related fields others → ∀ e ∈ others,
    e ∈ fields ∨ (∃ x ∈ fields, related [x] [e]) ∨ related [] [e]

/-- A record is read if a record with related entries is, provided that this is so for what is built from the entries.
`R` relates what the two are read as. -/
theorem record_of_inRecord {R : α → α → Prop} {name : String} {v w : Json} {a : α} (entryWise : EntryWise related)
    (h : InRecord names related v w)
    (step : ∀ fields others a, related fields others → build fields = .ok a →
      ∃ b, build others = .ok b ∧ R a b)
    (empty : ∃ a, build [] = .ok a) (ok : record name names build v = .ok a) :
    ∃ b, record name names build w = .ok b ∧ R a b := by
  -- no new entry is bad on its own, as it comes from one old entry at most
  have alone {fields others : List (String × Json)} (rel : related fields others)
      (alone : ∀ e ∈ fields, ∃ b, build [e] = .ok b) : ∀ e ∈ others, ∃ b, build [e] = .ok b := by
    intro e mem
    obtain old | ⟨x, old, one⟩ | none := entryWise _ _ rel e mem
    · exact alone e old
    · obtain ⟨c, built⟩ := alone x old
      obtain ⟨b, builtNew, -⟩ := step _ _ _ one built
      exact ⟨b, builtNew⟩
    · obtain ⟨c, built⟩ := empty
      obtain ⟨b, builtNew, -⟩ := step _ _ _ none built
      exact ⟨b, builtNew⟩
  have inOrder {fields others : List (String × Json)} {a : α} (rel : related fields others)
      (read : inDocumentOrder build fields = .ok a) : ∃ b, inDocumentOrder build others = .ok b ∧ R a b := by
    obtain ⟨entries, built⟩ := inDocumentOrder_eq_ok_iff.1 read
    obtain ⟨b, builtOthers, become⟩ := step _ _ _ rel built
    exact ⟨b, inDocumentOrder_eq_ok_iff.2 ⟨alone rel entries, builtOthers⟩, become⟩
  cases h with
  | object rel => exact inOrder rel ok
  | array short rel =>
    obtain ⟨c, read, fits⟩ := bind_eq_ok_iff.1 ok
    have same : c = a := by
      split at fits
      · cases fits
      · exact Except.ok.inj fits
    obtain ⟨b, readOthers, become⟩ := inOrder rel read
    refine ⟨b, ?_, same ▸ become⟩
    rw [record, readOthers]
    exact if_neg (Nat.not_lt.2 short)

theorem optional_of_ne_null {v : Json} (h : v ≠ .null) (decode : Decoder α) :
    optional decode v = (decode v).map some := by
  cases v with
  | null => exact absurd rfl h
  | _ => rfl

theorem field_congr {name : String} (same : OrderedMap.get? others name = OrderedMap.get? fields name)
    (decode : Decoder α) (default : α) : field others name decode default = field fields name decode default := by
  rw [field, field, same]

end Decode

open Decode

/-! ### What the records of a description are read as -/

/-- `null` declares nothing; a list of requirement objects declares these, and any other value is malformed. -/
def SecurityDeclaration.declared? : Json → Option SecurityDeclaration
  | .null => none
  | v => some (ofJson v)

theorem SecurityDeclaration.optional_ofJson (v : Json) :
    optional (fun v => .ok (SecurityDeclaration.ofJson v)) v = .ok (declared? v) := by
  cases v <;> rfl

structure SecurityScheme.Reads (fields : List (String × Json)) (s : SecurityScheme) : Prop where
  kind : field fields "type" text "" = .ok s.kind
  description : field fields "description" (optional text) none = .ok s.description
  name : field fields "name" (optional text) none = .ok s.name
  location : field fields "in" (optional text) none = .ok s.location
  flow : field fields "flow" (optional text) none = .ok s.flow
  authorizationUrl : field fields "authorizationUrl" (optional text) none = .ok s.authorizationUrl
  tokenUrl : field fields "tokenUrl" (optional text) none = .ok s.tokenUrl
  scopes : field fields "scopes" (table text) [] = .ok s.scopes
  authorize : field fields "x-authorize" (optional Reference.ofJson) none = .ok s.authorize

structure Operation.Reads (fields : List (String × Json)) (o : Operation) : Prop where
  operationId : field fields "operationId" (optional text) none = .ok o.operationId
  summary : field fields "summary" (optional text) none = .ok o.summary
  description : field fields "description" (optional text) none = .ok o.description
  tags : field fields "tags" (list text) [] = .ok o.tags
  consumes : field fields "consumes" (optional (list text)) none = .ok o.consumes
  produces : field fields "produces" (optional (list text)) none = .ok o.produces
  json : field fields "json" (optional flag) none = .ok o.json
  cache : field fields "cache" (optional any) none = .ok o.cache
  config : field fields "config" (optional any) none = .ok o.config
  jsonp : field fields "jsonp" (optional text) none = .ok o.jsonp
  parameters : field fields "parameters" (list Parameter.ofJson) [] = .ok o.parameters
  security : field fields "security" (optional fun v => .ok (SecurityDeclaration.ofJson v)) none = .ok o.security
  handler : field fields "x-handler" (optional Reference.ofJson) none = .ok o.handler

structure PathItem.Reads (fields : List (String × Json)) (item : PathItem) : Prop where
  operation : ∀ verb : Verb, field fields verb.key (optional Operation.ofJson) none = .ok (item.operation? verb)
  parameters : field fields "parameters" (list Parameter.ofJson) [] = .ok item.parameters
  security : field fields "security" (optional fun v => .ok (SecurityDeclaration.ofJson v)) none = .ok item.security

structure Description.Reads (fields : List (String × Json)) (api : Description) : Prop where
  basePath : field fields "basePath" (optional text) none = .ok api.basePath
  consumes : field fields "consumes" (optional (list text)) none = .ok api.consumes
  produces : field fields "produces" (optional (list text)) none = .ok api.produces
  json : field fields "json" (optional flag) none = .ok api.json
  cache : field fields "cache" (optional any) none = .ok api.cache
  config : field fields "config" (optional any) none = .ok api.config
  jsonp : field fields "jsonp" (optional text) none = .ok api.jsonp
  security : field fields "security" (optional fun v => .ok (SecurityDeclaration.ofJson v)) none = .ok api.security
  securityDefinitions :
    field fields "securityDefinitions" (optional (table SecurityScheme.ofJson)) none = .ok api.securityDefinitions
  paths : field fields "paths" (table PathItem.ofJson) [] = .ok api.paths

variable {fields others : List (String × Json)}

namespace SecurityScheme

variable {s : SecurityScheme}

theorem ofFields_eq_ok_iff : ofFields fields = .ok s ↔ Reads fields s := by
  simp only [ofFields, bind_eq_ok_iff]
  constructor
  · rintro ⟨_, kind, _, description, _, name, _, location, _, flow, _, authorizationUrl, _, tokenUrl, _, scopes, _,
      authorize, done⟩
    cases done
    exact ⟨kind, description, name, location, flow, authorizationUrl, tokenUrl, scopes, authorize⟩
  · intro h
    exact ⟨_, h.kind, _, h.description, _, h.name, _, h.location, _, h.flow, _, h.authorizationUrl, _, h.tokenUrl, _,
      h.scopes, _, h.authorize, rfl⟩

theorem Reads.congr (h : Reads fields s)
    (same : ∀ name ∈ fieldNames, OrderedMap.get? others name = OrderedMap.get? fields name) : Reads others s where
  kind := (field_congr (same _ (by decide)) ..).trans h.kind
  description := (field_congr (same _ (by decide)) ..).trans h.description
  name := (field_congr (same _ (by decide)) ..).trans h.name
  location := (field_congr (same _ (by decide)) ..).trans h.location
  flow := (field_congr (same _ (by decide)) ..).trans h.flow
  authorizationUrl := (field_congr (same _ (by decide)) ..).trans h.authorizationUrl
  tokenUrl := (field_congr (same _ (by decide)) ..).trans h.tokenUrl
  scopes := (field_congr (same _ (by decide)) ..).trans h.scopes
  authorize := (field_congr (same _ (by decide)) ..).trans h.authorize

end SecurityScheme

namespace Operation

variable {o : Operation}

theorem ofFields_eq_ok_iff : ofFields fields = .ok o ↔ Reads fields o := by
  simp only [ofFields, bind_eq_ok_iff]
  constructor
  · rintro ⟨_, operationId, _, summary, _, description, _, tags, _, consumes, _, produces, _, json, _, cache, _, config,
      _, jsonp, _, parameters, _, security, _, handler, done⟩
    cases done
    exact ⟨operationId, summary, description, tags, consumes, produces, json, cache, config, jsonp, parameters, security,
      handler⟩
  · intro h
    exact ⟨_, h.operationId, _, h.summary, _, h.description, _, h.tags, _, h.consumes, _, h.produces, _, h.json, _,
      h.cache, _, h.config, _, h.jsonp, _, h.parameters, _, h.security, _, h.handler, rfl⟩

/-- Under the same entries for all other fields, only the security is read anew. -/
theorem Reads.congr (h : Reads fields o) {declared : Option SecurityDeclaration}
    (same : ∀ name ∈ fieldNames, name ≠ "security" → OrderedMap.get? others name = OrderedMap.get? fields name)
    (security : field others "security" (optional fun v => .ok (SecurityDeclaration.ofJson v)) none = .ok declared) :
    Reads others { o with security := declared } where
  operationId := (field_congr (same _ (by decide) (by decide)) ..).trans h.operationId
  summary := (field_congr (same _ (by decide) (by decide)) ..).trans h.summary
  description := (field_congr (same _ (by decide) (by decide)) ..).trans h.description
  tags := (field_congr (same _ (by decide) (by decide)) ..).trans h.tags
  consumes := (field_congr (same _ (by decide) (by decide)) ..).trans h.consumes
  produces := (field_congr (same _ (by decide) (by decide)) ..).trans h.produces
  json := (field_congr (same _ (by decide) (by decide)) ..).trans h.json
  cache := (field_congr (same _ (by decide) (by decide)) ..).trans h.cache
  config := (field_congr (same _ (by decide) (by decide)) ..).trans h.config
  jsonp := (field_congr (same _ (by decide) (by decide)) ..).trans h.jsonp
  parameters := (field_congr (same _ (by decide) (by decide)) ..).trans h.parameters
  security := security
  handler := (field_congr (same _ (by decide) (by decide)) ..).trans h.handler

end Operation

namespace PathItem

variable {item : PathItem}

theorem ofFields_eq_ok_iff : ofFields fields = .ok item ↔ Reads fields item := by
  simp only [ofFields, bind_eq_ok_iff]
  constructor
  · rintro ⟨_, get, _, post, _, put, _, delete, _, head, _, options, _, patch, _, parameters, _, security, done⟩
    cases done
    refine ⟨fun verb => ?_, parameters, security⟩
    cases verb with
    | get => exact get
    | post => exact post
    | put => exact put
    | delete => exact delete
    | head => exact head
    | options => exact options
    | patch => exact patch
  · intro h
    exact ⟨_, h.operation .get, _, h.operation .post, _, h.operation .put, _, h.operation .delete, _, h.operation .head,
      _, h.operation .options, _, h.operation .patch, _, h.parameters, _, h.security, rfl⟩

end PathItem

namespace Description

variable {api : Description}

theorem ofFields_eq_ok_iff : ofFields fields = .ok api ↔ Reads fields api := by
  simp only [ofFields, bind_eq_ok_iff]
  constructor
  · rintro ⟨_, basePath, _, consumes, _, produces, _, json, _, cache, _, config, _, jsonp, _, security, _,
      securityDefinitions, _, paths, done⟩
    cases done
    exact ⟨basePath, consumes, produces, json, cache, config, jsonp, security, securityDefinitions, paths⟩
  · intro h
    exact ⟨_, h.basePath, _, h.consumes, _, h.produces, _, h.json, _, h.cache, _, h.config, _, h.jsonp, _, h.security, _,
      h.securityDefinitions, _, h.paths, rfl⟩

/-- Under the same entries for all other fields, only the security, its definitions and the paths are read anew. -/
theorem Reads.congr (h : Reads fields api) {declared : Option SecurityDeclaration}
    {definitions : Option (OrderedMap String SecurityScheme)} {items : OrderedMap String PathItem}
    (same : ∀ name ∈ fieldNames, name ∉ ["security", "securityDefinitions", "paths"] →
      OrderedMap.get? others name = OrderedMap.get? fields name)
    (security : field others "security" (optional fun v => .ok (SecurityDeclaration.ofJson v)) none = .ok declared)
    (securityDefinitions :
      field others "securityDefinitions" (optional (table SecurityScheme.ofJson)) none = .ok definitions)
    (paths : field others "paths" (table PathItem.ofJson) [] = .ok items) :
    Reads others { api with security := declared, securityDefinitions := definitions, paths := items } where
  basePath := (field_congr (same _ (by decide) (by decide)) ..).trans h.basePath
  consumes := (field_congr (same _ (by decide) (by decide)) ..).trans h.consumes
  produces := (field_congr (same _ (by decide) (by decide)) ..).trans h.produces
  json := (field_congr (same _ (by decide) (by decide)) ..).trans h.json
  cache := (field_congr (same _ (by decide) (by decide)) ..).trans h.cache
  config := (field_congr (same _ (by decide) (by decide)) ..).trans h.config
  jsonp := (field_congr (same _ (by decide) (by decide)) ..).trans h.jsonp
  security := security
  securityDefinitions := securityDefinitions
  paths := paths

end Description

end RouteTable
