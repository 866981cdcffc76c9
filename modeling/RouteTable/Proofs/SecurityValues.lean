import Mathlib.Data.Set.List
import RouteTable.Proofs.DistinctKeys
import RouteTable.Proofs.RecordFields
import RouteTable.Proofs.Shadowing

/-!
# Every value is some security

Any value may stand under `security`, at the root of a description, in a path item or in an operation
(`SecurityPlace.Placed`).  The description still loads, and but for the declaration in this place it loads as the same:
`null` declares nothing, a list of objects whose values are all lists declares these as they are written, and any other
value is kept as malformed (`Description.ofValue_of_placed`).
-/

namespace RouteTable

variable {α : Type}

/-! ### What a value declares -/

/-- A requirement object as it is written. -/
def Requirement.toJson (object : Requirement) : Json :=
  .object (object.map fun (scheme, scopes) => (scheme, .array scopes))

/-- Whether a value is a list of requirement objects can be read off its parts. -/
theorem Json.isRequirements_iff {v : Json} : v.IsRequirements ↔
    ∃ items, v = .array items ∧ ∀ item ∈ items, ∃ fields, item = .object fields ∧
      ∀ e ∈ fields, ∃ scopes, e.2 = .array scopes := by
  constructor
  · rintro ⟨objects, rfl⟩
    refine ⟨_, rfl, fun item mem => ?_⟩
    obtain ⟨object, -, rfl⟩ := List.mem_map.1 mem
    refine ⟨_, rfl, fun e mem => ?_⟩
    obtain ⟨request, -, rfl⟩ := List.mem_map.1 mem
    exact ⟨request.2, rfl⟩
  · rintro ⟨items, rfl, shape⟩
    have written : ∀ item ∈ items, item ∈ Set.range Requirement.toJson := by
      intro item mem
      obtain ⟨fields, rfl, lists⟩ := shape item mem
      have requests : ∀ e ∈ fields, e ∈ Set.range fun request : String × List Json => (request.1, array request.2) := by
        rintro ⟨scheme, value⟩ mem
        obtain ⟨scopes, same⟩ := lists _ mem
        exact ⟨(scheme, scopes), congrArg (Prod.mk scheme) same.symm⟩
      obtain ⟨object, rfl⟩ := (Set.range_list_map _).ge requests
      exact ⟨object, rfl⟩
    obtain ⟨objects, rfl⟩ := (Set.range_list_map _).ge written
    exact ⟨objects, rfl⟩

namespace SecurityDeclaration

variable {v : Json}

theorem requirement?_toJson (object : Requirement) : requirement? object.toJson = some object := by
  rw [Requirement.toJson, requirement?, mapM_eq_some_iff, List.forall₂_map_left_iff, List.forall₂_same]
  exact fun _ _ => rfl

theorem ofJson_map_toJson (objects : List Requirement) :
    ofJson (.array (objects.map Requirement.toJson)) = requirements objects := by
  have read : (objects.map Requirement.toJson).mapM requirement? = some objects := by
    rw [mapM_eq_some_iff, List.forall₂_map_left_iff, List.forall₂_same]
    exact fun object _ => requirement?_toJson object
  rw [ofJson, read]

/-- What a value declares, case by case. -/
theorem declared?_cases (v : Json) :
    (v = .null ∧ declared? v = none) ∨
    (∃ objects : List Requirement, v = .array (objects.map Requirement.toJson) ∧
      declared? v = some (requirements objects)) ∨
    (v ≠ .null ∧ ¬ v.IsRequirements ∧ declared? v = some (malformed v)) := by
  by_cases listed : v.IsRequirements
  · obtain ⟨objects, rfl⟩ := listed
    exact .inr (.inl ⟨objects, rfl, congrArg some (ofJson_map_toJson objects)⟩)
  · by_cases null : v = .null
    · subst null
      exact .inl ⟨rfl, rfl⟩
    · have present : declared? v = some (ofJson v) := by
        cases v <;> first | rfl | exact absurd rfl null
      rw [ofJson_of_not_isRequirements listed] at present
      exact .inr (.inr ⟨null, listed, present⟩)

theorem declared?_eq_none_iff : declared? v = none ↔ v = .null := by
  obtain ⟨rfl, shown⟩ | ⟨objects, rfl, shown⟩ | ⟨present, -, shown⟩ := declared?_cases v
  · exact iff_of_true shown rfl
  · rw [shown]
    exact iff_of_false (fun h => nomatch h) (fun h => nomatch h)
  · rw [shown]
    exact iff_of_false (fun h => nomatch h) present

/-- A requirement list is the value as it is written. -/
theorem declared?_eq_requirements_iff {objects : List Requirement} :
    declared? v = some (requirements objects) ↔ v = .array (objects.map Requirement.toJson) := by
  constructor
  · intro h
    obtain ⟨-, shown⟩ | ⟨others, written, shown⟩ | ⟨-, -, shown⟩ := declared?_cases v
    · cases shown.symm.trans h
    · cases shown.symm.trans h
      exact written
    · cases shown.symm.trans h
  · rintro rfl
    exact congrArg some (ofJson_map_toJson objects)

theorem declared?_eq_malformed (present : declared? v ≠ none)
    (unlisted : ¬ ∃ objects, declared? v = some (requirements objects)) : declared? v = some (malformed v) := by
  obtain ⟨-, shown⟩ | ⟨objects, -, shown⟩ | ⟨-, -, shown⟩ := declared?_cases v
  · exact absurd shown present
  · exact absurd ⟨objects, shown⟩ unlisted
  · exact shown

end SecurityDeclaration

/-! ### One entry of a table -/

namespace OrderedMap

variable {κ : Type} [DecidableEq κ] {before after : OrderedMap κ α} {key : κ}

theorem get?_append_cons (notBefore : key ∉ before.keys) (a : α) :
    get? (before ++ (key, a) :: after) key = some a := by
  induction before with
  | nil => exact if_pos rfl
  | cons e rest ih =>
    rw [keys, List.map_cons, List.mem_cons, not_or] at notBefore
    rw [List.cons_append, get?, if_neg (Ne.symm notBefore.1)]
    exact ih notBefore.2

theorem adjust_of_not_mem {m : OrderedMap κ α} (absent : key ∉ m.keys) (change : α → α) : m.adjust key change = m := by
  refine (List.map_congr_left fun e mem => ?_).trans (List.map_id m)
  have other : e.1 ≠ key := fun same => absent (same ▸ List.mem_map_of_mem mem)
  exact Prod.ext rfl (if_neg other)

theorem adjust_append_cons (notBefore : key ∉ before.keys) (notAfter : key ∉ after.keys) (a : α) (change : α → α) :
    adjust (before ++ (key, a) :: after) key change = before ++ (key, change a) :: after := by
  calc adjust (before ++ (key, a) :: after) key change
      = adjust before key change ++ (key, if key = key then change a else a) :: adjust after key change :=
        List.map_append
    _ = before ++ (key, change a) :: after := by
        rw [adjust_of_not_mem notBefore, adjust_of_not_mem notAfter, if_pos rfl]

end OrderedMap

namespace Decode

/-! ### One field, one entry -/

variable {names : List String} {key name : String} {change : Option Json → Json → Prop}
  {fields others : List (String × Json)}

/-- One value stands under a key, in a given relation to what was there; elsewhere nothing changes. -/
structure FieldChange (key : String) (change : Option Json → Json → Prop) (fields others : List (String × Json)) :
    Prop where
  here : ∃ w, OrderedMap.valuesOf others key = [w] ∧ change (OrderedMap.get? fields key) w
  elsewhere : ∀ name ≠ key, OrderedMap.valuesOf others name = OrderedMap.valuesOf fields name

/-- A value that is there becomes one like it. -/
def Within (like : Likeness) (old : Option Json) (w : Json) : Prop := ∃ v, old = some v ∧ like v w

theorem FieldChange.get?_here (h : FieldChange key change fields others) :
    ∃ w, OrderedMap.get? others key = some w ∧ change (OrderedMap.get? fields key) w := by
  obtain ⟨w, values, changed⟩ := h.here
  refine ⟨w, ?_, changed⟩
  rw [OrderedMap.get?_eq_head?_valuesOf, values, List.head?_cons]

theorem FieldChange.get?_elsewhere (h : FieldChange key change fields others) (ne : name ≠ key) :
    OrderedMap.get? others name = OrderedMap.get? fields name := by
  rw [OrderedMap.get?_eq_head?_valuesOf, OrderedMap.get?_eq_head?_valuesOf, h.elsewhere name ne]

theorem fieldChange_singleton {v w : Json} (h : change (some v) w) :
    FieldChange key change [(key, v)] [(key, w)] where
  here := ⟨w, OrderedMap.valuesOf_singleton_self key w, by rwa [OrderedMap.get?, if_pos rfl]⟩
  elsewhere name ne := by
    rw [OrderedMap.valuesOf_singleton_of_ne ne.symm, OrderedMap.valuesOf_singleton_of_ne ne.symm]

theorem fieldChange_nil {w : Json} (h : change none w) : FieldChange key change [] [(key, w)] where
  here := ⟨w, OrderedMap.valuesOf_singleton_self key w, h⟩
  elsewhere _ ne := OrderedMap.valuesOf_singleton_of_ne ne.symm w

theorem entryWise_fieldChange : EntryWise (FieldChange key change) := by
  rintro fields others changed ⟨entry, x⟩ mem
  have value : x ∈ OrderedMap.valuesOf others entry := OrderedMap.mem_valuesOf.2 mem
  by_cases here : entry = key
  · subst here
    obtain ⟨w, values, new⟩ := changed.here
    rw [values, List.mem_singleton] at value
    subst value
    cases old : OrderedMap.get? fields entry with
    | none =>
      rw [old] at new
      exact .inr (.inr (fieldChange_nil new))
    | some v =>
      rw [old] at new
      exact .inr (.inl ⟨(entry, v), OrderedMap.mem_of_get?_eq_some old, fieldChange_singleton new⟩)
  · rw [changed.elsewhere entry here] at value
    exact .inl (OrderedMap.mem_valuesOf.1 value)

/-- The value of one key of a table becomes one like it. -/
inductive EntryChange (key : String) (like : Likeness) : Likeness
  | entry {before after : List (String × Json)} {v w : Json} (notBefore : key ∉ OrderedMap.keys before)
      (notAfter : key ∉ OrderedMap.keys after) (h : like v w) :
    EntryChange key like (.object (before ++ (key, v) :: after)) (.object (before ++ (key, w) :: after))

theorem table_of_entryChange {R : α → α → Prop} {decode : Decoder α} {like : Likeness} {v w : Json}
    {m : OrderedMap String α} (h : EntryChange key like v w)
    (step : ∀ v w a, like v w → decode v = .ok a → ∃ b, decode w = .ok b ∧ R a b) (ok : table decode v = .ok m) :
    ∃ before a b after, m = before ++ (key, a) :: after ∧ table decode w = .ok (before ++ (key, b) :: after) ∧
      R a b ∧ key ∉ OrderedMap.keys before ∧ key ∉ OrderedMap.keys after := by
  cases h with
  | @entry before after v w notBefore notAfter like =>
    rw [table, List.mapM_append, bind_eq_ok_iff] at ok
    obtain ⟨first, readFirst, ok⟩ := ok
    obtain ⟨rest, readRest, done⟩ := bind_eq_ok_iff.1 ok
    cases done
    rw [List.mapM_cons, bind_eq_ok_iff] at readRest
    obtain ⟨e, readEntry, readRest⟩ := readRest
    obtain ⟨last, readLast, done⟩ := bind_eq_ok_iff.1 readRest
    cases done
    obtain ⟨a, readOld, rfl⟩ := map_eq_ok_iff.1 readEntry
    obtain ⟨b, readNew, become⟩ := step v w a like readOld
    have readEntry' : entry decode (key, w) = .ok (key, b) := map_eq_ok_iff.2 ⟨b, readNew, rfl⟩
    refine ⟨first, a, b, last, rfl, ?_, become, ?_, ?_⟩
    · rw [table, List.mapM_append, readFirst, List.mapM_cons, readEntry', readLast]
      rfl
    · rw [keys_of_mapM_entry readFirst]
      exact notBefore
    · rw [keys_of_mapM_entry readLast]
      exact notAfter

end Decode

open Decode

/-! ### Places -/

/-- A record with a value under `security`, in place of any value that is there. -/
def SecuritySet (names : List String) (v : Json) : Likeness := InRecord names (FieldChange "security" fun _ w => w = v)

namespace Layer

/-- The value is placed under `security` in the path item, or in the operation that stands there under the verb. -/
def Placed (v : Json) : Layer → Likeness
  | item => SecuritySet PathItem.fieldNames v
  | operation verb =>
    InRecord PathItem.fieldNames (FieldChange verb.key (Within (SecuritySet Operation.fieldNames v)))

/-- What a layer of a path item declares, if it is there. -/
def declared? : Layer → PathItem → Option (Option SecurityDeclaration)
  | item, i => some i.security
  | operation verb, i => (i.operation? verb).map Operation.security

/-- The first path item becomes the second, with the security of the layer set; and the layer is there. -/
def Sets (layer : Layer) (declared : Option SecurityDeclaration) (i j : PathItem) : Prop :=
  j = layer.setItem declared i ∧ layer.declared? j = some declared

end Layer

/-- Where a description may declare security. -/
inductive SecurityPlace
  | root
  | under (path : String) (layer : Layer)

namespace SecurityPlace

/-- A value is placed under `security`: at the root, or in a layer of the path item that stands under a path. -/
def Placed (v : Json) : SecurityPlace → Likeness
  | root => SecuritySet Description.fieldNames v
  | under path layer =>
    InRecord Description.fieldNames (FieldChange "paths" (Within (EntryChange path (layer.Placed v))))

/-- What a description declares in a place, if the place is there. -/
def declared? : SecurityPlace → Description → Option (Option SecurityDeclaration)
  | root, api => some api.security
  | under path layer, api => (OrderedMap.get? api.paths path).bind layer.declared?

/-- Declares security in a place, or takes it away. -/
def declare (declared : Option SecurityDeclaration) : SecurityPlace → Description → Description
  | root, api => { api with security := declared }
  | under path layer, api => api.declareSecurity path layer declared

/-- The first description becomes the second, with the security of the place set; and the place is there. -/
def Sets (place : SecurityPlace) (declared : Option SecurityDeclaration) (api api' : Description) : Prop :=
  api' = place.declare declared api ∧ place.declared? api' = some declared

end SecurityPlace

/-! ### What is read where a value is placed -/

variable {v : Json} {fields others : List (String × Json)}

theorem Decode.FieldChange.security (h : FieldChange "security" (fun _ w => w = v) fields others) :
    field others "security" (optional fun v => .ok (SecurityDeclaration.ofJson v)) none =
      .ok (SecurityDeclaration.declared? v) := by
  obtain ⟨w, found, rfl⟩ := h.get?_here
  rw [field, found]
  exact SecurityDeclaration.optional_ofJson w

namespace Operation

theorem ofJson_of_securitySet {x y : Json} {o : Operation} (h : SecuritySet fieldNames v x y) (ok : ofJson x = .ok o) :
    ofJson y = .ok { o with security := SecurityDeclaration.declared? v } := by
  have step : ∀ fields others o, FieldChange "security" (fun _ w => w = v) fields others → ofFields fields = .ok o →
      ∃ p, ofFields others = .ok p ∧ p = { o with security := SecurityDeclaration.declared? v } := by
    intro fields others o changed built
    rw [ofFields_eq_ok_iff] at built
    have reads := built.congr (fun name _ ne => changed.get?_elsewhere ne) changed.security
    exact ⟨_, ofFields_eq_ok_iff.2 reads, rfl⟩
  obtain ⟨_, read, rfl⟩ := record_of_inRecord entryWise_fieldChange h step ⟨{}, rfl⟩ ok
  exact read

end Operation

theorem Verb.key_ne {verb other : Verb} (h : verb ≠ other) : verb.key ≠ other.key := by
  cases verb <;> cases other <;> first | exact absurd rfl h | decide

theorem Verb.key_ne_parameters (verb : Verb) : verb.key ≠ "parameters" := by
  cases verb <;> decide

theorem Verb.key_ne_security (verb : Verb) : verb.key ≠ "security" := by
  cases verb <;> decide

namespace PathItem

variable {item : PathItem}

theorem Reads.setSecurity (h : Reads fields item) (changed : FieldChange "security" (fun _ w => w = v) fields others) :
    Reads others (Layer.item.setItem (SecurityDeclaration.declared? v) item) where
  operation verb := by
    rw [field_congr (changed.get?_elsewhere verb.key_ne_security), h.operation verb, Layer.operation?_setItem]
    exact congrArg Except.ok Option.map_id'.symm
  parameters := (field_congr (changed.get?_elsewhere (by decide)) ..).trans h.parameters
  security := changed.security

theorem Reads.setOperation {verb : Verb} (h : Reads fields item)
    (changed : FieldChange verb.key (Within (SecuritySet Operation.fieldNames v)) fields others) :
    (∃ o, item.operation? verb = some o) ∧
      Reads others ((Layer.operation verb).setItem (SecurityDeclaration.declared? v) item) := by
  obtain ⟨y, found, x, old, set⟩ := changed.get?_here
  -- the operation that is there is read, so it is one
  have read := h.operation verb
  rw [field, old] at read
  obtain ⟨o, readOld, declared⟩ := map_eq_ok_iff.1 ((optional_of_ne_null set.ne_null.1 _).symm.trans read)
  have readNew := Operation.ofJson_of_securitySet set readOld
  refine ⟨⟨o, declared.symm⟩, fun other => ?_, ?_, ?_⟩
  · -- of the verbs, only the one that was set is read from a new value
    rw [Layer.operation?_setItem]
    by_cases same : other = verb
    · subst same
      have new : field others other.key (optional Operation.ofJson) none = (Operation.ofJson y).map some := by
        rw [field, found]
        exact optional_of_ne_null set.ne_null.2 _
      rw [new, readNew, ← declared, Option.map_some, Layer.setOperation, if_pos rfl]
      rfl
    · rw [field_congr (changed.get?_elsewhere (Verb.key_ne same)), h.operation other]
      cases item.operation? other with
      | none => rfl
      | some p => rw [Option.map_some, Layer.setOperation, if_neg same]
  · rw [Layer.setItem, parameters_adjustOperation,
      field_congr (changed.get?_elsewhere verb.key_ne_parameters.symm)]
    exact h.parameters
  · rw [Layer.setItem, security_adjustOperation, field_congr (changed.get?_elsewhere verb.key_ne_security.symm)]
    exact h.security

theorem ofJson_of_placed {layer : Layer} {x y : Json} (h : layer.Placed v x y) (ok : ofJson x = .ok item) :
    ∃ j, ofJson y = .ok j ∧ layer.Sets (SecurityDeclaration.declared? v) item j := by
  cases layer with
  | item =>
    refine record_of_inRecord entryWise_fieldChange h (fun fields others i changed built => ?_) ⟨{}, rfl⟩ ok
    rw [ofFields_eq_ok_iff] at built
    exact ⟨_, ofFields_eq_ok_iff.2 (built.setSecurity changed), rfl, rfl⟩
  | operation verb =>
    refine record_of_inRecord entryWise_fieldChange h (fun fields others i changed built => ?_) ⟨{}, rfl⟩ ok
    rw [ofFields_eq_ok_iff] at built
    obtain ⟨⟨o, declared⟩, reads⟩ := built.setOperation changed
    refine ⟨_, ofFields_eq_ok_iff.2 reads, rfl, ?_⟩
    rw [Layer.declared?, Layer.operation?_setItem, declared, Option.map_some, Option.map_some, Layer.setOperation,
      if_pos rfl]

end PathItem

namespace Description

variable {api : Description}

theorem Reads.setSecurity (h : Reads fields api) (changed : FieldChange "security" (fun _ w => w = v) fields others) :
    Reads others { api with security := SecurityDeclaration.declared? v } := by
  refine h.congr (fun name _ ne => changed.get?_elsewhere ?_) changed.security ?_ ?_
  · rintro rfl
    exact ne (by decide)
  · exact (field_congr (changed.get?_elsewhere (by decide)) ..).trans h.securityDefinitions
  · exact (field_congr (changed.get?_elsewhere (by decide)) ..).trans h.paths

theorem Reads.setItem {path : String} {layer : Layer} (h : Reads fields api)
    (changed : FieldChange "paths" (Within (EntryChange path (layer.Placed v))) fields others) :
    ∃ api', Reads others api' ∧ (SecurityPlace.under path layer).Sets (SecurityDeclaration.declared? v) api api' := by
  obtain ⟨y, found, x, old, entry⟩ := changed.get?_here
  have read := h.paths
  rw [field, old] at read
  obtain ⟨before, i, j, after, split, readNew, ⟨set, declared⟩, notBefore, notAfter⟩ :=
    table_of_entryChange entry (fun _ _ _ => PathItem.ofJson_of_placed) read
  have adjusted : (api.declareSecurity path layer (SecurityDeclaration.declared? v)).paths =
      before ++ (path, j) :: after := by
    rw [set, ← OrderedMap.adjust_append_cons notBefore notAfter i, ← split]
    rfl
  refine ⟨api.declareSecurity path layer (SecurityDeclaration.declared? v), ?_, rfl, ?_⟩
  · have paths : field others "paths" (table PathItem.ofJson) [] =
        .ok (api.declareSecurity path layer (SecurityDeclaration.declared? v)).paths := by
      rw [field, found, adjusted]
      exact readNew
    refine h.congr (fun name _ ne => changed.get?_elsewhere ?_) ?_ ?_ paths
    · rintro rfl
      exact ne (by decide)
    · exact (field_congr (changed.get?_elsewhere (by decide)) ..).trans h.security
    · exact (field_congr (changed.get?_elsewhere (by decide)) ..).trans h.securityDefinitions
  · rw [SecurityPlace.declared?, adjusted, OrderedMap.get?_append_cons notBefore]
    exact declared

theorem ofJson_of_placed {place : SecurityPlace} {d d' : Json} (h : place.Placed v d d') (ok : ofJson d = .ok api) :
    ∃ api', ofJson d' = .ok api' ∧ place.Sets (SecurityDeclaration.declared? v) api api' := by
  cases place with
  | root =>
    refine record_of_inRecord entryWise_fieldChange h (fun fields others api changed built => ?_) ⟨{}, rfl⟩ ok
    rw [ofFields_eq_ok_iff] at built
    exact ⟨_, ofFields_eq_ok_iff.2 (built.setSecurity changed), rfl, rfl⟩
  | under path layer =>
    refine record_of_inRecord entryWise_fieldChange h (fun fields others api changed built => ?_) ⟨{}, rfl⟩ ok
    rw [ofFields_eq_ok_iff] at built
    obtain ⟨api', reads, sets⟩ := built.setItem changed
    exact ⟨api', ofFields_eq_ok_iff.2 reads, sets⟩

/-- Whatever value is placed under `security`, a description that loads with none there, or with another, still loads,
and nothing but the declaration in this place changes.  `null` declares nothing.  An array of objects whose values are
all arrays declares a requirement list, which is the array object for object, scheme for scheme and scope for scope; no
other value declares one.  All other values are kept as malformed, as they are. -/
theorem ofValue_of_placed {place : SecurityPlace} {d d' : Json} (placed : place.Placed v d d')
    (ok : ofValue d = .ok api) :
    ∃ declared, ofValue d' = .ok (place.declare declared api) ∧
      place.declared? (place.declare declared api) = some declared ∧
      (declared = none ↔ v = .null) ∧
      ((∃ objects, declared = some (.requirements objects)) ↔
        ∃ items, v = .array items ∧ ∀ item ∈ items, ∃ fields, item = .object fields ∧
          ∀ e ∈ fields, ∃ scopes, e.2 = .array scopes) ∧
      (∀ objects, declared = some (.requirements objects) → v = .array (objects.map Requirement.toJson)) ∧
      (declared ≠ none → (¬ ∃ objects, declared = some (.requirements objects)) →
        declared = some (.malformed v)) := by
  obtain ⟨_, read, rfl, there⟩ := ofJson_of_placed placed (mapError_eq_ok_iff.1 ok)
  refine ⟨SecurityDeclaration.declared? v, mapError_eq_ok_iff.2 read, there, SecurityDeclaration.declared?_eq_none_iff,
    ?_, fun objects => SecurityDeclaration.declared?_eq_requirements_iff.1, SecurityDeclaration.declared?_eq_malformed⟩
  rw [← Json.isRequirements_iff]
  exact exists_congr fun objects => SecurityDeclaration.declared?_eq_requirements_iff

/-- The scopes of the last scheme spoil the whole value, which is kept as it is. -/
theorem ofValue_of_placed_pets :
    let v : Json := .array [.object [("key", .array [.string "read", .bool true])], .object [("token", .null)]]
    let d (get : List (String × Json)) : Json :=
      .object [("paths", .object [("/pets", .object [("get", .object get)])])]
    let place : SecurityPlace := .under "/pets" (.operation .get)
    place.Placed v (d []) (d [("security", v)]) ∧ ∃ api, ofValue (d []) = .ok api ∧
      ofValue (d [("security", v)]) = .ok (place.declare (some (.malformed v)) api) := by
  intro v d place
  have operation : SecuritySet Operation.fieldNames v (.object []) (.object [("security", v)]) :=
    .object (fieldChange_nil rfl)
  have item : (Layer.operation .get).Placed v (.object [("get", .object [])])
      (.object [("get", .object [("security", v)])]) := .object (fieldChange_singleton ⟨_, rfl, operation⟩)
  have entry : EntryChange "/pets" ((Layer.operation .get).Placed v)
      (.object [("/pets", .object [("get", .object [])])])
      (.object [("/pets", .object [("get", .object [("security", v)])])]) :=
    @EntryChange.entry "/pets" _ [] [] _ _ (by decide) (by decide) item
  have placed : place.Placed v (d []) (d [("security", v)]) := .object (fieldChange_singleton ⟨_, rfl, entry⟩)
  have ok : ofValue (d []) = .ok _ := rfl
  obtain ⟨declared, loads, -, none, listed, -, malformed⟩ := ofValue_of_placed placed ok
  have unlisted : ¬ ∃ objects, declared = some (.requirements objects) := by
    intro h
    obtain ⟨items, same, objects⟩ := listed.1 h
    obtain rfl := Json.array.inj same
    obtain ⟨fields, same, lists⟩ := objects (.object [("token", .null)]) (by simp)
    obtain rfl := Json.object.inj same
    obtain ⟨scopes, same⟩ := lists ("token", .null) (by simp)
    cases same
  obtain rfl := malformed (fun h => nomatch none.1 h) unlisted
  exact ⟨placed, _, ok, loads⟩

end Description

end RouteTable
