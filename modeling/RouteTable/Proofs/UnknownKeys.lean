import RouteTable.Description.File
import RouteTable.Proofs.RecordFields

/-!
# Unknown keys and the order of keys

A description is respelled when its root object, path items, operations and security schemes get or lose keys that the
model does not know and have their keys in another order (`Description.Respelled`).  Tables keep the order of their keys,
and all else stays as it is.  A respelled object without repeated keys is one whose known entries are rearranged
(`Decode.fieldsRespelled_of_perm`).  A respelled description is accepted if the description is, and is loaded as the same
(`Description.ofValue_of_respelled`).
-/

namespace RouteTable

namespace Decode

variable {α : Type} {names : List String} {inside : String → Likeness} {fields others : List (String × Json)}

/-- Under each known name stand as many values, respelled inside; the order of the names and all other entries are
free. -/
def FieldsRespelled (names : List String) (inside : String → Likeness) (fields others : List (String × Json)) : Prop :=
  ∀ name ∈ names, List.Forall₂ (inside name) (OrderedMap.valuesOf fields name) (OrderedMap.valuesOf others name)

inductive RespelledRecord (names : List String) (inside : String → Likeness) : Likeness
  | same (v : Json) : RespelledRecord names inside v v
  | entries {v w : Json} (h : InRecord names (FieldsRespelled names inside) v w) : RespelledRecord names inside v w

/-- Tables with the same keys in the same order. -/
inductive RespelledTable (inside : Likeness) : Likeness
  | same (v : Json) : RespelledTable inside v v
  | entries {fields others : List (String × Json)}
      (h : List.Forall₂ (fun e f => f.1 = e.1 ∧ inside e.2 f.2) fields others) :
    RespelledTable inside (.object fields) (.object others)

theorem RespelledRecord.eq_null_iff {v w : Json} (h : RespelledRecord names inside v w) : v = .null ↔ w = .null := by
  cases h with
  | same => rfl
  | entries h => exact iff_of_false h.ne_null.1 h.ne_null.2

theorem RespelledTable.eq_null_iff {inside : Likeness} {v w : Json} (h : RespelledTable inside v w) :
    v = .null ↔ w = .null := by
  cases h with
  | same => rfl
  | entries => exact iff_of_false (fun h => nomatch h) (fun h => nomatch h)

/-! ### Respelled objects -/

theorem valuesOf_filter_known {name : String} (known : name ∈ names) (entries : List (String × Json)) :
    OrderedMap.valuesOf (entries.filter fun e => e.1 ∈ names) name = OrderedMap.valuesOf entries name := by
  rw [OrderedMap.valuesOf, OrderedMap.valuesOf, List.filter_filter]
  congr 1
  refine List.filter_congr fun e _ => ?_
  by_cases h : e.1 = name <;> simp [h, known]

theorem forall₂_valuesOf (h : List.Forall₂ (fun e f => f.1 = e.1 ∧ inside e.1 e.2 f.2) fields others) (name : String) :
    List.Forall₂ (inside name) (OrderedMap.valuesOf fields name) (OrderedMap.valuesOf others name) := by
  induction h with
  | nil => exact .nil
  | @cons e f _ _ head _ ih =>
    by_cases h : e.1 = name
    · subst h
      simpa [OrderedMap.valuesOf, head.1] using And.intro head.2 ih
    · simpa [OrderedMap.valuesOf, head.1, h] using ih

/-- Without repeated keys, an object is respelled when its known entries are rearranged and respelled inside. -/
theorem fieldsRespelled_of_perm {arranged : List (String × Json)} (distinct : (OrderedMap.keys fields).Nodup)
    (perm : (fields.filter fun e => e.1 ∈ names).Perm arranged)
    (respelled : List.Forall₂ (fun e f => f.1 = e.1 ∧ inside e.1 e.2 f.2) arranged
      (others.filter fun e => e.1 ∈ names)) :
    FieldsRespelled names inside fields others := by
  intro name known
  have distinctKnown : (OrderedMap.keys (fields.filter fun e => e.1 ∈ names)).Nodup :=
    distinct.sublist (List.filter_sublist.map _)
  have distinctArranged : (OrderedMap.keys arranged).Nodup := (perm.map Prod.fst).nodup_iff.1 distinctKnown
  rw [← valuesOf_filter_known known fields, OrderedMap.valuesOf_eq_toList distinctKnown,
    OrderedMap.get?_eq_of_perm distinctArranged perm, ← OrderedMap.valuesOf_eq_toList distinctArranged,
    ← valuesOf_filter_known known others]
  exact forall₂_valuesOf respelled name

theorem fieldsRespelled_singleton {name : String} {v w : Json} (h : inside name v w) :
    FieldsRespelled names inside [(name, v)] [(name, w)] := by
  intro other _
  by_cases same : name = other
  · subst same
    rw [OrderedMap.valuesOf_singleton_self, OrderedMap.valuesOf_singleton_self]
    exact .cons h .nil
  · rw [OrderedMap.valuesOf_singleton_of_ne same, OrderedMap.valuesOf_singleton_of_ne same]
    exact .nil

theorem fieldsRespelled_unknown {name : String} (unknown : name ∉ names) (w : Json) :
    FieldsRespelled names inside [] [(name, w)] := by
  intro other known
  have ne : name ≠ other := fun same => unknown (same ▸ known)
  rw [OrderedMap.valuesOf_singleton_of_ne ne]
  exact .nil

theorem entryWise_fieldsRespelled : EntryWise (FieldsRespelled names inside) := by
  intro fields others alike e mem
  by_cases known : e.1 ∈ names
  · obtain ⟨v, there, like⟩ := exists_of_forall₂ (alike e.1 known) e.2 (OrderedMap.mem_valuesOf.2 mem)
    exact .inr (.inl ⟨(e.1, v), OrderedMap.mem_valuesOf.1 there, fieldsRespelled_singleton like⟩)
  · exact .inr (.inr (fieldsRespelled_unknown known e.2))

theorem FieldsRespelled.get?_eq (h : FieldsRespelled names inside fields others) {name : String} (known : name ∈ names)
    (leaf : inside name = Eq) : OrderedMap.get? others name = OrderedMap.get? fields name := by
  have values := h name known
  rw [leaf, List.forall₂_eq_eq_eq] at values
  rw [OrderedMap.get?_eq_head?_valuesOf, OrderedMap.get?_eq_head?_valuesOf, values]

/-! ### Decoders that do not see how a value is spelled -/

/-- What is read of a value is read of every value that is like it. -/
def Keeps (like : Likeness) (decode : Decoder α) : Prop := ∀ v w a, like v w → decode v = .ok a → decode w = .ok a

variable {like : Likeness} {decode : Decoder α}

theorem Keeps.optional (h : Keeps like decode) (nulls : ∀ {v w}, like v w → (v = .null ↔ w = .null)) :
    Keeps like (optional decode) := by
  intro v w o rel ok
  by_cases hv : v = .null
  · rwa [(nulls rel).1 hv, ← hv]
  · have hw : w ≠ .null := fun hw => hv ((nulls rel).2 hw)
    rw [optional_of_ne_null hv] at ok
    obtain ⟨a, read, rfl⟩ := map_eq_ok_iff.1 ok
    rw [optional_of_ne_null hw, h v w a rel read]
    rfl

theorem Keeps.table (h : Keeps like decode) : Keeps (RespelledTable like) (table decode) := by
  intro v w m rel ok
  cases rel with
  | same => exact ok
  | @entries fields others alike =>
    rw [Decode.table, mapM_eq_ok_iff] at ok ⊢
    induction alike generalizing m with
    | nil => exact List.forall₂_nil_left_iff.1 ok ▸ .nil
    | @cons e f _ _ head _ ih =>
      obtain ⟨x, rest, read, readRest, rfl⟩ := List.forall₂_cons_left_iff.1 ok
      obtain ⟨a, decoded, rfl⟩ := map_eq_ok_iff.1 read
      exact .cons (map_eq_ok_iff.2 ⟨a, h _ _ _ head.2 decoded, by rw [head.1]⟩) (ih _ readRest)

theorem FieldsRespelled.field (h : FieldsRespelled names inside fields others) {name : String} (known : name ∈ names)
    (keeps : Keeps (inside name) decode) {default a : α} (ok : field fields name decode default = .ok a) :
    field others name decode default = .ok a := by
  have values := h name known
  rw [Decode.field, OrderedMap.get?_eq_head?_valuesOf] at ok ⊢
  generalize OrderedMap.valuesOf fields name = vs, OrderedMap.valuesOf others name = ws at values ok ⊢
  cases values with
  | nil => exact ok
  | cons head _ => exact keeps _ _ _ head ok

/-- A record keeps what it is built from if what is built depends on its known entries only, up to their spelling. -/
theorem keeps_record {build : List (String × Json) → Except DecodeError α} (name : String)
    (step : ∀ fields others a, FieldsRespelled names inside fields others → build fields = .ok a → build others = .ok a)
    (empty : ∃ a, build [] = .ok a) : Keeps (RespelledRecord names inside) (record name names build) := by
  intro v w a rel ok
  cases rel with
  | same => exact ok
  | entries h =>
    obtain ⟨b, read, rfl⟩ := record_of_inRecord entryWise_fieldsRespelled h
      (fun fields others a alike built => ⟨a, step fields others a alike built, rfl⟩) empty ok
    exact read

end Decode

open Decode

/-! ### Respelled descriptions -/

namespace SecurityScheme

def Respelled : Likeness := RespelledRecord fieldNames fun _ => Eq

theorem keeps_ofJson : Keeps Respelled ofJson := by
  refine keeps_record _ (fun fields others s alike built => ?_) ⟨_, rfl⟩
  rw [ofFields_eq_ok_iff] at built ⊢
  exact built.congr fun name known => alike.get?_eq known rfl

end SecurityScheme

namespace Operation

def Respelled : Likeness := RespelledRecord fieldNames fun _ => Eq

theorem keeps_ofJson : Keeps Respelled ofJson := by
  refine keeps_record _ (fun fields others o alike built => ?_) ⟨_, rfl⟩
  rw [ofFields_eq_ok_iff] at built ⊢
  have same : ∀ name ∈ fieldNames, OrderedMap.get? others name = OrderedMap.get? fields name :=
    fun name known => alike.get?_eq known rfl
  exact built.congr (fun name known _ => same name known)
    ((field_congr (same "security" (by decide)) ..).trans built.security)

end Operation

namespace PathItem

/-- Operations are respelled; parameters and security stay as they are. -/
def inside (name : String) : Likeness := if name ∈ Verb.all.map Verb.key then Operation.Respelled else Eq

def Respelled : Likeness := RespelledRecord fieldNames inside

theorem keeps_ofJson : Keeps Respelled ofJson := by
  refine keeps_record _ (fun fields others item alike built => ?_) ⟨_, rfl⟩
  rw [ofFields_eq_ok_iff] at built ⊢
  refine ⟨fun verb => ?_, ?_, ?_⟩
  · have verbKey : inside verb.key = Operation.Respelled := by cases verb <;> rfl
    have known : verb.key ∈ fieldNames := by cases verb <;> decide
    exact alike.field known (verbKey ▸ Operation.keeps_ofJson.optional RespelledRecord.eq_null_iff)
      (built.operation verb)
  · exact (field_congr (alike.get?_eq (by decide) rfl) ..).trans built.parameters
  · exact (field_congr (alike.get?_eq (by decide) rfl) ..).trans built.security

end PathItem

namespace Description

/-- Security definitions and paths are respelled entry by entry; all else stays as it is. -/
def inside (name : String) : Likeness :=
  if name = "securityDefinitions" then RespelledTable SecurityScheme.Respelled
  else if name = "paths" then RespelledTable PathItem.Respelled
  else Eq

/-- The root object, path items, operations and security schemes of a description may get or lose keys that are not
known, and have all their keys in another order. -/
def Respelled : Likeness := RespelledRecord fieldNames inside

theorem keeps_ofJson : Keeps Respelled ofJson := by
  refine keeps_record _ (fun fields others api alike built => ?_) ⟨_, rfl⟩
  rw [ofFields_eq_ok_iff] at built ⊢
  refine built.congr (fun name known other => ?_) ?_ ?_ ?_
  · have leaf : inside name = Eq := by
      simp only [List.mem_cons, not_or] at other
      rw [inside, if_neg other.2.1, if_neg other.2.2.1]
    exact alike.get?_eq known leaf
  · exact (field_congr (alike.get?_eq (by decide) rfl) ..).trans built.security
  · refine alike.field (by decide) ?_ built.securityDefinitions
    exact SecurityScheme.keeps_ofJson.table.optional RespelledTable.eq_null_iff
  · refine alike.field (by decide) ?_ built.paths
    exact PathItem.keeps_ofJson.table

/-- A description that is accepted is accepted in every other spelling, and loads as the same; so it compiles to the same
routes. -/
theorem ofValue_of_respelled {v w : Json} {api : Description} (respelled : Respelled v w) (ok : ofValue v = .ok api) :
    ofValue w = .ok api ∧ ∀ c : Compiler, (ofValue w).map c.compile = (ofValue v).map c.compile := by
  have same : ofValue w = .ok api :=
    mapError_eq_ok_iff.2 (keeps_ofJson v w api respelled (mapError_eq_ok_iff.1 ok))
  exact ⟨same, fun c => by rw [same, ok]⟩

/-- At every level a key is added, and all keys are turned around. -/
theorem ofValue_of_respelled_pets :
    let scheme : List (String × Json) := [("type", .string "apiKey"), ("name", .string "key")]
    let get : List (String × Json) := [("operationId", .string "list"), ("summary", .null)]
    let item (get : List (String × Json)) : List (String × Json) := [("get", .object get), ("parameters", .array [])]
    let root (scheme item : List (String × Json)) : List (String × Json) :=
      [("securityDefinitions", .object [("key", .object scheme)]), ("paths", .object [("/pets", .object item)])]
    let v : Json := .object (root scheme (item get))
    let w : Json := .object (("info", .object []) :: (root (("x-note", .null) :: scheme).reverse
      (("trace", .object []) :: item (("x-owner", .string "pets") :: get).reverse).reverse).reverse)
    Respelled v w ∧ ∃ api, ofValue v = .ok api ∧ ofValue w = .ok api := by
  intro scheme get item root v w
  have schemes : SecurityScheme.Respelled (.object scheme) (.object (("x-note", .null) :: scheme).reverse) := by
    refine .entries (.object (fieldsRespelled_of_perm (by decide) (List.reverse_perm _).symm ?_))
    exact .cons ⟨rfl, rfl⟩ (.cons ⟨rfl, rfl⟩ .nil)
  have gets : Operation.Respelled (.object get) (.object (("x-owner", .string "pets") :: get).reverse) := by
    refine .entries (.object (fieldsRespelled_of_perm (by decide) (List.reverse_perm _).symm ?_))
    exact .cons ⟨rfl, rfl⟩ (.cons ⟨rfl, rfl⟩ .nil)
  have items : PathItem.Respelled (.object (item get))
      (.object (("trace", .object []) :: item (("x-owner", .string "pets") :: get).reverse).reverse) := by
    refine .entries (.object (fieldsRespelled_of_perm (by decide) (List.reverse_perm _).symm ?_))
    exact .cons ⟨rfl, rfl⟩ (.cons ⟨rfl, gets⟩ .nil)
  have respelled : Respelled v w := by
    refine .entries (.object (fieldsRespelled_of_perm (by decide) (List.reverse_perm _).symm ?_))
    exact .cons ⟨rfl, .entries (.cons ⟨rfl, items⟩ .nil)⟩ (.cons ⟨rfl, .entries (.cons ⟨rfl, schemes⟩ .nil)⟩ .nil)
  have ok : ofValue v = .ok _ := rfl
  exact ⟨respelled, _, ok, (ofValue_of_respelled respelled ok).1⟩

end Description

end RouteTable
