import RouteTable.Validation

/-!
# The schema that a parameter declares

The fields of the schema of a parameter outside the body are what the parameter declares, key by key
(`Parameter.get?_declaredFields`), except where flags move a bound or are dropped (`Parameter.get?_applyFlag`).  No key
is declared twice, so a key that is removed is gone, although the last entry then stands in its place.
-/

namespace RouteTable

namespace OrderedMap

variable {κ α : Type} [DecidableEq κ]

theorem get?_append (m n : OrderedMap κ α) (key : κ) : get? (m ++ n) key = (get? m key).or (get? n key) := by
  induction m with
  | nil => rfl
  | cons e rest ih =>
    rw [List.cons_append, get?, get?, ih]
    split <;> rfl

theorem get?_erase (m : OrderedMap κ α) (key k : κ) : get? (erase m key) k = if k = key then none else get? m k := by
  induction m with
  | nil => simp [erase, get?]
  | cons e rest ih =>
    rw [erase] at ih ⊢
    by_cases kept : e.1 = key
    · rw [List.filter_cons_of_neg (by simp [kept]), ih, get?, kept]
      split <;> simp_all [eq_comm]
    · rw [List.filter_cons_of_pos (by simp [kept]), get?, get?, ih]
      split <;> simp_all

theorem nodup_keys_erase {m : OrderedMap κ α} (distinct : m.keys.Nodup) (key : κ) : (erase m key).keys.Nodup :=
  distinct.sublist (List.filter_sublist.map _)

theorem erase_eq_self {m : OrderedMap κ α} {key : κ} (absent : key ∉ m.keys) : erase m key = m := by
  rw [erase, List.filter_eq_self]
  intro e mem
  have other : e.1 ≠ key := fun same => absent (same ▸ List.mem_map_of_mem mem)
  simpa using other

/-- A removal may move an entry, but it keeps all others. -/
theorem swapRemove_perm {m : OrderedMap κ α} (distinct : m.keys.Nodup) (key : κ) :
    (swapRemove m key).Perm (erase m key) := by
  induction m with
  | nil => exact .nil
  | cons e rest ih =>
    obtain ⟨absent, inside⟩ := List.nodup_cons.1 distinct
    by_cases removed : e.1 = key
    · rw [swapRemove, if_pos removed, erase, List.filter_cons_of_neg (by simp [removed]), ← erase,
        erase_eq_self (removed ▸ absent)]
      rcases List.eq_nil_or_concat rest with rfl | ⟨before, last, rfl⟩
      · exact .nil
      · simpa using @List.perm_append_comm _ [last] before
    · rw [swapRemove, if_neg removed, erase, List.filter_cons_of_pos (by simpa using removed), ← erase]
      exact (ih inside).cons _

theorem nodup_keys_swapRemove {m : OrderedMap κ α} (distinct : m.keys.Nodup) (key : κ) :
    (swapRemove m key).keys.Nodup :=
  ((swapRemove_perm distinct key).map Prod.fst).nodup_iff.2 (nodup_keys_erase distinct key)

theorem get?_swapRemove {m : OrderedMap κ α} (distinct : m.keys.Nodup) (key k : κ) :
    get? (swapRemove m key) k = if k = key then none else get? m k := by
  rw [get?_eq_of_perm (nodup_keys_erase distinct key) (swapRemove_perm distinct key), get?_erase]

theorem get?_put (m : OrderedMap κ α) (key k : κ) (value : α) :
    get? (put m key value) k = if k = key then some value else get? m k := by
  split
  · next same => rw [same, get?_put_self]
  · next other => exact get?_put_of_ne value other

end OrderedMap

namespace Parameter

theorem get?_entry (key k : String) (value : Option Json) :
    OrderedMap.get? (entry key value) k = if k = key then value else none := by
  cases value with
  | none => simp [entry, OrderedMap.get?]
  | some v => simp [entry, OrderedMap.get?, eq_comm]

theorem get?_flatMap_entry (keys : List String) (find : String → Option Json) (k : String) :
    OrderedMap.get? (keys.flatMap fun key => entry key (find key)) k = if k ∈ keys then find k else none := by
  induction keys with
  | nil => rfl
  | cons key keys ih =>
    rw [List.flatMap_cons, OrderedMap.get?_append, get?_entry, ih]
    by_cases first : k = key
    · subst first
      by_cases again : k ∈ keys <;> simp [again]
    · simp [first]

theorem keys_flatMap_entry (keys : List String) (find : String → Option Json) :
    OrderedMap.keys (keys.flatMap fun key => entry key (find key)) = keys.filter fun key => (find key).isSome := by
  rw [OrderedMap.keys, List.map_flatMap]
  induction keys with
  | nil => rfl
  | cons key keys ih =>
    rw [List.flatMap_cons, ih]
    cases h : find key <;> simp [entry, h]

theorem nodup_keys_applyFlag {fields : OrderedMap String Json} (distinct : fields.keys.Nodup) (flag bound : String) :
    (applyFlag flag bound fields).keys.Nodup := by
  rw [applyFlag]
  split
  · split
    · exact OrderedMap.keys_put_nodup (OrderedMap.nodup_keys_swapRemove distinct _) _ _
    · exact OrderedMap.nodup_keys_swapRemove distinct _
  · exact OrderedMap.nodup_keys_swapRemove distinct _
  · exact distinct

/-- A flag that is set takes the place of its bound, which is dropped, and a flag that is not set is dropped. -/
theorem get?_applyFlag {flag bound : String} {fields : OrderedMap String Json} {state : Option Bool}
    (distinct : fields.keys.Nodup) (declared : OrderedMap.get? fields flag = state.map .bool) (k : String) :
    OrderedMap.get? (applyFlag flag bound fields) k =
      if k = flag then if state = some true then OrderedMap.get? fields bound else none
      else if k = bound ∧ state = some true then none
      else OrderedMap.get? fields k := by
  have removed := OrderedMap.get?_swapRemove distinct
  rw [applyFlag, declared]
  cases state with
  | none =>
    by_cases same : k = flag
    · simp [same, declared]
    · simp [same]
  | some b =>
    cases b with
    | false => simp [removed]
    | true =>
      cases found : OrderedMap.get? fields bound with
      | some limit => simp [OrderedMap.get?_put, removed]
      | none =>
        by_cases same : k = bound
        · simp [removed, same, found]
        · simp [removed, same]

/-- The fields that a parameter declares, before flags are applied. -/
def declaredFields (p : Parameter) : OrderedMap String Json :=
  entry "type" (p.kind.map .string) ++ entry "items" p.items ++ entry "enum" (p.allowed.map .array)
    ++ schemaKeywords.flatMap fun key => entry key (OrderedMap.get? p.constraints key)

theorem schemaFields_eq (p : Parameter) :
    p.schemaFields = applyFlag "exclusiveMinimum" "minimum" (applyFlag "exclusiveMaximum" "maximum" p.declaredFields) :=
  rfl

/-- The keys that a schema may take over from a parameter. -/
def takenKeys : List String := "type" :: "items" :: "enum" :: schemaKeywords

theorem nodup_keys_declaredFields (p : Parameter) : (OrderedMap.keys p.declaredFields).Nodup := by
  have one : ∀ key value, (OrderedMap.keys (entry key value)).Sublist [key] := by
    intro key value
    cases value <;> simp [entry, OrderedMap.keys]
  have taken : (OrderedMap.keys p.declaredFields).Sublist takenKeys := by
    simp only [declaredFields, OrderedMap.keys, List.map_append]
    refine (((one _ _).append (one _ _)).append (one _ _)).append ?_
    rw [← OrderedMap.keys, keys_flatMap_entry]
    exact List.filter_sublist
  exact (by decide : takenKeys.Nodup).sublist taken

theorem nodup_keys_schemaFields (p : Parameter) : (OrderedMap.keys p.schemaFields).Nodup := by
  rw [schemaFields_eq]
  exact nodup_keys_applyFlag (nodup_keys_applyFlag p.nodup_keys_declaredFields _ _) _ _

theorem get?_declaredFields (p : Parameter) (k : String) :
    OrderedMap.get? p.declaredFields k =
      if k = "type" then p.kind.map .string
      else if k = "items" then p.items
      else if k = "enum" then p.allowed.map .array
      else if k ∈ schemaKeywords then OrderedMap.get? p.constraints k
      else none := by
  have noConstraint : "type" ∉ schemaKeywords ∧ "items" ∉ schemaKeywords ∧ "enum" ∉ schemaKeywords := by decide
  simp only [declaredFields, OrderedMap.get?_append, get?_entry, get?_flatMap_entry]
  by_cases isType : k = "type"
  · subst isType
    simp [noConstraint]
  · by_cases isItems : k = "items"
    · subst isItems
      simp [noConstraint]
    · by_cases isEnum : k = "enum"
      · subst isEnum
        simp [noConstraint]
      · simp [isType, isItems, isEnum]

theorem get?_declaredFields_of_mem (p : Parameter) {k : String} (mem : k ∈ schemaKeywords) :
    OrderedMap.get? p.declaredFields k = OrderedMap.get? p.constraints k := by
  have others : k ≠ "type" ∧ k ≠ "items" ∧ k ≠ "enum" := by
    revert k
    decide
  rw [get?_declaredFields, if_neg others.1, if_neg others.2.1, if_neg others.2.2, if_pos mem]

end Parameter

end RouteTable
