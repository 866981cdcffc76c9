/-!
# Maps that remember the order of their keys

An `OrderedMap` is a list of pairs.  `put` keeps the position of a key that is already there and replaces its value,
else it appends.  The key facts: a key put is found (`get?_put_self`), other keys are unaffected (`get?_put_of_ne`),
and distinct keys stay distinct (`keys_put_nodup`).
-/

namespace RouteTable

abbrev OrderedMap (κ α : Type) := List (κ × α)

namespace OrderedMap

variable {κ α β : Type} [DecidableEq κ]

def get? : OrderedMap κ α → κ → Option α
  | [], _ => none
  | (k, v) :: rest, key => if k = key then some v else get? rest key

def put : OrderedMap κ α → κ → α → OrderedMap κ α
  | [], key, value => [(key, value)]
  | (k, v) :: rest, key, value => if k = key then (k, value) :: rest else (k, v) :: put rest key value

def keys (m : OrderedMap κ α) : List κ := m.map (·.1)

def values (m : OrderedMap κ α) : List α := m.map (·.2)

def mapValues (f : α → β) (m : OrderedMap κ α) : OrderedMap κ β := m.map fun (k, v) => (k, f v)

/-- Puts entries in order, so the last value of a repeated key stands at the key's first position. -/
def putAll (m : OrderedMap κ α) (entries : List (κ × α)) : OrderedMap κ α :=
  entries.foldl (fun m e => m.put e.1 e.2) m

def ofEntries (entries : List (κ × α)) : OrderedMap κ α := putAll [] entries

def erase (m : OrderedMap κ α) (key : κ) : OrderedMap κ α := m.filter (fun e => e.1 ≠ key)

/-- Removes a key; the last entry takes its place. -/
def swapRemove : OrderedMap κ α → κ → OrderedMap κ α
  | [], _ => []
  | (k, v) :: rest, key =>
    if k = key then rest.getLast?.toList ++ rest.dropLast else (k, v) :: swapRemove rest key

/-- Equality that ignores the order of the keys. -/
def sameUpToOrder (same : α → α → Bool) (m n : OrderedMap κ α) : Bool :=
  m.length == n.length && m.all fun (k, v) => match get? n k with
    | some w => same v w
    | none => false

theorem get?_put_self (m : OrderedMap κ α) (key : κ) (value : α) : (m.put key value).get? key = some value := by
  induction m with
  | nil => simp [put, get?]
  | cons e rest ih =>
    unfold put
    split <;> simp_all [get?]

theorem get?_put_of_ne {m : OrderedMap κ α} {key other : κ} (value : α) (h : other ≠ key) :
    (m.put key value).get? other = m.get? other := by
  induction m with
  | nil => simp [put, get?, h.symm]
  | cons e rest ih =>
    unfold put
    split
    · next hk => simp [get?, hk, h.symm]
    · simp [get?, ih]

theorem isSome_get?_iff {m : OrderedMap κ α} {key : κ} : (m.get? key).isSome ↔ key ∈ m.keys := by
  induction m with
  | nil => simp [get?, keys]
  | cons e rest ih =>
    unfold get?
    split
    · next hk => simp [keys, hk]
    · next hk =>
      rw [ih]
      simp [keys, Ne.symm hk]

theorem get?_eq_none_iff {m : OrderedMap κ α} {key : κ} : m.get? key = none ↔ key ∉ m.keys := by
  rw [← isSome_get?_iff, Option.not_isSome_iff_eq_none]

theorem mem_of_get?_eq_some {m : OrderedMap κ α} {key : κ} {value : α} (h : m.get? key = some value) :
    (key, value) ∈ m := by
  induction m with
  | nil => cases h
  | cons e rest ih =>
    unfold get? at h
    split at h
    · next hk =>
      obtain rfl := Option.some.inj h
      exact hk ▸ List.mem_cons_self
    · exact List.mem_cons_of_mem _ (ih h)

theorem get?_eq_some_of_mem {m : OrderedMap κ α} (distinct : m.keys.Nodup) {key : κ} {value : α}
    (h : (key, value) ∈ m) : m.get? key = some value := by
  induction m with
  | nil => cases h
  | cons e rest ih =>
    simp only [keys, List.map_cons, List.nodup_cons] at distinct
    rcases List.mem_cons.1 h with rfl | h
    · exact if_pos rfl
    · -- the key stands further down, so the first entry has another one
      have hk : e.1 ≠ key := fun hk => distinct.1 (hk ▸ List.mem_map_of_mem h)
      rw [get?, if_neg hk]
      exact ih distinct.2 h

theorem get?_map_entries (f : κ → α → β) (m : OrderedMap κ α) (key : κ) :
    OrderedMap.get? (m.map fun e => (e.1, f e.1 e.2)) key = (m.get? key).map (f key) := by
  induction m with
  | nil => rfl
  | cons e rest ih =>
    rw [List.map_cons, get?, get?, ih]
    split
    · next hk => rw [hk, Option.map_some]
    · rfl

/-- The order of entries with distinct keys does not count. -/
theorem get?_eq_of_perm {m n : OrderedMap κ α} (distinct : n.keys.Nodup) (h : m.Perm n) (key : κ) :
    m.get? key = n.get? key := by
  have distinctM : m.keys.Nodup := (h.map Prod.fst).nodup_iff.2 distinct
  cases found : n.get? key with
  | none =>
    rw [get?_eq_none_iff] at found ⊢
    exact fun mem => found ((h.map Prod.fst).mem_iff.1 mem)
  | some value => exact get?_eq_some_of_mem distinctM (h.mem_iff.2 (mem_of_get?_eq_some found))

theorem mem_keys_put {m : OrderedMap κ α} {key k : κ} {value : α} :
    k ∈ (m.put key value).keys ↔ k ∈ m.keys ∨ k = key := by
  induction m with
  | nil => simp [put, keys]
  | cons e rest ih =>
    unfold put
    split
    · next hk =>
      simp only [keys, List.map_cons, List.mem_cons]
      exact ⟨Or.inl, fun h => h.elim id (fun h => Or.inl (h.trans hk.symm))⟩
    · simp only [keys, List.map_cons, List.mem_cons] at ih ⊢
      rw [ih, or_assoc]

theorem keys_put_nodup {m : OrderedMap κ α} (h : m.keys.Nodup) (key : κ) (value : α) :
    (m.put key value).keys.Nodup := by
  induction m with
  | nil => simp [put, keys]
  | cons e rest ih =>
    unfold put
    split
    · simpa [keys] using h
    · next hk =>
      simp only [keys, List.map_cons, List.nodup_cons] at h ⊢
      refine ⟨fun hm => ?_, ih h.2⟩
      rcases mem_keys_put.1 hm with hm | hm
      · exact h.1 hm
      · exact hk hm

end OrderedMap

end RouteTable
