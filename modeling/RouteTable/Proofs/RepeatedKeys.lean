import Mathlib.Data.Finset.Dedup
import Mathlib.Data.Finset.Card
import RouteTable.OrderedMap

/-!
# Entries with repeated keys

A map that is made of entries has their keys in the order of first occurrence (`OrderedMap.keys_ofEntries`), and under
each key the value of the last entry that has it (`OrderedMap.get?_ofEntries`).  It keeps all entries exactly when no two
of them have the same key (`OrderedMap.length_ofEntries_eq_iff`).
-/

namespace RouteTable

variable {κ α β : Type}

/-- What is found first from the end is found in an element with nothing to be found behind it. -/
theorem findSome?_reverse_eq_some_iff {f : α → Option β} {l : List α} {b : β} :
    l.reverse.findSome? f = some b ↔
      ∃ before a after, l = before ++ a :: after ∧ f a = some b ∧ ∀ x ∈ after, f x = none := by
  rw [List.findSome?_eq_some_iff]
  constructor
  · rintro ⟨after, a, before, split, found, others⟩
    refine ⟨before.reverse, a, after.reverse, ?_, found, fun x hx => others x (List.mem_reverse.1 hx)⟩
    rw [← List.reverse_reverse l, split]
    simp
  · rintro ⟨before, a, after, rfl, found, others⟩
    exact ⟨after.reverse, a, before.reverse, by simp, found, fun x hx => others x (List.mem_reverse.1 hx)⟩

namespace OrderedMap

variable [DecidableEq κ]

theorem keys_put (m : OrderedMap κ α) (key : κ) (value : α) :
    (m.put key value).keys = if key ∈ m.keys then m.keys else m.keys ++ [key] := by
  induction m with
  | nil => simp [put, keys]
  | cons e rest ih =>
    rw [put]
    by_cases hk : e.1 = key
    · simp [keys, hk]
    · rw [if_neg hk]
      simp only [keys, List.map_cons, List.mem_cons] at ih ⊢
      rw [ih]
      by_cases hr : key ∈ rest.map (·.1)
      · simp [hr]
      · simp [hr, Ne.symm hk]

theorem ofEntries_concat (entries : List (κ × α)) (e : κ × α) :
    ofEntries (entries ++ [e]) = (ofEntries entries).put e.1 e.2 := by
  simp only [ofEntries, putAll, List.foldl_append, List.foldl_cons, List.foldl_nil]

/-- Every key stands where it occurs first. -/
theorem keys_ofEntries (entries : List (κ × α)) : (ofEntries entries).keys = (entries.map (·.1)).eraseDups := by
  -- along the entries: the key of another entry is appended if it is new
  induction entries using List.reverseRecOn with
  | nil => rfl
  | append_singleton entries e ih =>
    have old : e.1 ∈ (ofEntries entries).keys ↔ e.1 ∈ entries.map (·.1) := by rw [ih, List.mem_eraseDups]
    rw [ofEntries_concat, keys_put, List.map_append, List.eraseDups_append, ← ih]
    by_cases h : e.1 ∈ entries.map (·.1)
    · rw [if_pos (old.2 h)]
      simp [List.removeAll, h]
    · rw [if_neg (mt old.1 h)]
      simp [List.removeAll, List.eraseDups_cons, h]

theorem nodup_keys_ofEntries (entries : List (κ × α)) : (ofEntries entries).keys.Nodup := by
  induction entries using List.reverseRecOn with
  | nil => exact List.nodup_nil
  | append_singleton entries e ih =>
    rw [ofEntries_concat]
    exact keys_put_nodup ih e.1 e.2

/-- Entries that are put into a map go before what it holds, and of two with one key the later one counts. -/
theorem get?_putAll (m : OrderedMap κ α) (entries : List (κ × α)) (key : κ) :
    (m.putAll entries).get? key =
      (entries.reverse.findSome? fun e => if e.1 = key then some e.2 else none).or (m.get? key) := by
  induction entries generalizing m with
  | nil => rfl
  | cons e rest ih =>
    have step : m.putAll (e :: rest) = (m.put e.1 e.2).putAll rest := rfl
    rw [step, ih, List.reverse_cons, List.findSome?_append, Option.or_assoc]
    congr 1
    by_cases hk : e.1 = key
    · rw [← hk, get?_put_self]
      simp
    · rw [get?_put_of_ne _ (Ne.symm hk)]
      simp [hk]

/-- The value of a key is that of the last entry with the key. -/
theorem get?_ofEntries (entries : List (κ × α)) (key : κ) :
    (ofEntries entries).get? key = entries.reverse.findSome? fun e => if e.1 = key then some e.2 else none := by
  rw [ofEntries, get?_putAll, get?, Option.or_none]

/-- Of the elements that are put under one key the last counts. -/
theorem get?_ofEntries_map (l : List β) (key : β → κ) (value : β → α) (k : κ) :
    (ofEntries (l.map fun e => (key e, value e))).get? k = ((l.filter fun e => key e = k).map value).getLast? := by
  induction l using List.reverseRecOn with
  | nil => rfl
  | append_singleton l e ih =>
    rw [List.map_append, List.map_singleton, ofEntries_concat, List.filter_append, List.map_append]
    by_cases named : key e = k
    · rw [named, get?_put_self]
      simp [named]
    · rw [get?_put_of_ne _ (Ne.symm named), ih]
      simp [named]

theorem put_of_not_mem {m : OrderedMap κ α} {key : κ} (fresh : key ∉ m.keys) (value : α) :
    m.put key value = m ++ [(key, value)] := by
  induction m with
  | nil => rfl
  | cons e rest ih =>
    rw [keys, List.map_cons, List.mem_cons, not_or] at fresh
    rw [put, if_neg (Ne.symm fresh.1), ih fresh.2]
    rfl

/-- Entries with distinct keys stay as they are. -/
theorem ofEntries_of_nodup {entries : OrderedMap κ α} (distinct : entries.keys.Nodup) : ofEntries entries = entries := by
  induction entries using List.reverseRecOn with
  | nil => rfl
  | append_singleton entries e ih =>
    rw [keys, List.map_append, List.nodup_append'] at distinct
    have fresh : e.1 ∉ keys entries := fun mem => distinct.2.2 mem (List.mem_singleton_self _)
    rw [ofEntries_concat, ih distinct.1, put_of_not_mem fresh]

theorem mem_of_mem_ofEntries {entries : List (κ × α)} {e : κ × α} (h : e ∈ ofEntries entries) : e ∈ entries := by
  have found := get?_eq_some_of_mem (nodup_keys_ofEntries entries) h
  rw [get?_ofEntries] at found
  obtain ⟨other, mem, last⟩ := List.exists_of_findSome?_eq_some found
  split at last
  · next same =>
    obtain rfl : other = e := Prod.ext same (Option.some.inj last)
    exact List.mem_reverse.1 mem
  · cases last

/-- Entries with distinct keys are found as in a map of their own. -/
theorem get?_putAll_of_nodup (m : OrderedMap κ α) {entries : OrderedMap κ α} (distinct : entries.keys.Nodup) (key : κ) :
    (m.putAll entries).get? key = (entries.get? key).or (m.get? key) := by
  induction entries generalizing m with
  | nil => rfl
  | cons e rest ih =>
    have step : m.putAll (e :: rest) = (m.put e.1 e.2).putAll rest := rfl
    rw [keys, List.map_cons, List.nodup_cons] at distinct
    rw [step, ih _ distinct.2, get?]
    by_cases hk : e.1 = key
    · -- no later entry has the key, so the one that is put is found
      rw [if_pos hk, ← hk, get?_put_self, get?_eq_none_iff.2 distinct.1, Option.none_or, Option.some_or]
    · rw [if_neg hk, get?_put_of_ne _ (Ne.symm hk)]

theorem length_ofEntries (entries : List (κ × α)) :
    (ofEntries entries).length = (entries.map (·.1)).toFinset.card := by
  have mem : ∀ key, key ∈ (ofEntries entries).keys ↔ key ∈ entries.map (·.1) := by
    intro key
    rw [keys_ofEntries, List.mem_eraseDups]
  calc (ofEntries entries).length = (ofEntries entries).keys.length := (List.length_map _).symm
    _ = (ofEntries entries).keys.toFinset.card := (List.toFinset_card_of_nodup (nodup_keys_ofEntries entries)).symm
    _ = (entries.map (·.1)).toFinset.card := congrArg Finset.card (List.toFinset.ext mem)

/-- A map has as many entries as it was made of exactly when no two of those have the same key. -/
theorem length_ofEntries_eq_iff (entries : List (κ × α)) :
    (ofEntries entries).length = entries.length ↔ (entries.map (·.1)).Nodup := by
  have listed : entries.length = (entries.map (·.1)).length := (List.length_map _).symm
  rw [length_ofEntries, listed]
  exact Multiset.toFinset_card_eq_card_iff_nodup

end OrderedMap

end RouteTable
