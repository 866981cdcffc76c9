import Mathlib.Data.List.Nodup
import RouteTable.Parameter

/-!
# Merged parameters

A merge holds one parameter for each location and name (`Parameter.nodup_keys_merge`).  Parameters that differ in these
are appended as they are (`Parameter.foldl_insert_of_nodup`), so a merge is stable when it is merged again
(`Parameter.merge_nil_merge`).
-/

namespace RouteTable.Parameter

theorem insert_of_not_mem {merged : List Parameter} {p : Parameter} (h : p.key ∉ merged.map key) :
    insert merged p = merged ++ [p] := by
  induction merged with
  | nil => rfl
  | cons q rest ih =>
    rw [List.map_cons, List.mem_cons, not_or] at h
    rw [insert, if_neg (Ne.symm h.1), ih h.2]
    rfl

theorem map_key_insert_of_mem {merged : List Parameter} {p : Parameter} (h : p.key ∈ merged.map key) :
    (insert merged p).map key = merged.map key := by
  induction merged with
  | nil => cases h
  | cons q rest ih =>
    rw [insert]
    by_cases hq : q.key = p.key
    · rw [if_pos hq, List.map_cons, List.map_cons, hq]
    · have hr : p.key ∈ rest.map key := (List.mem_cons.1 h).resolve_left (Ne.symm hq)
      rw [if_neg hq, List.map_cons, List.map_cons, ih hr]

theorem nodup_keys_insert {merged : List Parameter} (h : (merged.map key).Nodup) (p : Parameter) :
    ((insert merged p).map key).Nodup := by
  by_cases hp : p.key ∈ merged.map key
  · rw [map_key_insert_of_mem hp]
    exact h
  · rw [insert_of_not_mem hp, List.map_append]
    refine List.nodup_append'.2 ⟨h, List.nodup_singleton _, ?_⟩
    exact List.disjoint_singleton.2 hp

theorem nodup_keys_merge (pathLevel operationLevel : List Parameter) :
    ((merge pathLevel operationLevel).map key).Nodup := by
  rw [merge]
  -- along the fold the keys of what is merged so far stay distinct
  suffices h : ∀ (ps merged : List Parameter), (merged.map key).Nodup → ((ps.foldl insert merged).map key).Nodup from
    h _ [] List.nodup_nil
  intro ps
  induction ps with
  | nil => exact fun _ h => h
  | cons p ps ih => exact fun merged h => ih _ (nodup_keys_insert h p)

theorem foldl_insert_of_nodup {ps merged : List Parameter} (h : ((merged ++ ps).map key).Nodup) :
    ps.foldl insert merged = merged ++ ps := by
  induction ps generalizing merged with
  | nil => exact (List.append_nil _).symm
  | cons p ps ih =>
    have split : merged ++ p :: ps = merged ++ [p] ++ ps := by simp
    -- the key of `p` stands before it nowhere, so `p` is appended
    have fresh : p.key ∉ merged.map key := by
      rw [List.map_append] at h
      exact fun hp => (List.nodup_append'.1 h).2.2 hp (List.mem_cons_self ..)
    rw [List.foldl_cons, insert_of_not_mem fresh, split]
    rw [split] at h
    exact ih h

/-- A merge is stable: merged again, it stays as it is. -/
theorem merge_nil_merge (pathLevel operationLevel : List Parameter) :
    merge [] (merge pathLevel operationLevel) = merge pathLevel operationLevel :=
  foldl_insert_of_nodup (nodup_keys_merge pathLevel operationLevel)

end RouteTable.Parameter
