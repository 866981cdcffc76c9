import RouteTable.Proofs.Merge
import RouteTable.Proofs.SameTable

/-!
# What a merge of parameters holds

A merge is a map from locations and names to parameters (`Parameter.keyed_merge`).  So its keys stand where they occur
first, and the last parameter of the operation that has a key goes before all others (`Parameter.find?_merge`).  A label
is read in one way only (`Parameter.splitOnce?_label`), so it tells merged parameters apart as their keys do.
-/

namespace RouteTable

theorem eraseDups_concat {κ : Type} [BEq κ] [LawfulBEq κ] (l : List κ) (k : κ) :
    (l ++ [k]).eraseDups = if k ∈ l then l.eraseDups else l.eraseDups ++ [k] := by
  rw [List.eraseDups_append]
  by_cases h : k ∈ l
  · simp [List.removeAll, h]
  · simp [List.removeAll, h, List.eraseDups_cons]

/-- What occurs in a list for the first time occurs so still when the list stands before it again. -/
theorem eraseDups_append_eraseDups {κ : Type} [BEq κ] [LawfulBEq κ] (l m : List κ) :
    (l ++ (l ++ m).eraseDups).eraseDups = (l ++ m).eraseDups := by
  induction m using List.reverseRecOn with
  | nil =>
    have nothing : l.eraseDups.removeAll l = [] := by simp [List.removeAll]
    rw [List.append_nil, List.eraseDups_append, nothing, List.eraseDups_nil, List.append_nil]
  | append_singleton m k ih =>
    rw [← List.append_assoc, eraseDups_concat]
    by_cases h : k ∈ l ++ m
    · rw [if_pos h, ih]
    · have fresh : k ∉ l ++ (l ++ m).eraseDups := by simpa using h
      rw [if_neg h, ← List.append_assoc, eraseDups_concat, if_neg fresh, ih]

namespace OrderedMap

variable {κ α : Type} [DecidableEq κ]

theorem ofEntries_append (entries later : List (κ × α)) :
    ofEntries (entries ++ later) = (ofEntries entries).putAll later := by
  simp only [ofEntries, putAll, List.foldl_append]

/-- A map is told by its keys in their order and by the value of each. -/
theorem eq_of_get?_eq {m n : OrderedMap κ α} (distinct : m.keys.Nodup) (same : m.keys = n.keys)
    (found : ∀ key, m.get? key = n.get? key) : m = n := by
  induction m generalizing n with
  | nil => exact (List.map_eq_nil_iff.1 same.symm).symm
  | cons e rest ih =>
    cases n with
    | nil => cases same
    | cons f others =>
      obtain ⟨k, v⟩ := e
      obtain ⟨l, w⟩ := f
      obtain ⟨rfl, sameRest⟩ : k = l ∧ keys rest = keys others := List.cons.inj same
      obtain ⟨fresh, distinctRest⟩ : k ∉ keys rest ∧ (keys rest).Nodup := List.nodup_cons.1 distinct
      have first : v = w := by simpa [get?] using found k
      rw [first, ih distinctRest sameRest fun key => ?_]
      by_cases hk : k = key
      · -- the key of the first entry stands nowhere else
        subst hk
        rw [get?_eq_none_iff.2 fresh, get?_eq_none_iff.2 (sameRest ▸ fresh)]
      · simpa [get?, hk] using found key

/-- Entries that went into a map may go into it once more, before all it holds. -/
theorem ofEntries_append_ofEntries (entries later : List (κ × α)) :
    ofEntries (entries ++ ofEntries (entries ++ later)) = ofEntries (entries ++ later) := by
  refine eq_of_get?_eq (nodup_keys_ofEntries _) ?_ fun key => ?_
  · have listed : (ofEntries (entries ++ later)).map (·.1) = (entries.map (·.1) ++ later.map (·.1)).eraseDups := by
      rw [← List.map_append]
      exact keys_ofEntries _
    rw [keys_ofEntries, List.map_append, listed, eraseDups_append_eraseDups, ← listed, keys]
  · rw [ofEntries_append, get?_putAll_of_nodup _ (nodup_keys_ofEntries _), ofEntries_append, get?_putAll, Option.or_assoc,
      Option.or_self]

end OrderedMap

/-- Before a separator that stands in no text before it, the text is read back. -/
theorem Text.splitOnce?_append {sep : Char} {before : String} (h : sep ∉ before.toList) (after : String) :
    splitOnce? sep (before ++ String.singleton sep ++ after) = some (before, after) := by
  have text : (before ++ String.singleton sep ++ after).toList = before.toList ++ sep :: after.toList := by simp
  have others : ∀ c ∈ before.toList, decide (c ≠ sep) = true := by
    intro c hc
    have : c ≠ sep := fun hs => h (hs ▸ hc)
    simpa using this
  rw [splitOnce?, text, List.dropWhile_append_of_pos others, List.takeWhile_append_of_pos others]
  simp

theorem ParameterLocation.eq_of_name_eq {l m : ParameterLocation} (h : l.name = m.name) : l = m := by
  cases l <;> cases m <;> simp_all [name]

namespace Parameter

/-- A label is a location and a name, whatever the name is. -/
theorem splitOnce?_label (p : Parameter) : Text.splitOnce? ':' p.label = some (p.location.name, p.name) := by
  refine Text.splitOnce?_append ?_ p.name
  cases p.location <;> decide

theorem key_eq_of_label_eq {p q : Parameter} (h : p.label = q.label) : p.key = q.key := by
  have read := splitOnce?_label p
  rw [h, splitOnce?_label q, Option.some.injEq, Prod.mk.injEq] at read
  rw [key, key, ParameterLocation.eq_of_name_eq read.1, read.2]

/-- Parameters under their keys. -/
def keyed (ps : List Parameter) : OrderedMap (ParameterLocation × String) Parameter := ps.map fun p => (p.key, p)

theorem map_snd_keyed (ps : List Parameter) : (keyed ps).map (·.2) = ps := by
  rw [keyed, List.map_map]
  exact List.map_id ps

theorem keys_keyed (ps : List Parameter) : OrderedMap.keys (keyed ps) = ps.map key := by
  rw [OrderedMap.keys, keyed, List.map_map]
  rfl

theorem keyed_cons (p : Parameter) (ps : List Parameter) : keyed (p :: ps) = (p.key, p) :: keyed ps := rfl

theorem keyed_append (ps qs : List Parameter) : keyed (ps ++ qs) = keyed ps ++ keyed qs := List.map_append

theorem keyed_insert (merged : List Parameter) (p : Parameter) :
    keyed (insert merged p) = OrderedMap.put (keyed merged) p.key p := by
  induction merged with
  | nil => rfl
  | cons q rest ih =>
    rw [insert, keyed_cons, OrderedMap.put]
    by_cases hq : q.key = p.key
    · rw [if_pos hq, if_pos hq, keyed_cons, hq]
    · rw [if_neg hq, if_neg hq, keyed_cons, ih]

theorem get?_keyed (ps : List Parameter) (k : ParameterLocation × String) :
    OrderedMap.get? (keyed ps) k = ps.find? (·.key = k) := by
  induction ps with
  | nil => rfl
  | cons p rest ih =>
    rw [keyed_cons, OrderedMap.get?, List.find?_cons]
    by_cases hk : p.key = k
    · simp [hk]
    · simpa [hk] using ih

/-- A merge is the map that the parameters make, put into it one after the other. -/
theorem keyed_merge (pathLevel operationLevel : List Parameter) :
    keyed (merge pathLevel operationLevel) = OrderedMap.ofEntries (keyed (pathLevel ++ operationLevel)) := by
  rw [merge]
  generalize pathLevel ++ operationLevel = ps
  induction ps using List.reverseRecOn with
  | nil => rfl
  | append_singleton ps p ih =>
    have last : keyed (ps ++ [p]) = keyed ps ++ [(p.key, p)] := keyed_append ps [p]
    rw [List.foldl_append, List.foldl_cons, List.foldl_nil, keyed_insert, ih, last, OrderedMap.ofEntries_concat]

/-- Every key stands where it occurs first. -/
theorem map_key_merge (pathLevel operationLevel : List Parameter) :
    (merge pathLevel operationLevel).map key = ((pathLevel ++ operationLevel).map key).eraseDups := by
  have keys := OrderedMap.keys_ofEntries (keyed (pathLevel ++ operationLevel))
  have listed : (keyed (pathLevel ++ operationLevel)).map (·.1) = (pathLevel ++ operationLevel).map key := keys_keyed _
  -- keys are compared as pairs here, and by deciding their equality in maps
  have compared : (instBEqProd : BEq (ParameterLocation × String)) = instBEqOfDecidableEq :=
    lawful_beq_subsingleton ..
  rw [← keyed_merge, keys_keyed, listed] at keys
  rw [keys, compared]

/-- Under a key stands the last parameter of the operation that has it, and without one the last of the path. -/
theorem find?_merge (pathLevel operationLevel : List Parameter) (k : ParameterLocation × String) :
    (merge pathLevel operationLevel).find? (·.key = k) =
      (operationLevel.reverse.find? (·.key = k)).or (pathLevel.reverse.find? (·.key = k)) := by
  have last : ∀ ps : List Parameter, (keyed ps).reverse.findSome? (fun e => if e.1 = k then some e.2 else none) =
      ps.reverse.find? (·.key = k) := by
    intro ps
    rw [keyed, ← List.map_reverse, List.findSome?_map, ← List.findSome?_guard]
    congr 1
    funext p
    simp [Option.guard]
  rw [← get?_keyed, keyed_merge, OrderedMap.get?_ofEntries, last, List.reverse_append, List.find?_append]

/-- A merge that takes the place of the operation's parameters is merged to itself. -/
theorem merge_merge (pathLevel operationLevel : List Parameter) :
    merge pathLevel (merge pathLevel operationLevel) = merge pathLevel operationLevel := by
  rw [← map_snd_keyed (merge pathLevel (merge pathLevel operationLevel)), keyed_merge, keyed_append, keyed_merge,
    keyed_append, OrderedMap.ofEntries_append_ofEntries, ← keyed_append, ← keyed_merge, map_snd_keyed]

theorem nodup_labels {ps : List Parameter} (distinct : (ps.map key).Nodup) : (ps.map label).Nodup := by
  rw [List.Nodup, List.pairwise_map] at distinct ⊢
  exact distinct.imp fun apart same => apart (key_eq_of_label_eq same)

/-- A merge holds the keys of both levels, each once and where it occurs first.  Under a key stands the last parameter of
the operation that has it, and without one the last of the path.  Merged again, under the parameters of the path or under
none, a merge stays as it is.  Each merged parameter has one validator by schema, in order, and no two validators have
the same label. -/
theorem merge_by_key (pathLevel operationLevel : List Parameter) :
    let merged := merge pathLevel operationLevel
    (merged.map key).Nodup ∧
      merged.map key = ((pathLevel ++ operationLevel).map key).eraseDups ∧
      (∀ k, k ∈ merged.map key ↔ k ∈ pathLevel.map key ∨ k ∈ operationLevel.map key) ∧
      (∀ k, merged.find? (·.key = k) =
        (operationLevel.reverse.find? (·.key = k)).or (pathLevel.reverse.find? (·.key = k))) ∧
      merge pathLevel merged = merged ∧ merge [] merged = merged ∧
      ∀ engine outline, let validators := (Validation.bySchema engine merged outline).value
        validators.map Validator.parameter = merged ∧ (validators.map fun v => v.parameter.label).Nodup := by
  intro merged
  have distinct : (merged.map key).Nodup := nodup_keys_merge pathLevel operationLevel
  refine ⟨distinct, map_key_merge .., fun k => ?_, find?_merge _ _, merge_merge .., merge_nil_merge .., fun engine outline => ?_⟩
  · rw [map_key_merge, List.mem_eraseDups, List.map_append, List.mem_append]
  · have made := Validation.map_parameter_bySchema engine merged outline
    have labels := nodup_labels distinct
    refine ⟨made, ?_⟩
    rwa [← made, List.map_map] at labels

/-- A parameter of the operation takes the place of one of the path, and a colon in a name does not confuse labels. -/
example :
    let limit : Parameter := { name := "limit", location := .query }
    let id : Parameter := { name := "id", location := .path }
    let other : Parameter := { limit with required := true }
    let body : Parameter := { name := "query:limit", location := .body }
    (merge [limit, id] [other, body]).map (fun p => (p.label, p.required)) =
      [("query:limit", true), ("path:id", false), ("body:query:limit", false)] := by
  decide +kernel

end Parameter

end RouteTable
