import RouteTable.Description.Loading
import RouteTable.Proofs.SameTable

/-!
# Descriptions read from proper values

What a decoder makes of proper values is described by `Decode.Yields`, one lemma for each combinator.  Every part of a
description then inherits that it is proper, up to the description itself (`Description.proper_of_ofJson`).
-/

namespace RouteTable

variable {α : Type}

theorem OrderedMap.keys_eq_of_forall₂ {κ α β : Type} {R : κ × α → κ × β → Prop} {m : OrderedMap κ α}
    {n : OrderedMap κ β} (h : List.Forall₂ R m n) (same : ∀ e f, R e f → f.1 = e.1) : n.keys = m.keys := by
  induction h with
  | nil => rfl
  | cons head _ ih =>
    rw [keys, keys, List.map_cons, List.map_cons, same _ _ head]
    exact congrArg _ ih

namespace Json

theorem properItems_iff {items : List Json} : ProperItems items ↔ ∀ v ∈ items, v.Proper := by
  induction items with
  | nil => simp [ProperItems]
  | cons v vs ih => simp [ProperItems, ih]

theorem properFields_iff {fields : List (String × Json)} : ProperFields fields ↔ ∀ e ∈ fields, e.2.Proper := by
  induction fields with
  | nil => simp [ProperFields]
  | cons e rest ih => simp [ProperFields, ih]

/-- The values that stand directly inside a value. -/
def parts : Json → List Json
  | array items => items
  | object fields => fields.map (·.2)
  | _ => []

theorem Proper.of_mem_parts {v w : Json} (proper : v.Proper) (h : w ∈ v.parts) : w.Proper := by
  cases v with
  | array items => exact properItems_iff.1 proper w h
  | object fields =>
    obtain ⟨e, he, rfl⟩ := List.mem_map.1 h
    exact properFields_iff.1 proper.2 e he
  | _ => cases h

end Json

namespace Decode

/-- What is read from proper values has a property. -/
def Yields (P : α → Prop) (decode : Decoder α) : Prop := ∀ v a, v.Proper → decode v = .ok a → P a

variable {P : α → Prop} {decode : Decoder α}

theorem yields_any : Yields Json.Proper any := by
  intro v a proper ok
  cases ok
  exact proper

theorem Yields.optional (h : Yields P decode) : Yields (fun o => ∀ a ∈ o, P a) (optional decode) := by
  intro v o proper ok a ha
  cases v with
  | null =>
    cases ok
    cases ha
  | _ =>
    obtain ⟨b, read, rfl⟩ := map_eq_ok_iff.1 ok
    cases ha
    exact h _ _ proper read

theorem Yields.list (h : Yields P decode) : Yields (fun l => ∀ a ∈ l, P a) (list decode) := by
  intro v l proper ok
  cases v with
  | array items =>
    have items' := Json.properItems_iff.1 proper
    intro a ha
    obtain ⟨item, mem, read⟩ := exists_of_forall₂ (mapM_eq_ok_iff.1 ok) a ha
    exact h _ _ (items' item mem) read
  | _ => cases ok

theorem Yields.table (h : Yields P decode) : Yields (fun m => ∀ e ∈ m, P e.2) (table decode) := by
  intro v m proper ok
  cases v with
  | object fields =>
    have fields' := Json.properFields_iff.1 proper.2
    intro e he
    obtain ⟨field, mem, readEntry⟩ := exists_of_forall₂ (mapM_eq_ok_iff.1 ok) e he
    obtain ⟨a, read, rfl⟩ := map_eq_ok_iff.1 readEntry
    exact h _ _ (fields' field mem) read
  | _ => cases ok

/-- A field that is missing is the default. -/
theorem Yields.field (h : Yields P decode) {fields : List (String × Json)} (proper : ∀ e ∈ fields, e.2.Proper)
    {name : String} {default a : α} (ok : field fields name decode default = .ok a) (missing : P default) : P a := by
  rw [Decode.field] at ok
  cases found : OrderedMap.get? fields name with
  | none =>
    rw [found] at ok
    cases ok
    exact missing
  | some v =>
    rw [found] at ok
    exact h _ _ (proper _ (OrderedMap.mem_of_get?_eq_some found)) ok

theorem build_of_inDocumentOrder {build : List (String × Json) → Except DecodeError α}
    {fields : List (String × Json)} {a : α} (ok : inDocumentOrder build fields = .ok a) : build fields = .ok a := by
  rw [inDocumentOrder] at ok
  split at ok
  · cases ok
  · exact ok

/-- A record is built from values that stand directly inside the value it is read from. -/
theorem exists_build_of_record {build : List (String × Json) → Except DecodeError α} {name : String}
    {names : List String} {v : Json} {a : α} (ok : record name names build v = .ok a) :
    ∃ fields, (∀ e ∈ fields, e.2 ∈ v.parts) ∧ build fields = .ok a := by
  cases v with
  | object fields => exact ⟨fields, fun e he => List.mem_map_of_mem he, build_of_inDocumentOrder ok⟩
  | array items =>
    obtain ⟨b, built, ok⟩ := bind_eq_ok_iff.1 ok
    have same : b = a := by
      split at ok
      · cases ok
      · exact Except.ok.inj ok
    exact ⟨_, fun e he => (List.of_mem_zip he).2, same ▸ build_of_inDocumentOrder built⟩
  | _ => cases ok

/-- A record is built from proper values under the names of its fields. -/
theorem yields_record {build : List (String × Json) → Except DecodeError α} {name : String} {names : List String}
    (h : ∀ fields a, (∀ e ∈ fields, e.2.Proper) → build fields = .ok a → P a) :
    Yields P (record name names build) := by
  intro v a proper ok
  obtain ⟨fields, inside, built⟩ := exists_build_of_record ok
  exact h _ _ (fun e he => proper.of_mem_parts (inside e he)) built

end Decode

open Decode

theorem Parameter.yields_ofJson : Yields Parameter.Proper Parameter.ofJson := by
  intro v p proper ok
  cases v with
  | object fields =>
    rw [Parameter.ofJson] at ok
    obtain ⟨d, drafted, ok⟩ := bind_eq_ok_iff.1 ok
    have values := Json.properFields_iff.1 proper.2
    obtain ⟨name, location, rfl⟩ : ∃ name location, p = d.rest name location := by
      split at ok
      · cases ok
      · cases ok
      · next name location _ _ => exact ⟨name, location, (Except.ok.inj ok).symm⟩
    have drafted := build_of_inDocumentOrder drafted
    simp only [draft, bind_eq_ok_iff] at drafted
    obtain ⟨_, _, _, _, _, _, _, _, schema, hschema, _, _, _, _, items, hitems, _, _, allowed, hallowed, default,
      hdefault, done⟩ := drafted
    cases done
    have optionalAny : Yields (fun o => ∀ v ∈ o, v.Proper) (optional any) := yields_any.optional
    refine ⟨?_, ?_, ?_, ?_, ?_, ?_⟩
    · exact optionalAny.field values hschema (fun _ h => nomatch h)
    · exact optionalAny.field values hitems (fun _ h => nomatch h)
    · exact fun vs hvs => Json.properItems_iff.2
        (yields_any.list.optional.field values hallowed (fun _ h => nomatch h) vs hvs)
    · exact optionalAny.field values hdefault (fun _ h => nomatch h)
    · exact List.Nodup.sublist (List.filter_sublist.map _) proper.1
    · exact fun e he => values e (List.mem_filter.1 he).1
  | _ => cases ok

theorem SecurityDeclaration.yields_ofJson :
    Yields SecurityDeclaration.Proper fun v => .ok (SecurityDeclaration.ofJson v) := by
  intro v s proper ok
  cases ok
  intro objects hobjects object mem
  cases v with
  | array items =>
    rw [ofJson] at hobjects
    cases read : items.mapM requirement? with
    | none => simp [read, requirements?] at hobjects
    | some alternatives =>
      simp only [read, requirements?, Option.mem_def, Option.some.injEq] at hobjects
      subst hobjects
      obtain ⟨item, memItem, readItem⟩ := exists_of_forall₂ (mapM_eq_some_iff.1 read) object mem
      have properItem := Json.properItems_iff.1 proper item memItem
      cases item with
      | object fields =>
        -- the schemes are the keys of the object, in place
        have keys : OrderedMap.keys object = OrderedMap.keys fields := by
          refine OrderedMap.keys_eq_of_forall₂ (mapM_eq_some_iff.1 readItem) fun field request hf => ?_
          split at hf
          · cases hf
            rfl
          · cases hf
        rw [keys]
        exact properItem.1
      | _ => cases readItem
  | _ => cases hobjects

theorem Operation.yields_ofJson : Yields Operation.Proper Operation.ofJson := by
  refine yields_record fun fields o values built => ?_
  simp only [Operation.ofFields, bind_eq_ok_iff] at built
  obtain ⟨_, _, _, _, _, _, _, _, _, _, _, _, _, _, cache, hcache, config, hconfig, _, _, parameters, hparameters,
    security, hsecurity, _, _, done⟩ := built
  cases done
  refine ⟨?_, ?_, ?_, ?_⟩
  · exact Parameter.yields_ofJson.list.field values hparameters (fun _ h => nomatch h)
  · exact yields_any.optional.field values hcache (fun _ h => nomatch h)
  · exact yields_any.optional.field values hconfig (fun _ h => nomatch h)
  · exact SecurityDeclaration.yields_ofJson.optional.field values hsecurity (fun _ h => nomatch h)

theorem PathItem.yields_ofJson : Yields PathItem.Proper PathItem.ofJson := by
  refine yields_record fun fields item values built => ?_
  simp only [PathItem.ofFields, bind_eq_ok_iff] at built
  obtain ⟨_, hget, _, hpost, _, hput, _, hdelete, _, hhead, _, hoptions, _, hpatch, _, hparameters, _, hsecurity,
    done⟩ := built
  cases done
  have operation {name : String} {o : Option Operation}
      (h : Decode.field fields name (optional Operation.ofJson) none = .ok o) : ∀ a ∈ o, a.Proper :=
    Operation.yields_ofJson.optional.field values h (fun _ h => nomatch h)
  refine ⟨fun verb => ?_, ?_, ?_⟩
  · cases verb with
    | get => exact operation hget
    | post => exact operation hpost
    | put => exact operation hput
    | delete => exact operation hdelete
    | head => exact operation hhead
    | options => exact operation hoptions
    | patch => exact operation hpatch
  · exact Parameter.yields_ofJson.list.field values hparameters (fun _ h => nomatch h)
  · exact SecurityDeclaration.yields_ofJson.optional.field values hsecurity (fun _ h => nomatch h)

/-- A description that is read from a proper value is proper. -/
theorem Description.proper_of_ofJson {v : Json} {api : Description} (proper : v.Proper)
    (ok : Description.ofJson v = .ok api) : api.Proper := by
  refine yields_record (P := Description.Proper) (fun fields api values built => ?_) v api proper ok
  simp only [Description.ofFields, bind_eq_ok_iff] at built
  obtain ⟨_, _, _, _, _, _, _, _, _, hcache, _, hconfig, _, _, _, hsecurity, _, _, _, hpaths, done⟩ := built
  cases done
  refine ⟨?_, ?_, ?_, ?_⟩
  · exact PathItem.yields_ofJson.table.field values hpaths (fun _ h => nomatch h)
  · exact yields_any.optional.field values hcache (fun _ h => nomatch h)
  · exact yields_any.optional.field values hconfig (fun _ h => nomatch h)
  · exact SecurityDeclaration.yields_ofJson.optional.field values hsecurity (fun _ h => nomatch h)

end RouteTable
