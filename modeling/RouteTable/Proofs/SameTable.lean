import RouteTable.Proofs.RepeatedKeys
import RouteTable.Proofs.Requirements
import RouteTable.Proofs.SingleOperation
import RouteTable.Proofs.Verdicts

/-!
# Tables that equal themselves

Equality of values looks entries up by their keys and compares numbers, so a value equals itself when no object in it
repeats a key and every number in it equals itself (`Json.Proper`).  A description whose values are so compiles to routes
that equal themselves (`Compiler.same_refl_of_compile_ok`).
-/

namespace RouteTable

variable {α β κ : Type}

/-! ### Values -/

namespace Json

mutual
/-- No object repeats a key, and every number equals itself. -/
def Proper : Json → Prop
  | number n => n.same n
  | array items => ProperItems items
  | object fields => (OrderedMap.keys fields).Nodup ∧ ProperFields fields
  | _ => True

def ProperItems : List Json → Prop
  | [] => True
  | v :: vs => Proper v ∧ ProperItems vs

def ProperFields : List (String × Json) → Prop
  | [] => True
  | (_, v) :: rest => Proper v ∧ ProperFields rest
end

mutual
theorem same_refl : ∀ {v : Json}, v.Proper → v.same v
  | null, _ => rfl
  | bool _, _ => by simp [same, sameBy]
  | number _, h => h
  | string _, _ => by simp [same, sameBy]
  | array _, h => sameItems_refl h
  | object fields, h => by
    rw [same, sameBy, Bool.and_eq_true]
    exact ⟨beq_self_eq_true _, sameFieldsBy_of_found h.2 fun mem => OrderedMap.get?_eq_some_of_mem h.1 mem⟩

theorem sameItems_refl : ∀ {items : List Json}, ProperItems items → sameItems items items
  | [], _ => rfl
  | v :: vs, h => by
    rw [sameItems, sameItemsBy, Bool.and_eq_true]
    exact ⟨same_refl h.1, sameItems_refl h.2⟩

/-- Fields that are found among some fields equal what is found. -/
theorem sameFieldsBy_of_found : ∀ {fields all : List (String × Json)}, ProperFields fields →
    (∀ {e : String × Json}, e ∈ fields → OrderedMap.get? all e.1 = some e.2) → sameFieldsBy Number.same fields all
  | [], _, _, _ => rfl
  | (k, v) :: rest, all, h, found => by
    have head : OrderedMap.get? all k = some v := found (e := (k, v)) List.mem_cons_self
    rw [sameFieldsBy, head, Bool.and_eq_true]
    exact ⟨same_refl h.1, sameFieldsBy_of_found h.2 fun mem => found (List.mem_cons_of_mem _ mem)⟩
end

end Json

theorem OrderedMap.sameUpToOrder_refl [DecidableEq κ] {same : α → α → Bool} {m : OrderedMap κ α}
    (distinct : m.keys.Nodup) (h : ∀ e ∈ m, same e.2 e.2) : sameUpToOrder same m m := by
  rw [sameUpToOrder, Bool.and_eq_true, List.all_eq_true]
  refine ⟨beq_self_eq_true _, fun e mem => ?_⟩
  dsimp only
  rw [get?_eq_some_of_mem distinct mem]
  exact h e mem

theorem Parameter.sameOption_refl {same : α → α → Bool} {o : Option α} (h : ∀ a ∈ o, same a a) :
    sameOption same o o := by
  cases o with
  | none => rfl
  | some a => exact h a rfl

theorem Route.sameLists_refl {same : α → α → Bool} {l : List α} (h : ∀ a ∈ l, same a a) : sameLists same l l := by
  induction l with
  | nil => rfl
  | cons a l ih =>
    rw [sameLists, Bool.and_eq_true]
    exact ⟨h a List.mem_cons_self, ih fun b mem => h b (List.mem_cons_of_mem _ mem)⟩

/-! ### Descriptions -/

structure Parameter.Proper (p : Parameter) : Prop where
  schema : ∀ v ∈ p.schema, v.Proper
  items : ∀ v ∈ p.items, v.Proper
  allowed : ∀ vs ∈ p.allowed, Json.ProperItems vs
  default : ∀ v ∈ p.default, v.Proper
  keys : (OrderedMap.keys p.constraints).Nodup
  constraints : ∀ e ∈ p.constraints, e.2.Proper

/-- No requirement object names a scheme twice. -/
def SecurityDeclaration.Proper (s : SecurityDeclaration) : Prop :=
  ∀ objects ∈ s.requirements?, ∀ object ∈ objects, (OrderedMap.keys object).Nodup

structure Operation.Proper (o : Operation) : Prop where
  parameters : ∀ p ∈ o.parameters, p.Proper
  cache : ∀ v ∈ o.cache, v.Proper
  config : ∀ v ∈ o.config, v.Proper
  security : ∀ s ∈ o.security, s.Proper

structure PathItem.Proper (item : PathItem) : Prop where
  operations : ∀ verb, ∀ o ∈ item.operation? verb, o.Proper
  parameters : ∀ p ∈ item.parameters, p.Proper
  security : ∀ s ∈ item.security, s.Proper

/-- Every value in a description is proper, and no requirement object names a scheme twice.  So it is with descriptions
that are read from a document, where a repeated key keeps its last value and every number is finite. -/
structure Description.Proper (api : Description) : Prop where
  items : ∀ e ∈ api.paths, e.2.Proper
  cache : ∀ v ∈ api.cache, v.Proper
  config : ∀ v ∈ api.config, v.Proper
  security : ∀ s ∈ api.security, s.Proper

theorem Parameter.same_refl {p : Parameter} (h : p.Proper) : p.same p := by
  simp only [same, beq_self_eq_true, Bool.true_and, Bool.and_true, Bool.and_eq_true]
  exact ⟨⟨⟨⟨sameOption_refl fun v hv => Json.same_refl (h.schema v hv),
    sameOption_refl fun v hv => Json.same_refl (h.items v hv)⟩,
    sameOption_refl fun vs hv => Json.sameItems_refl (h.allowed vs hv)⟩,
    sameOption_refl fun v hv => Json.same_refl (h.default v hv)⟩,
    OrderedMap.sameUpToOrder_refl h.keys fun e he => Json.same_refl (h.constraints e he)⟩

theorem SecurityEntry.same_refl (e : SecurityEntry) : e.same e := by
  rw [same, Bool.and_eq_true]
  exact ⟨beq_self_eq_true _, Parameter.sameOption_refl fun a _ => beq_self_eq_true a.origin⟩

theorem SecurityMap.same_refl {m : SecurityMap} (distinct : (OrderedMap.keys m).Nodup) : m.same m :=
  OrderedMap.sameUpToOrder_refl distinct fun e _ => e.2.same_refl

/-- What equality of routes asks of the parts of a route. -/
structure Route.Proper (r : Route) : Prop where
  security : ∀ m ∈ r.security, (OrderedMap.keys m).Nodup
  requirements : ∀ m ∈ r.requirements, (OrderedMap.keys m).Nodup
  validators : ∀ v ∈ r.validators, v.parameter.Proper
  cache : ∀ v ∈ r.cache, v.Proper
  config : ∀ v ∈ r.config, v.Proper

theorem Route.same_refl {r : Route} (h : r.Proper) : r.same r := by
  simp only [same, beq_self_eq_true, Bool.true_and, Bool.and_true, Bool.and_eq_true]
  exact ⟨⟨⟨⟨⟨Parameter.sameOption_refl fun m hm => SecurityMap.same_refl (h.security m hm),
    sameLists_refl fun m hm => SecurityMap.same_refl (h.requirements m hm)⟩,
    sameLists_refl fun v hv => Parameter.same_refl (h.validators v hv)⟩,
    Parameter.sameOption_refl fun v hv => Json.same_refl (h.cache v hv)⟩,
    Parameter.sameOption_refl fun v hv => Json.same_refl (h.config v hv)⟩,
    beq_self_eq_true r.handler.origin⟩

/-! ### Compiled routes -/

/-- Merging objects is putting all their entries into one map. -/
theorem SecurityMap.flatten_eq (groups : List SecurityMap) : flatten groups = OrderedMap.ofEntries groups.flatten :=
  List.foldl_flatten.symm

theorem SecurityMap.nodup_keys_flatten (groups : List SecurityMap) : (OrderedMap.keys (flatten groups)).Nodup := by
  rw [flatten_eq]
  exact OrderedMap.nodup_keys_ofEntries _

theorem Parameter.mem_of_mem_merge {pathLevel operationLevel : List Parameter} {p : Parameter}
    (h : p ∈ merge pathLevel operationLevel) : p ∈ pathLevel ∨ p ∈ operationLevel := by
  have inserted : ∀ {merged : List Parameter} {q : Parameter}, p ∈ insert merged q → p ∈ merged ∨ p = q := by
    intro merged q
    induction merged with
    | nil => exact fun h => .inr (List.mem_singleton.1 h)
    | cons first rest ih =>
      rw [insert]
      split
      · intro h
        rcases List.mem_cons.1 h with rfl | h
        · exact .inr rfl
        · exact .inl (List.mem_cons_of_mem _ h)
      · intro h
        rcases List.mem_cons.1 h with rfl | h
        · exact .inl List.mem_cons_self
        · exact (ih h).imp_left (List.mem_cons_of_mem _)
  rw [merge] at h
  rw [← List.mem_append]
  suffices along : ∀ (ps merged : List Parameter), p ∈ ps.foldl insert merged → p ∈ merged ∨ p ∈ ps from
    (along _ _ h).resolve_left List.not_mem_nil
  intro ps
  induction ps with
  | nil => exact fun _ h => .inl h
  | cons q ps ih =>
    intro merged h
    rcases ih _ h with h | h
    · rcases inserted h with h | rfl
      · exact .inl h
      · exact .inr List.mem_cons_self
    · exact .inr (List.mem_cons_of_mem _ h)

namespace Compiler

variable {c : Compiler} {api : Description} {site : Site} {route : Route}

theorem proper_declaredSecurity (api : Description) (proper : api.Proper) (mem : site ∈ api.sites) :
    ∀ s ∈ declaredSecurity api site, s.Proper := by
  obtain ⟨entry, declared⟩ := Description.mem_sites_iff.1 mem
  have item := proper.items _ entry
  have operation := item.operations _ _ declared
  intro s hs
  rw [declaredSecurity] at hs
  cases own : site.operation.security with
  | some declared => exact operation.security s (by simpa [own] using hs)
  | none =>
    cases outer : site.item.security with
    | some declared => exact item.security s (by simpa [own, outer] using hs)
    | none => exact proper.security s (by simpa [own, outer] using hs)

/-- Compiled requirement objects name the schemes of the declared ones. -/
theorem nodup_keys_of_compiledSecurity (declared : ∀ s ∈ declaredSecurity api site, s.Proper)
    {requirements : Option (List SecurityMap)} (secured : c.compiledSecurity api site = .ok requirements) :
    ∀ groups ∈ requirements, ∀ m ∈ groups, (OrderedMap.keys m).Nodup := by
  intro groups hg m hm
  rw [Option.mem_def] at hg
  subst hg
  rw [compiledSecurity] at secured
  cases definitions : api.securityDefinitions with
  | none =>
    rw [definitions, SecurityContext.value_requirements] at secured
    cases secured
  | some definitions' =>
    cases said : declaredSecurity api site with
    | none =>
      rw [definitions, said, SecurityContext.value_requirements] at secured
      cases secured
    | some declaration =>
      rw [definitions, said] at secured
      cases declaration with
      | malformed value =>
        rw [SecurityContext.value_requirements] at secured
        cases secured
      | requirements objects =>
        obtain ⟨groups', same, compiled⟩ := SecurityContext.forall₂_compiles secured
        cases same
        have names : List.Forall₂ (fun object m => OrderedMap.keys m = OrderedMap.keys object) objects groups := by
          refine compiled.imp fun object m entries => ?_
          rw [OrderedMap.keys, OrderedMap.keys, ← List.forall₂_eq_eq_eq, List.forall₂_map_left_iff,
            List.forall₂_map_right_iff]
          exact (entries.imp fun request entry kept => kept.name).flip
        obtain ⟨object, mem, named⟩ := exists_of_forall₂ names m hm
        rw [named]
        exact declared _ said objects rfl object mem

/-- The validators of a route are those by schema of the merged parameters of its site, in order. -/
theorem Emits.validators_eq {engine : SchemaEngine} (stock : c.validators = .bySchema engine) (h : c.Emits api site route) :
    route.validators =
      (Parameter.merge site.item.parameters site.operation.parameters).map (Parameter.validator engine) := by
  cases h
  rw [routeOf, stock]
  exact Validation.value_bySchema ..

theorem Emits.proper {engine : SchemaEngine} (validators : c.validators = .bySchema engine) (proper : api.Proper)
    (mem : site ∈ api.sites) (h : c.Emits api site route) : route.Proper := by
  obtain ⟨entry, declared⟩ := Description.mem_sites_iff.1 mem
  have item := proper.items _ entry
  have operation := item.operations _ _ declared
  have built := h.validators_eq validators
  cases h with
  | @intro requirements handler secured found =>
    have groups := nodup_keys_of_compiledSecurity (proper_declaredSecurity api proper mem) secured
    refine ⟨?_, ?_, ?_, ?_, ?_⟩
    · intro m hm
      obtain ⟨groups', _, rfl⟩ := Option.map_eq_some_iff.1 hm
      exact SecurityMap.nodup_keys_flatten groups'
    · intro m hm
      cases requirements with
      | none => cases hm
      | some groups' => exact groups groups' rfl m hm
    · intro v hv
      rw [built, List.mem_map] at hv
      obtain ⟨p, merged, rfl⟩ := hv
      exact (Parameter.mem_of_mem_merge merged).elim (item.parameters _) (operation.parameters _)
    · intro v hv
      exact (Option.or_eq_some_iff.1 hv).elim (operation.cache v) fun h => proper.cache v h.2
    · intro v hv
      exact (Option.or_eq_some_iff.1 hv).elim (operation.config v) fun h => proper.config v h.2

/-- Every route of a table equals itself. -/
theorem same_refl_of_compile_ok {engine : SchemaEngine} (validators : c.validators = .bySchema engine)
    (proper : api.Proper) {routes : List Route} (ok : (c.compile api).value = .ok routes) :
    ∀ route ∈ routes, route.same route := by
  intro route mem
  obtain ⟨site, served, emitted⟩ := exists_of_forall₂ (forall₂_of_compile_ok ok) route mem
  exact Route.same_refl (emitted.proper validators proper (List.mem_filter.1 served).1)

end Compiler

end RouteTable
