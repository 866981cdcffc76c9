import RouteTable.Proofs.Authorization
import RouteTable.Proofs.SameTable

/-!
# The merged map of a route

The map of a route is its requirement objects merged.  It names every scheme where an object names it first, and holds
what the last object asks of it (`SecurityMap.keys_flatten`, `SecurityMap.get?_flatten_eq_some_iff`).  The last object is
merged last, so the map holds it as it is: who is accepted by the whole map is accepted by this object, and may call the
route (`Compiler.merged_view_of_compile_ok`).
-/

namespace RouteTable

namespace SecurityMap

theorem keys_flatten (groups : List SecurityMap) :
    OrderedMap.keys (flatten groups) = (groups.flatMap OrderedMap.keys).eraseDups := by
  rw [flatten_eq, OrderedMap.keys_ofEntries, List.map_flatten]
  rfl

theorem flatten_concat (groups : List SecurityMap) (group : SecurityMap) :
    flatten (groups ++ [group]) = OrderedMap.putAll (flatten groups) group := by
  simp only [flatten, List.foldl_append, List.foldl_cons, List.foldl_nil]

variable {groups : List SecurityMap}

/-- A scheme has the entry of the last object that names it. -/
theorem get?_flatten (distinct : ∀ group ∈ groups, (OrderedMap.keys group).Nodup) (scheme : String) :
    OrderedMap.get? (flatten groups) scheme = groups.reverse.findSome? (OrderedMap.get? · scheme) := by
  induction groups using List.reverseRecOn with
  | nil => rfl
  | append_singleton groups group ih =>
    have last : (OrderedMap.keys group).Nodup := distinct group (by simp)
    have rest : ∀ g ∈ groups, (OrderedMap.keys g).Nodup := fun g hg => distinct g (by simp [hg])
    rw [flatten_concat, OrderedMap.get?_putAll_of_nodup _ last, ih rest, List.reverse_append, List.findSome?_append]
    simp

theorem get?_flatten_eq_some_iff (distinct : ∀ group ∈ groups, (OrderedMap.keys group).Nodup) {scheme : String}
    {entry : SecurityEntry} :
    OrderedMap.get? (flatten groups) scheme = some entry ↔
      ∃ before group after, groups = before ++ group :: after ∧ OrderedMap.get? group scheme = some entry ∧
        ∀ later ∈ after, scheme ∉ OrderedMap.keys later := by
  rw [get?_flatten distinct, findSome?_reverse_eq_some_iff]
  simp only [OrderedMap.get?_eq_none_iff]

/-- What the last object asks for is asked for by the merged map. -/
theorem mem_flatten_concat {group : SecurityMap} (distinct : (OrderedMap.keys group).Nodup) {e : String × SecurityEntry}
    (mem : e ∈ group) : e ∈ flatten (groups ++ [group]) := by
  have found : OrderedMap.get? (flatten (groups ++ [group])) e.1 = some e.2 := by
    rw [flatten_concat, OrderedMap.get?_putAll_of_nodup _ distinct, OrderedMap.get?_eq_some_of_mem distinct mem,
      Option.some_or]
  exact OrderedMap.mem_of_get?_eq_some found

theorem admits_iff_forall {m : SecurityMap} {cred : Credentials} :
    m.admits cred = true ↔ ∀ scheme entry authorizer, (scheme, entry) ∈ m → entry.authorize = some authorizer →
      authorizer.accepts scheme entry.scopes cred = true := by
  rw [admits, List.all_eq_true]
  constructor
  · intro h scheme entry authorizer mem found
    exact SecurityEntry.check_getD_iff.1 (h (scheme, entry) mem) authorizer found
  · intro h e mem
    exact SecurityEntry.check_getD_iff.2 fun authorizer found => h e.1 e.2 authorizer mem found

/-- Who is accepted by the merged map is accepted by one of the objects, if there is one. -/
theorem any_admits_of_flatten (distinct : ∀ group ∈ groups, (OrderedMap.keys group).Nodup) {cred : Credentials}
    (h : (flatten groups).admits cred = true) : groups = [] ∨ ∃ group ∈ groups, group.admits cred = true := by
  -- the last object is the one, because nothing that is merged after it takes its place
  rcases List.eq_nil_or_concat groups with rfl | ⟨before, last, rfl⟩
  · exact Or.inl rfl
  · rw [List.concat_eq_append] at distinct h ⊢
    have own : (OrderedMap.keys last).Nodup := distinct last (by simp)
    refine Or.inr ⟨last, by simp, admits_iff_forall.2 fun scheme entry authorizer mem found => ?_⟩
    exact admits_iff_forall.1 h scheme entry authorizer (mem_flatten_concat own mem) found

end SecurityMap

namespace Compiler

variable {c : Compiler} {api : Description}

/-- Every map of a route is its requirement objects merged: its keys are the schemes that some object names, in the order
of first mention, and each scheme has the entry of the last object that names it.  A route without a map has no objects.
Credentials that every authorizer in the map accepts may call the route, so who enforces the whole map lets nobody pass
whom the objects refuse.  The objects that the description declares are maps: none of them names a scheme twice. -/
theorem merged_view_of_compile_ok {routes : List Route}
    (distinct : ∀ e ∈ api.endpoints, ∀ declared ∈ e.security? api, declared.Proper)
    (ok : (c.compile api).value = .ok routes) :
    ∀ route ∈ routes,
      (∀ merged ∈ route.security,
        OrderedMap.keys merged = (route.requirements.flatMap OrderedMap.keys).eraseDups ∧
        ∀ scheme entry, OrderedMap.get? merged scheme = some entry ↔
          ∃ before object after, route.requirements = before ++ object :: after ∧
            OrderedMap.get? object scheme = some entry ∧ ∀ later ∈ after, scheme ∉ OrderedMap.keys later) ∧
      (route.security = none → route.requirements = []) ∧
      ∀ cred, (∀ merged ∈ route.security, ∀ scheme entry authorizer, (scheme, entry) ∈ merged →
          entry.authorize = some authorizer → authorizer.accepts scheme entry.scopes cred = true) →
        route.authorize cred = true := by
  intro route mem
  obtain ⟨site, served, emitted⟩ := exists_of_forall₂ (forall₂_of_compile_ok ok) route mem
  cases emitted with
  | @intro requirements handler secured found =>
    have declared : ∀ s ∈ declaredSecurity api site, s.Proper := by
      rw [declaredSecurity_eq]
      refine distinct site.endpoint ?_
      rw [Description.endpoints_eq]
      exact List.mem_map_of_mem (List.mem_filter.1 served).1
    have objects := nodup_keys_of_compiledSecurity declared secured
    cases requirements with
    | none => exact ⟨fun _ h => (nomatch h), fun _ => rfl, fun _ _ => rfl⟩
    | some groups =>
      have own : ∀ group ∈ groups, (OrderedMap.keys group).Nodup := objects groups rfl
      refine ⟨fun merged h => ?_, fun h => (nomatch h), fun cred accepted => ?_⟩
      · obtain rfl := Option.some.inj h
        exact ⟨SecurityMap.keys_flatten groups, fun _ _ => SecurityMap.get?_flatten_eq_some_iff own⟩
      · have admitted : (SecurityMap.flatten groups).admits cred = true :=
          SecurityMap.admits_iff_forall.2 (accepted _ rfl)
        rw [authorize_routeOf, Bool.or_eq_true, List.isEmpty_iff, List.any_eq_true]
        exact SecurityMap.any_admits_of_flatten own admitted

/-- The second object asks `oauth2` for another scope than the first, and the map holds the scope of the second; who has
this scope is accepted by the whole map, and may call the route. -/
theorem merged_view_of_overlapping_objects :
    let writer : Authorizer := ⟨.given "writer", fun _ scopes _ => scopes.all (· == "write")⟩
    let c : Compiler :=
      { config := { securityRoot := some "security" }, validators := .presenceOnly
        handlers := fun path => .error (.notFound path), probe := fun _ => false
        authorizers := fun _ => .ok (.callable writer), defaultHandler := some .echo }
    let api : Description :=
      { securityDefinitions := some [("oauth2", { scopes := [("write", ""), ("read", "")] }), ("key", {})]
        security := some (.requirements [[("oauth2", [.string "read"]), ("key", [])], [("oauth2", [.string "write"])]])
        paths := [("/pets", { get := some {} })] }
    (∀ e ∈ api.endpoints, ∀ declared ∈ e.security? api, declared.Proper) ∧
      ∃ route, (c.compile api).value = .ok [route] ∧ route.security.map OrderedMap.keys = some ["oauth2", "key"] ∧
        (∃ before object after, route.requirements = before ++ object :: after ∧
          OrderedMap.get? object "oauth2" = some ⟨["write"], some writer⟩ ∧
          ∀ later ∈ after, "oauth2" ∉ OrderedMap.keys later) ∧
        ∀ cred, route.authorize cred = true := by
  intro writer c api
  have distinct : ∀ e ∈ api.endpoints, ∀ declared ∈ e.security? api, declared.Proper := by
    intro e he declared hd
    obtain rfl := List.mem_singleton.1 he
    obtain rfl := Option.some.inj hd
    intro objects ho object mem
    obtain rfl := Option.some.inj ho
    simp only [List.mem_cons, List.not_mem_nil, or_false] at mem
    rcases mem with rfl | rfl <;> decide
  have ok : (c.compile api).value = .ok [_] := rfl
  obtain ⟨merged, -, safe⟩ := merged_view_of_compile_ok distinct ok _ List.mem_cons_self
  refine ⟨distinct, _, ok, rfl, ((merged _ rfl).2 "oauth2" ⟨["write"], some writer⟩).1 rfl, fun cred => safe cred ?_⟩
  intro map hm scheme entry authorizer mem found
  obtain rfl := Option.some.inj hm
  have listed : (scheme, entry) ∈
      [("oauth2", (⟨["write"], some writer⟩ : SecurityEntry)), ("key", ⟨[], some writer⟩)] := mem
  simp only [List.mem_cons, List.not_mem_nil, or_false] at listed
  rcases listed with h | h <;> cases h <;> cases found <;> rfl

end Compiler

end RouteTable
