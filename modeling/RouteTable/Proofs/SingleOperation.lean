import RouteTable.Proofs.Listing

/-!
# One operation of a description

Under distinct paths an operation is found again by its path and verb (`Description.eq_of_mem_sites`), and so is its
route in a table (`Compiler.routesAt_of_compile_ok`).  `Description.adjustItem` changes one path item and
`Description.adjustOperation` one operation; what the table says changes with the sites only
(`Compiler.value_compile_congr`).
-/

namespace RouteTable

variable {α β γ : Type}

/-! ### Lists with distinct keys -/

private theorem filter_key_eq_singleton [DecidableEq β] {key : α → β} {l : List α} (distinct : (l.map key).Nodup)
    {a : α} (mem : a ∈ l) : (l.filter fun x => key x = key a) = [a] := by
  induction l with
  | nil => cases mem
  | cons x l ih =>
    rw [List.map_cons, List.nodup_cons] at distinct
    rcases List.mem_cons.1 mem with rfl | mem
    · have others : ∀ y ∈ l, key y ≠ key a := fun y hy h => distinct.1 (h ▸ List.mem_map_of_mem hy)
      rw [List.filter_cons_of_pos (by simp), List.filter_eq_nil_iff.2 (by simpa using others)]
    · have hx : key x ≠ key a := fun h => distinct.1 (h ▸ List.mem_map_of_mem mem)
      rw [List.filter_cons_of_neg (by simpa using hx), ih distinct.2 mem]

private theorem forall₂_filter {R : α → β → Prop} {p : α → Bool} {q : β → Bool} {l : List α} {m : List β}
    (h : List.Forall₂ R l m) (same : ∀ a b, R a b → p a = q b) :
    List.Forall₂ R (l.filter p) (m.filter q) := by
  induction h with
  | nil => exact .nil
  | @cons a b l m head _ ih =>
    rw [List.filter_cons, List.filter_cons, same a b head]
    split
    · exact .cons head ih
    · exact ih

namespace OrderedMap

variable {κ : Type} [DecidableEq κ]

/-- Changes the value under a key. -/
def adjust (m : OrderedMap κ α) (key : κ) (change : α → α) : OrderedMap κ α :=
  m.map fun (k, v) => (k, if k = key then change v else v)

end OrderedMap

/-! ### Changes to a description -/

namespace PathItem

/-- Changes the operation of a verb, if there is one. -/
def adjustOperation (verb : Verb) (change : Operation → Operation) (item : PathItem) : PathItem :=
  match verb with
  | .get => { item with get := item.get.map change }
  | .post => { item with post := item.post.map change }
  | .put => { item with put := item.put.map change }
  | .delete => { item with delete := item.delete.map change }
  | .head => { item with head := item.head.map change }
  | .options => { item with options := item.options.map change }
  | .patch => { item with patch := item.patch.map change }

variable (verb : Verb) (change : Operation → Operation) (item : PathItem)

@[simp] theorem parameters_adjustOperation : (item.adjustOperation verb change).parameters = item.parameters := by
  cases verb <;> rfl

@[simp] theorem security_adjustOperation : (item.adjustOperation verb change).security = item.security := by
  cases verb <;> rfl

theorem operation?_adjustOperation (other : Verb) :
    (item.adjustOperation verb change).operation? other =
      (item.operation? other).map fun operation => if other = verb then change operation else operation := by
  cases verb <;> cases other <;> simp [adjustOperation, operation?]

end PathItem

namespace Description

/-- Changes the path item under a path. -/
def adjustItem (api : Description) (path : String) (change : PathItem → PathItem) : Description :=
  { api with paths := OrderedMap.adjust api.paths path change }

/-- Changes the operation of a verb under a path. -/
def adjustOperation (api : Description) (path : String) (verb : Verb) (change : Operation → Operation) : Description :=
  api.adjustItem path (PathItem.adjustOperation verb change)

end Description

/-- Changes a site under a path; `item` and `operation` say what becomes of its parts. -/
def Site.adjust (path : String) (item : PathItem → PathItem) (operation : Verb → Operation → Operation) (site : Site) :
    Site :=
  if site.path = path then { site with item := item site.item, operation := operation site.verb site.operation }
  else site

namespace Description

variable {api : Description} {path : String}

/-- A change to a path item changes the sites under its path, if it keeps the verbs. -/
theorem sites_adjustItem {item : PathItem → PathItem} {operation : Verb → Operation → Operation}
    (keeps : ∀ i verb, (item i).operation? verb = (i.operation? verb).map (operation verb)) :
    (api.adjustItem path item).sites = api.sites.map (Site.adjust path item operation) := by
  have changed : ∀ i, (item i).operations = i.operations.map fun e => (e.1, operation e.1 e.2) := by
    intro i
    rw [PathItem.operations, PathItem.operations, List.map_filterMap]
    congr 1
    funext verb
    rw [keeps, Option.map_map, Option.map_map]
    rfl
  rw [sites, sites, adjustItem, OrderedMap.adjust, List.flatMap_map, List.map_flatMap]
  congr 1
  funext e
  obtain ⟨declared, i⟩ := e
  dsimp only
  rw [List.map_map]
  by_cases hp : declared = path
  · rw [if_pos hp, changed, List.map_map]
    simp only [Function.comp_def, Site.adjust, if_pos hp]
  · rw [if_neg hp]
    simp only [Function.comp_def, Site.adjust, if_neg hp]

theorem sites_adjustOperation (verb : Verb) (change : Operation → Operation) :
    (api.adjustOperation path verb change).sites =
      api.sites.map (Site.adjust path (PathItem.adjustOperation verb change)
        fun v operation => if v = verb then change operation else operation) :=
  sites_adjustItem fun _ _ => PathItem.operation?_adjustOperation ..

theorem mem_sites_iff {site : Site} :
    site ∈ api.sites ↔ (site.path, site.item) ∈ api.paths ∧ site.item.operation? site.verb = some site.operation := by
  have inside : ∀ {item : PathItem} {verb : Verb} {operation : Operation},
      (verb, operation) ∈ item.operations ↔ item.operation? verb = some operation := by
    intro item verb operation
    have listed : verb ∈ Verb.all := by cases verb <;> decide
    simp only [PathItem.operations, List.mem_filterMap, Option.map_eq_some_iff, Prod.mk.injEq]
    constructor
    · rintro ⟨_, _, _, h, rfl, rfl⟩
      exact h
    · intro h
      exact ⟨verb, listed, operation, h, rfl, rfl⟩
  simp only [sites, List.mem_flatMap, List.mem_map]
  constructor
  · rintro ⟨⟨path, item⟩, mem, ⟨verb, operation⟩, declared, rfl⟩
    exact ⟨mem, inside.1 declared⟩
  · rintro ⟨mem, declared⟩
    exact ⟨_, mem, (site.verb, site.operation), inside.2 declared, rfl⟩

/-- A declared operation is a site. -/
theorem mem_sites {item : PathItem} {verb : Verb} {operation : Operation}
    (found : OrderedMap.get? api.paths path = some item) (declared : item.operation? verb = some operation) :
    ⟨path, item, verb, operation⟩ ∈ api.sites :=
  mem_sites_iff.2 ⟨OrderedMap.mem_of_get?_eq_some found, declared⟩

/-- Under distinct paths a site is told by its path and verb. -/
theorem eq_of_mem_sites (distinct : (OrderedMap.keys api.paths).Nodup) {site other : Site} (mem : site ∈ api.sites)
    (memOther : other ∈ api.sites) (path : site.path = other.path) (verb : site.verb = other.verb) : site = other := by
  obtain ⟨entry, declared⟩ := mem_sites_iff.1 mem
  obtain ⟨entryOther, declaredOther⟩ := mem_sites_iff.1 memOther
  have item : site.item = other.item := by
    have h := OrderedMap.get?_eq_some_of_mem distinct entry
    rw [path, OrderedMap.get?_eq_some_of_mem distinct entryOther] at h
    exact (Option.some.inj h).symm
  have operation : site.operation = other.operation := by
    rw [item, verb, declaredOther] at declared
    exact (Option.some.inj declared).symm
  cases site
  cases other
  simp_all

end Description

/-! ### The route of an operation -/

namespace Compiler

variable {c : Compiler} {api : Description}

/-- The routes of a table under a path and a method. -/
def routesAt (routes : List Route) (path : String) (method : Method) : List Route :=
  routes.filter fun route => (route.path, route.method) = (path, method)

/-- Where a table is answered, the requirements of every site compile. -/
theorem compiledSecurity_of_compile_ok {routes : List Route} (ok : (c.compile api).value = .ok routes) {site : Site}
    (mem : site ∈ api.sites) : ∃ requirements, c.compiledSecurity api site = .ok requirements := by
  have silent : fault? (c.compile api).value = none := fault?_eq_none_iff.2 ⟨routes, ok⟩
  rw [fault?_compile, List.findSome?_eq_none_iff] at silent
  exact fault?_eq_none_iff.1 (silent site mem)

/-- An operation has one route in a table if a handler is found for it, and else it has none. -/
theorem routesAt_of_compile_ok (distinct : (OrderedMap.keys api.paths).Nodup) {routes : List Route}
    (ok : (c.compile api).value = .ok routes) {site : Site} (mem : site ∈ api.sites) :
    ∃ requirements, c.compiledSecurity api site = .ok requirements ∧
      routesAt routes (c.routePath api site.path) site.verb.method =
        ((c.handler? site.endpoint).map (c.routeOf api site requirements)).toList := by
  obtain ⟨requirements, secured⟩ := compiledSecurity_of_compile_ok ok mem
  refine ⟨requirements, secured, ?_⟩
  -- the routes under its path and method come from the sites under its path and verb, and that is the site alone
  let key (s : Site) : String × Method := (s.path, s.verb.method)
  have alone : (api.sites.filter fun s => key s = key site) = [site] := by
    refine filter_key_eq_singleton ?_ mem
    have h := Description.nodup_endpoints distinct
    rwa [Description.endpoints_eq, List.map_map] at h
  have emitted : List.Forall₂ (c.Emits api) ((c.served api).filter fun s => key s = key site)
      (routesAt routes (c.routePath api site.path) site.verb.method) := by
    refine forall₂_filter (forall₂_of_compile_ok ok) fun s route h => ?_
    have row := h.row
    rw [Prod.mk.injEq, Prod.mk.injEq] at row
    rw [row.1, row.2.1, routePath_eq, pathOf, pathOf, decide_eq_decide, Prod.mk.injEq, Prod.mk.injEq,
      String.append_right_inj]
    rfl
  rw [served, List.filter_comm, alone] at emitted
  cases found : c.handler? site.endpoint with
  | none =>
    rw [List.filter_cons_of_neg (by simp [found]), List.filter_nil, List.forall₂_nil_left_iff] at emitted
    rw [emitted]
    rfl
  | some handler =>
    rw [List.filter_cons_of_pos (by simp [found]), List.filter_nil] at emitted
    obtain ⟨route, rest, h, nothing, split⟩ := List.forall₂_cons_left_iff.1 emitted
    rw [split, List.forall₂_nil_left_iff.1 nothing]
    cases h with
    | intro secured' found' =>
      obtain rfl := Except.ok.inj (secured.symm.trans secured')
      obtain rfl := Option.some.inj (found.symm.trans found')
      rfl

/-- Under distinct paths a route is alone under its path and method. -/
theorem routesAt_of_mem (distinct : (OrderedMap.keys api.paths).Nodup) {routes : List Route}
    (ok : (c.compile api).value = .ok routes) {route : Route} {path : String} {method : Method}
    (mem : route ∈ routesAt routes path method) : routesAt routes path method = [route] := by
  obtain ⟨there, key⟩ := List.mem_filter.1 mem
  obtain ⟨site, served, emits⟩ := exists_of_forall₂ (forall₂_of_compile_ok ok) route there
  obtain ⟨requirements, -, one⟩ := routesAt_of_compile_ok distinct ok (List.mem_filter.1 served).1
  -- the path and the method are those of the site that the route comes from
  have row := emits.row
  rw [Prod.mk.injEq, Prod.mk.injEq] at row
  obtain ⟨rfl, rfl⟩ := Prod.mk.inj (of_decide_eq_true key)
  have place : routesAt routes route.path route.method = routesAt routes (c.routePath api site.path) site.verb.method := by
    rw [row.1, row.2.1, routePath_eq]
    rfl
  rw [place, one, Option.mem_toList] at mem
  rw [place, one, mem, Option.toList_some]

/-- Two sites compile alike when their security, their handlers and the rest of their routes are alike. -/
theorem value_compileSite_congr {other : Description} {site changed : Site}
    (secured : c.compiledSecurity other changed = c.compiledSecurity api site)
    (handler : c.handler? changed.endpoint = c.handler? site.endpoint)
    (route : c.routeOf other changed = c.routeOf api site) :
    (c.compileSite other changed).value = (c.compileSite api site).value := by
  rw [value_compileSite, value_compileSite, secured, handler, route]

/-- Two descriptions have the same table when their sites correspond, and corresponding sites compile alike. -/
theorem value_compile_congr {other : Description} {sites : List Site} {f g : Site → Site}
    (ofOther : other.sites = sites.map f) (ofApi : api.sites = sites.map g)
    (same : ∀ site ∈ sites, (c.compileSite other (f site)).value = (c.compileSite api (g site)).value) :
    (c.compile other).value = (c.compile api).value := by
  have outcomes : (other.sites.map fun site => (c.compileSite other site).value) =
      api.sites.map fun site => (c.compileSite api site).value := by
    rw [ofOther, ofApi, List.map_map, List.map_map]
    exact List.map_congr_left same
  have run := congrArg (List.mapM id) outcomes
  rw [List.mapM_map, List.mapM_map] at run
  rw [value_compile, value_compile]
  exact congrArg (Except.map (List.filterMap id)) run

end Compiler

end RouteTable
