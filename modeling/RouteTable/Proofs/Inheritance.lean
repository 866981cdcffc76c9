import RouteTable.Proofs.Inquiries
import RouteTable.Proofs.Merge

/-!
# Inherited values

An operation inherits what it does not declare from its path item or from the description.  `Description.inline` writes
the inherited values into the operations and takes them away where they came from; compilation does not tell the two
descriptions apart, in what it answers or in what it reports.
-/

namespace RouteTable

/-- An operation with the values that it inherits written out. -/
def Operation.inherit (api : Description) (item : PathItem) (operation : Operation) : Operation :=
  { operation with
    consumes := operation.consumes.or api.consumes
    produces := operation.produces.or api.produces
    json := operation.json.or api.json
    cache := operation.cache.or api.cache
    config := operation.config.or api.config
    jsonp := operation.jsonp.or api.jsonp
    security := operation.security.or (item.security.or api.security)
    parameters := Parameter.merge item.parameters operation.parameters }

namespace PathItem

/-- Changes every operation of a path item. -/
def mapOperations (change : Operation → Operation) (item : PathItem) : PathItem :=
  { item with
    get := item.get.map change
    post := item.post.map change
    put := item.put.map change
    delete := item.delete.map change
    head := item.head.map change
    options := item.options.map change
    patch := item.patch.map change }

/-- A path item whose operations inherit nothing. -/
def inline (api : Description) (item : PathItem) : PathItem :=
  { item.mapOperations (Operation.inherit api item) with parameters := [], security := none }

theorem operations_inline (api : Description) (item : PathItem) :
    (item.inline api).operations = item.operations.map fun (verb, operation) =>
      (verb, operation.inherit api item) := by
  rw [operations, operations, List.map_filterMap]
  congr 1
  funext verb
  have changed : (item.inline api).operation? verb = (item.operation? verb).map (Operation.inherit api item) := by
    cases verb <;> rfl
  rw [changed, Option.map_map, Option.map_map]
  rfl

end PathItem

/-- A description whose operations inherit nothing. -/
def Description.inline (api : Description) : Description :=
  { api with
    consumes := none
    produces := none
    json := none
    cache := none
    config := none
    jsonp := none
    security := none
    paths := OrderedMap.mapValues (PathItem.inline api) api.paths }

/-- A site whose operation inherits nothing. -/
def Site.inline (api : Description) (site : Site) : Site :=
  { site with item := site.item.inline api, operation := site.operation.inherit api site.item }

theorem Description.sites_inline (api : Description) : api.inline.sites = api.sites.map (Site.inline api) := by
  rw [sites, sites, inline, OrderedMap.mapValues, List.flatMap_map, List.map_flatMap]
  congr 1
  funext ⟨path, item⟩
  dsimp only
  rw [PathItem.operations_inline, List.map_map, List.map_map]
  rfl

namespace Compiler

theorem declaredSecurity_inline (api : Description) (site : Site) :
    declaredSecurity api.inline (site.inline api) = declaredSecurity api site := by
  simp only [declaredSecurity, Site.inline, Operation.inherit, PathItem.inline, Description.inline, Option.or_none,
    Option.or_assoc]

theorem outline_inline (api : Description) (site : Site) (path : String) (requirements : Option (List SecurityMap)) :
    outline api.inline (site.inline api) path requirements = outline api site path requirements := by
  simp only [outline, Site.inline, Operation.inherit, Description.inline, Option.or_none]

theorem compileSite_inline (c : Compiler) (api : Description) (site : Site) :
    c.compileSite api.inline (site.inline api) = c.compileSite api site := by
  -- the rest of a site reads no inherited field, and a merge is not changed by another merge
  have merged : Parameter.merge (site.inline api).item.parameters (site.inline api).operation.parameters =
      Parameter.merge site.item.parameters site.operation.parameters := Parameter.merge_nil_merge ..
  rw [compileSite_eq, compileSite_eq]
  simp only [declaredSecurity_inline, outline_inline, merged]
  rfl

/-- Writing inherited values into the operations changes neither the outcome of compilation nor its events. -/
theorem compile_inline (c : Compiler) (api : Description) : c.compile api.inline = c.compile api := by
  rw [compile_eq, compile_eq, Description.sites_inline, Traced.collect_map]
  simp only [compileSite_inline]
  rfl

end Compiler

end RouteTable
