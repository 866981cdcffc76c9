import RouteTable.Proofs.Compilation
import RouteTable.Schema.Engine

/-!
# Tables path by path

A table is made of one block of routes for each path, in the order of the paths (`Compiler.value_compile_eq_ok_iff`):
what a path contributes depends on its own item and on what the description says for all paths.  So the tables of two
descriptions that differ in their paths only can be put one after the other (`Compiler.compile_paths`).
-/

namespace RouteTable

theorem Description.sites_append (api : Description) (P Q : OrderedMap String PathItem) :
    ({ api with paths := P ++ Q } : Description).sites =
      ({ api with paths := P } : Description).sites ++ ({ api with paths := Q } : Description).sites :=
  List.flatMap_append

namespace Compiler

variable {c : Compiler} {api : Description}

/-- No site is compiled with a look at other paths. -/
theorem compileSite_paths (c : Compiler) (api : Description) (P : OrderedMap String PathItem) (site : Site) :
    c.compileSite { api with paths := P } site = c.compileSite api site := rfl

theorem value_compile_append (c : Compiler) (api : Description) (P Q : OrderedMap String PathItem) :
    (c.compile { api with paths := P ++ Q }).value = (do
      let routes ← (c.compile { api with paths := P }).value
      let others ← (c.compile { api with paths := Q }).value
      return routes ++ others) := by
  simp only [value_compile, Description.sites_append, compileSite_paths, List.mapM_append]
  -- the outcomes of all sites, first those of `P`, then those of `Q`; the routes among them are in this order too
  cases ({ api with paths := P } : Description).sites.mapM fun site => (c.compileSite api site).value with
  | error e => rfl
  | ok outcomes =>
    cases ({ api with paths := Q } : Description).sites.mapM fun site => (c.compileSite api site).value with
    | error e => rfl
    | ok others => exact congrArg Except.ok List.filterMap_append

/-- The routes of a path whose item compiles. -/
def block (c : Compiler) (api : Description) (e : String × PathItem) : List Route :=
  (c.compile { api with paths := [e] }).value.toOption.getD []

/-- A path compiles when a description with this path alone does. -/
def PathCompiles (c : Compiler) (api : Description) (e : String × PathItem) : Prop :=
  (c.compile { api with paths := [e] }).value = .ok (c.block api e)

theorem pathCompiles_iff {e : String × PathItem} {routes : List Route} :
    (c.compile { api with paths := [e] }).value = .ok routes ↔ c.PathCompiles api e ∧ routes = c.block api e := by
  rw [PathCompiles, block]
  constructor
  · intro ok
    rw [ok]
    exact ⟨rfl, rfl⟩
  · rintro ⟨ok, rfl⟩
    exact ok

/-- A table is answered when every path compiles by itself, and then it is the blocks of the paths in order. -/
theorem value_compile_eq_ok_iff {P : OrderedMap String PathItem} {routes : List Route} :
    (c.compile { api with paths := P }).value = .ok routes ↔
      (∀ e ∈ P, c.PathCompiles api e) ∧ routes = P.flatMap (c.block api) := by
  -- on the paths: the first one makes its block, and the others make the rest of the table
  induction P generalizing routes with
  | nil =>
    constructor
    · intro ok
      exact ⟨fun _ h => (nomatch h), (Except.ok.inj ok).symm⟩
    · rintro ⟨-, rfl⟩
      rfl
  | cons e P ih =>
    have split : (c.compile { api with paths := e :: P }).value = _ := value_compile_append c api [e] P
    rw [split, List.forall_mem_cons, List.flatMap_cons]
    simp only [bind_eq_ok_iff, pathCompiles_iff, ih]
    constructor
    · rintro ⟨_, ⟨first, rfl⟩, _, ⟨rest, rfl⟩, done⟩
      exact ⟨⟨first, rest⟩, (Except.ok.inj done).symm⟩
    · rintro ⟨⟨first, rest⟩, rfl⟩
      exact ⟨_, ⟨first, rfl⟩, _, ⟨rest, rfl⟩, rfl⟩

/-- A description with the paths `P` followed by `Q` fails as `P` fails, else as `Q` fails, and else has the table of
`P` followed by that of `Q`.  So a path item that is changed, added or removed leaves the routes of all other paths as
they are, and other orders of the paths are other orders of their blocks. -/
theorem compile_paths (c : Compiler) (api : Description) (P Q : OrderedMap String PathItem) :
    (c.compile { api with paths := P ++ Q }).value = (do
      let routes ← (c.compile { api with paths := P }).value
      let others ← (c.compile { api with paths := Q }).value
      return routes ++ others) ∧
    (∀ path item routes, (c.compile { api with paths := P ++ (path, item) :: Q }).value = .ok routes →
      ∃ before block after, routes = before ++ block ++ after ∧
        (c.compile { api with paths := P }).value = .ok before ∧
        (c.compile { api with paths := [(path, item)] }).value = .ok block ∧
        (c.compile { api with paths := Q }).value = .ok after ∧
        (c.compile { api with paths := P ++ Q }).value = .ok (before ++ after) ∧
        ∀ edited, (c.compile { api with paths := P ++ (path, edited) :: Q }).value =
          (c.compile { api with paths := [(path, edited)] }).value.map fun block => before ++ block ++ after) ∧
    ∀ R : OrderedMap String PathItem, R.Perm (P ++ Q) → ∀ routes,
      (c.compile { api with paths := P ++ Q }).value = .ok routes →
        ∃ block : String × PathItem → List Route,
          (∀ e ∈ P ++ Q, (c.compile { api with paths := [e] }).value = .ok (block e)) ∧
          routes = (P ++ Q).flatMap block ∧ (c.compile { api with paths := R }).value = .ok (R.flatMap block) := by
  have split := value_compile_append c api
  refine ⟨split P Q, ?_, ?_⟩
  · intro path item routes ok
    have entry : ∀ item, (c.compile { api with paths := (path, item) :: Q }).value = _ := fun item =>
      split [(path, item)] Q
    rw [split, entry] at ok
    simp only [bind_eq_ok_iff] at ok
    obtain ⟨before, hP, _, ⟨block, hi, after, hQ, rest⟩, done⟩ := ok
    obtain rfl := Except.ok.inj rest
    obtain rfl := Except.ok.inj done
    refine ⟨before, block, after, (List.append_assoc ..).symm, hP, hi, hQ, ?_, fun edited => ?_⟩
    · rw [split, hP, hQ]
      rfl
    · rw [split, entry, hP, hQ]
      cases (c.compile { api with paths := [(path, edited)] }).value with
      | error e => rfl
      | ok block => exact congrArg Except.ok (List.append_assoc ..).symm
  · intro R permuted routes ok
    obtain ⟨compiles, rfl⟩ := value_compile_eq_ok_iff.1 ok
    refine ⟨c.block api, compiles, rfl, value_compile_eq_ok_iff.2 ⟨fun e he => ?_, rfl⟩⟩
    exact compiles e (permuted.mem_iff.1 he)

/-- Two paths in the other order have their routes in the other order, and without the first path the second keeps its
route; the base path and the security of the description are those of both. -/
theorem compile_paths_pets :
    let c : Compiler :=
      { config := {}, validators := .bySchema SchemaDocument.engine, probe := fun _ => false
        handlers := fun path => .error (.notFound path), authorizers := fun path => .error (.notFound path)
        defaultHandler := some .echo }
    let api : Description :=
      { basePath := some "/v1", securityDefinitions := some [("key", {})], security := some (.requirements [[("key", [])]]) }
    let pets : String × PathItem := ("/pets", { get := some {}, security := some (.requirements []) })
    let owners : String × PathItem := ("/owners", { put := some {} })
    ∃ atPets atOwners, (c.compile { api with paths := [pets, owners] }).value = .ok [atPets, atOwners] ∧
      (c.compile { api with paths := [owners, pets] }).value = .ok [atOwners, atPets] ∧
      (c.compile { api with paths := [owners] }).value = .ok [atOwners] := by
  intro c api pets owners
  obtain ⟨-, -, permuted⟩ := compile_paths c api [pets] [owners]
  obtain ⟨block, single, both, swapped⟩ := permuted [owners, pets] (List.Perm.swap ..) _ rfl
  have atPets : [_] = block pets := Except.ok.inj (single pets (by simp))
  have atOwners : [_] = block owners := Except.ok.inj (single owners (by simp))
  refine ⟨_, _, rfl, swapped.trans ?_, (single owners (by simp)).trans (congrArg Except.ok atOwners.symm)⟩
  rw [List.flatMap_cons, List.flatMap_cons, ← atPets, ← atOwners]
  rfl

end Compiler

end RouteTable
