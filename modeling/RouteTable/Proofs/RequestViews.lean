import RouteTable.Compiler
import RouteTable.Policy
import RouteTable.Schema.Engine

/-!
# What authorizers and handlers read

Authorizers read a request through its credentials, validators and handlers through the request itself.  Both read the
first header of a name.  Of a query name authorizers read the first value and handlers the last, so they agree on a name
exactly when its first value is its last (`Request.views_agree_iff`), and a policy of API keys then judges the key that is
served.  Where they do not agree, a request is authorized with one key and served with another
(`Request.authorized_with_another_key`).
-/

namespace RouteTable

namespace Pairs

/-- The values under a name, in order. -/
def valuesOf (pairs : Pairs) (name : String) : List String := (pairs.filter (·.1 = name)).map (·.2)

theorem first?_eq_head? (pairs : Pairs) (name : String) : pairs.first? name = (pairs.valuesOf name).head? := by
  rw [first?, valuesOf, List.head?_map, List.head?_filter]

theorem last?_eq_getLast? (pairs : Pairs) (name : String) : pairs.last? name = (pairs.valuesOf name).getLast? := by
  rw [last?, valuesOf, List.getLast?_map, List.getLast?_filter]

theorem firstFolded?_eq_head? (pairs : Pairs) (name : String) :
    pairs.firstFolded? name = ((pairs.filter (Text.sameFolded ·.1 name)).map (·.2)).head? := by
  rw [firstFolded?, List.head?_map, List.head?_filter]

end Pairs

namespace Policy

theorem accepts_apiKey_iff {place : KeyPlace} {name : String} {keys scopes : List String} {cred : Credentials} :
    (apiKey place name keys).accepts scopes cred = true ↔ ∃ key ∈ keys, key? place name cred = some key := by
  rw [accepts, Option.any_eq_true]
  constructor
  · rintro ⟨key, found, known⟩
    exact ⟨key, List.contains_iff_mem.1 known, found⟩
  · rintro ⟨key, known, found⟩
    exact ⟨key, found, List.contains_iff_mem.2 known⟩

/-- Whatever the keys of a policy are, it accepts a request exactly when the value that is served is one of them. -/
def Judges (place : KeyPlace) (name : String) (cred : Credentials) (served : Option String) : Prop :=
  ∀ keys scopes, (apiKey place name keys).accepts scopes cred = true ↔ ∃ key ∈ keys, served = some key

/-- Policies judge the value that is served exactly when this is the value that they read. -/
theorem judges_iff {place : KeyPlace} {name : String} {cred : Credentials} {served : Option String} :
    Judges place name cred served ↔ key? place name cred = served := by
  constructor
  · intro h
    -- a policy with one key tells whether this key is read, and so whether it is served
    have single : ∀ key, key? place name cred = some key ↔ served = some key := by
      intro key
      have := h [key] []
      rw [accepts_apiKey_iff] at this
      simpa using this
    exact Option.ext single
  · rintro rfl keys scopes
    exact accepts_apiKey_iff

end Policy

namespace Request

/-- Authorizers and handlers read the same header of a name, and so do validators.  They read the same query value
exactly when the first value of the name is the last, and then, and only then, does every policy of API keys in the query
judge the value that is served. -/
theorem views_agree_iff (r : Request) (name : String) (p : Parameter) :
    r.credentials.header? name = r.header? name ∧
    r.parameter? { p with name, location := .header } = (r.credentials.header? name).map .string ∧
    Policy.Judges .header name r.credentials (r.header? name) ∧
    (r.credentials.query? name = r.query? name ↔
      (r.query.valuesOf name).head? = (r.query.valuesOf name).getLast?) ∧
    (r.parameter? { p with name, location := .query } = (r.credentials.query? name).map .string ↔
      (r.query.valuesOf name).head? = (r.query.valuesOf name).getLast?) ∧
    (Policy.Judges .query name r.credentials (r.query? name) ↔
      (r.query.valuesOf name).head? = (r.query.valuesOf name).getLast?) := by
  have query : r.credentials.query? name = r.query? name ↔
      (r.query.valuesOf name).head? = (r.query.valuesOf name).getLast? := by
    rw [Credentials.query?, credentials, Request.query?, Pairs.first?_eq_head?, Pairs.last?_eq_getLast?]
  have validated : r.parameter? { p with name, location := .query } = (r.credentials.query? name).map .string ↔
      r.credentials.query? name = r.query? name := by
    have raw : r.parameter? { p with name, location := .query } = (r.query? name).map .string := rfl
    rw [raw, eq_comm, (Option.map_injective fun _ _ => Json.string.inj).eq_iff]
  exact ⟨rfl, rfl, Policy.judges_iff.2 rfl, query, validated.trans query, Policy.judges_iff.trans query⟩

/-- The key that is known comes first and lets the request pass, and the route is served with the other one. -/
theorem authorized_with_another_key :
    let policy : Policy := .apiKey .query "key" ["k1"]
    let c : Compiler :=
      { config := { securityRoot := some "security" }, validators := .bySchema SchemaDocument.engine
        handlers := fun path => .error (.notFound path), probe := fun _ => false
        authorizers := fun _ => .ok (.callable (policy.authorizer (.given "policy"))), defaultHandler := some .echo }
    let api : Description :=
      { securityDefinitions := some [("key", { kind := "apiKey" })], security := some (.requirements [[("key", [])]])
        paths := [("/pets", { get := some { parameters := [{ name := "key", location := .query }] } })] }
    let r : Request := { query := [("key", "k1"), ("key", "k2")] }
    r.credentials.query? "key" = some "k1" ∧ r.query? "key" = some "k2" ∧
      ∃ route, (c.compile api).value = .ok [route] ∧ route.authorize r.credentials = true ∧
        route.validate r = .ok [("key", .string "k2")] :=
  ⟨rfl, rfl, _, rfl, rfl, rfl⟩

end Request

end RouteTable
