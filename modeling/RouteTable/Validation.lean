import RouteTable.Route

/-!
# Making validators

A validation makes the validators of a route from its merged parameters.  `Validation.bySchema` checks values against
the schema that a parameter declares (`Parameter.valueSchema?`); a parameter whose schema cannot be used is checked for
presence only, and that is reported.  What a schema means is left to a `SchemaEngine`.
-/

namespace RouteTable

/-- Makes the validators of a route from its merged parameters. -/
abbrev Validation := List Parameter → RouteOutline → Traced (List Validator)

/-- Answers what a schema finds wrong with a value, or why the schema cannot be used. -/
abbrev SchemaEngine := Json → Except String (Json → List String)

namespace Parameter

/-- Constraints that carry over into a schema, in this order. -/
def schemaKeywords : List String :=
  ["maximum", "minimum", "exclusiveMaximum", "exclusiveMinimum", "maxLength", "minLength", "pattern", "maxItems",
    "minItems", "uniqueItems", "multipleOf"]

/-- A flag next to a bound makes the bound exclusive; a flag without a bound, or one that is off, is dropped. -/
def applyFlag (flag bound : String) (fields : OrderedMap String Json) : OrderedMap String Json :=
  match OrderedMap.get? fields flag with
  | some (.bool true) =>
    match OrderedMap.get? fields bound with
    | some limit => OrderedMap.put (OrderedMap.swapRemove fields bound) flag limit
    | none => OrderedMap.swapRemove fields flag
  | some (.bool false) => OrderedMap.swapRemove fields flag
  | _ => fields

/-- The schema fields of a parameter outside the body. -/
def schemaFields (p : Parameter) : OrderedMap String Json :=
  let fields := entry "type" (p.kind.map .string) ++ entry "items" p.items
    ++ entry "enum" (p.allowed.map .array)
    ++ schemaKeywords.flatMap fun key => entry key (OrderedMap.get? p.constraints key)
  applyFlag "exclusiveMinimum" "minimum" (applyFlag "exclusiveMaximum" "maximum" fields)

/-- The schema of a parameter, if there is more to check than presence. -/
def valueSchema? (p : Parameter) : Option Json :=
  if p.location = .body then p.schema
  else if p.kind = some "file" then none
  else match p.schemaFields with
    | [] => none
    | fields => some (.object fields)

end Parameter

namespace Validator

/-- All complaints in one text. -/
def checkOf (complaints : Json → List String) : ValueCheck := fun v =>
  match complaints v with
  | [] => .ok ()
  | texts => .error ("; ".intercalate texts)

def bySchema (engine : SchemaEngine) (route : RouteOutline) (p : Parameter) : Traced Validator :=
  match p.valueSchema? with
  | none => pure (presence p)
  | some schema =>
    match engine schema with
    | .ok complaints => pure ⟨p, some (checkOf complaints)⟩
    | .error reason => do
      Traced.report (.schemaRefused route.path route.method p.label reason)
      pure (presence p)

end Validator

namespace Validation

def presenceOnly : Validation := fun ps _ => pure (ps.map Validator.presence)

def bySchema (engine : SchemaEngine) : Validation := fun ps route => ps.mapM (Validator.bySchema engine route)

end Validation

end RouteTable
