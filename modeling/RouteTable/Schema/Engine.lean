import RouteTable.Schema.Loading
import RouteTable.Validation

/-!
# Schemas as an engine

`SchemaDocument.engine` loads a schema and answers what the document finds wrong.  It is one engine among others: it
knows the keywords of `Keyword` and the patterns of `Pattern.read?`, and does not enforce `unevaluatedItems`,
`unevaluatedProperties`, `dependentSchemas`, anchors and what drafts before 2020-12 say of `items`.  Compilation and
validation take any `SchemaEngine`.
-/

namespace RouteTable

def SchemaDocument.engine : SchemaEngine := fun schema =>
  match load schema with
  | .ok d => .ok d.errors
  | .error fault => .error fault.message

end RouteTable
