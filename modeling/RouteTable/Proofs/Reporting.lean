import RouteTable.Proofs.Inquiries

/-!
# What may be reported

`Traced.Only P` says of a computation that every event it reports satisfies `P`.  Resolving references, compiling
requirements and making validators from schemas report nothing in the name of the compiler (`Event.Aside`).
-/

namespace RouteTable

variable {α β ε : Type} {P Q : Event → Prop}

namespace Traced

/-- Every event that is reported satisfies a condition. -/
structure Only (P : Event → Prop) (t : Traced α) : Prop where
  holds : ∀ e ∈ t.events, P e

theorem Only.mono {t : Traced α} (h : t.Only P) (imp : ∀ e, P e → Q e) : t.Only Q :=
  ⟨fun e mem => imp e (h.holds e mem)⟩

theorem only_pure (a : α) : (pure a : Traced α).Only P := ⟨fun _ mem => nomatch mem⟩

theorem only_report {e : Event} (h : P e) : (report e).Only P := ⟨fun _ mem => List.mem_singleton.1 mem ▸ h⟩

theorem Only.bind {t : Traced α} {f : α → Traced β} (ht : t.Only P) (hf : ∀ a, (f a).Only P) : (t >>= f).Only P := by
  refine ⟨fun e mem => ?_⟩
  rw [events_bind, List.mem_append] at mem
  exact mem.elim (ht.holds e) ((hf _).holds e)

theorem only_report_then {e : Event} {a : α} (h : P e) : (report e >>= fun _ => pure a).Only P :=
  (only_report h).bind fun _ => only_pure _

theorem only_collect {step : α → Traced (Except ε β)} (h : ∀ a, (step a).Only P) (xs : List α) :
    (collect step xs).Only P := by
  induction xs with
  | nil => exact only_pure _
  | cons x xs ih =>
    refine (h x).bind fun outcome => ?_
    cases outcome with
    | error e => exact only_pure _
    | ok b =>
      refine ih.bind fun outcomes => ?_
      cases outcomes <;> exact only_pure _

theorem only_mapM {step : α → Traced β} (h : ∀ a, (step a).Only P) (xs : List α) : (xs.mapM step).Only P := by
  suffices loop : ∀ done, (List.mapM.loop step xs done).Only P from loop []
  induction xs with
  | nil => exact fun _ => only_pure _
  | cons x xs ih => exact fun _ => (h x).bind fun _ => ih _

end Traced

/-- An event that the compiler does not report itself. -/
def Event.Aside (e : Event) : Prop := e.component ≠ .compiler

open Traced

theorem only_resolve (kind : ModuleKind) (l : Loaders) (cwd basedir : String) (reference : Reference kind.Value)
    (method : Option Method) : (resolve kind l cwd basedir reference method).Only Event.Aside := by
  cases reference with
  | bound value => exact only_pure _
  | module path =>
    rw [resolve_module]
    refine (only_report nofun).bind fun _ => ?_
    cases l.load kind (Path.absolute cwd basedir path) with
    | error e => exact only_report_then nofun
    | ok loaded =>
      cases loaded with
      | callable value => exact only_pure _
      | exports entries =>
        cases method with
        | none => exact only_pure _
        | some m =>
          dsimp only
          cases OrderedMap.get? entries m.key with
          | none => exact only_report_then nofun
          | some value => exact only_pure _

namespace SecurityContext

theorem only_authorizerFor (ctx : SecurityContext) (name : String) (scheme : SecurityScheme) :
    (ctx.authorizerFor name scheme).Only Event.Aside := by
  rw [authorizerFor_eq]
  cases scheme.authorize with
  | some reference =>
    refine (only_resolve ..).bind fun found => ?_
    cases found with
    | none => exact only_report_then nofun
    | some authorizer => exact only_pure _
  | none =>
    cases ctx.securityRoot with
    | none => exact only_pure _
    | some root => exact only_resolve ..

theorem only_entry (ctx : SecurityContext) (definitions : OrderedMap String SecurityScheme) (path : String)
    (method : Method) (request : String × List Json) :
    (ctx.entry definitions path method request).Only Event.Aside := by
  rw [entry_eq]
  cases OrderedMap.get? definitions request.1 with
  | none => exact only_pure _
  | some scheme =>
    dsimp only
    cases request.2.mapM (scope scheme request.1 path method) with
    | error e => exact only_pure _
    | ok scopes => exact (only_authorizerFor ..).bind fun _ => only_report_then nofun

theorem only_requirements (ctx : SecurityContext) (definitions : Option (OrderedMap String SecurityScheme))
    (declared : Option SecurityDeclaration) (path : String) (method : Method) :
    (ctx.requirements definitions declared path method).Only Event.Aside := by
  rw [requirements_eq]
  split
  · refine (only_collect (fun object => only_collect (fun request => ?_) object) _).bind fun _ => only_pure _
    exact only_entry ..
  · exact only_pure _

end SecurityContext

theorem Validation.only_bySchema (engine : SchemaEngine) (parameters : List Parameter) (outline : RouteOutline) :
    (Validation.bySchema engine parameters outline).Only Event.Aside := by
  refine only_mapM (fun p => ?_) _
  rw [Validator.bySchema]
  cases p.valueSchema? with
  | none => exact only_pure _
  | some schema =>
    dsimp only
    cases engine schema with
    | ok complaints => exact only_pure _
    | error reason => exact only_report_then nofun

end RouteTable
