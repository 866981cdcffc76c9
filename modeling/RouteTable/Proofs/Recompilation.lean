import RouteTable.Compiler.OnDisk
import RouteTable.Proofs.Remembering
import RouteTable.Proofs.SameTable
import RouteTable.Schema.Engine

/-!
# Compiling again from the same disk

A compilation hands the store on from load to load.  The store that it leaves answers all of its loads without reading a
module, so a second compilation answers what the first one answered, handlers and authorizers included, and reads
nothing; its routes equal those of the first (`Compiler.compileOnDisk_twice`).
-/

namespace RouteTable.Compiler

variable (engine : SchemaEngine) (d : Disk) (s : ModuleStore) (config : Config) (tree : Option HandlerTree)
  (defaultHandler : Option Handler) (api : Description)

/-- The same failure, or tables of the same length whose routes are equal one by one. -/
inductive SameOutcome : Except CompileError (List Route) → Except CompileError (List Route) → Prop
  | error (e : CompileError) : SameOutcome (.error e) (.error e)
  | ok {routes again : List Route} (length : routes.length = again.length)
      (same : List.Forall₂ (fun a b => a.same b) routes again) : SameOutcome (.ok routes) (.ok again)

/-- A compilation answers what a compiler answers that has the modules of the store after it. -/
theorem compileOnDisk_fst :
    let after := (compileOnDisk engine d s config tree defaultHandler api).2
    (compileOnDisk engine d s config tree defaultHandler api).1 =
      (({ Setup.onDisk engine d config tree defaultHandler, after.loaders d with } : Compiler).compile api).value :=
  (congrArg Traced.value (Inquiry.run_loaders d s _)).symm

/-- Whatever a store has loaded before, from whatever disk, the second of two compilations from the same disk has the
outcome of the first and leaves the store as it is. -/
theorem compileOnDisk_twice (proper : api.Proper) :
    let first := compileOnDisk engine d s config tree defaultHandler api
    let second := compileOnDisk engine d first.2 config tree defaultHandler api
    SameOutcome first.1 second.1 ∧ second.2 = first.2 := by
  intro first second
  have again : second = first := congrArg Traced.value (Inquiry.runOn_runOn d s _)
  rw [again]
  refine ⟨?_, rfl⟩
  cases outcome : first.1 with
  | error e => exact .error e
  | ok routes =>
    have compiled := (compileOnDisk_fst engine d s config tree defaultHandler api).symm.trans outcome
    exact .ok rfl (List.forall₂_same.2 (same_refl_of_compile_ok rfl proper compiled))

/-- The handler of the one route is read during the first compilation and remembered for the second. -/
theorem compileOnDisk_twice_pets :
    let d : Disk := { entries := [("pets.yaml", .file ⟨"status: 200".toUTF8, 0⟩)] }
    let api : Description := { paths := [("/pets", { get := some { handler := some (.module "pets") } })] }
    let first := compileOnDisk SchemaDocument.engine d {} {} none none api
    let second := compileOnDisk SchemaDocument.engine d first.2 {} none none api
    api.Proper ∧ first.1.toOption.map (List.map fun r => r.handler.origin) = some [.loaded 0] ∧ first.2.made = 1 ∧
      SameOutcome first.1 second.1 ∧ second.2 = first.2 := by
  intro d api first second
  have proper : api.Proper := by
    refine ⟨?_, by simp [api], by simp [api], by simp [api]⟩
    intro e he
    obtain rfl := List.mem_singleton.1 he
    refine ⟨?_, by simp, by simp⟩
    intro verb o ho
    cases verb <;> simp [PathItem.operation?] at ho
    subst ho
    exact ⟨by simp, by simp, by simp, by simp⟩
  refine ⟨proper, ?_, ?_, compileOnDisk_twice SchemaDocument.engine d {} {} none none api proper⟩
  · decide +kernel
  · decide +kernel

end RouteTable.Compiler
