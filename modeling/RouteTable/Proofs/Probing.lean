import RouteTable.Compiler.OnDisk
import RouteTable.Proofs.OperationLog
import RouteTable.Proofs.Remembering
import RouteTable.Schema.Engine

/-!
# Modules that exist and modules that load

The compiler first asks whether a module exists and then loads it, in two different ways.  A registry has the modules
that it loads (`Registry.exists_iff`).  A disk has the modules whose load finds a file, whatever was loaded before and
whatever the file says (`ModuleStore.load_eq_notFound_iff`).  So without a handler root of its own, the compiler reports
a module as missing only when loading it answers that it is not found (`Compiler.missing_iff_notFound`).
-/

namespace RouteTable

theorem Registry.exists_iff {α : Type} (r : Registry α) (path : String) :
    r.exists_ path = true ↔ ∃ m, r.load path = .ok m := by
  unfold exists_ load
  cases r.find? path with
  | none => exact ⟨fun h => (nomatch h), fun ⟨_, h⟩ => (nomatch h)⟩
  | some m => exact ⟨fun _ => ⟨m, rfl⟩, fun _ => rfl⟩

theorem Registry.load_eq_notFound_iff {α : Type} (r : Registry α) (path : String) :
    r.load path = .error (.notFound path) ↔ r.exists_ path = false := by
  unfold exists_ load
  cases r.find? path with
  | none => exact ⟨fun _ => rfl, fun _ => rfl⟩
  | some m => exact ⟨fun h => (nomatch h), fun h => (nomatch h)⟩

/-- A disk has a module where a load finds its file. -/
theorem Disk.hasModule_eq_false_iff (d : Disk) (path : String) : d.hasModule path = false ↔ d.locate? path = none := by
  rw [hasModule, locate?, List.any_eq_false, List.findSome?_eq_none_iff]
  simp only [isFile, Option.not_isSome_iff_eq_none, Option.map_eq_none_iff]

/-- A file that does not become a module is there all the same. -/
theorem ModuleKind.build_ne_notFound (kind : ModuleKind) (p : String) (first : Nat) (f : File) (missing : String) :
    kind.build p first f ≠ .error (.notFound missing) := by
  have document : f.tree p ≠ .error (.notFound missing) := by
    rw [File.tree]
    cases f.text? with
    | none => rintro ⟨⟩
    | some text =>
      dsimp only
      split <;> rintro ⟨⟩
  rw [build_eq, Ne, map_eq_error_iff]
  -- both kinds read the document first, and then complain at most about what it says
  cases kind
  all_goals
    rw [content, bind_eq_error_iff]
    rintro (h | ⟨t, -, h⟩)
    · exact document h
    · split at h <;> cases h

/-- A load of a file that is there does not answer that nothing was found. -/
theorem Cache.Loads.locate?_eq_none {α : Type} {build : Cache.Build α} {d : Disk} {cache after : Cache α}
    {made total : Nat} {path missing : String} (found : ∀ p first f, build p first f ≠ .error (.notFound missing))
    (h : Loads build d cache made path (.error (.notFound missing)) after total) :
    missing = path ∧ d.locate? path = none := by
  cases h with
  | missing none => exact ⟨rfl, none⟩
  | failed located stale refused => exact absurd refused (found _ _ _)

/-- What was loaded before has no say in whether a file is found. -/
theorem ModuleStore.load_eq_notFound_iff (d : Disk) (s : ModuleStore) (kind : ModuleKind) (path missing : String) :
    (s.load d kind path).1 = .error (.notFound missing) ↔ missing = path ∧ d.hasModule path = false := by
  rw [Disk.hasModule_eq_false_iff]
  constructor
  · intro h
    have run := s.loads d kind path
    rw [h] at run
    exact run.locate?_eq_none fun p first f => kind.build_ne_notFound p first f missing
  · rintro ⟨rfl, none⟩
    rw [load_fst, Cache.load, none]

namespace Compiler

variable {c : Compiler} {api : Description}

theorem handlerRoot_eq (plain : c.config.handlerRoot = none) : c.handlerRoot = c.basedir := by
  rw [Setup.handlerRoot, Config.handlerRootFrom, plain]

/-- While the handler of an endpoint is looked for, a module is reported missing exactly if the endpoint names it and it
does not exist under the handler root. -/
theorem missing_mem_handlerFor_iff {e : Endpoint} {location : String} {method : Method} :
    .handlerModuleMissing location method ∈ (c.handlerFor e.path e.method e.operation).events ↔
      method = e.method ∧ ∃ path, e.operation.handler = some (.module path) ∧
        location = Path.absolute c.cwd c.handlerRoot path ∧ c.probe location = false := by
  have member : ∀ events, .handlerModuleMissing location method ∈ ownEvents events ↔
      .handlerModuleMissing location method ∈ events := fun events =>
    mem_ownEvents.trans (and_iff_left rfl)
  rw [← member]
  constructor
  · intro mem
    by_cases honoured : ∃ reference handler, e.operation.handler = some reference ∧ c.Honours e.method reference handler
    · obtain ⟨reference, handler, declared, honoured⟩ := honoured
      rw [ownEvents_handlerFor_of_honours declared honoured] at mem
      cases List.mem_singleton.1 mem
    · obtain ⟨warnings, warned, own⟩ := exists_warns_handlerFor fun reference handler declared h =>
        honoured ⟨reference, handler, declared, h⟩
      have warning : .handlerModuleMissing location method ∈ warnings := by
        rw [own, List.mem_append, Option.mem_toList, Option.map_eq_some_iff] at mem
        exact mem.resolve_right fun ⟨_, _, h⟩ => nomatch h
      cases warned with
      | none undeclared => cases warning
      | missing path declared absent =>
        cases List.mem_singleton.1 warning
        exact ⟨rfl, path, declared, rfl, absent⟩
      | unresolved path declared present ignored => cases List.mem_singleton.1 warning
  · rintro ⟨rfl, path, declared, rfl, absent⟩
    have ignored : ∀ reference handler, e.operation.handler = some reference →
        ¬ c.Honours e.method reference handler := by
      intro reference handler named honoured
      obtain rfl := Option.some.inj (declared.symm.trans named)
      cases honoured with
      | module _ _ present resolved => exact absurd present (by simp [absent])
    obtain ⟨warnings, warned, own⟩ := exists_warns_handlerFor ignored
    rw [own]
    refine List.mem_append_left _ ?_
    cases warned with
    | none undeclared => cases undeclared.symm.trans declared
    | missing other named _ =>
      cases declared.symm.trans named
      exact List.mem_singleton_self _
    | unresolved other named present =>
      cases declared.symm.trans named
      exact absurd present (by simp [absent])

/-- The compiler has one of the pairs of a loader and a check that belong together: a registry, or the disk with the
modules loaded so far. -/
inductive StockModules (c : Compiler) : Prop
  | registry (r : Registry Handler) (handlers : c.handlers = r.load) (probe : c.probe = r.exists_)
  | disk (d : Disk) (s : ModuleStore) (handlers : c.handlers = (s.loaders d).handlers) (probe : c.probe = d.hasModule)

theorem StockModules.probe_eq_false_iff (h : c.StockModules) (path : String) :
    c.probe path = false ↔ c.handlers path = .error (.notFound path) := by
  cases h with
  | registry r handlers probe => rw [handlers, probe, r.load_eq_notFound_iff]
  | disk d s handlers probe =>
    rw [handlers, probe]
    exact (((s.load_eq_notFound_iff d .handler path path).trans (and_iff_right rfl))).symm

/-- What is reported of a missing module comes from an endpoint whose handler is looked for. -/
theorem exists_of_missing_mem_compile {location : String} {method : Method}
    (mem : .handlerModuleMissing location method ∈ (c.compile api).events)
    (others : ∀ parameters outline, .handlerModuleMissing location method ∉ (c.validators parameters outline).events) :
    ∃ e ∈ api.endpoints, .handlerModuleMissing location method ∈ (c.handlerFor e.path e.method e.operation).events := by
  obtain ⟨site, hs, visited⟩ : ∃ site ∈ api.sites,
      .handlerModuleMissing location method ∈ (c.compileSite api site).events := by
    refine Traced.mem_events_collect ?_
    rw [compile_eq, Traced.events_bind, List.mem_append] at mem
    refine mem.resolve_right fun after => ?_
    split at after
    · cases after
    · cases List.mem_singleton.1 after
  refine ⟨site.endpoint, Description.endpoints_eq api ▸ List.mem_map_of_mem hs, ?_⟩
  have own {events : List Event} (h : ownEvents events = []) : .handlerModuleMissing location method ∉ events := by
    intro member
    have : .handlerModuleMissing location method ∈ ownEvents events := mem_ownEvents.2 ⟨member, rfl⟩
    rw [h] at this
    cases this
  cases secured : c.compiledSecurity api site with
  | error err =>
    have failed : (c.compileSite api site).value = .error err := by
      rw [value_compileSite, secured]
      rfl
    exact absurd visited (own (ownEvents_compileSite_of_error failed))
  | ok requirements =>
    have accounts := c.accounts_visit api site requirements
    rw [events_compileSite secured, Visit.events, List.append_assoc, List.mem_append, List.mem_append] at visited
    have handling := (visited.resolve_left (own accounts.security)).resolve_left (others _ _)
    rw [visit, List.mem_append] at handling
    refine handling.resolve_right fun dropped => ?_
    split at dropped
    · cases dropped
    · cases List.mem_singleton.1 dropped

theorem StockModules.exists_of_missing_mem_compile (stock : c.StockModules) (plain : c.config.handlerRoot = none)
    {location : String} {method : Method} (mem : .handlerModuleMissing location method ∈ (c.compile api).events)
    (others : ∀ parameters outline, .handlerModuleMissing location method ∉ (c.validators parameters outline).events) :
    ∃ e ∈ api.endpoints, e.method = method ∧ ∃ path, e.operation.handler = some (.module path) ∧
      location = Path.absolute c.cwd c.basedir path ∧ c.handlers location = .error (.notFound location) := by
  obtain ⟨e, he, reported⟩ := Compiler.exists_of_missing_mem_compile mem others
  obtain ⟨rfl, path, declared, rfl, absent⟩ := missing_mem_handlerFor_iff.1 reported
  rw [handlerRoot_eq plain] at absent ⊢
  exact ⟨e, he, rfl, path, declared, rfl, (stock.probe_eq_false_iff _).1 absent⟩

/-- Whether a module exists and whether it loads agree, for a registry and for a disk with any modules loaded from it
before, also from files that have been changed or removed since.  Under such a pair, and without a handler root of its
own, the compiler reports the `x-handler` of an endpoint as missing exactly if loading it answers that it is not found,
and there are no such reports about anything else.  In particular, a compilation from a disk reports as missing only what
the disk has no file for, whatever was loaded before and during the compilation. -/
theorem missing_iff_notFound :
    (∀ (α : Type) (r : Registry α) (path : String), r.exists_ path = true ↔ ∃ m, r.load path = .ok m) ∧
    (∀ (d : Disk) (s : ModuleStore) (kind : ModuleKind) (path : String),
      d.hasModule path = true ↔ ∀ missing, (s.load d kind path).1 ≠ .error (.notFound missing)) ∧
    (∀ c : Compiler, c.StockModules → c.config.handlerRoot = none →
      (∀ (e : Endpoint) (path : String), e.operation.handler = some (.module path) →
        (.handlerModuleMissing (Path.absolute c.cwd c.basedir path) e.method ∈
            (c.handlerFor e.path e.method e.operation).events ↔
          c.handlers (Path.absolute c.cwd c.basedir path) = .error (.notFound (Path.absolute c.cwd c.basedir path)))) ∧
      ∀ api location method, .handlerModuleMissing location method ∈ (c.compile api).events →
        (∀ parameters outline,
          .handlerModuleMissing location method ∉ (c.validators parameters outline).events) →
        ∃ e ∈ api.endpoints, e.method = method ∧ ∃ path, e.operation.handler = some (.module path) ∧
          location = Path.absolute c.cwd c.basedir path ∧ c.handlers location = .error (.notFound location)) ∧
    ∀ (engine : SchemaEngine) (d : Disk) (s : ModuleStore) (config : Config) (tree : Option HandlerTree)
      (defaultHandler : Option Handler) (api : Description) (location : String) (method : Method),
      let setup := Setup.onDisk engine d config tree defaultHandler
      config.handlerRoot = none → .handlerModuleMissing location method ∈ ((setup.compile api).runOn d s).events →
        ∃ e ∈ api.endpoints, e.method = method ∧ ∃ path, e.operation.handler = some (.module path) ∧
          location = Path.absolute d.cwd setup.basedir path ∧
          (s.load d .handler location).1 = .error (.notFound location) := by
  refine ⟨fun _ => Registry.exists_iff, fun d s kind path => ?_, fun c stock plain => ⟨fun e path declared => ?_,
    fun api location method mem others => stock.exists_of_missing_mem_compile plain mem others⟩, ?_⟩
  · constructor
    · intro there missing h
      rw [s.load_eq_notFound_iff, there] at h
      cases h.2
    · intro h
      rw [← Bool.not_eq_false]
      exact fun absent => h path ((s.load_eq_notFound_iff ..).2 ⟨rfl, absent⟩)
  · rw [missing_mem_handlerFor_iff, ← stock.probe_eq_false_iff, handlerRoot_eq plain]
    constructor
    · rintro ⟨-, other, named, location, absent⟩
      exact absent
    · exact fun absent => ⟨rfl, path, declared, rfl, absent⟩
  · intro engine d s config tree defaultHandler api location method setup plain mem
    -- the loads of the compilation are answered by the store that it leaves
    let after := ((setup.compile api).runOn d s).value.2
    let c : Compiler := { setup, after.loaders d with }
    have stock : c.StockModules := .disk d after rfl rfl
    have events : (c.compile api).events = ((setup.compile api).runOn d s).events :=
      congrArg Traced.events (Inquiry.run_loaders d s _)
    obtain ⟨e, he, same, path, declared, located, missing⟩ := stock.exists_of_missing_mem_compile plain (events ▸ mem)
      fun parameters outline reported => (Validation.only_bySchema engine parameters outline).holds _ reported rfl
    have absent := (after.load_eq_notFound_iff d .handler location location).1 missing
    exact ⟨e, he, same, path, declared, located, (s.load_eq_notFound_iff ..).2 absent⟩

/-- A module that was loaded before and is a directory by now does not exist, and loading it does not find it. -/
theorem missing_iff_notFound_replaced :
    let before : Disk := { entries := [("pets.yaml", .file ⟨"status: 200".toUTF8, 0⟩)] }
    let after : Disk := { entries := [("pets.yaml", .directory [])] }
    let s := (({} : ModuleStore).load before .handler "/pets").2
    let c : Compiler := { Setup.onDisk SchemaDocument.engine after { basedir := "/" } none none, s.loaders after with }
    let api : Description := { paths := [("/pets", { get := some { handler := some (.module "pets") } })] }
    before.hasModule "/pets" = true ∧ after.hasModule "/pets" = false ∧
      .handlerModuleMissing "/pets" ⟨"GET"⟩ ∈ (c.compile api).events ∧
      c.handlers "/pets" = .error (.notFound "/pets") := by
  intro before after s c api
  have stock : c.StockModules := .disk after s rfl rfl
  have silent : ∀ parameters outline,
      .handlerModuleMissing "/pets" ⟨"GET"⟩ ∉ (c.validators parameters outline).events :=
    fun parameters outline mem => (Validation.only_bySchema SchemaDocument.engine parameters outline).holds _ mem rfl
  have gone : after.hasModule "/pets" = false := by decide +kernel
  have reported : .handlerModuleMissing "/pets" ⟨"GET"⟩ ∈ (c.compile api).events := by decide +kernel
  obtain ⟨e, -, -, path, -, -, missing⟩ :=
    (missing_iff_notFound.2.2.1 c stock rfl).2 api "/pets" ⟨"GET"⟩ reported silent
  exact ⟨by decide +kernel, gone, reported, missing⟩

end Compiler

end RouteTable
