import RouteTable.Proofs.Inquiries
import RouteTable.Proofs.ModuleLoading

/-!
# Loads that are done again

On a disk that stays as it is, a load settles what its path is answered from then on (`ModuleStore.settled_load`,
`ModuleStore.Settled.after_load`): a module that was read stays in the store, and what could not be loaded cannot be
loaded again.  So an inquiry that is answered again from the store it left answers the same and leaves the store as it is
(`Inquiry.runOn_runOn`), and this store answers all through the inquiry like loaders that never change
(`Inquiry.run_loaders`).
-/

namespace RouteTable

variable {d : Disk}

namespace Cache

variable {α : Type} {build : Build α} {cache : Cache α} {path : String} {answer : Except LoadError (Module α)}

/-- A load answers from what is cached or fails, whatever numbers are taken. -/
inductive Settled (build : Build α) (d : Disk) (cache : Cache α) (path : String) : Except LoadError (Module α) → Prop
  | missing (none : d.locate? path = none) : Settled build d cache path (.error (.notFound path))
  | current {p : String} {f : File} {cached : Cached α} (located : d.locate? path = some (p, f))
      (known : OrderedMap.get? cache (Path.parts p) = some cached) (stamp : cached.stamp = f.stamp) :
      Settled build d cache path (.ok cached.module)
  | failed {p : String} {f : File} {e : LoadError} (located : d.locate? path = some (p, f))
      (stale : cache.Stale (Path.parts p) f) (refused : ∀ first, build p first f = .error e) :
      Settled build d cache path (.error e)

theorem Settled.load_eq (h : Settled build d cache path answer) (made : Nat) :
    cache.load build d made path = (answer, cache, made) := by
  cases h with
  | missing none => simp only [load, none]
  | current located known stamp => exact load_of_current located known stamp
  | failed located stale refused => rw [load_of_stale located stale, load.read, refused]

end Cache

namespace ModuleKind

variable {kind : ModuleKind} {cache after : Cache kind.Value} {made total : Nat} {path again : String}
  {answer other : Except LoadError (Module kind.Value)}

theorem settled_of_loads (h : Cache.Loads kind.build d cache made path answer after total) :
    Cache.Settled kind.build d after path answer := by
  cases h with
  | missing none => exact .missing none
  | current located known stamp => exact .current located known stamp
  | read located stale built => exact .current located (OrderedMap.get?_put_self ..) rfl
  | failed located stale refused => exact .failed located stale fun first => build_eq_error refused first

theorem settled_after_loads (h : Cache.Settled kind.build d cache path answer)
    (loads : Cache.Loads kind.build d cache made again other after total) :
    Cache.Settled kind.build d after path answer := by
  cases h with
  | missing none => exact .missing none
  | current located known stamp =>
    exact .current located (loads.get?_eq (Disk.file?_of_locate? located) known stamp) stamp
  | @failed p f e located stale refused =>
    cases loads with
    | missing _ => exact .failed located stale refused
    | current _ _ _ => exact .failed located stale refused
    | failed _ _ _ => exact .failed located stale refused
    | @read q g m relocated _ built =>
      refine .failed located (fun cached known => ?_) refused
      by_cases same : Path.parts p = Path.parts q
      · -- the file that failed is the one that was read
        obtain rfl : f = g :=
          Disk.eq_of_file? same (Disk.file?_of_locate? located) (Disk.file?_of_locate? relocated)
        obtain ⟨n, reads, -⟩ := build_alike same.symm built 0
        cases (refused 0).symm.trans reads
      · exact stale cached (by rwa [OrderedMap.get?_put_of_ne _ same] at known)

end ModuleKind

namespace ModuleStore

variable {s t u : ModuleStore} {kind : ModuleKind} {path : String} {answer : Except LoadError (Module kind.Value)}

/-- A load of a path answers without reading a module. -/
def Settled (d : Disk) (s : ModuleStore) (kind : ModuleKind) (path : String)
    (answer : Except LoadError (Module kind.Value)) : Prop :=
  Cache.Settled kind.build d (s.cache kind) path answer

theorem Settled.load_eq (h : s.Settled d kind path answer) : s.load d kind path = (answer, s) :=
  s.load_eq_of_eq d (Cache.Settled.load_eq h s.made)

theorem settled_load (d : Disk) (s : ModuleStore) (kind : ModuleKind) (path : String) :
    (s.load d kind path).2.Settled d kind path (s.load d kind path).1 :=
  ModuleKind.settled_of_loads (s.loads d kind path)

theorem Settled.after_load (h : s.Settled d kind path answer) (other : ModuleKind) (again : String) :
    (s.load d other again).2.Settled d kind path answer := by
  by_cases same : kind = other
  · subst same
    exact ModuleKind.settled_after_loads h (s.loads d kind again)
  · rw [Settled, s.cache_load_of_ne d same]
    exact h

/-- What is settled in a store is settled in another one. -/
def Extends (d : Disk) (s t : ModuleStore) : Prop :=
  ∀ kind path answer, s.Settled d kind path answer → t.Settled d kind path answer

theorem extends_load (d : Disk) (s : ModuleStore) (kind : ModuleKind) (path : String) :
    s.Extends d (s.load d kind path).2 := fun _ _ _ h => h.after_load kind path

theorem Extends.trans (h : s.Extends d t) (h' : t.Extends d u) : s.Extends d u :=
  fun kind path answer settled => h' kind path answer (h kind path answer settled)

end ModuleStore

namespace Inquiry

variable {α : Type}

theorem extends_runOn (d : Disk) (s : ModuleStore) (i : Inquiry α) : s.Extends d (i.runOn d s).value.2 := by
  induction i generalizing s with
  | done a => exact fun _ _ _ h => h
  | report e rest ih => exact ih s
  | load kind path next ih => exact (s.extends_load d kind path).trans (ih _ (s.load d kind path).2)

variable {s u : ModuleStore}

theorem settled_of_extends {kind : ModuleKind} {path : String}
    {next : Except LoadError (Module kind.Value) → Inquiry α}
    (h : ((load kind path next).runOn d s).value.2.Extends d u) : u.Settled d kind path (s.load d kind path).1 :=
  h kind path _ (extends_runOn d _ (next _) kind path _ (s.settled_load d kind path))

/-- A store that has settled all that is settled in the course of an inquiry answers it alike. -/
theorem runOn_of_extends (i : Inquiry α) (h : (i.runOn d s).value.2.Extends d u) :
    i.runOn d u = ⟨((i.runOn d s).value.1, u), (i.runOn d s).events⟩ := by
  induction i generalizing s with
  | done a => rfl
  | report e rest ih =>
    rw [runOn, ih h]
    rfl
  | load kind path next ih =>
    rw [runOn, (settled_of_extends h).load_eq]
    dsimp only
    rw [ih (s.load d kind path).1 (s := (s.load d kind path).2) h]
    rfl

theorem run_of_extends (i : Inquiry α) (h : (i.runOn d s).value.2.Extends d u) :
    i.run (u.loaders d) = ⟨(i.runOn d s).value.1, (i.runOn d s).events⟩ := by
  induction i generalizing s with
  | done a => rfl
  | report e rest ih =>
    rw [run, ih h]
    rfl
  | load kind path next ih =>
    rw [run, ModuleStore.load_loaders, (settled_of_extends h).load_eq]
    dsimp only
    rw [ih (s.load d kind path).1 (s := (s.load d kind path).2) h]
    rfl

/-- An inquiry that is answered again from the store it left answers the same and leaves the store as it is. -/
theorem runOn_runOn (d : Disk) (s : ModuleStore) (i : Inquiry α) : i.runOn d (i.runOn d s).value.2 = i.runOn d s :=
  i.runOn_of_extends fun _ _ _ h => h

/-- The store that an inquiry left answers it like loaders. -/
theorem run_loaders (d : Disk) (s : ModuleStore) (i : Inquiry α) :
    i.run ((i.runOn d s).value.2.loaders d) = ⟨(i.runOn d s).value.1, (i.runOn d s).events⟩ :=
  i.run_of_extends fun _ _ _ h => h

end Inquiry

end RouteTable
