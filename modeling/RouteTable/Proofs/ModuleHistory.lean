import RouteTable.Proofs.ModuleLoading

/-!
# Loads between changes of the disk

A `Workspace` is a disk with the modules loaded from it so far.  Files are written and removed and modules loaded, one
action after the other, and `Workspace.disks` lists the disks that a run passes through.  Every cached module was built
from a version of its file that was on one of them (`Cache.Recalls`), so where stamps tell the versions of a file apart,
a load answers what the disk says (`ModuleKind.answersAlike_of_loads`).  As long as a file is kept, its module stays
(`Workspace.load_again`).
-/

namespace RouteTable

/-- What happens between two states of a workspace. -/
inductive Action
  | write (path : String) (file : File)
  | remove (path : String)
  | load (kind : ModuleKind) (path : String)

structure Workspace where
  disk : Disk
  store : ModuleStore := {}

namespace Workspace

/-- Loads a module of a kind from the disk. -/
def load (w : Workspace) (kind : ModuleKind) (path : String) : Except LoadError (Module kind.Value) × Workspace :=
  ((w.store.load w.disk kind path).1, { w with store := (w.store.load w.disk kind path).2 })

def step (w : Workspace) : Action → Workspace
  | .write path file => { w with disk := w.disk.write path file }
  | .remove path => { w with disk := (w.disk.remove? path).getD w.disk }
  | .load kind path => (w.load kind path).2

theorem store_step_write (w : Workspace) (path : String) (file : File) :
    (w.step (.write path file)).store = w.store := by
  simp only [step]

theorem store_step_remove (w : Workspace) (path : String) : (w.step (.remove path)).store = w.store := by
  simp only [step]

def run (w : Workspace) (actions : List Action) : Workspace := actions.foldl step w

/-- The disk before, between and after some actions. -/
def disks (w : Workspace) : List Action → List Disk
  | [] => [w.disk]
  | a :: rest => w.disk :: (w.step a).disks rest

theorem disk_mem_disks (w : Workspace) (actions : List Action) : w.disk ∈ w.disks actions := by
  cases actions <;> exact List.mem_cons_self

theorem disk_run_mem_disks (w : Workspace) (actions : List Action) : (w.run actions).disk ∈ w.disks actions := by
  induction actions generalizing w with
  | nil => exact List.mem_cons_self
  | cons a rest ih => exact List.mem_cons_of_mem _ (ih (w.step a))

/-- A load as one of the things it can do. -/
theorem loads (w : Workspace) (kind : ModuleKind) (path : String) :
    Cache.Loads kind.build w.disk (w.store.cache kind) w.store.made path (w.load kind path).1
      ((w.load kind path).2.store.cache kind) (w.load kind path).2.store.made :=
  w.store.loads w.disk kind path

/-- A step leaves the modules of a kind as they are or loads one of them. -/
theorem cache_step (w : Workspace) (a : Action) (kind : ModuleKind) :
    (w.step a).store.cache kind = w.store.cache kind ∨
      ∃ path answer, Cache.Loads kind.build w.disk (w.store.cache kind) w.store.made path answer
        ((w.step a).store.cache kind) (w.step a).store.made := by
  cases a with
  | write path file =>
    left
    rw [store_step_write]
  | remove path =>
    left
    rw [store_step_remove]
  | load loaded path =>
    by_cases h : kind = loaded
    · subst h
      exact .inr ⟨path, _, w.loads kind path⟩
    · exact .inl (w.store.cache_load_of_ne w.disk h path)

end Workspace

/-! ### Versions told by their stamps -/

/-- On these disks, versions of a file with the same stamp are the same. -/
def StampsTell (seen : List Disk) : Prop :=
  ∀ d ∈ seen, ∀ e ∈ seen, ∀ path f g, d.file? path = some f → e.file? path = some g →
    f.stamp = g.stamp → f.bytes = g.bytes

theorem StampsTell.eq {seen : List Disk} (told : StampsTell seen) {d e : Disk} (hd : d ∈ seen) (he : e ∈ seen)
    {path : String} {f g : File} (hf : d.file? path = some f) (hg : e.file? path = some g)
    (stamps : f.stamp = g.stamp) : f = g := by
  have bytes := told d hd e he path f g hf hg stamps
  have modified := congrArg Stamp.modified stamps
  cases f
  cases g
  exact congr (congrArg File.mk bytes) modified

namespace Cache

variable {α : Type} {build : Build α} {d : Disk} {cache after : Cache α} {made total : Nat} {path : String}
  {answer : Except LoadError (Module α)} {seen : List Disk}

/-- Every cached module was built from a version of its file that was on one of some disks. -/
def Recalls (build : Build α) (seen : List Disk) (cache : Cache α) : Prop :=
  ∀ key cached, OrderedMap.get? cache key = some cached → ∃ d ∈ seen, ∃ p v f,
    Path.parts p = key ∧ d.file? p = some f ∧ f.stamp = cached.stamp ∧ build p v f = .ok cached.module

theorem recalls_nil (build : Build α) (seen : List Disk) : Recalls build seen [] := fun _ _ h => nomatch h

theorem Recalls.mono {more : List Disk} (h : Recalls build seen cache) (sub : ∀ d ∈ seen, d ∈ more) :
    Recalls build more cache := by
  intro key cached known
  obtain ⟨d, mem, rest⟩ := h key cached known
  exact ⟨d, sub d mem, rest⟩

/-- A load adds a module of the version that is on the disk now, or none. -/
theorem Loads.recalls (h : Loads build d cache made path answer after total) (mem : d ∈ seen) (old : Recalls build seen cache) :
    Recalls build seen after := by
  cases h with
  | missing none => exact old
  | current located known stamp => exact old
  | failed located stale refused => exact old
  | @read p f m located stale built =>
    intro key cached known
    by_cases same : key = Path.parts p
    · subst same
      rw [OrderedMap.get?_put_self] at known
      cases known
      exact ⟨d, mem, p, _, f, rfl, Disk.file?_of_locate? located, rfl, built⟩
    · rw [OrderedMap.get?_put_of_ne _ same] at known
      exact old key cached known

/-- A cached module with the stamp of the file is built from the bytes of the file. -/
theorem Recalls.built {p : String} {f : File} {cached : Cached α} (recalls : Recalls build seen cache)
    (told : StampsTell seen) (mem : d ∈ seen) (found : d.file? p = some f)
    (known : OrderedMap.get? cache (Path.parts p) = some cached) (stamp : cached.stamp = f.stamp) :
    ∃ q v, Path.parts q = Path.parts p ∧ build q v f = .ok cached.module := by
  obtain ⟨e, hmem, q, v, g, same, foundOld, stampOld, built⟩ := recalls _ _ known
  -- the old spelling and the new one name the same file on every disk
  have foundNew : e.file? p = some g := (Disk.file?_congr same foundOld found e) ▸ foundOld
  have eq : g = f := told.eq hmem mem foundNew found (stampOld.trans stamp)
  exact ⟨q, v, same, eq ▸ built⟩

end Cache

namespace ModuleKind

variable {kind : ModuleKind} {d : Disk} {cache after : Cache kind.Value} {made total : Nat} {path : String}
  {answer : Except LoadError (Module kind.Value)} {seen : List Disk}

/-- A load answers what a load that remembers nothing answers. -/
theorem answersAlike_of_loads (h : Cache.Loads kind.build d cache made path answer after total) (told : StampsTell seen)
    (mem : d ∈ seen) (recalls : Cache.Recalls kind.build seen cache) :
    AnswersAlike kind.Agree answer (Cache.loadAnew kind.build d path) := by
  rw [Cache.loadAnew]
  cases h with
  | missing none =>
    rw [none]
    exact .error _
  | @current p f cached located known stamp =>
    rw [located]
    obtain ⟨q, v, same, built⟩ := recalls.built told mem (Disk.file?_of_locate? located) known stamp
    obtain ⟨n, builtAnew, alike⟩ := build_alike same built 0
    dsimp only
    rw [builtAnew]
    exact .ok alike
  | @read p f m located stale built =>
    rw [located]
    obtain ⟨n, builtAnew, alike⟩ := build_alike (rfl : Path.parts p = Path.parts p) built 0
    dsimp only
    rw [builtAnew]
    exact .ok alike
  | @failed p f e located stale refused =>
    rw [located]
    dsimp only
    rw [build_eq_error refused 0]
    exact .error e

end ModuleKind

/-! ### Runs -/

namespace Workspace

variable {w : Workspace} {kind : ModuleKind} {path : String}

/-- A run adds modules of versions that are on the disks it passes through. -/
theorem recalls_run {seen : List Disk} (old : Cache.Recalls kind.build seen (w.store.cache kind))
    (actions : List Action) :
    Cache.Recalls kind.build (seen ++ w.disks actions) ((w.run actions).store.cache kind) := by
  induction actions generalizing w seen with
  | nil => exact old.mono fun d h => List.mem_append_left _ h
  | cons a rest ih =>
    have now : Cache.Recalls kind.build (seen ++ [w.disk]) ((w.step a).store.cache kind) := by
      have before : Cache.Recalls kind.build (seen ++ [w.disk]) (w.store.cache kind) :=
        old.mono fun d h => List.mem_append_left _ h
      rcases w.cache_step a kind with same | ⟨path, answer, h⟩
      · rw [same]
        exact before
      · exact h.recalls (by simp) before
    have later := ih now
    rwa [List.append_assoc] at later

/-- The file at a path is the same all through a run. -/
def Keeps (w : Workspace) (actions : List Action) (path : String) : Prop :=
  ∀ d ∈ w.disks actions, d.file? path = w.disk.file? path

/-- The module of a file stays through a run that keeps the file. -/
theorem get?_cache_run {p : String} {f : File} {cached : Cached kind.Value} (found : w.disk.file? p = some f)
    (known : OrderedMap.get? (w.store.cache kind) (Path.parts p) = some cached) (stamp : cached.stamp = f.stamp)
    {actions : List Action} (keeps : w.Keeps actions p) :
    OrderedMap.get? ((w.run actions).store.cache kind) (Path.parts p) = some cached := by
  induction actions generalizing w with
  | nil => exact known
  | cons a rest ih =>
    have foundNext : (w.step a).disk.file? p = some f := by
      rw [keeps _ (List.mem_cons_of_mem _ (disk_mem_disks ..)), found]
    refine ih foundNext ?_ fun d h => ?_
    · rcases w.cache_step a kind with same | ⟨path, answer, h⟩
      · rw [same, known]
      · exact h.get?_eq found known stamp
    · rw [keeps d (List.mem_cons_of_mem _ h), found, foundNext]

/-- A load that answers leaves its module in the cache, with the stamp of the file it found. -/
theorem cached_of_load {module : Module kind.Value} (ok : (w.load kind path).1 = .ok module) {p : String} {f : File}
    (located : w.disk.locate? path = some (p, f)) :
    ∃ cached, OrderedMap.get? ((w.load kind path).2.store.cache kind) (Path.parts p) = some cached ∧
      cached.stamp = f.stamp ∧ cached.module = module := by
  have h := w.loads kind path
  rw [ok] at h
  exact h.cached located

/-- The values of a load stay with its file. -/
theorem load_again {module : Module kind.Value} (ok : (w.load kind path).1 = .ok module) {later : List Action}
    {again p q : String} {f g : File} (located : w.disk.locate? path = some (p, f))
    (relocated : ((w.load kind path).2.run later).disk.locate? again = some (q, g)) (same : Path.same p q)
    (keeps : (w.load kind path).2.Keeps later p) :
    (((w.load kind path).2.run later).load kind again).1 = .ok module := by
  have parts : Path.parts p = Path.parts q := by simpa [Path.same] using same
  have found : w.disk.file? p = some f := Disk.file?_of_locate? located
  obtain ⟨cached, known, stamp, rfl⟩ := cached_of_load ok located
  have stays := get?_cache_run (w := (w.load kind path).2) found known stamp keeps
  -- the file that the later load finds is the one that was kept
  have kept := (keeps _ (disk_run_mem_disks ..)).trans found
  obtain rfl : f = g := Disk.eq_of_file? parts kept (Disk.file?_of_locate? relocated)
  rw [load, ModuleStore.load_fst, Cache.load_of_current relocated (parts ▸ stays) stamp]

end Workspace

end RouteTable
