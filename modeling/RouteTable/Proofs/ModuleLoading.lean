import RouteTable.Module.Store
import RouteTable.Proofs.Files
import RouteTable.Proofs.Traced

/-!
# One load of a module file

`Cache.Loads` lists what a load can do: find no file, answer the module it has, read the file anew, or fail to read it.
The number of its first value is all that a module does not have from its file (`ModuleKind.build_alike`), so a module
that was built from an earlier version of the same file stands for it as long as the bytes are the same.
-/

namespace RouteTable

variable {α β : Type} {r : α → β → Prop}

/-! ### Modules that do the same -/

/-- Modules of the same shape, with corresponding values under the same verbs. -/
inductive Module.Alike (r : α → β → Prop) : Module α → Module β → Prop
  | callable {a : α} {b : β} (values : r a b) : Alike r (.callable a) (.callable b)
  | exports {es : OrderedMap String α} {fs : OrderedMap String β}
      (values : List.Forall₂ (fun e f => e.1 = f.1 ∧ r e.2 f.2) es fs) : Alike r (.exports es) (.exports fs)

/-- The same error, or modules that are alike. -/
inductive AnswersAlike (r : α → β → Prop) : Except LoadError (Module α) → Except LoadError (Module β) → Prop
  | ok {m : Module α} {n : Module β} (alike : m.Alike r n) : AnswersAlike r (.ok m) (.ok n)
  | error (e : LoadError) : AnswersAlike r (.error e) (.error e)

namespace ModuleKind

/-- Two values do the same, wherever they come from. -/
def Agree : (kind : ModuleKind) → kind.Value → kind.Value → Prop
  | handler, a, b => a.answer = b.answer
  | authorizer, a, b => a.accepts = b.accepts

/-- How the files of a kind become modules. -/
def build : (kind : ModuleKind) → Cache.Build kind.Value
  | handler => File.handlers
  | authorizer => File.authorizers

end ModuleKind

/-! ### What a file is built into -/

theorem Path.extension?_congr {p q : String} (h : parts p = parts q) : extension? p = extension? q := by
  rw [extension?, extension?, fileName?, fileName?, h]

/-- A path with the same parts has the same document, if there is one. -/
theorem File.tree_congr {f : File} {p q : String} {t : Tree} (h : Path.parts p = Path.parts q)
    (ok : f.tree p = .ok t) : f.tree q = .ok t := by
  rw [tree] at ok ⊢
  rw [← Path.extension?_congr h]
  cases text : f.text? with
  | none => simp [text] at ok
  | some content =>
    simp only [text] at ok ⊢
    split at ok
    · exact ok
    · cases ok

namespace ModuleKind

/-- What the files of a kind say. -/
@[reducible] def Content : ModuleKind → Type
  | handler => Module FixedResponse
  | authorizer => Policy

/-- Reads what a file says. -/
def content : (kind : ModuleKind) → String → File → Except LoadError kind.Content
  | handler, path, file => do
    match Manifest.read? (← file.tree path) with
    | some manifest => .ok manifest
    | none => .error (.malformed path)
  | authorizer, path, file => do
    match Policy.ofTree (← file.tree path) with
    | .ok policy => .ok policy
    | .error _ => .error (.malformed path)

/-- The module of a file with the number of its first value, by what the file says. -/
def ofContent : (kind : ModuleKind) → Nat → kind.Content → Module kind.Value
  | handler, first, manifest => Manifest.handlers first manifest
  | authorizer, first, policy => .callable (policy.authorizer (.loaded first))

variable {kind : ModuleKind} {p q : String} {first : Nat} {f : File}

theorem build_eq (kind : ModuleKind) (p : String) (first : Nat) (f : File) :
    kind.build p first f = (kind.content p f).map (kind.ofContent first) := by
  cases kind with
  | handler =>
    simp only [build, File.handlers, content, bind, Except.bind]
    cases f.tree p with
    | error e => rfl
    | ok t =>
      dsimp only
      cases Manifest.read? t <;> rfl
  | authorizer =>
    simp only [build, File.authorizers, content, bind, Except.bind]
    cases f.tree p with
    | error e => rfl
    | ok t =>
      dsimp only
      cases Policy.ofTree t <;> rfl

theorem content_congr {said : kind.Content} (h : Path.parts p = Path.parts q) (ok : kind.content p f = .ok said) :
    kind.content q f = .ok said := by
  cases kind with
  | handler =>
    obtain ⟨t, document, read⟩ := bind_eq_ok_iff.1 ok
    refine bind_eq_ok_iff.2 ⟨t, File.tree_congr h document, ?_⟩
    cases manifest : Manifest.read? t with
    | none => simp [manifest] at read
    | some m => simpa [manifest] using read
  | authorizer =>
    obtain ⟨t, document, read⟩ := bind_eq_ok_iff.1 ok
    refine bind_eq_ok_iff.2 ⟨t, File.tree_congr h document, ?_⟩
    cases policy : Policy.ofTree t with
    | error e => simp [policy] at read
    | ok m => simpa [policy] using read

/-- Numbers do not count for what the values of a module do. -/
theorem ofContent_alike (first other : Nat) (said : kind.Content) :
    (kind.ofContent first said).Alike kind.Agree (kind.ofContent other said) := by
  cases kind with
  | authorizer => exact .callable rfl
  | handler =>
    cases said with
    | callable r => exact .callable rfl
    | exports entries =>
      refine .exports ?_
      induction entries generalizing first other with
      | nil => exact .nil
      | cons e rest ih => exact .cons ⟨rfl, rfl⟩ (ih (first + 1) (other + 1))

/-- The same bytes are built into modules that are alike. -/
theorem build_alike {m : Module kind.Value} (h : Path.parts p = Path.parts q) (built : kind.build p first f = .ok m)
    (other : Nat) : ∃ n, kind.build q other f = .ok n ∧ m.Alike kind.Agree n := by
  rw [build_eq, map_eq_ok_iff] at built
  obtain ⟨said, ok, rfl⟩ := built
  refine ⟨kind.ofContent other said, ?_, ofContent_alike ..⟩
  rw [build_eq, content_congr h ok]
  rfl

/-- What is wrong with a file does not depend on numbers. -/
theorem build_eq_error {e : LoadError} (failed : kind.build p first f = .error e) (other : Nat) :
    kind.build p other f = .error e := by
  rw [← fault?_eq_some_iff, build_eq, fault?_map] at failed ⊢
  exact failed

end ModuleKind

/-! ### What a load can do -/

theorem Disk.mem_candidates_of_locate? {d : Disk} {path p : String} {f : File} (h : d.locate? path = some (p, f)) :
    p ∈ Path.candidates path := by
  obtain ⟨candidate, mem, found⟩ := List.exists_of_findSome?_eq_some h
  obtain ⟨file, there, same⟩ := Option.map_eq_some_iff.1 found
  cases same
  exact mem

theorem Disk.file?_of_locate? {d : Disk} {path p : String} {f : File} (h : d.locate? path = some (p, f)) :
    d.file? p = some f := by
  obtain ⟨candidate, _, found⟩ := List.exists_of_findSome?_eq_some h
  obtain ⟨file, there, same⟩ := Option.map_eq_some_iff.1 found
  cases same
  exact there

namespace Cache

variable {build : Build α} {d : Disk} {cache : Cache α} {made : Nat} {path : String}

/-- No module is cached for this version of a file. -/
def Stale (cache : Cache α) (key : List Path.Part) (f : File) : Prop :=
  ∀ cached, OrderedMap.get? cache key = some cached → cached.stamp ≠ f.stamp

/-- The answer of a load, the cache after it and the number of values read by then. -/
inductive Loads (build : Build α) (d : Disk) (cache : Cache α) (made : Nat) (path : String) :
    Except LoadError (Module α) → Cache α → Nat → Prop
  | missing (none : d.locate? path = none) : Loads build d cache made path (.error (.notFound path)) cache made
  | current {p : String} {f : File} {cached : Cached α} (located : d.locate? path = some (p, f))
      (known : OrderedMap.get? cache (Path.parts p) = some cached) (stamp : cached.stamp = f.stamp) :
      Loads build d cache made path (.ok cached.module) cache made
  | read {p : String} {f : File} {m : Module α} (located : d.locate? path = some (p, f))
      (stale : cache.Stale (Path.parts p) f) (built : build p made f = .ok m) :
      Loads build d cache made path (.ok m) (OrderedMap.put cache (Path.parts p) ⟨f.stamp, m⟩) (made + m.count)
  | failed {p : String} {f : File} {e : LoadError} (located : d.locate? path = some (p, f))
      (stale : cache.Stale (Path.parts p) f) (refused : build p made f = .error e) :
      Loads build d cache made path (.error e) cache made

private theorem loads_read (build : Build α) (cache : Cache α) (made : Nat) {p : String} {f : File}
    (located : d.locate? path = some (p, f)) (stale : cache.Stale (Path.parts p) f) :
    let run := load.read build cache made p (Path.parts p) f
    Loads build d cache made path run.1 run.2.1 run.2.2 := by
  rw [load.read]
  cases built : build p made f with
  | ok m => exact .read located stale built
  | error e => exact .failed located stale built

theorem loads (build : Build α) (d : Disk) (cache : Cache α) (made : Nat) (path : String) :
    let run := cache.load build d made path
    Loads build d cache made path run.1 run.2.1 run.2.2 := by
  rw [load]
  cases located : d.locate? path with
  | none => exact .missing located
  | some found =>
    obtain ⟨p, f⟩ := found
    dsimp only
    cases known : OrderedMap.get? cache (Path.parts p) with
    | none => exact loads_read build cache made located fun _ h => by simp [known] at h
    | some cached =>
      dsimp only
      split
      · next stamp => exact .current located known stamp
      · next stamp =>
        refine loads_read build cache made located fun _ h => ?_
        rw [known] at h
        cases h
        exact stamp

variable {answer : Except LoadError (Module α)} {after : Cache α} {total : Nat}

/-- A load that fails leaves everything as it is. -/
theorem Loads.eq_of_error {e : LoadError} (h : Loads build d cache made path (.error e) after total) :
    after = cache ∧ total = made := by
  cases h <;> exact ⟨rfl, rfl⟩

/-- A module that was answered is cached for the version of its file. -/
theorem Loads.cached {p : String} {f : File} {m : Module α} (h : Loads build d cache made path (.ok m) after total)
    (located : d.locate? path = some (p, f)) :
    ∃ cached, OrderedMap.get? after (Path.parts p) = some cached ∧ cached.stamp = f.stamp ∧ cached.module = m := by
  cases h with
  | current located' known stamp =>
    cases located.symm.trans located'
    exact ⟨_, known, stamp, rfl⟩
  | read located' stale built =>
    cases located.symm.trans located'
    exact ⟨_, OrderedMap.get?_put_self .., rfl, rfl⟩

/-- The module of a file that does not change stays. -/
theorem Loads.get?_eq {p : String} {f : File} {cached : Cached α}
    (h : Loads build d cache made path answer after total) (found : d.file? p = some f)
    (known : OrderedMap.get? cache (Path.parts p) = some cached) (stamp : cached.stamp = f.stamp) :
    OrderedMap.get? after (Path.parts p) = some cached := by
  cases h with
  | missing none => exact known
  | current located known' stamp' => exact known
  | failed located stale refused => exact known
  | @read q g m located stale built =>
    by_cases same : Path.parts p = Path.parts q
    · -- the file that was read is the one that did not change, so it was not read
      obtain rfl : f = g := Disk.eq_of_file? same found (Disk.file?_of_locate? located)
      exact absurd stamp (stale cached (same ▸ known))
    · rw [OrderedMap.get?_put_of_ne _ same, known]

/-- A module that is cached for the version of its file is answered, and nothing is read. -/
theorem load_of_current {p : String} {f : File} {cached : Cached α} (located : d.locate? path = some (p, f))
    (known : OrderedMap.get? cache (Path.parts p) = some cached) (stamp : cached.stamp = f.stamp) :
    cache.load build d made path = (.ok cached.module, cache, made) := by
  simp only [load, located, known, stamp, if_true]

/-- A file is read if no module is cached for its version. -/
theorem load_of_stale {p : String} {f : File} (located : d.locate? path = some (p, f))
    (stale : cache.Stale (Path.parts p) f) :
    cache.load build d made path = load.read build cache made p (Path.parts p) f := by
  rw [load, located]
  dsimp only
  cases known : OrderedMap.get? cache (Path.parts p) with
  | none => rfl
  | some cached => exact if_neg (stale cached known)

theorem read_fst (build : Build α) (cache : Cache α) (made : Nat) (p : String) (key : List Path.Part) (f : File) :
    (load.read build cache made p key f).1 = build p made f := by
  rw [load.read]
  cases build p made f <;> rfl

/-- What a load answers that remembers nothing. -/
def loadAnew (build : Build α) (d : Disk) (path : String) : Except LoadError (Module α) :=
  match d.locate? path with
  | none => .error (.notFound path)
  | some (p, f) => build p 0 f

theorem load_nil (build : Build α) (d : Disk) (path : String) :
    (load build d [] 0 path).1 = loadAnew build d path := by
  rw [loadAnew]
  cases located : d.locate? path with
  | none => simp only [load, located]
  | some found =>
    have stale : Stale ([] : Cache α) (Path.parts found.1) found.2 := fun _ known => nomatch known
    rw [load_of_stale located stale, read_fst]

end Cache

/-! ### Stores -/

namespace ModuleStore

variable (d : Disk) (s : ModuleStore)

/-- The modules of a kind. -/
def cache (s : ModuleStore) : (kind : ModuleKind) → Cache kind.Value
  | .handler => s.handlers
  | .authorizer => s.authorizers

theorem cache_empty (kind : ModuleKind) : ({} : ModuleStore).cache kind = [] := by
  cases kind <;> rfl

theorem load_fst (kind : ModuleKind) (path : String) :
    (s.load d kind path).1 = ((s.cache kind).load kind.build d s.made path).1 := by
  cases kind <;> rfl

theorem cache_load_self (kind : ModuleKind) (path : String) :
    (s.load d kind path).2.cache kind = ((s.cache kind).load kind.build d s.made path).2.1 := by
  cases kind <;> rfl

theorem cache_load_of_ne {kind other : ModuleKind} (h : other ≠ kind) (path : String) :
    (s.load d kind path).2.cache other = s.cache other := by
  cases kind <;> cases other <;> first | rfl | exact absurd rfl h

theorem made_load (kind : ModuleKind) (path : String) :
    (s.load d kind path).2.made = ((s.cache kind).load kind.build d s.made path).2.2 := by
  cases kind <;> rfl

theorem ext_cache {s t : ModuleStore} (h : ∀ kind, s.cache kind = t.cache kind) (made : s.made = t.made) : s = t := by
  cases s
  cases t
  exact congr (congr (congrArg mk (h .handler)) (h .authorizer)) made

theorem load_fst_empty (kind : ModuleKind) (path : String) :
    (({} : ModuleStore).load d kind path).1 = Cache.loadAnew kind.build d path := by
  rw [load_fst, cache_empty, ← Cache.load_nil]

theorem load_loaders (kind : ModuleKind) (path : String) : (s.loaders d).load kind path = (s.load d kind path).1 := by
  cases kind <;> rfl

/-- A load as one of the things it can do. -/
theorem loads (kind : ModuleKind) (path : String) :
    Cache.Loads kind.build d (s.cache kind) s.made path (s.load d kind path).1 ((s.load d kind path).2.cache kind)
      (s.load d kind path).2.made := by
  rw [load_fst, cache_load_self, made_load]
  exact Cache.loads ..

/-- A load that leaves the modules of its kind and the numbers as they are leaves everything as it is. -/
theorem load_eq_of_eq {kind : ModuleKind} {path : String} {answer : Except LoadError (Module kind.Value)}
    (same : (s.cache kind).load kind.build d s.made path = (answer, s.cache kind, s.made)) :
    s.load d kind path = (answer, s) := by
  refine Prod.ext (by rw [load_fst, same]) (ext_cache (fun other => ?_) (by rw [made_load, same]))
  by_cases h : other = kind
  · subst h
    rw [cache_load_self, same]
  · exact s.cache_load_of_ne d h path

/-- A load that fails leaves the store as it is. -/
theorem load_eq_of_error {kind : ModuleKind} {path : String} {e : LoadError}
    (failed : (s.load d kind path).1 = .error e) : (s.load d kind path).2 = s := by
  have run := s.loads d kind path
  rw [failed] at run
  have same := run.eq_of_error
  rw [cache_load_self, made_load] at same
  rw [load_fst] at failed
  rw [s.load_eq_of_eq d (Prod.ext failed (Prod.ext same.1 same.2))]

end ModuleStore

end RouteTable
