import RouteTable.Proofs.ModuleHistory

/-!
# Versions of a module file

What is read gets numbers that nothing read before has (`ModuleKind.within_of_build`), and the numbers of what is cached
stay below the next one (`ModuleKind.Numbered`).  So what is loaded from a file with another stamp shares no value with
what was loaded before (`Workspace.load_of_changed`): an edited file is read again.  Together with what stays of a file
that is kept, this says how a workspace loads a module after any run (`Workspace.loadsWell_of_run`).
-/

namespace RouteTable

/-- The values of a module, one for each verb if there are several. -/
def Module.values {α : Type} : Module α → List α
  | .callable value => [value]
  | .exports entries => OrderedMap.values entries

namespace ModuleKind

def origin : (kind : ModuleKind) → kind.Value → Origin
  | handler, a => Handler.origin a
  | authorizer, a => Authorizer.origin a

/-- Two values are one, whatever they do. -/
def same : (kind : ModuleKind) → kind.Value → kind.Value → Bool
  | handler => Handler.same
  | authorizer => Authorizer.same

theorem same_eq_false {kind : ModuleKind} {a b : kind.Value} (h : kind.origin a ≠ kind.origin b) :
    kind.same a b = false := by
  cases kind <;> exact beq_eq_false_iff_ne.2 h

/-- The values of a module were read from a file, with numbers from `low` on and below `high`. -/
def Within (kind : ModuleKind) (low high : Nat) (m : Module kind.Value) : Prop :=
  ∀ a ∈ m.values, ∃ n, kind.origin a = .loaded n ∧ low ≤ n ∧ n < high

variable {kind : ModuleKind}

theorem Within.mono {low high lower higher : Nat} {m : Module kind.Value} (h : kind.Within low high m)
    (down : lower ≤ low) (up : high ≤ higher) : kind.Within lower higher m := by
  intro a ha
  obtain ⟨n, origin, above, below⟩ := h a ha
  exact ⟨n, origin, Nat.le_trans down above, Nat.lt_of_lt_of_le below up⟩

/-- Modules whose numbers are apart have no value in common. -/
theorem Within.same_eq_false {low middle high : Nat} {m n : Module kind.Value} (older : kind.Within low middle m)
    (newer : kind.Within middle high n) : ∀ a ∈ m.values, ∀ b ∈ n.values, kind.same a b = false := by
  intro a ha b hb
  obtain ⟨i, originA, -, below⟩ := older a ha
  obtain ⟨j, originB, above, -⟩ := newer b hb
  refine ModuleKind.same_eq_false ?_
  rw [originA, originB]
  exact fun h => absurd (Origin.loaded.inj h) (Nat.ne_of_lt (Nat.lt_of_lt_of_le below above))

/-- A module has as many numbers as values. -/
theorem within_of_build {p : String} {first : Nat} {f : File} {m : Module kind.Value}
    (built : kind.build p first f = .ok m) : kind.Within first (first + m.count) m := by
  rw [build_eq, map_eq_ok_iff] at built
  obtain ⟨said, -, rfl⟩ := built
  intro a ha
  cases kind with
  | authorizer =>
    rw [List.mem_singleton.1 ha]
    exact ⟨first, rfl, Nat.le_refl _, Nat.lt_succ_self _⟩
  | handler =>
    cases said with
    | callable r =>
      rw [List.mem_singleton.1 ha]
      exact ⟨first, rfl, Nat.le_refl _, Nat.lt_succ_self _⟩
    | exports entries =>
      obtain ⟨exported, mem, rfl⟩ := List.mem_map.1 ha
      obtain ⟨⟨e, n⟩, numbered, rfl⟩ := List.mem_map.1 mem
      have bounds := List.mem_zipIdx numbered
      refine ⟨n, rfl, bounds.1, ?_⟩
      simpa [ofContent, Manifest.handlers, Module.count] using bounds.2.1

/-- The numbers of what is cached are taken. -/
def Numbered (kind : ModuleKind) (cache : Cache kind.Value) (made : Nat) : Prop :=
  ∀ key cached, OrderedMap.get? cache key = some cached → kind.Within 0 made cached.module

variable {d : Disk} {cache after : Cache kind.Value} {made total : Nat} {path : String}
  {answer : Except LoadError (Module kind.Value)}

theorem le_of_loads (h : Cache.Loads kind.build d cache made path answer after total) : made ≤ total := by
  cases h with
  | read => exact Nat.le_add_right ..
  | _ => exact Nat.le_refl _

theorem numbered_of_loads (h : Cache.Loads kind.build d cache made path answer after total)
    (numbered : kind.Numbered cache made) : kind.Numbered after total := by
  cases h with
  | missing none => exact numbered
  | current located known stamp => exact numbered
  | failed located stale refused => exact numbered
  | @read p f m located stale built =>
    intro key cached known
    by_cases same : key = Path.parts p
    · subst same
      rw [OrderedMap.get?_put_self] at known
      cases known
      exact (within_of_build built).mono (Nat.zero_le _) (Nat.le_refl _)
    · rw [OrderedMap.get?_put_of_ne _ same] at known
      exact (numbered key cached known).mono (Nat.le_refl _) (Nat.le_add_right ..)

/-- A load keeps what is cached under a key, or puts a module with new numbers there. -/
theorem later_of_loads (h : Cache.Loads kind.build d cache made path answer after total) {key : List Path.Part}
    {cached : Cached kind.Value} (known : OrderedMap.get? cache key = some cached) :
    ∃ now, OrderedMap.get? after key = some now ∧ (now = cached ∨ kind.Within made total now.module) := by
  cases h with
  | missing none => exact ⟨cached, known, .inl rfl⟩
  | current located known' stamp => exact ⟨cached, known, .inl rfl⟩
  | failed located stale refused => exact ⟨cached, known, .inl rfl⟩
  | @read p f m located stale built =>
    by_cases same : key = Path.parts p
    · subst same
      exact ⟨_, OrderedMap.get?_put_self .., .inr (within_of_build built)⟩
    · exact ⟨cached, (OrderedMap.get?_put_of_ne _ same).trans known, .inl rfl⟩

end ModuleKind

namespace Workspace

variable {w : Workspace} {kind : ModuleKind} {path : String}

theorem made_step (w : Workspace) (a : Action) : w.store.made ≤ (w.step a).store.made := by
  cases a with
  | load kind path => exact ModuleKind.le_of_loads (w.loads kind path)
  | _ => exact Nat.le_refl _

theorem made_run (w : Workspace) (actions : List Action) : w.store.made ≤ (w.run actions).store.made := by
  induction actions generalizing w with
  | nil => exact Nat.le_refl _
  | cons a rest ih => exact Nat.le_trans (w.made_step a) (ih (w.step a))

theorem numbered_step (numbered : kind.Numbered (w.store.cache kind) w.store.made) (a : Action) :
    kind.Numbered ((w.step a).store.cache kind) (w.step a).store.made := by
  rcases w.cache_step a kind with same | ⟨path, answer, h⟩
  · rw [same]
    exact fun key cached known => (numbered key cached known).mono (Nat.le_refl _) (w.made_step a)
  · exact ModuleKind.numbered_of_loads h numbered

theorem numbered_run (numbered : kind.Numbered (w.store.cache kind) w.store.made) (actions : List Action) :
    kind.Numbered ((w.run actions).store.cache kind) (w.run actions).store.made := by
  induction actions generalizing w with
  | nil => exact numbered
  | cons a rest ih => exact ih (numbered_step numbered a)

theorem later_run {key : List Path.Part} {cached : Cached kind.Value}
    (known : OrderedMap.get? (w.store.cache kind) key = some cached) (actions : List Action) :
    ∃ now, OrderedMap.get? ((w.run actions).store.cache kind) key = some now ∧
      (now = cached ∨ kind.Within w.store.made (w.run actions).store.made now.module) := by
  induction actions generalizing w cached with
  | nil => exact ⟨cached, known, .inl rfl⟩
  | cons a rest ih =>
    have one : ∃ now, OrderedMap.get? ((w.step a).store.cache kind) key = some now ∧
        (now = cached ∨ kind.Within w.store.made (w.step a).store.made now.module) := by
      rcases w.cache_step a kind with same | ⟨path, answer, h⟩
      · exact ⟨cached, same ▸ known, .inl rfl⟩
      · exact ModuleKind.later_of_loads h known
    obtain ⟨next, knownNext, fresh⟩ := one
    obtain ⟨now, knownNow, fresher⟩ := ih knownNext
    refine ⟨now, knownNow, ?_⟩
    rcases fresher with rfl | fresher
    · exact fresh.imp_right fun h => h.mono (Nat.le_refl _) (made_run _ rest)
    · exact .inr (fresher.mono (w.made_step a) (Nat.le_refl _))

theorem numbered_empty (kind : ModuleKind) : kind.Numbered (({} : ModuleStore).cache kind) 0 := by
  rw [ModuleStore.cache_empty]
  exact fun _ _ h => nomatch h

/-- A file that is found with another stamp than before gives values of its own. -/
theorem load_of_changed (start : Disk) (before later : List Action) {again p q : String} {f g : File}
    {module other : Module kind.Value} (reached : w = run { disk := start } before)
    (ok : (w.load kind path).1 = .ok module)
    (okAgain : (((w.load kind path).2.run later).load kind again).1 = .ok other)
    (located : w.disk.locate? path = some (p, f))
    (relocated : ((w.load kind path).2.run later).disk.locate? again = some (q, g)) (same : Path.same p q)
    (changed : f.stamp ≠ g.stamp) : ∀ a ∈ module.values, ∀ b ∈ other.values, kind.same a b = false := by
  have parts : Path.parts p = Path.parts q := by simpa [Path.same] using same
  have numbered : kind.Numbered ((w.load kind path).2.store.cache kind) (w.load kind path).2.store.made := by
    rw [reached]
    exact numbered_step (numbered_run (numbered_empty kind) before) (.load kind path)
  -- what is cached for the file goes from the first version to another one, and so to newer numbers
  obtain ⟨first, known, stamp, rfl⟩ := cached_of_load ok located
  obtain ⟨second, knownAgain, stampAgain, rfl⟩ := cached_of_load okAgain relocated
  obtain ⟨now, knownNow, fresh⟩ := later_run known (later ++ [.load kind again])
  have last : OrderedMap.get? ((((w.load kind path).2.run later).load kind again).2.store.cache kind) (Path.parts p) =
      some now := by
    rwa [run, List.foldl_append] at knownNow
  rw [parts, knownAgain] at last
  cases last
  refine (numbered _ _ known).same_eq_false (fresh.resolve_left ?_)
  rintro rfl
  exact changed (stamp.symm.trans stampAgain)

/-- How a workspace loads a module. -/
structure LoadsWell (w : Workspace) (kind : ModuleKind) (path : String) : Prop where
  /-- The answer is that of a workspace that has loaded nothing from the same disk. -/
  answers : AnswersAlike kind.Agree (w.load kind path).1 (({ disk := w.disk } : Workspace).load kind path).1
  /-- A load that fails leaves everything as it is. -/
  forgets : ∀ e, (w.load kind path).1 = .error e → (w.load kind path).2 = w
  /-- Every later load that finds the same file, however its path is spelled, answers the same values as long as the
  file is kept. -/
  shares : ∀ module, (w.load kind path).1 = .ok module →
    ∀ (later : List Action) (again p q : String) (f g : File),
      w.disk.locate? path = some (p, f) →
      ((w.load kind path).2.run later).disk.locate? again = some (q, g) →
      Path.same p q → (w.load kind path).2.Keeps later p →
      (((w.load kind path).2.run later).load kind again).1 = .ok module
  /-- For normal paths, such as references are resolved to, it is enough that both loads find a file in the same place. -/
  sharesPlaces : ∀ module, (w.load kind path).1 = .ok module →
    ∀ (later : List Action) (again p q : String) (f g : File), Path.Normal path → Path.Normal again →
      w.disk.locate? path = some (p, f) →
      ((w.load kind path).2.run later).disk.locate? again = some (q, g) →
      Path.normalSteps p = Path.normalSteps q → (w.load kind path).2.Keeps later p →
      (((w.load kind path).2.run later).load kind again).1 = .ok module
  /-- A later load that finds the file with another stamp answers values of its own. -/
  renews : ∀ module, (w.load kind path).1 = .ok module →
    ∀ (later : List Action) (again p q : String) (f g : File) (other : Module kind.Value),
      w.disk.locate? path = some (p, f) →
      ((w.load kind path).2.run later).disk.locate? again = some (q, g) →
      Path.same p q → f.stamp ≠ g.stamp → (((w.load kind path).2.run later).load kind again).1 = .ok other →
      ∀ a ∈ module.values, ∀ b ∈ other.values, kind.same a b = false

/-- After any run from an empty store, whatever was written, removed and loaded, the next load is as it should be. -/
theorem loadsWell_of_run (start : Disk) (actions : List Action)
    (told : StampsTell (disks { disk := start } actions)) (kind : ModuleKind) (path : String) :
    (run { disk := start } actions).LoadsWell kind path where
  answers := by
    have nothing : Cache.Recalls kind.build [] (({} : ModuleStore).cache kind) := by
      rw [ModuleStore.cache_empty]
      exact Cache.recalls_nil _ _
    have recalls := recalls_run (w := { disk := start }) nothing actions
    have alike := ModuleKind.answersAlike_of_loads (loads _ kind path) told (disk_run_mem_disks ..) recalls
    rwa [← ModuleStore.load_fst_empty] at alike
  forgets e failed := congrArg (Workspace.mk _) (ModuleStore.load_eq_of_error _ _ failed)
  shares _ ok _ _ _ _ _ _ located relocated same keeps := load_again ok located relocated same keeps
  sharesPlaces _ ok _ _ p q _ _ normal normalAgain located relocated place keeps := by
    have eq : p = q := (normal.of_mem_candidates (Disk.mem_candidates_of_locate? located)).eq_of_normalSteps_eq
      (normalAgain.of_mem_candidates (Disk.mem_candidates_of_locate? relocated)) place
    exact load_again ok located relocated (by simp [Path.same, eq]) keeps
  renews _ ok later _ _ _ _ _ _ located relocated same changed okAgain :=
    load_of_changed start actions later rfl ok okAgain located relocated same changed

end Workspace

/-! ### A file that is written again -/

/-- Only the file itself is found on a disk that has one file at its root. -/
theorem Disk.eq_of_file?_single {name path : String} {f g : File}
    (found : ({ entries := [(name, .file f)] } : Disk).file? path = some g) : g = f := by
  have ends : ∀ l, walk [] (.directory [(name, .file f)]) l = .ok (.file g) → g = f := by
    intro l h
    induction l with
    | nil => cases h
    | cons s rest ih =>
      rw [walk_cons, enter.eq_def] at h
      by_cases hs : s = "." ∨ s = ".."
      · rcases hs with rfl | rfl <;> exact ih h
      · rw [not_or] at hs
        by_cases hn : name = s
        · cases rest with
          | nil => simp_all [OrderedMap.get?, walk]
          | cons t rest => simp_all [OrderedMap.get?, walk]
        · simp_all [OrderedMap.get?]
  rw [file?_eq_fileAt? found, fileAt?] at found
  split at found
  · next h =>
    cases found
    exact ends _ h
  · cases found

/-- A file that has another time whenever it has other bytes is told by its stamps. -/
theorem stampsTell_of_single (name : String) (files : List File)
    (told : ∀ f ∈ files, ∀ g ∈ files, f.stamp = g.stamp → f.bytes = g.bytes) {seen : List Disk}
    (single : ∀ d ∈ seen, ∃ f ∈ files, d = { entries := [(name, .file f)] }) : StampsTell seen := by
  intro d hd e he path f g hf hg stamps
  obtain ⟨f', memF, rfl⟩ := single d hd
  obtain ⟨g', memG, rfl⟩ := single e he
  cases Disk.eq_of_file?_single hf
  cases Disk.eq_of_file?_single hg
  exact told _ memF _ memG stamps

namespace Workspace

theorem loadsWell_of_run_rewritten :
    let first : File := ⟨"status: 200".toUTF8, 0⟩
    let second : File := ⟨"status: 201".toUTF8, 1⟩
    let start : Disk := { entries := [("pets.yaml", .file first)] }
    let actions : List Action := [.load .handler "/pets", .write "/pets.yaml" second, .load .handler "/pets.yaml"]
    StampsTell (disks { disk := start } actions) ∧ (run { disk := start } actions).LoadsWell .handler "/pets" := by
  intro first second start actions
  have steps : Path.normalSteps (Path.join "/" "/pets.yaml") = ["pets.yaml"] := by decide +kernel
  have written : start.write "/pets.yaml" second = { entries := [("pets.yaml", .file second)] } := by
    simp [Disk.write, Disk.update?, steps, Disk.place, start, OrderedMap.get?, OrderedMap.put]
  have passed : disks { disk := start } actions =
      [start, start, start.write "/pets.yaml" second, start.write "/pets.yaml" second] := by
    simp only [disks, actions, step, load]
  have apart : ∀ f ∈ [first, second], ∀ g ∈ [first, second], f.stamp = g.stamp → f.bytes = g.bytes := by
    intro f hf g hg stamps
    have times := congrArg Stamp.modified stamps
    simp only [List.mem_cons, List.not_mem_nil, or_false] at hf hg
    rcases hf with rfl | rfl <;> rcases hg with rfl | rfl <;> first | rfl | cases times
  have told : StampsTell (disks { disk := start } actions) := by
    rw [passed, written]
    exact stampsTell_of_single "pets.yaml" [first, second] apart (by simp [start])
  exact ⟨told, loadsWell_of_run start actions told .handler "/pets"⟩

end Workspace

end RouteTable
