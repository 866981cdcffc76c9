import RouteTable.Module
import RouteTable.Proofs.NormalPaths
import RouteTable.Proofs.RepeatedKeys

/-!
# Registered modules

A registry is a map from normal paths to modules.  It holds the registrations under their normal paths, of several with
one path the last (`Registry.modules_build`), and at normal paths two are the same only if they are equal
(`Registry.at?_eq_get?`).  So a load looks for the candidates of a path among the registered ones, and it does not count
how they were spelled (`Registry.load_build`).
-/

namespace RouteTable

variable {α : Type}

theorem Path.candidates_eq (path : String) :
    candidates path =
      if extension? path ∈ [some "yaml", some "yml", some "json"] then [path]
      else [path, path ++ ".yaml", path ++ ".yml", path ++ ".json"] := by
  have listed : isModuleFile path = true ↔ extension? path ∈ [some "yaml", some "yml", some "json"] := by
    rw [isModuleFile]
    cases extension? path <;> simp [moduleExtensions]
  have appended : ∀ ending : String, path ++ "." ++ ending = path ++ ("." ++ ending) := fun _ => String.append_assoc
  rw [candidates]
  by_cases h : isModuleFile path = true
  · rw [if_pos h, if_pos (listed.1 h)]
  · rw [if_neg h, if_neg (mt listed.2 h)]
    simp [moduleExtensions, appended]

namespace Registry

/-- A module is registered as it is, as a value for every method, or as values under verbs. -/
inductive Registration (α : Type)
  | module (path : String) (module : Module α)
  | callable (path : String) (value : α)
  | exports (path : String) (entries : List (String × α))

namespace Registration

def path : Registration α → String
  | module path _ => path
  | callable path _ => path
  | exports path _ => path

/-- The module that comes to stand at the path. -/
def content : Registration α → Module α
  | module _ m => m
  | callable _ value => .callable value
  | exports _ entries => .ofExports entries

def apply (cwd : String) (r : Registry α) : Registration α → Registry α
  | module path m => r.register cwd path m
  | callable path value => r.registerCallable cwd path value
  | exports path entries => r.registerExports cwd path entries

/-- Where a module is registered, however the path is spelled, and the module. -/
def entry (cwd : String) (r : Registration α) : String × Module α := (Path.absolute cwd "" r.path, r.content)

theorem modules_apply (cwd : String) (r : Registry α) (new : Registration α) :
    (new.apply cwd r).modules = OrderedMap.put r.modules (new.entry cwd).1 (new.entry cwd).2 := by
  cases new <;> rfl

end Registration

/-- The registry after some registrations. -/
def build (cwd : String) (rs : List (Registration α)) : Registry α :=
  rs.foldl (fun r new => new.apply cwd r) {}

/-- The module that was registered last at a path. -/
def latest? (cwd : String) (rs : List (Registration α)) (path : String) : Option (Module α) :=
  rs.reverse.findSome? fun r => if Path.absolute cwd "" r.path = path then some r.content else none

/-- The module that was registered last at the first candidate of a path where one was. -/
def resolved? (cwd : String) (rs : List (Registration α)) (path : String) : Option (Module α) :=
  (if Path.extension? path ∈ [some "yaml", some "yml", some "json"] then [path]
    else [path, path ++ ".yaml", path ++ ".yml", path ++ ".json"]).findSome? (latest? cwd rs)

theorem modules_build (cwd : String) (rs : List (Registration α)) :
    (build cwd rs).modules = OrderedMap.ofEntries (rs.map (Registration.entry cwd)) := by
  induction rs using List.reverseRecOn with
  | nil => rfl
  | append_singleton rs new ih =>
    rw [List.map_append, List.map_singleton, OrderedMap.ofEntries_concat, ← ih, ← Registration.modules_apply]
    simp [build]

theorem get?_modules_build (cwd : String) (rs : List (Registration α)) (path : String) :
    OrderedMap.get? (build cwd rs).modules path = latest? cwd rs path := by
  rw [modules_build, OrderedMap.get?_ofEntries, ← List.map_reverse, List.findSome?_map]
  rfl

theorem normal_of_mem_keys {cwd : String} {rs : List (Registration α)} {key : String}
    (h : key ∈ OrderedMap.keys (build cwd rs).modules) : Path.Normal key := by
  rw [modules_build, OrderedMap.keys_ofEntries, List.mem_eraseDups, List.map_map] at h
  obtain ⟨r, -, rfl⟩ := List.mem_map.1 h
  exact Path.normal_absolute cwd "" r.path

/-- Among normal paths a path is found by its text. -/
theorem at?_eq_get? {r : Registry α} (normal : ∀ key ∈ OrderedMap.keys r.modules, Path.Normal key) {path : String}
    (h : Path.Normal path) : r.at? path = OrderedMap.get? r.modules path := by
  rw [at?]
  generalize r.modules = modules at normal
  induction modules with
  | nil => rfl
  | cons e rest ih =>
    rw [OrderedMap.keys, List.map_cons, List.forall_mem_cons] at normal
    have same : Path.same e.1 path = true ↔ e.1 = path := by
      rw [Path.same, beq_iff_eq]
      exact ⟨normal.1.eq_of_parts_eq h, congrArg Path.parts⟩
    rw [List.find?_cons, OrderedMap.get?]
    by_cases found : e.1 = path
    · rw [same.2 found, if_pos found]
      rfl
    · rw [Bool.eq_false_iff.2 (mt same.1 found), if_neg found]
      exact ih normal.2

theorem load_eq (r : Registry α) (path : String) :
    r.load path = match r.find? path with
      | some m => .ok m
      | none => .error (.notFound path) := by
  rfl

theorem find?_build (cwd : String) (rs : List (Registration α)) {path : String} (h : Path.Normal path) :
    (build cwd rs).find? path = resolved? cwd rs path := by
  rw [find?, resolved?, ← Path.candidates_eq, ← List.head?_filterMap, ← List.head?_filterMap]
  congr 1
  refine List.filterMap_congr fun candidate mem => ?_
  rw [at?_eq_get? (fun _ => normal_of_mem_keys) (h.of_mem_candidates mem), get?_modules_build]

/-- After any registrations a load answers the module that was registered last at the first candidate of the path where
one was, or that there is none.  The size counts the paths where a module was registered.  Paths count only for where
they lead to: under other spellings of what is registered and of what is loaded the answer is the same. -/
theorem load_build (cwd : String) (rs : List (Registration α)) :
    (∀ base path, (build cwd rs).load (Path.absolute cwd base path) =
      match resolved? cwd rs (Path.absolute cwd base path) with
      | some m => .ok m
      | none => .error (.notFound (Path.absolute cwd base path))) ∧
    (build cwd rs).size = (rs.map fun r => Path.absolute cwd "" r.path).toFinset.card ∧
    ∀ others base path otherBase otherPath, others.map (Registration.entry cwd) = rs.map (Registration.entry cwd) →
      Path.absolute cwd otherBase otherPath = Path.absolute cwd base path →
      (build cwd others).load (Path.absolute cwd otherBase otherPath) =
        (build cwd rs).load (Path.absolute cwd base path) := by
  refine ⟨fun base path => ?_, ?_, fun others base path otherBase otherPath same target => ?_⟩
  · rw [load_eq, find?_build cwd rs (Path.normal_absolute cwd base path)]
  · rw [size, modules_build, OrderedMap.length_ofEntries, List.map_map]
    rfl
  · have modules : (build cwd others).modules = (build cwd rs).modules := by rw [modules_build, modules_build, same]
    have equal : build cwd others = build cwd rs := congrArg mk modules
    rw [equal, target]

end Registry

end RouteTable
