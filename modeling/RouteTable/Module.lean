import RouteTable.Callable
import RouteTable.Event
import RouteTable.Path

/-!
# Modules and references to them

A reference is bound to a value or names a module by path.  A module is callable for every method, or it exports one
value per lowercase verb.  A `Loader` answers for paths; `Registry` is one in memory, which finds a module under any of
the candidate paths of a reference.
-/

namespace RouteTable

inductive Reference (α : Type)
  | bound (value : α)
  | module (path : String)

namespace Reference

def describe : Reference α → String
  | bound _ => Report.tuple "Bound" ".."
  | module path => Report.tuple "Module" (Text.quoted path)

end Reference

inductive Module (α : Type)
  | callable (value : α)
  | exports (entries : OrderedMap String α)

namespace Module

/-- Lowercases the verbs; of a repeated verb the last value counts. -/
def ofExports (entries : List (String × α)) : Module α :=
  .exports (OrderedMap.ofEntries (entries.map fun (verb, value) => (verb.toLower, value)))

def describe : Module α → String
  | callable _ => Report.tuple "Callable" ".."
  | exports entries => Report.tuple "Exports" (Report.texts (OrderedMap.keys entries))

/-- Number of values. -/
def count : Module α → Nat
  | callable _ => 1
  | exports entries => entries.length

end Module

/-- Answers what module stands at a path. -/
abbrev Loader (α : Type) := String → Except LoadError (Module α)

/-- Modules in memory, under absolute paths. -/
structure Registry (α : Type) where
  modules : OrderedMap String (Module α) := []

namespace Registry

/-- A registered path is taken from the current directory. -/
def register (r : Registry α) (cwd path : String) (module : Module α) : Registry α :=
  ⟨OrderedMap.put r.modules (Path.absolute cwd "" path) module⟩

/-- Registers a module that is callable for every method. -/
def registerCallable (r : Registry α) (cwd path : String) (value : α) : Registry α :=
  r.register cwd path (.callable value)

/-- Registers a module that exports values under verbs. -/
def registerExports (r : Registry α) (cwd path : String) (entries : List (String × α)) : Registry α :=
  r.register cwd path (.ofExports entries)

def size (r : Registry α) : Nat := r.modules.length

def at? (r : Registry α) (path : String) : Option (Module α) :=
  (r.modules.find? fun e => Path.same e.1 path).map (·.2)

def find? (r : Registry α) (path : String) : Option (Module α) := (Path.candidates path).findSome? r.at?

def exists_ (r : Registry α) (path : String) : Bool := (r.find? path).isSome

def load (r : Registry α) : Loader α := fun path =>
  match r.find? path with
  | some module => .ok module
  | none => .error (.notFound path)

end Registry

end RouteTable
