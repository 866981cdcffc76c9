import RouteTable.Disk
import RouteTable.Json.Reader
import RouteTable.Manifest
import RouteTable.Module.Inquiry
import RouteTable.Policy
import RouteTable.Yaml.Reader

/-!
# Modules on disk

A module file is read once for each of its versions; a version is told by the time of the last change and the size.
What is read gets numbers that nothing read before has.  So loads of an unchanged file answer the same module because a
store remembers it; a failed load leaves the store as it is.  `Inquiry.runOn` answers an inquiry from a disk, one load
after the other, and hands the store on from load to load.
-/

namespace RouteTable

/-- What tells one version of a file from another. -/
structure Stamp where
  modified : Int
  size : Nat
deriving DecidableEq

def File.stamp (f : File) : Stamp := ⟨f.modified, f.size⟩

/-- A module as it was last read from its file. -/
structure Cached (α : Type) where
  stamp : Stamp
  module : Module α

/-- The last module read from each file. -/
abbrev Cache (α : Type) := OrderedMap (List Path.Part) (Cached α)

namespace Disk

/-- The first candidate that is a file. -/
def locate? (d : Disk) (path : String) : Option (String × File) :=
  (Path.candidates path).findSome? fun p => (d.file? p).map (p, ·)

def hasModule (d : Disk) (path : String) : Bool := (Path.candidates path).any d.isFile

end Disk

namespace Cache

/-- How a file becomes a module, with the number of its first value. -/
abbrev Build (α : Type) := String → Nat → File → Except LoadError (Module α)

/-- Answers the cached module if its file has not changed, and reads the file again if it has.  The numbers below `made`
are taken. -/
def load (build : Build α) (d : Disk) (cache : Cache α) (made : Nat) (path : String) :
    Except LoadError (Module α) × Cache α × Nat :=
  match d.locate? path with
  | none => (.error (.notFound path), cache, made)
  | some (path, file) =>
    let key := Path.parts path
    match OrderedMap.get? cache key with
    | some cached => if cached.stamp = file.stamp then (.ok cached.module, cache, made) else read path key file
    | none => read path key file
where
  read (path : String) (key : List Path.Part) (file : File) : Except LoadError (Module α) × Cache α × Nat :=
    match build path made file with
    | .ok module => (.ok module, OrderedMap.put cache key ⟨file.stamp, module⟩, made + module.count)
    | .error e => (.error e, cache, made)

end Cache

namespace File

/-- The document in a file, written in JSON if the extension says so and else in YAML. -/
def tree (f : File) (path : String) : Except LoadError Tree :=
  match f.text? with
  | none => .error (.unreadable path IoError.invalidData.message)
  | some text =>
    let parsed := if Path.extension? path = some "json" then (Json.readEntries? text).map Tree.ofJson
      else Yaml.readTree? text
    match parsed with
    | some t => .ok t
    | none => .error (.malformed path)

def handlers : Cache.Build Handler := fun path first file => do
  match Manifest.read? (← file.tree path) with
  | some module => .ok (Manifest.handlers first module)
  | none => .error (.malformed path)

def authorizers : Cache.Build Authorizer := fun path first file => do
  match Policy.ofTree (← file.tree path) with
  | .ok policy => .ok (.callable (policy.authorizer (.loaded first)))
  | .error _ => .error (.malformed path)

end File

structure ModuleStore where
  handlers : Cache Handler := []
  authorizers : Cache Authorizer := []
  /-- Number of handlers and authorizers that were read so far. -/
  made : Nat := 0

namespace ModuleStore

/-- Loads a module of a kind. -/
def load (d : Disk) (s : ModuleStore) :
    (kind : ModuleKind) → String → Except LoadError (Module kind.Value) × ModuleStore
  | .handler, path =>
    let (answer, handlers, made) := s.handlers.load File.handlers d s.made path
    (answer, { s with handlers, made })
  | .authorizer, path =>
    let (answer, authorizers, made) := s.authorizers.load File.authorizers d s.made path
    (answer, { s with authorizers, made })

/-- What loads from a store answer while it is as it is. -/
def loaders (d : Disk) (s : ModuleStore) : Loaders :=
  ⟨fun path => (s.load d .handler path).1, fun path => (s.load d .authorizer path).1⟩

end ModuleStore

/-- Answers from a disk and a store, and answers the store after the last load. -/
def Inquiry.runOn (d : Disk) : ModuleStore → Inquiry α → Traced (α × ModuleStore)
  | s, done a => pure (a, s)
  | s, report e rest => do
    Traced.report e
    rest.runOn d s
  | s, load kind path next => do
    Traced.report (.moduleRequested kind path)
    let (answer, s) := s.load d kind path
    (next answer).runOn d s

end RouteTable
