import RouteTable.Method
import RouteTable.Decode

/-!
# What compilation reports

An event has a severity, the component that reports it, a message and fields.  `Traced` is a value together with the
events that led to it, in order.
-/

namespace RouteTable

/-- Why a module could not be loaded. -/
inductive LoadError
  | notFound (path : String)
  | unreadable (path : String) (reason : String)
  | malformed (path : String)
deriving DecidableEq

namespace LoadError

/-- What goes wrong inside a malformed module is not told. -/
def message : LoadError → String
  | notFound path => "module not found: " ++ path
  | unreadable path reason => "failed to read module " ++ path ++ ": " ++ reason
  | malformed path => "malformed module " ++ path ++ ": "

end LoadError

/-- Where a handler may come from when an operation names none. -/
inductive Strategy
  | tree
  | default
deriving DecidableEq, Repr

/-- What supplied the handler of a route. -/
inductive HandlerSource
  | operation
  | strategy (s : Strategy)
deriving DecidableEq, Repr

def HandlerSource.name : HandlerSource → String
  | operation => "x-handler"
  | strategy .tree => "HandlerTree"
  | strategy .default => "DefaultHandler"

inductive ModuleKind
  | handler
  | authorizer
deriving DecidableEq, Repr

inductive Event
  | moduleRequested (kind : ModuleKind) (path : String)
  | moduleUnloadable (path : String) (error : LoadError)
  | exportMissing (path : String) (method : Method) (exports : List String)
  | authorizerUnresolved (scheme reference : String)
  | requirementCompiled (path : String) (method : Method) (scheme : String) (scopes : List String)
      (authorize : Bool)
  | schemaRefused (path : String) (method : Method) (parameter error : String)
  | handlerModuleMissing (module : String) (method : Method)
  | handlerUnresolved (reference : String) (method : Method)
  | handlerResolved (path : String) (method : Method) (source : HandlerSource)
  | routeDropped (path : String) (method : Method)
  | tableCompiled (routes dropped : Nat) (basePath : Option String)
deriving DecidableEq

inductive Level
  | trace | debug | info | warn
deriving DecidableEq, Repr

inductive Component
  | compiler | security | modules | validators
deriving DecidableEq, Repr

namespace Event

def level : Event → Level
  | moduleRequested .. => .trace
  | authorizerUnresolved .. | schemaRefused .. | handlerModuleMissing .. | handlerUnresolved .. => .warn
  | tableCompiled .. => .info
  | _ => .debug

/-- The path at which a module is looked for. -/
def modulePath? : Event → Option String
  | moduleRequested _ path => some path
  | handlerModuleMissing path _ => some path
  | _ => none

def component : Event → Component
  | moduleRequested .. | moduleUnloadable .. | exportMissing .. => .modules
  | authorizerUnresolved .. | requirementCompiled .. => .security
  | schemaRefused .. => .validators
  | _ => .compiler

def message : Event → String
  | moduleRequested .. => "Loading module"
  | moduleUnloadable .. => "Could not load module"
  | exportMissing .. => "Module has no export for method"
  | authorizerUnresolved .. => "x-authorize did not resolve; scheme has no authorizer"
  | requirementCompiled .. => "Compiled security requirement"
  | schemaRefused .. => "Parameter schema does not compile; checking presence only"
  | handlerModuleMissing .. => "x-handler module not found; using default handler"
  | handlerUnresolved .. => "x-handler did not resolve for this method; using default handler"
  | handlerResolved .. => "Resolved handler"
  | routeDropped .. => "No handler resolved; route dropped"
  | tableCompiled .. => "Compiled route table"

def fields : Event → List (String × Json)
  | moduleRequested _ path => [("path", .string path)]
  | moduleUnloadable path error => [("path", .string path), ("error", .string error.message)]
  | exportMissing path method exports =>
    [("path", .string path), ("method", .string method.token), ("exports", .string (Report.texts exports))]
  | authorizerUnresolved scheme reference => [("scheme", .string scheme), ("reference", .string reference)]
  | requirementCompiled path method scheme scopes authorize =>
    [("path", .string path), ("method", .string method.token), ("scheme", .string scheme),
      ("scopes", .string (Report.texts scopes)), ("authorize", .bool authorize)]
  | schemaRefused path method parameter error =>
    [("path", .string path), ("method", .string method.token), ("parameter", .string parameter),
      ("error", .string error)]
  | handlerModuleMissing module method => [("module", .string module), ("method", .string method.token)]
  | handlerUnresolved reference method => [("reference", .string reference), ("method", .string method.token)]
  | handlerResolved path method source =>
    [("path", .string path), ("method", .string method.token), ("source", .string source.name)]
  | routeDropped path method => [("path", .string path), ("method", .string method.token)]
  | tableCompiled routes dropped basePath =>
    [("routes", .int routes), ("dropped", .int dropped),
      ("base_path", .string (Report.optional (basePath.map Text.quoted)))]

end Event

structure Traced (α : Type) where
  value : α
  events : List Event

namespace Traced

def report (e : Event) : Traced Unit := ⟨(), [e]⟩

protected def bind (t : Traced α) (f : α → Traced β) : Traced β :=
  let u := f t.value
  ⟨u.value, t.events ++ u.events⟩

instance : Monad Traced where
  pure a := ⟨a, []⟩
  bind := Traced.bind

end Traced

end RouteTable
