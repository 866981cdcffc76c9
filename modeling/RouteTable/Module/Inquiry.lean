import RouteTable.Module

/-!
# Computations that ask for modules

An `Inquiry` asks for modules on its way and reports events.  `Inquiry.run` answers it from loaders that answer the same
all the time.  `Inquiry.resolve` is the value of a reference.
-/

namespace RouteTable

/-- What modules of a kind hold. -/
@[reducible]
def ModuleKind.Value : ModuleKind → Type
  | handler => Handler
  | authorizer => Authorizer

/-- Where the modules of every kind are found. -/
structure Loaders where
  handlers : Loader Handler
  authorizers : Loader Authorizer

namespace Loaders

def load (l : Loaders) : (kind : ModuleKind) → Loader kind.Value
  | .handler => l.handlers
  | .authorizer => l.authorizers

/-- Finds no modules. -/
def empty : Loaders := ⟨fun path => .error (.notFound path), fun path => .error (.notFound path)⟩

end Loaders

inductive Inquiry (α : Type)
  | done (value : α)
  | report (event : Event) (rest : Inquiry α)
  | load (kind : ModuleKind) (path : String) (next : Except LoadError (Module kind.Value) → Inquiry α)

namespace Inquiry

protected def bind : Inquiry α → (α → Inquiry β) → Inquiry β
  | done a, f => f a
  | report e rest, f => report e (rest.bind f)
  | load kind path next, f => load kind path fun answer => (next answer).bind f

instance : Monad Inquiry where
  pure := done
  bind := Inquiry.bind

/-- Asks for a module. -/
def ask (kind : ModuleKind) (path : String) : Inquiry (Except LoadError (Module kind.Value)) := load kind path done

/-- Reports what was reported already. -/
def ofTraced (t : Traced α) : Inquiry α := t.events.foldr report (done t.value)

instance : MonadLift Traced Inquiry := ⟨ofTraced⟩

/-- Answers from loaders; every module that is asked for is reported. -/
def run (l : Loaders) : Inquiry α → Traced α
  | done a => pure a
  | report e rest => do
    Traced.report e
    rest.run l
  | load kind path next => do
    Traced.report (.moduleRequested kind path)
    (next (l.load kind path)).run l

/-- The value of a reference for a method.  What prevents it is reported, not raised. -/
def resolve (kind : ModuleKind) (cwd basedir : String) (reference : Reference kind.Value) (method : Option Method) :
    Inquiry (Option kind.Value) :=
  match reference with
  | .bound value => pure (some value)
  | .module path => do
    let path := Path.absolute cwd basedir path
    match ← ask kind path with
    | .error error => do
      Traced.report (.moduleUnloadable path error)
      pure none
    | .ok (.callable value) => pure (some value)
    | .ok (.exports entries) =>
      match method with
      | none => pure none
      | some method =>
        match OrderedMap.get? entries method.key with
        | some value => pure (some value)
        | none => do
          Traced.report (.exportMissing path method (OrderedMap.keys entries))
          pure none

end Inquiry

/-- The value of a reference, with modules from loaders. -/
def resolve (kind : ModuleKind) (l : Loaders) (cwd basedir : String) (reference : Reference kind.Value)
    (method : Option Method) : Traced (Option kind.Value) :=
  (Inquiry.resolve kind cwd basedir reference method).run l

/-- Runs a step on every item until one fails. -/
def collect [Monad m] (step : α → m (Except ε β)) : List α → m (Except ε (List β))
  | [] => pure (.ok [])
  | a :: rest => do
    match ← step a with
    | .error e => pure (.error e)
    | .ok b =>
      match ← collect step rest with
      | .error e => pure (.error e)
      | .ok bs => pure (.ok (b :: bs))

end RouteTable
