import RouteTable.CommandLine.Arguments
import RouteTable.Compiler.OnDisk
import RouteTable.Config.File
import RouteTable.Description.File
import RouteTable.HandlerTree.Directory

/-!
# Commands

`inspect` lists the compiled routes, `check` counts them and `invoke` sends one request through a route.  Running a
command depends on the disk, the environment and the engine for schemas and answers what is written and how it ended.
-/

namespace RouteTable

structure Outcome where
  output : String := ""
  errors : String := ""
  result : Except Failure Unit := .ok ()

/-- Where a command runs. -/
structure Surroundings where
  disk : Disk
  environment : String → Option String
  engine : SchemaEngine

namespace Command

def failed (f : Failure) : Outcome := { result := .error f }

/-- The directory of the description, for modules that are named relative to it. -/
def specDirectory (spec : String) : String :=
  match Path.parent? spec with
  | some dir => if dir = "" then "." else dir
  | none => "."

/-- The configuration file or the defaults, then the environment, then the command line. -/
def config (s : Surroundings) (args : CompileArguments) : Except Failure Config := do
  let c ← match args.config with
    | some path => Config.load s.disk path
    | none => pure { basedir := specDirectory args.spec }
  let c := c.override s.environment
  return { c with basedir := args.basedir.getD c.basedir
                  basePathMode := args.basePathMode.getD c.basePathMode }

/-- A description with what it is compiled with and the modules that were loaded so far. -/
def prepare (s : Surroundings) (args : CompileArguments) : Except Failure (Description × Setup × ModuleStore) := do
  let api ← Description.load s.disk args.spec
  let c ← config s args
  let (tree, store) ← match args.handlers with
    | none => pure (none, {})
    | some dir =>
      let (tree, store) := ((HandlerTree.readDir s.disk dir).runOn s.disk {}).value
      pure (some (← tree), store)
  let defaultHandler := if args.noDefault then none else some Handler.echo
  return (api, Setup.onDisk s.engine s.disk c tree defaultHandler, store)

/-- Compiles with modules from the disk. -/
def compile (s : Surroundings) (api : Description) (setup : Setup) (store : ModuleStore) :
    Traced (Except CompileError (List Route) × ModuleStore) :=
  (setup.compile api).runOn s.disk store

def routes (s : Surroundings) (args : CompileArguments) : Except Failure (List Route) := do
  let (api, setup, store) ← prepare s args
  match (compile s api setup store).value.1 with
  | .ok routes => .ok routes
  | .error e => .error (.because ("Failed to compile " ++ args.spec) (.text e.message))

/-- The paths at which a command looks for files and directories, as far as the disk lets it come. -/
def paths (s : Surroundings) (c : Command) : List String :=
  let args := c.arguments
  let named := ([args.spec] ++ args.config.toList ++ args.handlers.toList).map (Path.join s.disk.cwd)
  match prepare s args with
  | .error _ => named
  | .ok (api, setup, store) =>
    named ++ ((compile s api setup store).events.filterMap Event.modulePath?).flatMap Path.candidates

/-- Schemes with their scopes. -/
def securityColumn (r : Route) : String :=
  " ".intercalate ((r.security.getD []).map fun (scheme, e) => scheme ++ Report.texts e.scopes)

def tableLine (r : Route) : String :=
  Text.padRight 7 r.method.token ++ " " ++ Text.padRight 40 r.path ++ " " ++ Text.padRight 24 (r.name.getD "-")
    ++ " " ++ securityColumn r ++ "\n"

def inspectRun (s : Surroundings) (args : CompileArguments) (json : Bool) : Outcome :=
  match routes s args with
  | .error f => failed f
  | .ok routes =>
    if json then { output := (Json.array (routes.map Route.summary)).renderPretty ++ "\n" }
    else { output := String.join (routes.map tableLine) }

def issueReport (issues : List Issue) : String :=
  "\n❌ API description check failed. " ++ toString issues.length ++ " issue(s) found:\n\n"
    ++ String.join (issues.map fun i => i.text ++ "\n") ++ "\n"

def checkRun (s : Surroundings) (args : CompileArguments) : Outcome :=
  match prepare s args with
  | .error f => failed f
  | .ok (api, setup, store) =>
    match (compile s api setup store).value.1 with
    | .ok routes =>
      let declared := api.operationCount
      { output := "✅ " ++ args.spec ++ ": " ++ toString routes.length ++ " route(s) compiled from "
          ++ toString declared ++ " operation(s)\n"
          ++ (if routes.length < declared then
            "   " ++ toString (declared - routes.length) ++ " operation(s) had no handler\n" else "") }
    | .error e =>
      { errors := issueReport [⟨e.location, e.kind, e.message⟩]
        result := .error ⟨args.spec ++ " failed the check", []⟩ }

/-- The body of a request, if there is one, has to be JSON. -/
def body? (body : Option String) : Except Failure (Option Json) :=
  match body with
  | none => .ok none
  | some text =>
    match Json.read? text with
    | some v => .ok (some v)
    | none => .error (.because "Request body is not valid JSON" .json)

def methodNamed (name : String) : Except Failure Method :=
  match Method.ofString? name.toUpper with
  | some m => .ok m
  | none => .error (.because ("Invalid method " ++ name) (.text Method.invalidMessage))

def respond (s : Surroundings) (args : CompileArguments) (method path : String)
    (params query headers cookies : Pairs) (body : Option String) : Except Failure Response := do
  let method ← methodNamed method
  let body ← body? body
  let routes ← routes s args
  match routes.find? fun r => r.method = method ∧ r.path = path with
  | some r => return r.dispatch { method, path, pathParams := params, query, headers, cookies, body }
  | none => .error ⟨"No route for " ++ method.token ++ " " ++ path, []⟩

def run (s : Surroundings) : Command → Outcome
  | inspect args json => inspectRun s args json
  | check args => checkRun s args
  | invoke args method path params query headers cookies body =>
    match respond s args method path params query headers cookies body with
    | .ok response => { output := response.toJson.renderPretty ++ "\n" }
    | .error f => failed f

end Command

end RouteTable
