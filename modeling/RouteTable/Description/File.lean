import RouteTable.Description.Loading
import RouteTable.Failure
import RouteTable.Yaml.Reader

/-!
# Description files

A description is written in YAML or JSON.  In a file the extensions `yaml` and `yml` mean YAML and all others JSON.
-/

namespace RouteTable

namespace Description

def ofValue (v : Json) : Except Failure Description :=
  (ofJson v).mapError fun e => .because "Invalid API description" (.text e.message)

def ofYaml (text : String) : Except Failure Description :=
  match Yaml.readJson? text with
  | some v => ofValue v
  | none => .error (.because "Failed to parse YAML API description" .yaml)

def ofJsonText (text : String) : Except Failure Description :=
  match Json.read? text with
  | some v => ofValue v
  | none => .error (.because "Failed to parse JSON API description" .json)

def isYamlFile (path : String) : Bool := (Path.extension? path).any fun e => e == "yaml" || e == "yml"

def load (d : Disk) (path : String) : Except Failure Description :=
  match d.readText path with
  | .error e => .error (.because ("Failed to read " ++ path) (.io e))
  | .ok text =>
    (if isYamlFile path then ofYaml text else ofJsonText text).mapError (Failure.within ("Failed to load " ++ path))

end Description

end RouteTable
