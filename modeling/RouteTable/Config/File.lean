import RouteTable.Config
import RouteTable.Failure
import RouteTable.Yaml.Reader

/-!
# Configuration files

A configuration file is a YAML mapping of the fields that are set; an empty document sets none.  Any scalar is taken as
a text.  A root that is empty or null counts as not set.
-/

namespace RouteTable.Config

open Yaml (Node)

/-- A text, or nothing for a plain scalar that is empty or null. -/
def optionalText? : Node Empty → Option (Option String)
  | .scalar p text plain =>
    if !plain then some (some text)
    else match p.tag with
      | none => some (if text = "" ∨ Yaml.Scalar.isNull text then none else some text)
      | some "tag:yaml.org,2002:null" => if Yaml.Scalar.isNull text then some none else none
      | some _ => some (some text)
  | _ => none

def modeNamed? (name : String) : Option BasePathMode := BasePathMode.all.find? (·.name = name)

/-- A mode by its name, or by a tag of that name on nothing. -/
def mode? : Node Empty → Option BasePathMode
  | .scalar p text plain =>
    match p.tag with
    | some tag =>
      if Yaml.Scalar.isLocalTag tag then
        if plain ∧ (text = "" ∨ Yaml.Scalar.isNull text) then modeNamed? (String.ofList (tag.toList.drop 1))
        else none
      else modeNamed? text
    | none => modeNamed? text
  | _ => none

def setField? (c : Config) (name : String) (value : Node Empty) : Option Config :=
  match name with
  | "basedir" => value.text?.map fun basedir => { c with basedir }
  | "handler_root" => (optionalText? value).map fun handlerRoot => { c with handlerRoot }
  | "security_root" => (optionalText? value).map fun securityRoot => { c with securityRoot }
  | "base_path_mode" => (mode? value).map fun basePathMode => { c with basePathMode }
  | _ => none

/-- Sets the fields of a mapping; a field may be set once. -/
def setFields? (c : Config) (seen : List String) : List (Node Empty × Node Empty) → Option Config
  | [] => some c
  | (key, value) :: rest => do
    let name ← key.text?
    if seen.contains name then none
    else do
      let c ← setField? c name value
      setFields? c (name :: seen) rest

/-- Reads a configuration; the fields that are not set have their default values. -/
def ofYaml? (text : String) : Option Config :=
  match Yaml.read? text with
  | none => none
  | some none => some {}
  | some (some (.mapping _ entries)) => setFields? {} [] entries
  | some (some (.scalar _ text plain)) => if plain ∧ text = "" then some {} else none
  | some (some _) => none

def load (d : Disk) (path : String) : Except Failure Config :=
  match d.readText path with
  | .error e => .error (.because ("Failed to read config file " ++ path) (.io e))
  | .ok text =>
    match ofYaml? text with
    | some c => .ok c
    | none => .error (.because ("Failed to parse config file " ++ path) .yaml)

end RouteTable.Config
