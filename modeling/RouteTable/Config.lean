import RouteTable.Decode
import RouteTable.Path

/-!
# Configuration

Where modules are looked for and how route paths are built.  `Config.override` applies what the environment sets; a
base path mode that is not understood is ignored.
-/

namespace RouteTable

/-- Whether the base path of a description is put in front of route paths. -/
inductive BasePathMode
  | prependWhenDeclared
  | never
deriving DecidableEq, Repr

namespace BasePathMode

def name : BasePathMode → String
  | prependWhenDeclared => "prepend-when-declared"
  | never => "never"

def all : List BasePathMode := [prependWhenDeclared, never]

def apply (mode : BasePathMode) (basePath : Option String) (path : String) : String :=
  match mode, basePath with
  | prependWhenDeclared, some base => Text.dropTrailing '/' base ++ path
  | _, _ => path

/-- Reads a mode, or answers the folded text that is none. -/
def parse (s : String) : Except String BasePathMode :=
  match (Text.trim s).toLower with
  | "prepend" => .ok prependWhenDeclared
  | "prepend-when-declared" => .ok prependWhenDeclared
  | "never" => .ok never
  | other => .error other

def unknownMessage (folded : String) : String := "unknown base path mode: " ++ folded

end BasePathMode

structure Config where
  basedir : String := "."
  handlerRoot : Option String := none
  securityRoot : Option String := none
  basePathMode : BasePathMode := .prependWhenDeclared
deriving DecidableEq

namespace Config

def fieldNames : List String := ["basedir", "handler_root", "security_root", "base_path_mode"]

/-- Where handler modules must exist, for a base directory. -/
def handlerRootFrom (c : Config) (cwd basedir : String) : String :=
  match c.handlerRoot with
  | some root => Path.absolute cwd basedir root
  | none => basedir

open Decode in
def ofFields (fields : List (String × Json)) : Except DecodeError Config := do
  match fields.find? fun e => !fieldNames.contains e.1 with
  | some e => .error (.unknownField e.1 fieldNames)
  | none =>
    let path := textAs "path string"
    let basedir ← field fields "basedir" path "."
    let handlerRoot ← field fields "handler_root" (optional path) none
    let securityRoot ← field fields "security_root" (optional path) none
    let basePathMode ← field fields "base_path_mode" (variant (BasePathMode.all.map fun m => (m.name, m)))
      .prependWhenDeclared
    return { basedir, handlerRoot, securityRoot, basePathMode }

def ofJson : Decoder Config := Decode.record "CompilerConfig" fieldNames ofFields

/-- What the environment sets goes before what the configuration says. -/
def override (c : Config) (lookup : String → Option String) : Config :=
  { basedir := (lookup "BRRTR_BASEDIR").getD c.basedir
    handlerRoot := (lookup "BRRTR_HANDLER_ROOT").or c.handlerRoot
    securityRoot := (lookup "BRRTR_SECURITY_ROOT").or c.securityRoot
    basePathMode := match (lookup "BRRTR_BASE_PATH_MODE").map BasePathMode.parse with
      | some (.ok mode) => mode
      | _ => c.basePathMode }

def toJson (c : Config) : Json :=
  .object [("basedir", .string c.basedir), ("handler_root", .ofOptionString c.handlerRoot),
    ("security_root", .ofOptionString c.securityRoot), ("base_path_mode", .string c.basePathMode.name)]

end Config

end RouteTable
