import RouteTable.Text

/-!
# File paths

A path is a text.  `Path.absolute` joins a path to a base, takes a relative result from the current directory and
removes `.`, `..` and empty parts; `..` stops at the root.  `Path.candidates` lists the files a module path may stand
for.
-/

namespace RouteTable.Path

/-- One part of a path.  Empty parts and inner `.` parts do not count. -/
inductive Part
  | root
  | here
  | up
  | name (text : String)
deriving DecidableEq, Repr

def isAbsolute (path : String) : Bool := path.toList.head? == some '/'

/-- The texts between slashes that are neither empty nor `.`. -/
def steps (path : String) : List String := (Text.split '/' path).filter fun s => s ≠ "" ∧ s ≠ "."

/-- A leading `.` of a relative path is a part of its own. -/
def parts (path : String) : List Part :=
  let inner := (steps path).map fun s => if s = ".." then Part.up else Part.name s
  if isAbsolute path then .root :: inner
  else if (Text.split '/' path).head? = some "." then .here :: inner
  else inner

/-- Two paths are the same when their parts are. -/
def same (a b : String) : Bool := parts a == parts b

/-- An absolute path replaces the base. -/
def join (base path : String) : String :=
  if isAbsolute path then path
  else if base = "" ∨ base.toList.getLast? = some '/' then base ++ path
  else base ++ "/" ++ path

/-- Follows the steps from a stack of names, the innermost first. -/
def follow (stack : List String) : List String → List String
  | [] => stack
  | s :: rest => if s = ".." then follow stack.tail rest else follow (s :: stack) rest

/-- The names an absolute path passes through from the root. -/
def normalSteps (path : String) : List String := (follow [] (steps path)).reverse

def ofSteps (names : List String) : String := "/" ++ "/".intercalate names

/-- A path as seen from a base, which itself is seen from the current directory `cwd`. -/
def absolute (cwd base path : String) : String := ofSteps (normalSteps (join cwd (join base path)))

/-- The last part, if it is a name. -/
def fileName? (path : String) : Option String :=
  match (parts path).getLast? with
  | some (.name s) => some s
  | _ => none

/-- A file name cut at its last point; a point at the very front does not count. -/
def cutExtension (name : String) : String × Option String :=
  match (splitChars '.' name.toList).reverse with
  | last :: before@(_ :: _) =>
    if before = [[]] ∨ name = ".." then (name, none)
    else (String.ofList (joinChars '.' before.reverse), some (String.ofList last))
  | _ => (name, none)

def extension? (path : String) : Option String := (fileName? path).bind fun n => (cutExtension n).2

/-- The directory of a path: everything before the last part, `""` for a lone name. -/
def parent? (path : String) : Option String :=
  match (parts path).getLast? with
  | none => none
  | some .root => none
  | some _ =>
    let texts := (parts path).dropLast.map fun
      | .root => ""
      | .here => "."
      | .up => ".."
      | .name s => s
    some (if texts = [""] then "/" else "/".intercalate texts)

/-- Extensions of module files, in the order they are tried. -/
def moduleExtensions : List String := ["yaml", "yml", "json"]

def isModuleFile (path : String) : Bool := (extension? path).any (moduleExtensions.contains ·)

/-- The path itself and, unless it ends in a module extension, the path with each of them appended. -/
def candidates (path : String) : List String :=
  if isModuleFile path then [path] else path :: moduleExtensions.map fun e => path ++ "." ++ e

end RouteTable.Path
