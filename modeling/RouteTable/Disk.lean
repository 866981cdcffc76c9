import RouteTable.OrderedMap
import RouteTable.Path

/-!
# Files and directories

A disk is a tree of directories.  A relative path is taken from the current directory, and then a path is followed part
by part from the root: `.` stays, `..` goes up and never above the root, and every part but the last has to be a
directory.  Reading fails with the cause that stopped it.
-/

namespace RouteTable

structure File where
  bytes : ByteArray
  /-- Time of the last change. -/
  modified : Int

namespace File

def size (f : File) : Nat := f.bytes.size

def text? (f : File) : Option String := String.fromUTF8? f.bytes

end File

inductive Entry
  | file (f : File)
  | directory (entries : List (String × Entry))

inductive IoError
  | notFound
  | notADirectory
  | isADirectory
  | invalidData
deriving DecidableEq, Repr

namespace IoError

def message : IoError → String
  | notFound => "No such file or directory (os error 2)"
  | notADirectory => "Not a directory (os error 20)"
  | isADirectory => "Is a directory (os error 21)"
  | invalidData => "stream did not contain valid UTF-8"

end IoError

/-- The entries of the root directory, and the directory from which relative paths are taken. -/
structure Disk where
  entries : OrderedMap String Entry := []
  cwd : String := "/"

namespace Disk

/-- Parts of a path; a slash at the end asks for a directory as `.` does. -/
def parts (path : String) : List String :=
  (Text.split '/' path).filter (· ≠ "") ++ (if path.endsWith "/" then ["."] else [])

/-- Follows parts from the innermost of some directories. -/
def walk : List (List (String × Entry)) → Entry → List String → Except IoError Entry
  | _, e, [] => .ok e
  | above, .directory entries, s :: rest =>
    if s = "." then walk above (.directory entries) rest
    else if s = ".." then
      match above with
      | outer :: above => walk above (.directory outer) rest
      | [] => walk [] (.directory entries) rest
    else
      match OrderedMap.get? entries s with
      | some e => walk (entries :: above) e rest
      | none => .error .notFound
  | _, .file _, _ :: _ => .error .notADirectory

/-- The entry at a path; an empty path is no path. -/
def entry (d : Disk) (path : String) : Except IoError Entry :=
  if path = "" then .error .notFound else walk [] (.directory d.entries) (parts (Path.join d.cwd path))

def file? (d : Disk) (path : String) : Option File :=
  match d.entry path with
  | .ok (.file f) => some f
  | _ => none

def isFile (d : Disk) (path : String) : Bool := (d.file? path).isSome

def readText (d : Disk) (path : String) : Except IoError String :=
  match d.entry path with
  | .ok (.file f) =>
    match f.text? with
    | some text => .ok text
    | none => .error .invalidData
  | .ok (.directory _) => .error .isADirectory
  | .error e => .error e

/-- Names and entries of a directory. -/
def list (d : Disk) (path : String) : Except IoError (List (String × Entry)) :=
  match d.entry path with
  | .ok (.directory entries) => .ok entries
  | .ok (.file _) => .error .notADirectory
  | .error e => .error e

/-- Puts an entry at names from a directory; missing directories are made, a file in the way prevents it. -/
def place (new : Option Entry → Option Entry) : List String → Option Entry → Option Entry
  | [], old => new old
  | s :: rest, none => (place new rest none).map fun e => .directory [(s, e)]
  | s :: rest, some (.directory entries) =>
    (place new rest (OrderedMap.get? entries s)).map fun e => .directory (OrderedMap.put entries s e)
  | _ :: _, some (.file _) => none

def update? (d : Disk) (path : String) (new : Option Entry → Option Entry) : Option Disk :=
  match place new (Path.normalSteps (Path.join d.cwd path)) (some (.directory d.entries)) with
  | some (.directory entries) => some { d with entries }
  | _ => none

/-- Writes a file; nothing happens where a directory or, further up, a file stands in the way. -/
def write (d : Disk) (path : String) (f : File) : Disk :=
  (d.update? path fun
    | some (.directory _) => none
    | _ => some (.file f)).getD d

/-- Makes a directory and those above it. -/
def makeDirectory? (d : Disk) (path : String) : Option Disk :=
  d.update? path fun
    | none => some (.directory [])
    | some (.directory entries) => some (.directory entries)
    | some (.file _) => none

def drop : List String → Entry → Option Entry
  | [s], .directory entries =>
    if (OrderedMap.get? entries s).isSome then some (.directory (OrderedMap.erase entries s)) else none
  | s :: rest, .directory entries =>
    ((OrderedMap.get? entries s).bind (drop rest)).map fun e => .directory (OrderedMap.put entries s e)
  | _, _ => none

/-- Removes a file, or a directory with all it holds. -/
def remove? (d : Disk) (path : String) : Option Disk :=
  match drop (Path.normalSteps (Path.join d.cwd path)) (.directory d.entries) with
  | some (.directory entries) => some { d with entries }
  | _ => none

end Disk

end RouteTable
