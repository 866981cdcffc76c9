import RouteTable.CommandLine
import RouteTable.Schema.Engine

/-!
# The program

The files at the paths that a command looks at are taken from the file system until no path is new.  The command then
runs on them, and what it answers is printed.
-/

namespace RouteTable.Main

/-- Handler directories are read to this depth. -/
def depth : Nat := 64

/-- Adds what stands at a path, a directory with all below it. -/
def capture : Nat → Disk → String → IO Disk
  | 0, d, _ => pure d
  | n + 1, d, path => do
    let here := (← IO.currentDir) / path
    if ← here.isDir then
      let mut d := (d.makeDirectory? path).getD d
      for e in ← here.readDir do
        d ← capture n d (Path.join path e.fileName)
      return d
    else if ← here.pathExists then return d.write path ⟨← IO.FS.readBinFile here, 0⟩
    else return d

/-- Adds what a path passes through: directories, or the file that is in the way. -/
def captureAbove (d : Disk) (path : String) : IO Disk := do
  let mut d := d
  let mut above := "/"
  for s in Disk.parts path do
    let here := (← IO.currentDir) / above
    if ← here.isDir then d := (d.makeDirectory? above).getD d
    else if ← here.pathExists then d := d.write above ⟨.empty, 0⟩
    above := Path.join above s
  return d

/-- Looks at the paths of a command; modules are known once the files it names are, and two rounds later at most. -/
def survey (command : Command) (s : Surroundings) : IO Surroundings := do
  let mut s := s
  let mut seen : List String := []
  for _ in [0:4] do
    for path in command.paths s do
      if !seen.contains path then
        s := { s with disk := ← capture depth (← captureAbove s.disk path) path }
        seen := path :: seen
  return s

def variableNames : List String :=
  ["BRRTR_BASEDIR", "BRRTR_HANDLER_ROOT", "BRRTR_SECURITY_ROOT", "BRRTR_BASE_PATH_MODE"]

/-- The directory and the variables of the process, with no file looked at yet. -/
def surroundings : IO Surroundings := do
  let set ← variableNames.filterMapM fun name => do return (← IO.getEnv name).map (name, ·)
  return { disk := { cwd := (← IO.currentDir).toString }
           environment := fun name => (set.find? (·.1 = name)).map (·.2)
           engine := SchemaDocument.engine }

def run (command : Command) : IO UInt32 := do
  let out := command.run (← survey command (← surroundings))
  IO.print out.output
  IO.eprint out.errors
  match out.result with
  | .ok _ => return 0
  | .error f => do
    IO.eprintln ("Error: " ++ f.report)
    return 1

end RouteTable.Main

def main (args : List String) : IO UInt32 := do
  match RouteTable.Command.parse args with
  | .ok command => RouteTable.Main.run command
  | .error e => do
    if e.exitCode = 0 then IO.print RouteTable.Command.help
    else IO.eprint ("error: " ++ e.message ++ "\n\n" ++ RouteTable.Command.help)
    return e.exitCode
