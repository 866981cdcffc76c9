import RouteTable.Failure
import RouteTable.HandlerTree
import RouteTable.Module.Inquiry

/-!
# Handler trees from directories

A directory of module files is a handler tree: `pets.yaml` serves `/pets` and `pets/all.json` serves `/pets/all`.
Entries are visited in the order of their names; files that are no modules, and modules that do not load, are skipped.
A directory that cannot be listed ends the visit.
-/

namespace RouteTable

/-- What stands under a name in a directory. -/
inductive Listing
  | file
  | directory (entries : List (String × Listing))
  /-- A directory that cannot be listed, and why. -/
  | closed (cause : Cause)

namespace Listing

mutual
/-- Orders the entries of every directory by name. -/
def sorted : Listing → Listing
  | file => file
  | directory entries => directory ((sortedAll entries).mergeSort fun a b => a.1 ≤ b.1)
  | closed cause => closed cause

def sortedAll : List (String × Listing) → List (String × Listing)
  | [] => []
  | (name, l) :: rest => (name, sorted l) :: sortedAll rest
end

end Listing

namespace Entry

mutual
def listing : Entry → Listing
  | file _ => .file
  | directory entries => .directory (listings entries)

def listings : List (String × Entry) → List (String × Listing)
  | [] => []
  | (name, e) :: rest => (name, listing e) :: listings rest
end

end Entry

/-- The directory at a path. -/
def Disk.listing (d : Disk) (path : String) : Listing :=
  match d.list path with
  | .ok entries => .directory (Entry.listings entries)
  | .error e => .closed (.io e)

namespace HandlerTree

/-- Loads a module and mounts it; what does not load changes nothing. -/
def mountFile (path : String) (segments : List String) (tree : HandlerTree) : Inquiry HandlerTree := do
  match ← Inquiry.ask .handler path with
  | .ok module => pure (tree.mount segments module)
  | .error _ => pure tree

def unlisted (dir : String) (cause : Cause) : Failure := .because ("Failed to read handler directory " ++ dir) cause

mutual
def readEntry (dir : String) (above : List String) (name : String) (tree : HandlerTree) :
    Listing → Inquiry (Except Failure HandlerTree)
  | .file => do
    let path := Path.join dir name
    if Path.isModuleFile path then
      return .ok (← mountFile path (above ++ [(Path.cutExtension name).1]) tree)
    else return .ok tree
  | .directory entries => readEntries (Path.join dir name) (above ++ [name]) tree entries
  | .closed cause => pure (.error (unlisted (Path.join dir name) cause))

def readEntries (dir : String) (above : List String) (tree : HandlerTree) :
    List (String × Listing) → Inquiry (Except Failure HandlerTree)
  | [] => pure (.ok tree)
  | (name, l) :: rest => do
    match ← readEntry dir above name tree l with
    | .ok tree => readEntries dir above tree rest
    | .error failure => pure (.error failure)
end

/-- Reads a directory under its path. -/
def readListing (path : String) (root : Listing) : Inquiry (Except Failure HandlerTree) :=
  match root.sorted with
  | .directory entries => readEntries path [] empty entries
  | .file => pure (.error (unlisted path (.io .notADirectory)))
  | .closed cause => pure (.error (unlisted path cause))

/-- Reads the directory at a path. -/
def readDir (d : Disk) (path : String) : Inquiry (Except Failure HandlerTree) := readListing path (d.listing path)

end HandlerTree

end RouteTable
