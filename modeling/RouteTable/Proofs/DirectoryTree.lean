import RouteTable.Proofs.DirectoryFiles
import RouteTable.Proofs.Inquiries
import RouteTable.Proofs.Mounting

/-!
# The handler tree of a directory

Reading a directory mounts its module files in the order of a visit, unless a directory in it cannot be listed
(`HandlerTree.value_readListing`).  So a lookup in the tree is a question about the few files for its segments
(`HandlerTree.lookup_readListing`), and what else stands in the directories does not count
(`HandlerTree.readListing_denotes`).  `HandlerTree.readDir` reads so what a disk lists at a path.
-/

namespace RouteTable

namespace Listing

/-- Some names lead to a directory that cannot be listed; a root that is a file is none that can be. -/
def Unlistable (root : Listing) (dirs : List String) (cause : Cause) : Prop :=
  root.at? dirs = some (closed cause) ∨ root = file ∧ dirs = [] ∧ cause = .io .notADirectory

/-- The module in a file of a directory below the root, if there is such a file and it loads. -/
def module? (load : Loader Handler) (path : String) (root : Listing) (dirs : List String) (name : String) :
    Option (Module Handler) :=
  if root.hasFile (dirs ++ [name]) then (load (Path.join (dirs.foldl Path.join path) name)).toOption
  else none

/-- What the last of the modules with a stem in a directory offers that offers something. -/
def lastOffer? (load : Loader Handler) (path : String) (root : Listing) (dirs : List String) (stem : String)
    (offer : Module Handler → Option Handler) : Option Handler :=
  (moduleNames stem).reverse.findSome? fun name => (root.module? load path dirs name).bind offer

theorem lastOffer?_congr {load : Loader Handler} {path : String} {root other : Listing} {dirs : List String}
    {stem : String} (same : ∀ name ∈ moduleNames stem,
      other.module? load path dirs name = root.module? load path dirs name)
    (offer : Module Handler → Option Handler) :
    other.lastOffer? load path dirs stem offer = root.lastOffer? load path dirs stem offer := by
  rw [lastOffer?, lastOffer?, ← List.head?_filterMap, ← List.head?_filterMap]
  congr 1
  exact List.filterMap_congr fun name mem => by rw [same name (List.mem_reverse.1 mem)]

end Listing

namespace HandlerTree

open Listing

/-! ### Reading -/

/-- The module of a file under the segments that it is mounted at, if it loads. -/
def loaded? (load : Loader Handler) (f : List String × String) : Option (List String × Module Handler) :=
  (load f.2).toOption.map fun module => (f.1, module)

theorem value_mountFile (l : Loaders) (path : String) (segments : List String) (tree : HandlerTree) :
    ((mountFile path segments tree).run l).value = tree.mountAll ([(segments, path)].filterMap (loaded? l.handlers)) := by
  rw [mountFile, Inquiry.run_bind, Inquiry.run_ask, Traced.value_bind, List.filterMap_cons, loaded?, Loaders.load]
  cases l.handlers path <;> rfl

/-- A visit fails at the first directory that cannot be listed, and else mounts the modules in the order of their
files. -/
def visited (load : Loader Handler) (above : List String) (tree : HandlerTree) (failure : Option Failure)
    (files : List (List String × String)) : Except Failure HandlerTree :=
  match failure with
  | some failure => .error failure
  | none => .ok (tree.mountAll (files.filterMap fun f => loaded? load (above ++ f.1, f.2)))

mutual
theorem value_readEntry (l : Loaders) (dir : String) (above : List String) (name : String) (tree : HandlerTree)
    (entry : Listing) :
    ((readEntry dir above name tree entry).run l).value =
      visited l.handlers above tree (failureOf (Path.join dir name) entry) (filesOf dir name entry) := by
  cases entry with
  | file =>
    rw [readEntry, failureOf, filesOf]
    split
    · simp only [Inquiry.run_bind, Inquiry.run_pure, Traced.value_bind, Traced.value_pure, value_mountFile]
      rfl
    · rfl
  | directory entries =>
    rw [readEntry, failureOf, filesOf, value_readEntries]
    cases failureIn (Path.join dir name) entries with
    | some failure => rfl
    | none => simp [visited, List.filterMap_map]
  | closed cause =>
    rw [readEntry, failureOf]
    rfl

theorem value_readEntries (l : Loaders) (dir : String) (above : List String) (tree : HandlerTree)
    (entries : List (String × Listing)) :
    ((readEntries dir above tree entries).run l).value =
      visited l.handlers above tree (failureIn dir entries) (filesIn dir entries) := by
  cases entries with
  | nil =>
    rw [readEntries, failureIn, filesIn]
    rfl
  | cons e rest =>
    obtain ⟨name, entry⟩ := e
    rw [readEntries, failureIn, filesIn, Inquiry.run_bind, Traced.value_bind, value_readEntry]
    cases failureOf (Path.join dir name) entry with
    | some failure => rfl
    | none =>
      simp only [visited, Option.none_or, value_readEntries, List.filterMap_append, mountAll, List.foldl_append]
end

/-- Why a directory tree cannot be read, if it cannot. -/
def refusal? (path : String) : Listing → Option Failure
  | .file => some (unlisted path (.io .notADirectory))
  | l => failureOf path l.sorted

variable {l : Loaders} {path : String} {root : Listing}

theorem value_readListing (l : Loaders) (path : String) (root : Listing) :
    ((readListing path root).run l).value =
      visited l.handlers [] empty (refusal? path root) (filesUnder path root.sorted) := by
  cases root with
  | file =>
    rw [readListing, Listing.sorted]
    rfl
  | directory entries =>
    rw [readListing, refusal?, sorted_directory, filesUnder, failureOf]
    · exact value_readEntries ..
    · exact Listing.noConfusion
  | closed cause =>
    rw [readListing, refusal?, Listing.sorted, failureOf]
    · rfl
    · exact Listing.noConfusion

theorem readListing_eq_error_iff {failure : Failure} :
    ((readListing path root).run l).value = .error failure ↔ refusal? path root = some failure := by
  rw [value_readListing]
  cases refusal? path root <;> simp [visited]

theorem eq_of_readListing_eq_ok {tree : HandlerTree} (h : ((readListing path root).run l).value = .ok tree) :
    tree = empty.mountAll ((filesUnder path root.sorted).filterMap (loaded? l.handlers)) := by
  rw [value_readListing] at h
  cases refused : refusal? path root with
  | none =>
    rw [refused] at h
    exact (Except.ok.inj h).symm
  | some failure =>
    rw [refused] at h
    cases h

theorem exists_of_refusal? (proper : root.Proper) {failure : Failure} (h : refusal? path root = some failure) :
    ∃ dirs cause, root.Unlistable dirs cause ∧ failure = unlisted (dirs.foldl Path.join path) cause := by
  cases root with
  | file => exact ⟨[], .io .notADirectory, .inr ⟨rfl, rfl, rfl⟩, (Option.some.inj h).symm⟩
  | directory entries =>
    obtain ⟨dirs, cause, isClosed, same⟩ := proper.exists_of_failureOf h
    exact ⟨dirs, cause, .inl isClosed, same⟩
  | closed cause =>
    obtain ⟨dirs, cause, isClosed, same⟩ := proper.exists_of_failureOf h
    exact ⟨dirs, cause, .inl isClosed, same⟩

theorem isSome_refusal? {dirs : List String} {cause : Cause} (h : root.Unlistable dirs cause) (path : String) :
    (refusal? path root).isSome := by
  cases root with
  | file => rfl
  | directory entries => exact isSome_failureOf (h.resolve_right fun h => Listing.noConfusion h.1) path
  | closed cause => exact isSome_failureOf (h.resolve_right fun h => Listing.noConfusion h.1) path

/-! ### Lookups -/

/-- Of the modules that are loaded for some segments the last one that offers something is found. -/
theorem findSome?_loaded (load : Loader Handler) (offer : Module Handler → Option Handler)
    (files : List (List String × String)) (path : List String) :
    ((files.filterMap (loaded? load)).reverse.findSome? fun m => if m.1 = path then offer m.2 else none) =
      (files.filter fun f => f.1 = path).reverse.findSome? fun f => (load f.2).toOption.bind offer := by
  rw [← List.filterMap_reverse, ← List.filter_reverse, ← List.head?_filterMap, ← List.head?_filterMap,
    List.filterMap_filterMap, List.filterMap_filter]
  congr 2
  funext f
  rw [loaded?]
  cases (load f.2).toOption with
  | none => exact (ite_self _).symm
  | some module => by_cases h : f.1 = path <;> simp [h]

/-- Of the files for some segments the last one with a module that offers something is found. -/
theorem findSome?_filesUnder (load : Loader Handler) (path : String) (proper : root.Proper) {stem : String}
    (stemmed : stem ≠ "") (dirs : List String) (offer : Module Handler → Option Handler) :
    ((((filesUnder path root.sorted).filterMap (loaded? load)).reverse.findSome? fun m =>
        if m.1 = dirs ++ [stem] then offer m.2 else none)) =
      root.lastOffer? load path dirs stem offer := by
  rw [lastOffer?, findSome?_loaded, proper.filter_filesUnder stemmed, ← List.map_reverse, List.findSome?_map,
    ← List.filter_reverse, ← List.head?_filterMap, ← List.head?_filterMap, List.filterMap_filter]
  congr 2
  funext name
  rw [Listing.module?]
  split <;> rfl

theorem distinct_of_loaded? {load : Loader Handler} (distinct : ∀ file m, load file = .ok m → m.Distinct)
    (files : List (List String × String)) : ∀ m ∈ files.filterMap (loaded? load), m.2.Distinct := by
  intro m mem
  obtain ⟨f, -, loads⟩ := List.mem_filterMap.1 mem
  rw [loaded?] at loads
  cases answer : load f.2 with
  | error e =>
    rw [answer] at loads
    cases loads
  | ok module =>
    rw [answer] at loads
    obtain rfl := Option.some.inj loads
    exact distinct _ _ answer

theorem lookup_readListing (distinct : ∀ file m, l.handlers file = .ok m → m.Distinct) (proper : root.Proper)
    {tree : HandlerTree} (read : ((readListing path root).run l).value = .ok tree) {route : String}
    {dirs : List String} {stem : String} (h : segments route = dirs ++ [stem]) (method : Method) :
    tree.lookup route method =
      (root.lastOffer? l.handlers path dirs stem (Module.export? method.key)).or
        (root.lastOffer? l.handlers path dirs stem Module.callable?) := by
  have stemmed : stem ≠ "" := by
    have mem : stem ∈ segments route := by simp [h]
    simpa using (List.mem_filter.1 mem).2
  rw [eq_of_readListing_eq_ok read, lookup_mountAll (distinct_of_loaded? distinct _), h,
    findSome?_filesUnder l.handlers path proper stemmed dirs (Module.export? method.key),
    findSome?_filesUnder l.handlers path proper stemmed dirs Module.callable?]

theorem lookup_readListing_of_segments_eq_nil (distinct : ∀ file m, l.handlers file = .ok m → m.Distinct)
    {tree : HandlerTree} (read : ((readListing path root).run l).value = .ok tree) {route : String}
    (h : segments route = []) (method : Method) : tree.lookup route method = none := by
  have none : (filesUnder path root.sorted).filter (fun f => f.1 = []) = [] := by
    rw [List.filter_eq_nil_iff]
    intro f mem
    simp [ne_nil_of_mem_filesUnder mem]
  rw [eq_of_readListing_eq_ok read, lookup_mountAll (distinct_of_loaded? distinct _), h,
    findSome?_loaded l.handlers (Module.export? method.key), findSome?_loaded l.handlers Module.callable?, none]
  rfl

theorem exists_readListing_eq_ok (l : Loaders) (path : String) (proper : root.Proper)
    (listable : ∀ dirs cause, ¬ root.Unlistable dirs cause) :
    ∃ tree, ((readListing path root).run l).value = .ok tree := by
  cases read : ((readListing path root).run l).value with
  | error failure =>
    obtain ⟨dirs, cause, unlistable, -⟩ := exists_of_refusal? proper (readListing_eq_error_iff.1 read)
    exact absurd unlistable (listable dirs cause)
  | ok tree => exact ⟨tree, rfl⟩

theorem lookup_eq_of_module?_eq {other : Listing} (distinct : ∀ file m, l.handlers file = .ok m → m.Distinct)
    (proper : root.Proper) (otherProper : other.Proper) {tree otherTree : HandlerTree}
    (read : ((readListing path root).run l).value = .ok tree)
    (otherRead : ((readListing path other).run l).value = .ok otherTree)
    (same : ∀ dirs stem, ∀ name ∈ moduleNames stem,
      other.module? l.handlers path dirs name = root.module? l.handlers path dirs name) (route : String) (method : Method) :
    otherTree.lookup route method = tree.lookup route method := by
  rcases List.eq_nil_or_concat' (segments route) with h | ⟨dirs, stem, h⟩
  · rw [lookup_readListing_of_segments_eq_nil distinct otherRead h,
      lookup_readListing_of_segments_eq_nil distinct read h]
  · rw [lookup_readListing distinct otherProper otherRead h, lookup_readListing distinct proper read h,
      lastOffer?_congr (same dirs stem), lastOffer?_congr (same dirs stem)]

/-- Reading a directory tree fails exactly if the root or a directory below cannot be listed, and the failure tells of
such a directory.  Else a lookup looks at the module files in one directory whose stem is the last segment: the last of
them in the order of names that exports the verb counts, else the last callable one; there is nothing at the root.  So
nothing but these files counts, whatever else the directories hold.  A loader may answer any modules that do not export
one verb twice. -/
theorem readListing_denotes (l : Loaders) (path : String) (root : Listing)
    (distinct : ∀ file m, l.handlers file = .ok m → m.Distinct) (proper : root.Proper) :
    ((∃ failure, ((readListing path root).run l).value = .error failure) ↔ ∃ dirs cause, root.Unlistable dirs cause) ∧
    (∀ failure, ((readListing path root).run l).value = .error failure →
      ∃ dirs cause, root.Unlistable dirs cause ∧ failure = unlisted (dirs.foldl Path.join path) cause) ∧
    ∀ tree, ((readListing path root).run l).value = .ok tree →
      (∀ route method, segments route = [] → tree.lookup route method = none) ∧
      (∀ route method dirs stem, segments route = dirs ++ [stem] →
        tree.lookup route method =
          (root.lastOffer? l.handlers path dirs stem (Module.export? method.key)).or
            (root.lastOffer? l.handlers path dirs stem Module.callable?)) ∧
      ∀ other : Listing, other.Proper → (∀ dirs cause, ¬ other.Unlistable dirs cause) →
        (∀ dirs stem, ∀ name ∈ moduleNames stem,
          other.module? l.handlers path dirs name = root.module? l.handlers path dirs name) →
        ∃ otherTree, ((readListing path other).run l).value = .ok otherTree ∧
          ∀ route method, otherTree.lookup route method = tree.lookup route method := by
  refine ⟨⟨?_, ?_⟩, fun failure failed => exists_of_refusal? proper (readListing_eq_error_iff.1 failed),
    fun tree read => ⟨fun route method h => lookup_readListing_of_segments_eq_nil distinct read h method,
      fun route method dirs stem h => lookup_readListing distinct proper read h method,
      fun other otherProper listable same => ?_⟩⟩
  · rintro ⟨failure, failed⟩
    obtain ⟨dirs, cause, unlistable, -⟩ := exists_of_refusal? proper (readListing_eq_error_iff.1 failed)
    exact ⟨dirs, cause, unlistable⟩
  · rintro ⟨dirs, cause, unlistable⟩
    obtain ⟨failure, refused⟩ := Option.isSome_iff_exists.1 (isSome_refusal? unlistable path)
    exact ⟨failure, readListing_eq_error_iff.2 refused⟩
  · obtain ⟨otherTree, otherRead⟩ := exists_readListing_eq_ok l path otherProper listable
    exact ⟨otherTree, otherRead, lookup_eq_of_module?_eq distinct proper otherProper read otherRead same⟩

/-- A file and a directory share a stem, two modules a path, and one module does not load. -/
def petsDirectory : Listing :=
  .directory [("README.md", .file), ("pets.yaml", .file), ("broken.yaml", .file), ("pets.json", .file),
    ("pets", .directory [("\x7bid\x7d.yml", .file)])]

def petsLoaders : Loaders where
  handlers path :=
    if path = "handlers/pets.json" then .ok (.callable ⟨.given "any", echoAnswer⟩)
    else if path = "handlers/pets.yaml" then .ok (.exports [("get", ⟨.given "list", echoAnswer⟩)])
    else if path = "handlers/pets/\x7bid\x7d.yml" then .ok (.callable ⟨.given "one", echoAnswer⟩)
    else .error (.malformed path)
  authorizers path := .error (.notFound path)

theorem readListing_denotes_pets :
    ∃ tree, ((readListing "handlers" petsDirectory).run petsLoaders).value = .ok tree ∧
      (tree.lookup "/pets" ⟨"GET"⟩).map Handler.origin = some (.given "list") ∧
      (tree.lookup "/pets" ⟨"POST"⟩).map Handler.origin = some (.given "any") ∧
      (tree.lookup "/pets/\x7bid\x7d" ⟨"DELETE"⟩).map Handler.origin = some (.given "one") ∧
      (tree.lookup "/broken" ⟨"GET"⟩).map Handler.origin = none := by
  have distinct : ∀ file m, petsLoaders.handlers file = .ok m → m.Distinct := by
    intro file m loads
    simp only [petsLoaders] at loads
    split at loads
    · obtain rfl := Except.ok.inj loads
      trivial
    · split at loads
      · obtain rfl := Except.ok.inj loads
        exact List.nodup_singleton _
      · split at loads
        · obtain rfl := Except.ok.inj loads
          trivial
        · cases loads
  have proper : petsDirectory.Proper := by
    refine .directory (by decide) (by decide +kernel) ?_
    simp only [List.forall_mem_cons]
    exact ⟨.file, .file, .file, .file, .directory (by decide) (by decide +kernel) (by simp [Proper.file]), by simp⟩
  have listable : ∀ dirs cause, ¬ petsDirectory.Unlistable dirs cause := by
    rintro dirs cause (isClosed | ⟨isFile, -⟩)
    · refine at?_directory_ne_closed ?_ dirs isClosed
      simp only [List.forall_mem_cons]
      exact ⟨fun _ => at?_file_ne_closed _ _, fun _ => at?_file_ne_closed _ _, fun _ => at?_file_ne_closed _ _,
        fun _ => at?_file_ne_closed _ _, at?_directory_ne_closed (by simp [at?_file_ne_closed]), by simp⟩
    · cases isFile
  obtain ⟨fails, -, denotes⟩ := readListing_denotes petsLoaders "handlers" petsDirectory distinct proper
  cases read : ((readListing "handlers" petsDirectory).run petsLoaders).value with
  | error failure =>
    obtain ⟨dirs, cause, unlistable⟩ := fails.1 ⟨failure, read⟩
    exact absurd unlistable (listable dirs cause)
  | ok tree =>
    obtain ⟨-, lookup, -⟩ := denotes tree read
    refine ⟨tree, rfl, ?_, ?_, ?_, ?_⟩
    · rw [lookup "/pets" ⟨"GET"⟩ [] "pets" (by decide +kernel)]
      decide +kernel
    · rw [lookup "/pets" ⟨"POST"⟩ [] "pets" (by decide +kernel)]
      decide +kernel
    · rw [lookup "/pets/\x7bid\x7d" ⟨"DELETE"⟩ ["pets"] "\x7bid\x7d" (by decide +kernel)]
      decide +kernel
    · rw [lookup "/broken" ⟨"GET"⟩ [] "broken" (by decide +kernel)]
      decide +kernel

end HandlerTree

end RouteTable
