import Mathlib.Data.List.Nodup
import Mathlib.Data.String.Basic
import RouteTable.HandlerTree.Directory
import RouteTable.Proofs.FileNames

/-!
# The module files of a directory tree

A visit meets the module files of a directory tree in the order of their names.  Those for some segments are the files
in one directory whose names are the last segment with a module extension (`Listing.Proper.filter_filesUnder`).  A visit
fails exactly if there is a directory that cannot be listed (`Listing.Proper.exists_of_failureOf`,
`Listing.isSome_failureOf`).
-/

namespace RouteTable

variable {α β : Type}

/-! ### Lists -/

theorem flatMap_ite_singleton (p : α → Prop) [DecidablePred p] (f : α → β) (l : List α) :
    (l.flatMap fun a => if p a then [f a] else []) = (l.filter fun a => p a).map f := by
  induction l with
  | nil => rfl
  | cons a l ih =>
    rw [List.flatMap_cons, ih, List.filter_cons]
    by_cases h : p a
    · rw [if_pos h, if_pos (decide_eq_true h)]
      rfl
    · rw [if_neg h, if_neg (by simpa using h)]
      rfl

namespace OrderedMap

variable {κ : Type} [DecidableEq κ]

/-- Under distinct keys only one entry is found under a key. -/
theorem flatMap_key {m : OrderedMap κ α} (distinct : m.keys.Nodup) (key : κ) (f : α → List β) :
    (m.flatMap fun e => if e.1 = key then f e.2 else []) = ((m.get? key).map f).getD [] := by
  induction m with
  | nil => rfl
  | cons e rest ih =>
    rw [keys, List.map_cons, List.nodup_cons] at distinct
    rw [List.flatMap_cons, ih distinct.2, get?]
    by_cases h : e.1 = key
    · rw [if_pos h, if_pos h, get?_eq_none_iff.2 (h ▸ distinct.1)]
      exact List.append_nil _
    · rw [if_neg h, if_neg h]
      rfl

end OrderedMap

namespace Listing

/-! ### Directory trees -/

/-- What stands at the end of some names from a directory. -/
def at? : List String → Listing → Option Listing
  | [], l => some l
  | name :: rest, directory entries => (OrderedMap.get? entries name).bind (at? rest)
  | _ :: _, _ => none

def isFile : Listing → Bool
  | file => true
  | _ => false

/-- Some names lead to a file. -/
def hasFile (l : Listing) (path : List String) : Bool := (l.at? path).any isFile

/-- The entries of every directory have distinct names, which can stand in a path. -/
inductive Proper : Listing → Prop
  | file : Proper file
  | directory {entries : List (String × Listing)} (distinct : (OrderedMap.keys entries).Nodup)
      (named : ∀ e ∈ entries, Path.FileName e.1) (inside : ∀ e ∈ entries, Proper e.2) : Proper (directory entries)
  | closed (cause : Cause) : Proper (closed cause)

/-- The entries of a directory in the order of their names. -/
def sortedEntries (entries : List (String × Listing)) : List (String × Listing) :=
  (sortedAll entries).mergeSort fun a b => a.1 ≤ b.1

theorem sorted_directory (entries : List (String × Listing)) :
    (directory entries).sorted = directory (sortedEntries entries) := by
  rw [sorted, sortedEntries]

theorem sortedAll_eq (entries : List (String × Listing)) :
    sortedAll entries = entries.map fun e => (e.1, e.2.sorted) := by
  induction entries with
  | nil => rw [sortedAll, List.map_nil]
  | cons e rest ih => rw [sortedAll, ih, List.map_cons]

variable {entries : List (String × Listing)}

theorem sortedEntries_perm (entries : List (String × Listing)) :
    (sortedEntries entries).Perm (entries.map fun e => (e.1, e.2.sorted)) := by
  rw [sortedEntries, sortedAll_eq]
  exact List.mergeSort_perm _ _

theorem keys_sortedEntries_perm (entries : List (String × Listing)) :
    (OrderedMap.keys (sortedEntries entries)).Perm (OrderedMap.keys entries) := by
  have h := (sortedEntries_perm entries).map Prod.fst
  rwa [List.map_map] at h

theorem pairwise_keys_sortedEntries (entries : List (String × Listing)) :
    (OrderedMap.keys (sortedEntries entries)).Pairwise (· ≤ ·) := by
  rw [OrderedMap.keys, List.pairwise_map, sortedEntries]
  refine (List.pairwise_mergeSort ?_ ?_ _).imp fun h => of_decide_eq_true h
  · intro a b c hab hbc
    exact decide_eq_true (String.le_trans (of_decide_eq_true hab) (of_decide_eq_true hbc))
  · intro a b
    simpa using String.le_total a.1 b.1

theorem get?_sortedEntries (distinct : (OrderedMap.keys entries).Nodup) (name : String) :
    OrderedMap.get? (sortedEntries entries) name = (OrderedMap.get? entries name).map sorted := by
  have names : (OrderedMap.keys (entries.map fun e => (e.1, e.2.sorted))).Nodup := by
    rw [OrderedMap.keys, List.map_map]
    exact distinct
  rw [OrderedMap.get?_eq_of_perm names (sortedEntries_perm entries), OrderedMap.get?_map_entries fun _ => sorted]

theorem hasFile_cons (entries : List (String × Listing)) (name : String) (rest : List String) :
    (directory entries).hasFile (name :: rest) = (OrderedMap.get? entries name).any (·.hasFile rest) := by
  rw [hasFile, at?]
  cases OrderedMap.get? entries name <;> rfl

/-! ### Module files -/

mutual
/-- The module files at or below an entry: the segments they are mounted at and their paths, in the order of a visit. -/
def filesOf (dir name : String) : Listing → List (List String × String)
  | file =>
    if Path.isModuleFile (Path.join dir name) then [([(Path.cutExtension name).1], Path.join dir name)] else []
  | directory entries => (filesIn (Path.join dir name) entries).map fun f => (name :: f.1, f.2)
  | closed _ => []

def filesIn (dir : String) : List (String × Listing) → List (List String × String)
  | [] => []
  | (name, l) :: rest => filesOf dir name l ++ filesIn dir rest
end

/-- The module files below a directory. -/
def filesUnder (path : String) : Listing → List (List String × String)
  | directory entries => filesIn path entries
  | _ => []

mutual
/-- The failure of the first directory at or below a path that cannot be listed. -/
def failureOf (path : String) : Listing → Option Failure
  | file => none
  | directory entries => failureIn path entries
  | closed cause => some (HandlerTree.unlisted path cause)

def failureIn (dir : String) : List (String × Listing) → Option Failure
  | [] => none
  | (name, l) :: rest => (failureOf (Path.join dir name) l).or (failureIn dir rest)
end

theorem filesIn_eq (dir : String) (entries : List (String × Listing)) :
    filesIn dir entries = entries.flatMap fun e => filesOf dir e.1 e.2 := by
  induction entries with
  | nil => rw [filesIn, List.flatMap_nil]
  | cons e rest ih => rw [filesIn, ih, List.flatMap_cons]

theorem failureIn_eq (dir : String) (entries : List (String × Listing)) :
    failureIn dir entries = entries.findSome? fun e => failureOf (Path.join dir e.1) e.2 := by
  induction entries with
  | nil => rw [failureIn, List.findSome?_nil]
  | cons e rest ih =>
    rw [failureIn, ih, List.findSome?_cons]
    cases failureOf (Path.join dir e.1) e.2 <;> rfl

/-- The names of the module files with a stem, in their order. -/
def moduleNames (stem : String) : List String := [stem ++ ".json", stem ++ ".yaml", stem ++ ".yml"]

theorem mem_moduleNames {stem name : String} :
    name ∈ moduleNames stem ↔ ∃ ending ∈ Path.moduleExtensions, name = stem ++ "." ++ ending := by
  simp only [moduleNames, Path.moduleExtensions, List.mem_cons, List.not_mem_nil, or_false, exists_eq_or_imp,
    exists_eq_left, String.append_assoc]
  constructor
  · rintro (h | h | h)
    · exact .inr (.inr h)
    · exact .inl h
    · exact .inr (.inl h)
  · rintro (h | h | h)
    · exact .inr (.inl h)
    · exact .inr (.inr h)
    · exact .inl h

theorem pairwise_moduleNames (stem : String) : (moduleNames stem).Pairwise (· < ·) := by
  have behind : ∀ {a b : String}, a < b → stem ++ a < stem ++ b := by
    intro a b h
    rw [String.lt_iff_toList_lt] at h ⊢
    rw [String.toList_append, String.toList_append]
    exact List.append_left_lt h
  have endings : [".json", ".yaml", ".yml"].Pairwise (· < · : String → String → Prop) := by decide +kernel
  exact List.pairwise_map.2 (endings.imp behind)

/-- Nothing is mounted at a directory itself. -/
theorem ne_nil_of_mem_filesOf {dir name : String} {l : Listing} {f : List String × String}
    (h : f ∈ filesOf dir name l) : f.1 ≠ [] := by
  cases l with
  | file =>
    rw [filesOf] at h
    split at h
    · rw [List.mem_singleton.1 h]
      simp
    · cases h
  | directory entries =>
    rw [filesOf] at h
    obtain ⟨_, _, rfl⟩ := List.mem_map.1 h
    simp
  | closed cause =>
    rw [filesOf] at h
    cases h

theorem filesOf_directory (dir name : String) (entries : List (String × Listing)) :
    filesOf dir name (directory entries) =
      (filesUnder (Path.join dir name) (directory entries)).map fun f => (name :: f.1, f.2) := by
  rw [filesOf, filesUnder]

theorem ne_nil_of_mem_filesUnder {path : String} {l : Listing} {f : List String × String}
    (h : f ∈ filesUnder path l) : f.1 ≠ [] := by
  cases l with
  | file => cases h
  | directory entries =>
    rw [filesUnder, filesIn_eq, List.mem_flatMap] at h
    obtain ⟨_, _, mem⟩ := h
    exact ne_nil_of_mem_filesOf mem
  | closed cause => cases h

theorem filter_filesOf_singleton (dir : String) {stem : String} (stemmed : stem ≠ "") {e : String × Listing}
    (named : Path.FileName e.1) :
    (filesOf dir e.1 e.2).filter (fun f => f.1 = [stem]) =
      if e.1 ∈ moduleNames stem ∧ e.2.isFile = true then [([stem], Path.join dir e.1)] else [] := by
  obtain ⟨name, l⟩ := e
  cases l with
  | file =>
    have kept := Path.isModuleFile_join_iff dir named stemmed
    rw [← mem_moduleNames] at kept
    rw [filesOf]
    by_cases mem : name ∈ moduleNames stem
    · obtain ⟨isModule, cut⟩ := kept.2 mem
      simp [isModule, cut, mem, isFile]
    · rw [if_neg fun (h : name ∈ moduleNames stem ∧ _) => mem h.1]
      split
      · next isModule =>
        have other : (Path.cutExtension name).1 ≠ stem := fun cut => mem (kept.1 ⟨isModule, cut⟩)
        simp [other]
      · rfl
  | directory entries =>
    rw [filesOf_directory, if_neg (by simp [isFile]), List.filter_eq_nil_iff]
    intro f mem
    obtain ⟨inner, below, rfl⟩ := List.mem_map.1 mem
    simp [ne_nil_of_mem_filesUnder below]
  | closed cause =>
    rw [filesOf, if_neg (by simp [isFile])]
    rfl

theorem filter_filesOf_cons (dir name : String) {rest : List String} (h : rest ≠ []) (e : String × Listing) :
    (filesOf dir e.1 e.2).filter (fun f => f.1 = name :: rest) =
      if e.1 = name then
        ((filesUnder (Path.join dir name) e.2).filter fun f => f.1 = rest).map fun f => (name :: f.1, f.2)
      else [] := by
  obtain ⟨own, l⟩ := e
  cases l with
  | file =>
    have short : (filesOf dir own file).filter (fun f => f.1 = name :: rest) = [] := by
      rw [filesOf]
      split
      · simp [Ne.symm h]
      · rfl
    rw [short]
    exact (ite_self _).symm
  | directory entries =>
    rw [filesOf_directory, List.filter_map]
    by_cases same : own = name
    · subst same
      simp [Function.comp_def]
    · simp [Function.comp_def, same]
  | closed cause =>
    rw [filesOf]
    exact (ite_self _).symm

theorem isFile_sorted (l : Listing) : l.sorted.isFile = l.isFile := by
  cases l with
  | file => rw [sorted]
  | directory entries =>
    rw [sorted_directory]
    rfl
  | closed cause => rw [sorted]

/-- A visit meets the module files of a directory with a stem in the order of their names. -/
theorem keys_filter_sortedEntries {entries : List (String × Listing)} (distinct : (OrderedMap.keys entries).Nodup)
    (stem : String) :
    OrderedMap.keys ((sortedEntries entries).filter fun e => e.1 ∈ moduleNames stem ∧ e.2.isFile = true) =
      (moduleNames stem).filter fun name => (directory entries).hasFile [name] := by
  have distinctSorted : (OrderedMap.keys (sortedEntries entries)).Nodup :=
    (keys_sortedEntries_perm entries).nodup_iff.2 distinct
  have kept : (OrderedMap.keys ((sortedEntries entries).filter fun e =>
      e.1 ∈ moduleNames stem ∧ e.2.isFile = true)).Sublist (OrderedMap.keys (sortedEntries entries)) :=
    List.filter_sublist.map _
  have ascending : ((moduleNames stem).filter fun name => (directory entries).hasFile [name]).Pairwise (· < ·) :=
    (pairwise_moduleNames stem).filter _
  -- both lists ascend without repetition, so it is enough that they have the same members
  refine List.Perm.eq_of_pairwise (fun a b _ _ => String.le_antisymm)
    ((pairwise_keys_sortedEntries entries).sublist kept) (ascending.imp le_of_lt)
    ((List.perm_ext_iff_of_nodup (distinctSorted.sublist kept) (ascending.imp ne_of_lt)).2 fun name => ?_)
  simp only [OrderedMap.keys, List.mem_map, List.mem_filter, decide_eq_true_eq, hasFile_cons]
  constructor
  · rintro ⟨e, ⟨mem, named, isFile⟩, rfl⟩
    have found := OrderedMap.get?_eq_some_of_mem distinctSorted mem
    rw [get?_sortedEntries distinct, Option.map_eq_some_iff] at found
    obtain ⟨l, found, same⟩ := found
    rw [← same, isFile_sorted] at isFile
    rw [found]
    exact ⟨named, isFile⟩
  · rintro ⟨named, there⟩
    obtain ⟨l, found, isFile⟩ := (Option.any_eq_true _ _).1 there
    have foundSorted : OrderedMap.get? (sortedEntries entries) name = some l.sorted := by
      rw [get?_sortedEntries distinct, found, Option.map_some]
    exact ⟨(name, l.sorted), ⟨OrderedMap.mem_of_get?_eq_some foundSorted, named, (isFile_sorted l).trans isFile⟩, rfl⟩

theorem filter_filesIn_singleton {entries : List (String × Listing)} (distinct : (OrderedMap.keys entries).Nodup)
    (named : ∀ e ∈ entries, Path.FileName e.1) {stem : String} (stemmed : stem ≠ "") (dir : String) :
    (filesIn dir (sortedEntries entries)).filter (fun f => f.1 = [stem]) =
      ((moduleNames stem).filter fun name => (directory entries).hasFile [name]).map fun name =>
        ([stem], Path.join dir name) := by
  have namedSorted : ∀ e ∈ sortedEntries entries, Path.FileName e.1 := by
    intro e mem
    obtain ⟨e, listed, rfl⟩ := List.mem_map.1 ((sortedEntries_perm entries).mem_iff.1 mem)
    exact named e listed
  rw [filesIn_eq, List.filter_flatMap,
    List.flatMap_congr fun e mem => filter_filesOf_singleton dir stemmed (namedSorted e mem), flatMap_ite_singleton,
    ← keys_filter_sortedEntries distinct, OrderedMap.keys, List.map_map]
  rfl

theorem filter_filesIn_cons {entries : List (String × Listing)} (distinct : (OrderedMap.keys entries).Nodup)
    (name : String) {rest : List String} (h : rest ≠ []) (dir : String) :
    (filesIn dir (sortedEntries entries)).filter (fun f => f.1 = name :: rest) =
      ((OrderedMap.get? entries name).map fun l =>
        ((filesUnder (Path.join dir name) l.sorted).filter fun f => f.1 = rest).map fun f =>
          (name :: f.1, f.2)).getD [] := by
  have distinctSorted : (OrderedMap.keys (sortedEntries entries)).Nodup :=
    (keys_sortedEntries_perm entries).nodup_iff.2 distinct
  rw [filesIn_eq, List.filter_flatMap, List.flatMap_congr fun e _ => filter_filesOf_cons dir name h e]
  refine (OrderedMap.flatMap_key distinctSorted name fun l =>
    ((filesUnder (Path.join dir name) l).filter fun f => f.1 = rest).map fun f => (name :: f.1, f.2)).trans ?_
  rw [get?_sortedEntries distinct, Option.map_map]
  rfl

/-- The module files for some segments are those in one directory, in the order of their names. -/
theorem Proper.filter_filesUnder {l : Listing} (proper : l.Proper) {stem : String} (stemmed : stem ≠ "")
    (dirs : List String) (path : String) :
    (filesUnder path l.sorted).filter (fun f => f.1 = dirs ++ [stem]) =
      ((moduleNames stem).filter fun name => l.hasFile (dirs ++ [name])).map fun name =>
        (dirs ++ [stem], Path.join (dirs.foldl Path.join path) name) := by
  -- on the directories from the root; of the entries only the one with the first name leads to the segments
  induction dirs generalizing l path with
  | nil =>
    cases proper with
    | file => simp [sorted, filesUnder, hasFile, at?]
    | directory distinct named inside =>
      rw [sorted_directory, filesUnder]
      exact filter_filesIn_singleton distinct named stemmed path
    | closed cause => simp [sorted, filesUnder, hasFile, at?]
  | cons name dirs ih =>
    cases proper with
    | file => simp [sorted, filesUnder, hasFile, at?]
    | @directory entries distinct named inside =>
      rw [sorted_directory, filesUnder, List.cons_append, filter_filesIn_cons distinct name (by simp)]
      simp only [List.cons_append, hasFile_cons]
      cases found : OrderedMap.get? entries name with
      | none => simp
      | some l =>
        rw [Option.map_some, Option.getD_some,
          ih (inside _ (OrderedMap.mem_of_get?_eq_some found)) (Path.join path name), List.map_map]
        rfl
    | closed cause => simp [sorted, filesUnder, hasFile, at?]

/-! ### Directories that cannot be listed -/

theorem at?_file_ne_closed (dirs : List String) (cause : Cause) : file.at? dirs ≠ some (.closed cause) := by
  cases dirs <;> simp [at?]

theorem at?_directory_ne_closed {entries : List (String × Listing)} {cause : Cause}
    (inside : ∀ e ∈ entries, ∀ dirs, e.2.at? dirs ≠ some (.closed cause)) (dirs : List String) :
    (directory entries).at? dirs ≠ some (.closed cause) := by
  cases dirs with
  | nil => simp [at?]
  | cons name rest =>
    intro h
    rw [at?, Option.bind_eq_some_iff] at h
    obtain ⟨l, found, below⟩ := h
    exact inside _ (OrderedMap.mem_of_get?_eq_some found) rest below

/-- A failure tells of a directory that cannot be listed. -/
theorem Proper.exists_of_failureOf {l : Listing} (proper : l.Proper) {path : String} {failure : Failure}
    (h : failureOf path l.sorted = some failure) :
    ∃ dirs cause, l.at? dirs = some (.closed cause) ∧
      failure = HandlerTree.unlisted (dirs.foldl Path.join path) cause := by
  induction proper generalizing path with
  | file => simp [sorted, failureOf] at h
  | @directory entries distinct named inside ih =>
    rw [sorted_directory, failureOf, failureIn_eq] at h
    obtain ⟨_, mem, found⟩ := List.exists_of_findSome?_eq_some h
    obtain ⟨e, listed, rfl⟩ := List.mem_map.1 ((sortedEntries_perm entries).mem_iff.1 mem)
    obtain ⟨dirs, cause, isClosed, rfl⟩ := ih e listed found
    refine ⟨e.1 :: dirs, cause, ?_, rfl⟩
    rw [at?, OrderedMap.get?_eq_some_of_mem distinct listed]
    exact isClosed
  | closed cause =>
    rw [sorted, failureOf] at h
    exact ⟨[], cause, rfl, (Option.some.inj h).symm⟩

theorem isSome_failureOf {dirs : List String} {l : Listing} {cause : Cause} (h : l.at? dirs = some (.closed cause))
    (path : String) : (failureOf path l.sorted).isSome := by
  induction dirs generalizing l path with
  | nil =>
    obtain rfl := Option.some.inj h
    rw [sorted, failureOf]
    rfl
  | cons name dirs ih =>
    cases l with
    | file => cases h
    | directory entries =>
      rw [at?, Option.bind_eq_some_iff] at h
      obtain ⟨l, found, below⟩ := h
      have listed : (name, l.sorted) ∈ sortedEntries entries :=
        (sortedEntries_perm entries).mem_iff.2 (List.mem_map_of_mem (OrderedMap.mem_of_get?_eq_some found))
      rw [sorted_directory, failureOf, failureIn_eq, List.findSome?_isSome_iff]
      exact ⟨_, listed, ih below _⟩
    | closed cause => cases h

end Listing

end RouteTable
