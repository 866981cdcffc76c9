import RouteTable.Proofs.DirectoryTree
import RouteTable.Proofs.PathResolution
import RouteTable.Proofs.Resolution

/-!
# Files of a handler tree as references

A module file is reached in two ways: through the tree of the directory it stands in, and by a reference to its path.
Where no other module file in its directory has its stem, the tree holds nothing but its module at its segments
(`Listing.OnlyFile.lookup_eq`).  The path under which the tree loads the file is resolved already
(`Path.join_ofSteps`), so a reference loads it under the same path, and both ways choose the same handler
(`HandlerTree.lookup_eq_resolve`).
-/

namespace RouteTable

/-- Where only one element of a list can give something, that is what is found. -/
theorem findSome?_eq_of_forall_ne {α β : Type} {f : α → Option β} {l : List α} {a : α} (mem : a ∈ l)
    (others : ∀ b ∈ l, b ≠ a → f b = none) : l.findSome? f = f a := by
  cases found : f a with
  | none =>
    rw [List.findSome?_eq_none_iff]
    intro b hb
    by_cases same : b = a
    · rw [same, found]
    · exact others b hb same
  | some value =>
    cases first : l.findSome? f with
    | none => rw [← found, List.findSome?_eq_none_iff.1 first a mem]
    | some other =>
      obtain ⟨b, hb, gives⟩ := List.exists_of_findSome?_eq_some first
      have same : b = a := by
        by_contra apart
        rw [others b hb apart] at gives
        cases gives
      rw [← gives, same, found]

namespace Path

/-- A name is joined to a resolved path as one more name. -/
theorem join_ofSteps {names : List String} (h : ∀ s ∈ names, FileName s) {name : String} (hn : FileName name) :
    join (ofSteps names) name = ofSteps (names ++ [name]) := by
  rw [join_of_relative hn.isAbsolute_eq]
  rcases List.eq_nil_or_concat' names with rfl | ⟨before, last, rfl⟩
  · simp [link, ofSteps]
  · -- the path ends with the end of a name, and that is no slash
    have named : FileName last := h last (by simp)
    have final : (ofSteps (before ++ [last])).toList.getLast? = last.toList.getLast? := by
      have ended : last.toList.getLast?.isSome := by simpa using named.ne_empty
      rw [toList_ofSteps, List.map_append, List.map_singleton]
      cases before with
      | nil =>
        rw [List.map_nil, List.nil_append, joinChars, List.getLast?_cons_of_ne_nil (by simpa using named.ne_empty)]
      | cons first rest =>
        rw [joinChars_concat '/' (by simp), ← List.cons_append, List.getLast?_append, List.getLast?_cons_of_ne_nil
          (by simpa using named.ne_empty), Option.or_of_isSome ended]
    have open_ : link (ofSteps (before ++ [last])) = "/" := by
      rw [link, final, if_neg]
      rintro (empty | slash)
      · simp [ofSteps] at empty
      · exact named.slash (List.mem_of_getLast? slash)
    have longer := @String.intercalate_append_of_ne_nil (before ++ [last]) [name] "/" (by simp) (by simp)
    rw [open_, ofSteps, ofSteps, longer, String.intercalate_singleton]
    simp only [String.append_assoc]

theorem foldl_join_ofSteps {names dirs : List String} (h : ∀ s ∈ names, FileName s) (hd : ∀ s ∈ dirs, FileName s) :
    dirs.foldl join (ofSteps names) = ofSteps (names ++ dirs) := by
  induction dirs generalizing names with
  | nil => rw [List.foldl_nil, List.append_nil]
  | cons dir dirs ih =>
    rw [List.forall_mem_cons] at hd
    have more : ∀ s ∈ names ++ [dir], FileName s := List.forall_mem_append.2 ⟨h, by simpa using hd.1⟩
    rw [List.foldl_cons, join_ofSteps h hd.1, ih more hd.2, List.append_assoc]
    rfl

end Path

theorem HandlerTree.segments_ofSteps {names : List String} (h : ∀ s ∈ names, s ≠ "" ∧ '/' ∉ s.toList) :
    segments (Path.ofSteps names) = names := by
  cases names with
  | nil => rfl
  | cons first rest =>
    rw [segments, Path.split_ofSteps (by simp) fun s hs => (h s hs).2, List.filter_cons_of_neg (by simp)]
    exact List.filter_eq_self.2 fun s hs => by simpa using (h s hs).1

/-- A module offers for a method what it exports for it, and else itself if it is callable. -/
theorem Module.pick?_some {α : Type} (module : Module α) (method : Method) :
    module.pick? (some method) = (module.export? method.key).or module.callable? := by
  cases module with
  | callable value => rfl
  | exports entries => exact (Option.or_none ..).symm

namespace Listing

/-- Names that lead to a file in a proper directory can stand in a path. -/
theorem Proper.fileName_of_hasFile {l : Listing} (proper : l.Proper) {path : List String} (there : l.hasFile path) :
    ∀ s ∈ path, Path.FileName s := by
  induction path generalizing l with
  | nil => exact List.forall_mem_nil _
  | cons name rest ih =>
    cases proper with
    | file => cases there
    | directory distinct named inside =>
      rw [hasFile_cons, Option.any_eq_true] at there
      obtain ⟨l, found, below⟩ := there
      have mem := OrderedMap.mem_of_get?_eq_some found
      exact List.forall_mem_cons.2 ⟨named _ mem, ih (inside _ mem) below⟩
    | closed cause => cases there

/-- A module file below some directories, and the only one in its directory that has its stem. -/
structure OnlyFile (root : Listing) (dirs : List String) (stem ending : String) : Prop where
  stemmed : stem ≠ ""
  extension : ending ∈ Path.moduleExtensions
  there : root.hasFile (dirs ++ [stem ++ "." ++ ending])
  alone : ∀ other ∈ Path.moduleExtensions, root.hasFile (dirs ++ [stem ++ "." ++ other]) → other = ending

variable {root : Listing} {dirs : List String} {stem ending : String} {l : Loaders} {path : String}

namespace OnlyFile

/-- No module file with the stem offers anything but this one. -/
theorem lastOffer?_eq (h : root.OnlyFile dirs stem ending) (load : Loader Handler) (path : String)
    (offer : Module Handler → Option Handler) :
    root.lastOffer? load path dirs stem offer =
      (load (Path.join (dirs.foldl Path.join path) (stem ++ "." ++ ending))).toOption.bind offer := by
  have listed : stem ++ "." ++ ending ∈ (moduleNames stem).reverse :=
    List.mem_reverse.2 (mem_moduleNames.2 ⟨ending, h.extension, rfl⟩)
  rw [lastOffer?, findSome?_eq_of_forall_ne listed fun name mem other => ?_, module?, if_pos h.there]
  obtain ⟨extension, ext, rfl⟩ := mem_moduleNames.1 (List.mem_reverse.1 mem)
  have missing : ¬ root.hasFile (dirs ++ [stem ++ "." ++ extension]) :=
    fun there => other (by rw [h.alone extension ext there])
  rw [module?, if_neg missing]
  rfl

theorem fileNames (h : root.OnlyFile dirs stem ending) (proper : root.Proper) :
    (∀ s ∈ dirs, Path.FileName s) ∧ Path.FileName (stem ++ "." ++ ending) := by
  have named := List.forall_mem_append.1 (proper.fileName_of_hasFile h.there)
  exact ⟨named.1, by simpa using named.2⟩

theorem segments_route (h : root.OnlyFile dirs stem ending) (proper : root.Proper) :
    HandlerTree.segments (Path.ofSteps (dirs ++ [stem])) = dirs ++ [stem] := by
  obtain ⟨above, name⟩ := h.fileNames proper
  have slashless : '/' ∉ stem.toList := fun slash => name.slash (by simp [slash])
  refine HandlerTree.segments_ofSteps (List.forall_mem_append.2 ⟨fun s mem => ?_, ?_⟩)
  · exact ⟨(above s mem).ne_empty, (above s mem).slash⟩
  · simpa using ⟨h.stemmed, slashless⟩

/-- The tree offers at the segments of the file what its module offers. -/
theorem lookup_eq (h : root.OnlyFile dirs stem ending) (distinct : ∀ file m, l.handlers file = .ok m → m.Distinct)
    (proper : root.Proper) {tree : HandlerTree} (read : ((HandlerTree.readListing path root).run l).value = .ok tree)
    (method : Method) :
    tree.lookup (Path.ofSteps (dirs ++ [stem])) method =
      (l.handlers (Path.join (dirs.foldl Path.join path) (stem ++ "." ++ ending))).toOption.bind
        (Module.pick? (some method)) := by
  rw [HandlerTree.lookup_readListing distinct proper read (h.segments_route proper), h.lastOffer?_eq, h.lastOffer?_eq]
  cases l.handlers (Path.join (dirs.foldl Path.join path) (stem ++ "." ++ ending)) with
  | error e => rfl
  | ok module => exact (module.pick?_some method).symm

/-- The path of the file is resolved if that of the root is. -/
theorem exists_path_eq (h : root.OnlyFile dirs stem ending) (proper : root.Proper)
    (resolved : ∃ names, (∀ s ∈ names, Path.FileName s) ∧ path = Path.ofSteps names) :
    ∃ names, (∀ s ∈ names, Path.FileName s) ∧
      Path.join (dirs.foldl Path.join path) (stem ++ "." ++ ending) = Path.ofSteps names := by
  obtain ⟨names, named, rfl⟩ := resolved
  obtain ⟨above, name⟩ := h.fileNames proper
  have below : ∀ s ∈ names ++ dirs, Path.FileName s := List.forall_mem_append.2 ⟨named, above⟩
  refine ⟨names ++ dirs ++ [stem ++ "." ++ ending], List.forall_mem_append.2 ⟨below, by simpa using name⟩, ?_⟩
  rw [Path.foldl_join_ofSteps named above, Path.join_ofSteps below name]

end OnlyFile

end Listing

namespace HandlerTree

variable {root : Listing} {l : Loaders} {path : String}

/-- A directory tree under a resolved path that can be listed is read, and a lookup at the place of a module file that
shares its stem with no other module file beside it is the resolution of a reference to the file, whatever directory the
reference is seen from: nothing if the module does not load, a callable module for every method, and of exports the last
whose verb is the method in lower case.  A loader may answer any modules that do not export one verb twice. -/
theorem lookup_eq_resolve (distinct : ∀ file m, l.handlers file = .ok m → m.Distinct) (proper : root.Proper)
    (listable : ∀ dirs cause, ¬ root.Unlistable dirs cause)
    (resolved : ∃ names, (∀ s ∈ names, Path.FileName s) ∧ path = Path.ofSteps names) :
    ∃ tree, ((readListing path root).run l).value = .ok tree ∧
      ∀ dirs stem ending, root.OnlyFile dirs stem ending →
        let file := Path.join (dirs.foldl Path.join path) (stem ++ "." ++ ending)
        let route := Path.ofSteps (dirs ++ [stem])
        ∀ method,
          (∀ cwd basedir, tree.lookup route method =
            (resolve .handler l cwd basedir (.module file) (some method)).value) ∧
          (∀ e, l.handlers file = .error e → tree.lookup route method = none) ∧
          (∀ handler, l.handlers file = .ok (.callable handler) → tree.lookup route method = some handler) ∧
          ∀ entries, l.handlers file = .ok (.ofExports entries) → tree.lookup route method =
            entries.reverse.findSome? fun e => if e.1.toLower = method.key then some e.2 else none := by
  obtain ⟨tree, read⟩ := exists_readListing_eq_ok l path proper listable
  refine ⟨tree, read, ?_⟩
  intro dirs stem ending h file route method
  obtain ⟨names, named, spelled⟩ : ∃ names, (∀ s ∈ names, Path.FileName s) ∧ file = Path.ofSteps names :=
    h.exists_path_eq proper resolved
  have found : tree.lookup route method = (l.handlers file).toOption.bind (Module.pick? (some method)) :=
    h.lookup_eq distinct proper read method
  refine ⟨fun cwd basedir => ?_, fun e failed => ?_, fun handler loads => ?_, fun entries loads => ?_⟩
  · have same : Path.absolute cwd basedir file = file := by rw [spelled, Path.absolute_ofSteps named]
    rw [found, value_resolve, Reference.value?_module, same]
    rfl
  · rw [found, failed]
    rfl
  · rw [found, loads]
    rfl
  · have picked : (Module.ofExports entries).pick? (some method) =
        entries.reverse.findSome? fun e => if e.1.toLower = method.key then some e.2 else none := by
      rw [Module.ofExports, Module.pick?, Option.bind_some, OrderedMap.get?_ofEntries, ← List.map_reverse,
        List.findSome?_map]
      rfl
    rw [found, loads]
    exact picked

/-- Orders and their items are served beside a directory with the stem of a file and two files that share a stem. -/
def ordersDirectory : Listing :=
  .directory [("orders.json", .file), ("notes.txt", .file), ("health.yaml", .file), ("health.yml", .file),
    ("orders", .directory [("\x7bid\x7d.yml", .file), ("draft.yaml", .file)])]

/-- The orders export their verbs in mixed case, one item answers every method, and no other module loads. -/
def ordersLoaders : Loaders where
  handlers path :=
    if path = "/srv/v1/orders.json" then
      .ok (.ofExports [("Get", ⟨.given "list", echoAnswer⟩), ("POST", ⟨.given "old", echoAnswer⟩),
        ("post", ⟨.given "add", echoAnswer⟩)])
    else if path = "/srv/v1/orders/\x7bid\x7d.yml" then .ok (.callable ⟨.given "one", echoAnswer⟩)
    else .error (.malformed path)
  authorizers path := .error (.notFound path)

theorem lookup_eq_resolve_orders :
    ∃ tree, ((readListing "/srv/v1" ordersDirectory).run ordersLoaders).value = .ok tree ∧
      (tree.lookup "/orders" ⟨"GET"⟩).map Handler.origin = some (.given "list") ∧
      (tree.lookup "/orders" ⟨"POST"⟩).map Handler.origin = some (.given "add") ∧
      (tree.lookup "/orders" ⟨"PUT"⟩).map Handler.origin = none ∧
      (tree.lookup "/orders/\x7bid\x7d" ⟨"DELETE"⟩).map Handler.origin = some (.given "one") ∧
      tree.lookup "/orders/draft" ⟨"GET"⟩ = none ∧
      tree.lookup "/orders/draft" ⟨"GET"⟩ =
        (resolve .handler ordersLoaders "/tmp" "etc" (.module "/srv/v1/orders/draft.yaml") (some ⟨"GET"⟩)).value := by
  have distinct : ∀ file m, ordersLoaders.handlers file = .ok m → m.Distinct := by
    intro file m loads
    simp only [ordersLoaders] at loads
    split at loads
    · obtain rfl := Except.ok.inj loads
      exact OrderedMap.nodup_keys_ofEntries _
    · split at loads
      · obtain rfl := Except.ok.inj loads
        trivial
      · cases loads
  have proper : ordersDirectory.Proper := by
    refine .directory (by decide) (by decide +kernel) ?_
    simp only [List.forall_mem_cons]
    exact ⟨.file, .file, .file, .file, .directory (by decide) (by decide +kernel) (by simp [Listing.Proper.file]),
      by simp⟩
  have listable : ∀ dirs cause, ¬ ordersDirectory.Unlistable dirs cause := by
    rintro dirs cause (isClosed | ⟨isFile, -⟩)
    · refine Listing.at?_directory_ne_closed ?_ dirs isClosed
      simp only [List.forall_mem_cons]
      exact ⟨fun _ => Listing.at?_file_ne_closed _ _, fun _ => Listing.at?_file_ne_closed _ _,
        fun _ => Listing.at?_file_ne_closed _ _, fun _ => Listing.at?_file_ne_closed _ _,
        Listing.at?_directory_ne_closed (by simp [Listing.at?_file_ne_closed]), by simp⟩
    · cases isFile
  have orders : ordersDirectory.OnlyFile [] "orders" "json" :=
    ⟨by decide, by decide, by decide +kernel, by decide +kernel⟩
  have item : ordersDirectory.OnlyFile ["orders"] "\x7bid\x7d" "yml" :=
    ⟨by decide, by decide, by decide +kernel, by decide +kernel⟩
  have draft : ordersDirectory.OnlyFile ["orders"] "draft" "yaml" :=
    ⟨by decide, by decide, by decide +kernel, by decide +kernel⟩
  obtain ⟨tree, read, same⟩ := @lookup_eq_resolve ordersDirectory ordersLoaders "/srv/v1" distinct proper listable
    ⟨["srv", "v1"], by decide +kernel, (by decide +kernel : "/srv/v1" = Path.ofSteps ["srv", "v1"])⟩
  have exported := fun method => (same [] "orders" "json" orders method).2.2.2 _ (by rfl)
  have callable := (same ["orders"] "\x7bid\x7d" "yml" item ⟨"DELETE"⟩).2.2.1 _ (by rfl)
  obtain ⟨resolved, unloadable, -, -⟩ := same ["orders"] "draft" "yaml" draft ⟨"GET"⟩
  have ordersRoute : "/orders" = Path.ofSteps ([] ++ ["orders"]) := by decide +kernel
  have itemRoute : "/orders/\x7bid\x7d" = Path.ofSteps (["orders"] ++ ["\x7bid\x7d"]) := by decide +kernel
  have lowered : "Get".toLower = "get" ∧ "GET".toLower = "get" ∧ "POST".toLower = "post" ∧ "post".toLower = "post" ∧
      "PUT".toLower = "put" := by
    decide +kernel
  refine ⟨tree, read, ?_, ?_, ?_, ?_, unloadable _ (by rfl), resolved "/tmp" "etc"⟩
  · rw [ordersRoute, exported]
    simp [Method.key, lowered]
  · rw [ordersRoute, exported]
    simp [Method.key, lowered]
  · rw [ordersRoute, exported]
    simp [Method.key, lowered]
  · rw [itemRoute, callable]
    rfl

end HandlerTree

end RouteTable
