import RouteTable.Proofs.ModuleLoading
import RouteTable.Proofs.RepeatedKeys

/-!
# The two shapes of a handler manifest

A table with a number among its values is no table of verbs, and a single response has a number for its status.  So no
document, in JSON or YAML, has both shapes (`Manifest.exports?_eq_none_of_ofTree?`), and it does not count which is tried
first.  A table with a number for the status and a key that no field of a response has is neither, and loading it fails.
A table of verbs exports under every lowercase verb the last response that the table has for it
(`Manifest.shapes_of_manifest`).
-/

namespace RouteTable

variable {α : Type}

/-! ### Tables and their fields -/

namespace Tree

/-- The entries of a table. -/
def entries : Tree → List (Tree × Tree)
  | table entries => entries
  | _ => []

theorem eq_table_of_found {t : Tree} (h : t.found = .table) : t = table t.entries := by
  cases t <;> cases h
  rfl

theorem eq_text_of_found {t : Tree} {s : String} (h : t.found = .text s) : t = text s := by
  cases t <;> cases h
  rfl

theorem eq_number_of_found {t : Tree} {n : Number} (h : t.found = .number n) : t = number n := by
  cases t <;> cases h
  rfl

variable {names : List String} {seen : List Nat}

theorem fieldEntries_cons_eq_ok {e : Tree × Tree} {rest : List (Tree × Tree)} {fields : List (Nat × Tree)}
    (ok : fieldEntries names true seen (e :: rest) = .ok fields) :
    ∃ i others, fieldIndex names e.1 = .ok (some i) ∧ fieldEntries names true (i :: seen) rest = .ok others ∧
      fields = (i, e.2) :: others := by
  obtain ⟨key, value⟩ := e
  unfold fieldEntries at ok
  obtain ⟨index, named, next⟩ := bind_eq_ok_iff.1 ok
  cases index with
  | none => cases key <;> cases next
  | some i =>
    dsimp only at next
    split at next
    · cases next
    · obtain ⟨others, read, done⟩ := bind_eq_ok_iff.1 next
      exact ⟨i, others, named, read, (Except.ok.inj done).symm⟩

/-- All entries of a table that is read strictly name fields, and the fields are theirs. -/
theorem forall₂_of_fieldEntries {entries : List (Tree × Tree)} {fields : List (Nat × Tree)}
    (ok : fieldEntries names true seen entries = .ok fields) :
    List.Forall₂ (fun e field => fieldIndex names e.1 = .ok (some field.1) ∧ e.2 = field.2) entries fields := by
  -- along the entries, whatever fields were met before
  induction entries generalizing seen fields with
  | nil =>
    obtain rfl : [] = fields := Except.ok.inj ok
    exact .nil
  | cons e rest ih =>
    obtain ⟨i, others, named, read, rfl⟩ := fieldEntries_cons_eq_ok ok
    exact .cons ⟨named, rfl⟩ (ih read)

end Tree

/-! ### One response -/

namespace FixedResponse

variable {entries : List (Tree × Tree)} {r : FixedResponse}

theorem exists_number_of_ofFields? {fields : OrderedMap Nat Tree} (read : ofFields? fields = some r) :
    ∃ n, OrderedMap.get? fields 0 = some (.number n) := by
  rw [ofFields?] at read
  obtain ⟨status, found, -⟩ := Option.bind_eq_some_iff.1 read
  obtain ⟨t, first, whole⟩ := Option.bind_eq_some_iff.1 found
  cases t with
  | number n => exact ⟨n, first⟩
  | _ => cases whole

theorem exists_fields_of_ofTree? (read : ofTree? (.table entries) = some r) :
    ∃ fields, Tree.fieldEntries fieldNames true [] entries = .ok fields ∧ ofFields? fields = some r := by
  rw [ofTree?] at read
  obtain ⟨fields, named, built⟩ := Option.bind_eq_some_iff.1 read
  cases run : Tree.fieldEntries fieldNames true [] entries with
  | error e =>
    rw [run] at named
    cases named
  | ok others =>
    rw [run] at named
    cases named
    exact ⟨_, rfl, built⟩

/-- A response has a number among its values, for its status. -/
theorem exists_number_of_ofTree? (read : ofTree? (.table entries) = some r) :
    ∃ key n, (key, Tree.number n) ∈ entries := by
  obtain ⟨fields, named, built⟩ := exists_fields_of_ofTree? read
  obtain ⟨n, status⟩ := exists_number_of_ofFields? built
  obtain ⟨e, mem, -, same⟩ :=
    exists_of_forall₂ (Tree.forall₂_of_fieldEntries named) _ (OrderedMap.mem_of_get?_eq_some status)
  obtain ⟨key, value⟩ := e
  obtain rfl : value = .number n := same
  exact ⟨key, n, mem⟩

/-- A table with a key that is not a field of a response is none. -/
theorem ofTree?_eq_none_of_unknown {key : String} {value : Tree} (mem : (.text key, value) ∈ entries)
    (unknown : key ∉ fieldNames) : ofTree? (.table entries) = none := by
  rw [Option.eq_none_iff_forall_ne_some]
  intro r read
  obtain ⟨fields, named, -⟩ := exists_fields_of_ofTree? read
  -- the key would have to name a field, and it names none
  obtain ⟨field, -, index, -⟩ := exists_of_forall₂ (Tree.forall₂_of_fieldEntries named).flip _ mem
  have absent : fieldNames.idxOf? key = none := List.idxOf?_eq_none_iff.2 unknown
  rw [Tree.fieldIndex, absent] at index
  cases index

end FixedResponse

/-! ### Responses under verbs -/

namespace Manifest

variable {entries : List (Tree × Tree)}

/-- The entries of a table are verbs with responses, in order. -/
def Lists (entries : List (Tree × Tree)) (said : List (String × FixedResponse)) : Prop :=
  List.Forall₂ (fun e s => e.1 = .text s.1 ∧ FixedResponse.ofTree? e.2 = some s.2) entries said

theorem export?_eq_some_iff {e : Tree × Tree} {s : String × FixedResponse} :
    export? e = some s ↔ e.1 = .text s.1 ∧ FixedResponse.ofTree? e.2 = some s.2 := by
  obtain ⟨key, value⟩ := e
  obtain ⟨verb, r⟩ := s
  cases key with
  | text other =>
    rw [export?, Option.map_eq_some_iff]
    constructor
    · rintro ⟨_, read, same⟩
      cases same
      exact ⟨rfl, read⟩
    · rintro ⟨same, read⟩
      cases same
      exact ⟨r, read, rfl⟩
  | _ => exact ⟨fun h => (nomatch h), fun h => (nomatch h.1)⟩

theorem exports?_eq_some_iff {t : Tree} {map : OrderedMap String FixedResponse} :
    exports? t = some map ↔ ∃ entries said, t = .table entries ∧ Lists entries said ∧ map = OrderedMap.ofEntries said := by
  cases t with
  | table entries =>
    rw [exports?, Option.map_eq_some_iff]
    simp only [mapM_eq_some_iff, export?_eq_some_iff]
    constructor
    · rintro ⟨said, reads, rfl⟩
      exact ⟨entries, said, rfl, reads, rfl⟩
    · rintro ⟨_, said, same, reads, rfl⟩
      cases same
      exact ⟨said, reads, rfl⟩
  | _ =>
    constructor
    · intro h
      cases h
    · rintro ⟨_, _, same, _⟩
      cases same

/-- A number is not a response, so it stands under no verb. -/
theorem exports?_eq_none_of_number {key : Tree} {n : Number} (mem : (key, .number n) ∈ entries) :
    exports? (.table entries) = none := by
  rw [Option.eq_none_iff_forall_ne_some]
  intro map read
  obtain ⟨_, said, same, reads, -⟩ := exports?_eq_some_iff.1 read
  cases same
  obtain ⟨s, -, -, response⟩ := exists_of_forall₂ reads.flip _ mem
  cases response

/-- A single response is not a table of verbs. -/
theorem exports?_eq_none_of_ofTree? {t : Tree} {r : FixedResponse} (read : FixedResponse.ofTree? t = some r) :
    exports? t = none := by
  cases t with
  | table entries =>
    obtain ⟨key, n, mem⟩ := FixedResponse.exists_number_of_ofTree? read
    exact exports?_eq_none_of_number mem
  | _ => rfl

end Manifest

/-! ### Exports -/

/-- The exports of a module have lowercase verbs, in the order of their first occurrences, and of several values for one
verb the last. -/
theorem Module.exists_ofExports_eq (entries : List (String × α)) :
    ∃ exports, ofExports entries = .exports exports ∧
      OrderedMap.keys exports = (entries.map (·.1.toLower)).eraseDups ∧
      ∀ verb, OrderedMap.get? exports verb = ((entries.filter (·.1.toLower = verb)).map (·.2)).getLast? := by
  refine ⟨_, rfl, ?_, fun verb => ?_⟩
  · rw [OrderedMap.keys_ofEntries, List.map_map]
    rfl
  · exact OrderedMap.get?_ofEntries_map entries (·.1.toLower) Prod.snd verb

/-! ### Loads -/

/-- A load finds a file, of which this version is not cached, and the file holds a document. -/
def ModuleStore.Reads (s : ModuleStore) (d : Disk) (path p : String) (t : Tree) : Prop :=
  ∃ f, d.locate? path = some (p, f) ∧ s.handlers.Stale (Path.parts p) f ∧ f.tree p = .ok t

/-- Nothing is cached at first, so what a load reads is seen from the disk. -/
theorem ModuleStore.exists_reads_of_any (d : Disk) (path p : String) (check : Tree → Bool)
    (h : ((d.locate? path).any fun (q, f) => q == p && (f.tree q).toOption.any check) = true) :
    ∃ t, check t = true ∧ ({} : ModuleStore).Reads d path p t := by
  obtain ⟨⟨q, f⟩, located, found⟩ := (Option.any_eq_true ..).1 h
  rw [Bool.and_eq_true, beq_iff_eq] at found
  obtain ⟨rfl, there⟩ := found
  obtain ⟨t, document, checked⟩ := (Option.any_eq_true ..).1 there
  refine ⟨t, checked, f, located, fun _ known => (nomatch known), ?_⟩
  cases run : f.tree q with
  | error e =>
    rw [run] at document
    cases document
  | ok other =>
    rw [run] at document
    cases document
    rfl

namespace ModuleStore.Reads

variable {s : ModuleStore} {d : Disk} {path p : String} {t : Tree}

theorem load_fst_eq (h : s.Reads d path p t) :
    (s.load d .handler path).1 = match Manifest.read? t with
      | some m => .ok (Manifest.handlers s.made m)
      | none => .error (.malformed p) := by
  obtain ⟨f, located, stale, document⟩ := h
  have read : s.handlers.load File.handlers d s.made path = _ := Cache.load_of_stale located stale
  have answer : (s.load d .handler path).1 = File.handlers p s.made f :=
    (congrArg Prod.fst read).trans (Cache.read_fst ..)
  rw [answer, File.handlers, document]
  rfl

theorem load_eq_malformed (h : s.Reads d path p t) (neither : Manifest.read? t = none) :
    s.load d .handler path = (.error (.malformed p), s) := by
  have failed : (s.load d .handler path).1 = .error (.malformed p) := by rw [h.load_fst_eq, neither]
  exact Prod.ext failed (s.load_eq_of_error d failed)

end ModuleStore.Reads

namespace Manifest

/-- Which of the shapes is tried first does not count. -/
theorem read?_eq_swap (t : Tree) :
    read? t = ((exports? t).map Module.ofExports).or ((FixedResponse.ofTree? t).map Module.callable) := by
  rw [read?]
  cases single : FixedResponse.ofTree? t with
  | none => rw [Option.map_none, Option.none_or, Option.or_none]
  | some r =>
    rw [exports?_eq_none_of_ofTree? single]
    rfl

/-- The handlers of responses under verbs, numbered from the first. -/
def exported (first : Nat) (responses : OrderedMap String FixedResponse) : OrderedMap String Handler :=
  (responses.zipIdx first).map fun e => (e.1.1, e.1.2.handler (.loaded e.2))

theorem keys_exported (first : Nat) (responses : OrderedMap String FixedResponse) :
    OrderedMap.keys (exported first responses) = OrderedMap.keys responses := by
  induction responses generalizing first with
  | nil => rfl
  | cons e rest ih => exact congrArg (e.1 :: ·) (ih (first + 1))

theorem get?_exported (first : Nat) (responses : OrderedMap String FixedResponse) (verb : String) :
    OrderedMap.get? (exported first responses) verb =
      (OrderedMap.get? responses verb).map (·.handler (.loaded (first + (OrderedMap.keys responses).idxOf verb))) := by
  induction responses generalizing first with
  | nil => rfl
  | cons e rest ih =>
    rw [exported, List.zipIdx_cons, List.map_cons, ← exported, OrderedMap.get?, OrderedMap.get?, OrderedMap.keys,
      List.map_cons, List.idxOf_cons]
    by_cases here : e.1 = verb
    · simp [here]
    · rw [if_neg here, if_neg here, ih, beq_false_of_ne here, cond_false, Nat.add_right_comm first, Nat.add_assoc]
      rfl

/-- A load of a table of verbs exports, for every lowercase verb in the order of the first occurrences, the last response
that the table has for it. -/
theorem exists_exports_of_reads {s : ModuleStore} {d : Disk} {path p : String} {t : Tree}
    {map : OrderedMap String FixedResponse} (accepted : exports? t = some map) (reads : s.Reads d path p t) :
    ∃ exports, (s.load d .handler path).1 = .ok (.exports exports) ∧
      OrderedMap.keys exports = (map.map (·.1.toLower)).eraseDups ∧
      ∀ verb, OrderedMap.get? exports verb = ((map.filter (·.1.toLower = verb)).map (·.2)).getLast?.map
        (·.handler (.loaded (s.made + (OrderedMap.keys exports).idxOf verb))) := by
  obtain ⟨responses, made, keys, values⟩ := Module.exists_ofExports_eq map
  have manifest : read? t = some (.exports responses) := by
    rw [read?_eq_swap, accepted, ← made]
    rfl
  have verbs := keys_exported s.made responses
  refine ⟨exported s.made responses, ?_, verbs.trans keys, fun verb => ?_⟩
  · rw [reads.load_fst_eq, manifest]
    rfl
  · rw [verbs, ← values]
    exact get?_exported s.made responses verb

/-- No document is both a single response and a table of verbs, so it does not count which is tried first.  A table with a
number for the status and another key than those of a response is neither, and a load that reads it finds the file
malformed.  A table of verbs holds every verb as it is spelled once, where it occurs first and with its last response; a
load that reads it exports, for every lowercase verb in the order of the first occurrences, the last response that the
table has for it. -/
theorem shapes_of_manifest :
    (∀ t, FixedResponse.ofTree? t = none ∨ exports? t = none) ∧
    (∀ t, read? t = ((exports? t).map Module.ofExports).or ((FixedResponse.ofTree? t).map Module.callable)) ∧
    (∀ entries status key value, (Tree.text "status", Tree.number status) ∈ entries → (Tree.text key, value) ∈ entries →
      key ∉ ["status", "headers", "body"] →
        FixedResponse.ofTree? (.table entries) = none ∧ exports? (.table entries) = none ∧
        ∀ (s : ModuleStore) d path p, s.Reads d path p (.table entries) →
          s.load d .handler path = (.error (.malformed p), s)) ∧
    ∀ t map, exports? t = some map →
      (∃ entries said, t = .table entries ∧ Lists entries said ∧ map = OrderedMap.ofEntries said ∧
        ((OrderedMap.keys said).Nodup → map = said)) ∧
      ∀ (s : ModuleStore) d path p, s.Reads d path p t →
        ∃ exports, (s.load d .handler path).1 = .ok (.exports exports) ∧
          OrderedMap.keys exports = (map.map (·.1.toLower)).eraseDups ∧
          ∀ verb, OrderedMap.get? exports verb = ((map.filter (·.1.toLower = verb)).map (·.2)).getLast?.map
            (·.handler (.loaded (s.made + (OrderedMap.keys exports).idxOf verb))) := by
  refine ⟨fun t => ?_, read?_eq_swap, ?_, fun t map accepted => ⟨?_, fun s d path p reads => ?_⟩⟩
  · cases single : FixedResponse.ofTree? t with
    | none => exact .inl rfl
    | some r => exact .inr (exports?_eq_none_of_ofTree? single)
  · intro entries status key value numbered mem unknown
    have single := FixedResponse.ofTree?_eq_none_of_unknown mem unknown
    have verbs := exports?_eq_none_of_number numbered
    refine ⟨single, verbs, fun s d path p reads => reads.load_eq_malformed ?_⟩
    rw [read?, single, verbs]
    rfl
  · obtain ⟨entries, said, table, listed, rfl⟩ := exports?_eq_some_iff.1 accepted
    exact ⟨entries, said, table, listed, rfl, OrderedMap.ofEntries_of_nodup⟩
  · exact exists_exports_of_reads accepted reads

/-- A response with a verb beside its status is malformed, and of two spellings of a verb the later response counts. -/
theorem shapes_of_manifest_spellings :
    let d : Disk :=
      { entries := [("mixed.yaml", .file ⟨"status: 200\nget: [204]".toUTF8, 0⟩),
        ("pets.yaml", .file ⟨"get: [200]\nGET: [201]".toUTF8, 0⟩)] }
    let s : ModuleStore := {}
    s.load d .handler "/mixed" = (.error (.malformed "/mixed.yaml"), s) ∧
      ∃ exports later, (s.load d .handler "/pets").1 = .ok (.exports exports) ∧ OrderedMap.keys exports = ["get"] ∧
        OrderedMap.get? exports "get" = some (FixedResponse.handler later (.loaded 0)) ∧
        later.status = 201 := by
  intro d s
  -- trees are compared by what they are found to be, for their equality is not decided
  have mixed : ∃ responses, s.Reads d "/mixed" "/mixed.yaml"
      (.table [(.text "status", .number (.int 200)), (.text "get", responses)]) := by
    obtain ⟨t, checked, reads⟩ := ModuleStore.exists_reads_of_any d "/mixed" "/mixed.yaml" (fun t =>
      t.found == .table && (t.entries.map fun e => (e.1.found, e.2.found)) ==
        [(.text "status", .number (.int 200)), (.text "get", .list)]) (by decide +kernel)
    rw [Bool.and_eq_true, beq_iff_eq, beq_iff_eq] at checked
    obtain ⟨⟨key, value⟩, _, split, one, rest⟩ := List.map_eq_cons_iff.1 checked.2
    obtain ⟨⟨verb, responses⟩, _, rfl, two, none⟩ := List.map_eq_cons_iff.1 rest
    obtain rfl := List.map_eq_nil_iff.1 none
    obtain rfl : key = .text "status" := Tree.eq_text_of_found (Prod.mk.inj one).1
    obtain rfl : value = .number (.int 200) := Tree.eq_number_of_found (Prod.mk.inj one).2
    obtain rfl : verb = .text "get" := Tree.eq_text_of_found (Prod.mk.inj two).1
    rw [Tree.eq_table_of_found checked.1, split] at reads
    exact ⟨responses, reads⟩
  have pets : ∃ t first later, s.Reads d "/pets" "/pets.yaml" t ∧ later.status = 201 ∧
      exports? t = some [("get", first), ("GET", later)] := by
    obtain ⟨t, checked, reads⟩ := ModuleStore.exists_reads_of_any d "/pets" "/pets.yaml" (fun t =>
      (exports? t).any fun map => (map.map fun e => (e.1, e.2.status)) == [("get", 200), ("GET", 201)])
        (by decide +kernel)
    obtain ⟨map, accepted, spelled⟩ := (Option.any_eq_true ..).1 checked
    obtain ⟨⟨_, first⟩, _, rfl, one, rest⟩ := List.map_eq_cons_iff.1 (beq_iff_eq.1 spelled)
    obtain ⟨⟨_, later⟩, _, rfl, two, none⟩ := List.map_eq_cons_iff.1 rest
    obtain rfl := List.map_eq_nil_iff.1 none
    obtain ⟨rfl, -⟩ := Prod.mk.inj one
    obtain ⟨rfl, status⟩ := Prod.mk.inj two
    exact ⟨t, first, later, reads, status, accepted⟩
  obtain ⟨responses, unread⟩ := mixed
  obtain ⟨t, first, later, reads, status, accepted⟩ := pets
  obtain ⟨exports, loaded, keys, values⟩ := (shapes_of_manifest.2.2.2 t _ accepted).2 s d "/pets" "/pets.yaml" reads
  have lower : "get".toLower = "get" ∧ "GET".toLower = "get" := by decide +kernel
  have names : OrderedMap.keys exports = ["get"] := by
    rw [keys, List.map_cons, List.map_cons, lower.1, lower.2]
    rfl
  refine ⟨?_, exports, later, loaded, names, ?_, status⟩
  · exact (shapes_of_manifest.2.2.1 _ (.int 200) "get" responses List.mem_cons_self
      (List.mem_cons_of_mem _ List.mem_cons_self) (by decide +kernel)).2.2 s d "/mixed" "/mixed.yaml" unread
  · rw [values, names]
    simp only [List.filter_cons, lower.1, lower.2]
    rfl

end Manifest

end RouteTable
