import RouteTable.Proofs.NormalPaths

/-!
# Names of files in a directory

A path ends with the name that was joined to it last (`Path.fileName?_join`), and a name with an extension is its stem,
a point and the extension (`Path.cutExtension_eq_iff`).  So the names of the module files with a stem are the stem with
each of the module extensions (`Path.isModuleFile_join_iff`).
-/

namespace RouteTable

theorem splitChars_append (sep : Char) (xs ys : List Char) :
    splitChars sep (xs ++ sep :: ys) = splitChars sep xs ++ splitChars sep ys := by
  induction xs with
  | nil => simp [splitChars]
  | cons c xs ih =>
    rw [List.cons_append, splitChars, splitChars, ih]
    by_cases hc : c = sep
    · rw [if_pos hc, if_pos hc]
      rfl
    · rw [if_neg hc, if_neg hc]
      cases pieces : splitChars sep xs with
      | nil => exact absurd pieces (splitChars_ne_nil sep xs)
      | cons piece rest => rfl

theorem joinChars_concat (sep : Char) {pieces : List (List Char)} (h : pieces ≠ []) (last : List Char) :
    joinChars sep (pieces ++ [last]) = joinChars sep pieces ++ sep :: last := by
  induction pieces with
  | nil => exact absurd rfl h
  | cons piece rest ih =>
    cases rest with
    | nil => rfl
    | cons next rest =>
      calc joinChars sep (piece :: next :: rest ++ [last])
          = piece ++ sep :: joinChars sep (next :: rest ++ [last]) := rfl
        _ = joinChars sep (piece :: next :: rest) ++ sep :: last := by
          rw [ih (by simp), ← List.cons_append, ← List.append_assoc]
          rfl

namespace Path

/-- The texts between the slashes of a path that are not empty. -/
def pieces (path : String) : List String := (Text.split '/' path).filter (· ≠ "")

theorem filter_pieces (path : String) : (pieces path).filter (· ≠ ".") = steps path := by
  rw [pieces, List.filter_filter, steps]
  congr 1
  funext s
  simp [Bool.and_comm]

theorem pieces_eq_append {path a b : String} (h : path.toList = a.toList ++ '/' :: b.toList) :
    pieces path = pieces a ++ pieces b := by
  rw [pieces, pieces, pieces, Text.split, Text.split, Text.split, h, splitChars_append, List.map_append,
    List.filter_append]

theorem IsName.steps_eq {name : String} (h : IsName name) : steps name = [name] := by
  rw [steps, Text.split, splitChars_of_not_mem h.slash]
  simp [h.ne_empty, h.ne_here]

theorem IsName.isAbsolute_eq {name : String} (h : IsName name) : isAbsolute name = false := by
  rw [isAbsolute, beq_eq_false_iff_ne]
  exact fun first => h.slash (List.mem_of_mem_head? first)

theorem pieces_join_of_relative (dir : String) {path : String} (relative : isAbsolute path = false) :
    pieces (join dir path) = pieces dir ++ pieces path := by
  rw [join, relative, if_neg Bool.false_ne_true]
  split
  · next bare =>
    rcases bare with rfl | slash
    · rw [String.empty_append]
      rfl
    · -- the slash at the end of the directory stands before the path
      obtain ⟨init, split⟩ := List.getLast?_eq_some_iff.1 slash
      have above : pieces dir = pieces (String.ofList init) ++ pieces "" := pieces_eq_append (by simp [split])
      rw [above, show pieces "" = [] from rfl, List.append_nil]
      exact pieces_eq_append (by simp [split])
  · exact pieces_eq_append (by simp)

/-- The steps of a relative path come after those of the path it is joined to. -/
theorem steps_join_of_relative (dir : String) {path : String} (relative : isAbsolute path = false) :
    steps (join dir path) = steps dir ++ steps path := by
  rw [← filter_pieces, pieces_join_of_relative dir relative, List.filter_append, filter_pieces, filter_pieces]

theorem steps_join (dir : String) {name : String} (h : IsName name) : steps (join dir name) = steps dir ++ [name] := by
  rw [steps_join_of_relative dir h.isAbsolute_eq, h.steps_eq]

theorem fileName?_join (dir : String) {name : String} (h : FileName name) : fileName? (join dir name) = some name := by
  have last : (parts (join dir name)).getLast? = some (.name name) := by
    rw [parts, steps_join dir h.toIsName, List.map_append, List.map_singleton, if_neg h.ne_up]
    split
    · rw [← List.cons_append, List.getLast?_concat]
    · split
      · rw [← List.cons_append, List.getLast?_concat]
      · rw [List.getLast?_concat]
  rw [fileName?, last]

theorem cutExtension_eq_iff {name stem ending : String} (stemmed : stem ≠ "") (ended : ending ≠ "")
    (pointless : '.' ∉ ending.toList) :
    cutExtension name = (stem, some ending) ↔ name = stem ++ "." ++ ending := by
  constructor
  · intro cut
    rw [cutExtension] at cut
    split at cut
    · next last first rest pieces =>
      split at cut
      · simp at cut
      · simp only [Prod.mk.injEq, Option.some.injEq] at cut
        obtain ⟨rfl, rfl⟩ := cut
        have whole : splitChars '.' name.toList = (first :: rest).reverse ++ [last] := by
          rw [← List.reverse_reverse (splitChars '.' name.toList), pieces]
          simp
        apply String.toList_injective
        rw [← joinChars_splitChars '.' name.toList, whole, joinChars_concat '.' (by simp)]
        simp
    · simp at cut
  · rintro rfl
    have pieces : splitChars '.' (stem ++ "." ++ ending).toList = splitChars '.' stem.toList ++ [ending.toList] := by
      rw [← splitChars_of_not_mem pointless, ← splitChars_append]
      simp
    have long : stem ++ "." ++ ending ≠ ".." := by
      intro up
      have lengths := congrArg (fun s : String => s.toList.length) up
      have := List.length_pos_iff.2 (mt String.toList_eq_nil_iff.1 stemmed)
      have := List.length_pos_iff.2 (mt String.toList_eq_nil_iff.1 ended)
      simp at lengths
      omega
    have named : (splitChars '.' stem.toList).reverse ≠ [[]] := by
      intro front
      have none := joinChars_splitChars '.' stem.toList
      rw [List.reverse_eq_iff.1 front] at none
      exact stemmed (String.toList_eq_nil_iff.1 none.symm)
    have cut := joinChars_splitChars '.' stem.toList
    rw [cutExtension, pieces, List.reverse_append]
    cases before : (splitChars '.' stem.toList).reverse with
    | nil => exact absurd (List.reverse_eq_nil_iff.1 before) (splitChars_ne_nil _ _)
    | cons first rest =>
      rw [before] at named
      simp only [List.reverse_singleton, List.singleton_append, named, long, or_self, if_false]
      rw [← before, List.reverse_reverse, cut, String.ofList_toList, String.ofList_toList]

theorem isModuleFile_join_iff (dir : String) {name stem : String} (h : FileName name) (stemmed : stem ≠ "") :
    (isModuleFile (join dir name) = true ∧ (cutExtension name).1 = stem) ↔
      ∃ ending ∈ moduleExtensions, name = stem ++ "." ++ ending := by
  have extensions : ∀ ending ∈ moduleExtensions, ending ≠ "" ∧ '.' ∉ ending.toList := by decide +kernel
  rw [isModuleFile, extension?, fileName?_join dir h, Option.bind_some, Option.any_eq_true]
  constructor
  · rintro ⟨⟨ending, found, listed⟩, rfl⟩
    have mem := List.contains_iff_mem.1 listed
    have ⟨ended, pointless⟩ := extensions ending mem
    exact ⟨ending, mem, (cutExtension_eq_iff stemmed ended pointless).1 (Prod.ext rfl found)⟩
  · rintro ⟨ending, mem, eq⟩
    have ⟨ended, pointless⟩ := extensions ending mem
    have cut := (cutExtension_eq_iff stemmed ended pointless).2 eq
    rw [cut]
    exact ⟨⟨ending, rfl, List.contains_iff_mem.2 mem⟩, rfl⟩

end Path

end RouteTable
