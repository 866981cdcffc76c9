import RouteTable.Path

/-!
# Normal paths

A path is normal when it is spelled from names, one slash before each, and none of them is `..`.  `Path.absolute` answers
normal paths (`Path.normal_absolute`), and the files that a normal path may stand for have normal paths
(`Path.Normal.of_mem_candidates`).  Among normal paths the parts decide the text (`Path.Normal.eq_of_parts_eq`), and so do
the names that a path passes through (`Path.Normal.eq_of_normalSteps_eq`).
-/

namespace RouteTable

theorem not_mem_of_mem_splitChars {sep : Char} {cs piece : List Char} (h : piece ∈ splitChars sep cs) :
    sep ∉ piece := by
  induction cs generalizing piece with
  | nil => simp_all [splitChars]
  | cons c cs ih =>
    rw [splitChars] at h
    split at h
    · rcases List.mem_cons.1 h with rfl | h
      · simp
      · exact ih h
    · next hc =>
      cases pieces : splitChars sep cs with
      | nil => exact absurd pieces (splitChars_ne_nil sep cs)
      | cons first rest =>
        rw [pieces] at h ih
        rcases List.mem_cons.1 h with rfl | h
        · simpa [Ne.symm hc] using ih List.mem_cons_self
        · exact ih (List.mem_cons_of_mem _ h)

theorem joinChars_eq_intercalate (sep : Char) (pieces : List (List Char)) :
    joinChars sep pieces = [sep].intercalate pieces := by
  induction pieces with
  | nil => rfl
  | cons piece rest ih =>
    cases rest with
    | nil => simp [joinChars]
    | cons next rest =>
      rw [joinChars, ih, List.intercalate_cons_cons, List.append_assoc]
      · rfl
      · simp

namespace Path

/-- What a part adds to the steps of a path. -/
def Part.step? : Part → Option String
  | .root => none
  | .here => none
  | .up => some ".."
  | .name s => some s

theorem filterMap_parts (path : String) : (parts path).filterMap Part.step? = steps path := by
  have inner : ((steps path).map fun s => if s = ".." then Part.up else Part.name s).filterMap Part.step? =
      steps path := by
    have each : (Part.step? ∘ fun s => if s = ".." then Part.up else Part.name s) = some := by
      funext s
      by_cases h : s = ".." <;> simp [h, Part.step?]
    rw [List.filterMap_map, each, List.filterMap_some]
  rw [parts]
  split
  · exact inner
  · split
    · exact inner
    · exact inner

theorem steps_eq_of_parts_eq {p q : String} (h : parts p = parts q) : steps p = steps q := by
  rw [← filterMap_parts, h, filterMap_parts]

/-- A text that can stand between the slashes of a path and counts as a step. -/
structure IsName (s : String) : Prop where
  ne_empty : s ≠ ""
  ne_here : s ≠ "."
  slash : '/' ∉ s.toList

theorem isName_of_mem_steps {path s : String} (h : s ∈ steps path) : IsName s := by
  rw [steps, List.mem_filter] at h
  obtain ⟨piece, counts⟩ := h
  obtain ⟨cs, mem, rfl⟩ := List.mem_map.1 piece
  simp only [decide_eq_true_eq] at counts
  refine ⟨counts.1, counts.2, ?_⟩
  rw [String.toList_ofList]
  exact not_mem_of_mem_splitChars mem

theorem mem_follow {stack l : List String} {s : String} (h : s ∈ follow stack l) : s ∈ stack ∨ s ∈ l := by
  induction l generalizing stack with
  | nil => exact .inl h
  | cons t rest ih =>
    rw [follow] at h
    split at h
    · rcases ih h with h | h
      · exact .inl (List.mem_of_mem_tail h)
      · exact .inr (List.mem_cons_of_mem _ h)
    · rcases ih h with h | h
      · rcases List.mem_cons.1 h with rfl | h
        · exact .inr List.mem_cons_self
        · exact .inl h
      · exact .inr (List.mem_cons_of_mem _ h)

/-- A text under which a file or a directory can stand in a directory. -/
structure FileName (s : String) : Prop extends IsName s where
  ne_up : s ≠ ".."

theorem fileName_iff {s : String} : FileName s ↔ s ≠ "" ∧ s ≠ "." ∧ '/' ∉ s.toList ∧ s ≠ ".." :=
  ⟨fun h => ⟨h.ne_empty, h.ne_here, h.slash, h.ne_up⟩, fun h => ⟨⟨h.1, h.2.1, h.2.2.1⟩, h.2.2.2⟩⟩

instance (s : String) : Decidable (FileName s) := decidable_of_iff _ fileName_iff.symm

theorem follow_of_forall_ne {l : List String} (h : ∀ s ∈ l, s ≠ "..") (stack : List String) :
    follow stack l = l.reverse ++ stack := by
  induction l generalizing stack with
  | nil => rfl
  | cons s rest ih =>
    rw [List.forall_mem_cons] at h
    rw [follow, if_neg h.1, ih h.2, List.reverse_cons, List.append_assoc]
    rfl

theorem ne_up_of_mem_follow {stack l : List String} (h : ∀ s ∈ stack, s ≠ "..") : ∀ s ∈ follow stack l, s ≠ ".." := by
  induction l generalizing stack with
  | nil => exact h
  | cons t rest ih =>
    rw [follow]
    split
    · exact ih fun s mem => h s (List.mem_of_mem_tail mem)
    · next name => exact ih (List.forall_mem_cons.2 ⟨name, h⟩)

theorem fileName_of_mem_normalSteps {path s : String} (h : s ∈ normalSteps path) : FileName s := by
  rw [normalSteps, List.mem_reverse] at h
  have name : IsName s := isName_of_mem_steps ((mem_follow h).resolve_left List.not_mem_nil)
  exact ⟨name, ne_up_of_mem_follow (List.forall_mem_nil _) s h⟩

/-- Spelled from names, with a slash before each. -/
def Normal (path : String) : Prop := ∃ names, (∀ s ∈ names, FileName s) ∧ path = ofSteps names

theorem normal_absolute (cwd base path : String) : Normal (absolute cwd base path) :=
  ⟨_, fun _ => fileName_of_mem_normalSteps, rfl⟩

theorem toList_ofSteps (names : List String) :
    (ofSteps names).toList = '/' :: joinChars '/' (names.map String.toList) := by
  rw [ofSteps, String.toList_append, String.toList_intercalate, joinChars_eq_intercalate]
  rfl

theorem split_ofSteps {names : List String} (nonempty : names ≠ []) (slashless : ∀ s ∈ names, '/' ∉ s.toList) :
    Text.split '/' (ofSteps names) = "" :: names := by
  have pieces : ∀ cs ∈ names.map String.toList, '/' ∉ cs := by
    intro cs hcs
    obtain ⟨s, hs, rfl⟩ := List.mem_map.1 hcs
    exact slashless s hs
  rw [Text.split, toList_ofSteps, splitChars, if_pos rfl, splitChars_joinChars (by simpa using nonempty) pieces]
  simp [Function.comp_def, String.ofList_toList]

theorem steps_ofSteps {names : List String} (h : ∀ s ∈ names, IsName s) : steps (ofSteps names) = names := by
  cases names with
  | nil => rfl
  | cons first rest =>
    rw [steps, split_ofSteps (by simp) fun s hs => (h s hs).slash, List.filter_cons_of_neg (by simp)]
    exact List.filter_eq_self.2 fun s hs => by simpa using ⟨(h s hs).ne_empty, (h s hs).ne_here⟩

theorem normalSteps_ofSteps {names : List String} (h : ∀ s ∈ names, FileName s) :
    normalSteps (ofSteps names) = names := by
  rw [normalSteps, steps_ofSteps fun s mem => (h s mem).toIsName, follow_of_forall_ne fun s mem => (h s mem).ne_up,
    List.append_nil, List.reverse_reverse]

theorem Normal.eq_of_normalSteps_eq {p q : String} (hp : Normal p) (hq : Normal q)
    (h : normalSteps p = normalSteps q) : p = q := by
  obtain ⟨names, areNames, rfl⟩ := hp
  obtain ⟨others, areOthers, rfl⟩ := hq
  rw [normalSteps_ofSteps areNames, normalSteps_ofSteps areOthers] at h
  rw [h]

theorem Normal.eq_of_parts_eq {p q : String} (hp : Normal p) (hq : Normal q) (h : parts p = parts q) : p = q := by
  refine hp.eq_of_normalSteps_eq hq ?_
  rw [normalSteps, steps_eq_of_parts_eq h, normalSteps]

theorem FileName.of_append {s ending : String} (slash : '/' ∉ s.toList) (long : 3 ≤ ending.toList.length)
    (slashEnding : '/' ∉ ending.toList) : FileName (s ++ ending) := by
  have apart : ∀ t : String, t.toList.length < 3 → s ++ ending ≠ t := by
    rintro t short rfl
    rw [String.toList_append, List.length_append] at short
    omega
  exact ⟨⟨apart "" (by decide), apart "." (by decide), by simp [slash, slashEnding]⟩, apart ".." (by decide)⟩

/-- What is written behind a normal path belongs to its last name. -/
theorem Normal.append {path ending : String} (h : Normal path) (long : 3 ≤ ending.toList.length)
    (slash : '/' ∉ ending.toList) : Normal (path ++ ending) := by
  obtain ⟨names, areNames, rfl⟩ := h
  rcases List.eq_nil_or_concat names with rfl | ⟨before, last, rfl⟩
  · refine ⟨[ending], ?_, by simp [ofSteps]⟩
    simpa using FileName.of_append (s := "") (by simp) long slash
  · refine ⟨before ++ [last ++ ending], ?_, ?_⟩
    · intro s hs
      rcases List.mem_append.1 hs with hs | hs
      · exact areNames s (by simp [hs])
      · rw [List.mem_singleton.1 hs]
        exact FileName.of_append (areNames last (by simp)).slash long slash
    · cases before with
      | nil => simp [ofSteps, String.append_assoc]
      | cons first rest =>
        rw [ofSteps, ofSteps, List.concat_eq_append, String.intercalate_append_of_ne_nil (by simp) (by simp),
          String.intercalate_append_of_ne_nil (by simp) (by simp)]
        simp [String.append_assoc]

theorem Normal.of_mem_candidates {path p : String} (h : Normal path) (mem : p ∈ candidates path) : Normal p := by
  rw [candidates] at mem
  split at mem
  · rw [List.mem_singleton.1 mem]
    exact h
  · rcases List.mem_cons.1 mem with rfl | mem
    · exact h
    · obtain ⟨extension, ext, rfl⟩ := List.mem_map.1 mem
      have ending : ∀ e ∈ moduleExtensions, 3 ≤ ("." ++ e).toList.length ∧ '/' ∉ ("." ++ e).toList := by decide +kernel
      rw [String.append_assoc]
      exact h.append (ending extension ext).1 (ending extension ext).2

end Path

end RouteTable
