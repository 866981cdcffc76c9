import RouteTable.Disk
import RouteTable.Proofs.FileNames

/-!
# The file at a path

The parts of a path decide which file it names.  A walk that ends at a file passes `.` parts by (`Disk.walk_filter`), so
paths with the same parts find the same file on every disk and from every directory, once each of them is the path of a
file at all (`Disk.file?_congr`).
-/

namespace RouteTable

namespace Path

theorem head?_parts {path : String} : (parts path).head? = some .root ↔ isAbsolute path = true := by
  have inner : ((steps path).map fun s => if s = ".." then Part.up else Part.name s).head? ≠ some .root := by
    cases steps path with
    | nil => simp
    | cons s rest =>
      by_cases h : s = ".." <;> simp [h]
  rw [parts]
  split
  · next absolute => simp [absolute]
  · next relative =>
    split
    · simp [relative]
    · exact iff_of_false inner relative

/-- Paths with the same parts take the same steps from every directory. -/
theorem steps_join_congr {p q : String} (h : parts p = parts q) (dir : String) :
    steps (join dir p) = steps (join dir q) := by
  cases absolute : isAbsolute p with
  | true =>
    have absoluteQ : isAbsolute q = true := head?_parts.1 (h ▸ head?_parts.2 absolute)
    rw [join, if_pos absolute, join, if_pos absoluteQ, steps_eq_of_parts_eq h]
  | false =>
    have relativeQ : isAbsolute q = false := by
      rw [← Bool.not_eq_true, ← head?_parts, ← h, head?_parts, absolute]
      exact Bool.false_ne_true
    rw [steps_join_of_relative dir absolute, steps_join_of_relative dir relativeQ, steps_eq_of_parts_eq h]

theorem pieces_ne_nil {path : String} (relative : isAbsolute path = false) (nonempty : path ≠ "") :
    pieces path ≠ [] := by
  cases chars : path.toList with
  | nil => exact absurd (String.toList_eq_nil_iff.1 chars) nonempty
  | cons c cs =>
    -- the first character is no slash, so the first piece is not empty
    have hc : c ≠ '/' := by
      rintro rfl
      rw [isAbsolute, chars] at relative
      cases relative
    rw [pieces, Text.split, chars, splitChars, if_neg hc]
    cases splitChars '/' cs <;> simp

end Path

namespace Disk

theorem parts_eq (path : String) : parts path = Path.pieces path ++ (if path.endsWith "/" then ["."] else []) := rfl

theorem filter_parts (path : String) : (parts path).filter (· ≠ ".") = Path.steps path := by
  have ending : (if path.endsWith "/" then ["."] else []).filter (· ≠ ".") = [] := by
    split <;> rfl
  rw [parts_eq, List.filter_append, ending, List.append_nil, Path.filter_pieces]

theorem endsWith_slash_iff {path : String} : path.endsWith "/" = true ↔ path.toList.getLast? = some '/' := by
  rw [String.endsWith_eq_endsWith_toSlice, String.Slice.endsWith_string_iff, List.getLast?_eq_some_iff,
    String.copy_toSlice]
  exact exists_congr fun _ => eq_comm

/-- A path that is followed from a directory ends as it does by itself. -/
theorem getLast?_parts_join (dir : String) {p : String} (nonempty : p ≠ "") :
    (parts (Path.join dir p)).getLast? = (parts p).getLast? := by
  cases absolute : Path.isAbsolute p with
  | true => rw [Path.join, if_pos absolute]
  | false =>
    have final : p.toList.getLast?.isSome := by simpa using nonempty
    have ending : (Path.join dir p).endsWith "/" = p.endsWith "/" := by
      rw [Bool.eq_iff_iff, endsWith_slash_iff, endsWith_slash_iff, Path.join, absolute, if_neg Bool.false_ne_true]
      split <;> rw [String.toList_append, List.getLast?_append, Option.or_of_isSome final]
    have some : (parts p).getLast?.isSome := by
      rw [parts_eq]
      simp [Path.pieces_ne_nil absolute nonempty]
    rw [parts_eq, ending, Path.pieces_join_of_relative dir absolute, List.append_assoc, ← parts_eq, List.getLast?_append,
      Option.or_of_isSome some]

/-- Follows one part. -/
def enter (above : List (List (String × Entry))) (e : Entry) (s : String) :
    Except IoError (List (List (String × Entry)) × Entry) :=
  match e with
  | .file _ => .error .notADirectory
  | .directory entries =>
    if s = "." then .ok (above, e)
    else if s = ".." then
      match above with
      | outer :: above => .ok (above, .directory outer)
      | [] => .ok ([], e)
    else
      match OrderedMap.get? entries s with
      | some e => .ok (entries :: above, e)
      | none => .error .notFound

theorem walk_cons (above : List (List (String × Entry))) (e : Entry) (s : String) (rest : List String) :
    walk above e (s :: rest) =
      match enter above e s with
      | .ok (above, e) => walk above e rest
      | .error cause => .error cause := by
  cases e with
  | file f => rw [walk, enter]
  | directory entries =>
    rw [walk.eq_def, enter.eq_def]
    by_cases hs : s = "."
    · simp only [if_pos hs]
    · by_cases hup : s = ".."
      · cases above <;> simp [hup]
      · simp only [if_neg hs, if_neg hup]
        cases OrderedMap.get? entries s <;> rfl

/-- A file is no directory, so a walk to a file does not end with a `.`. -/
theorem getLast?_of_walk_eq_file {above : List (List (String × Entry))} {e : Entry} {l : List String} {f : File}
    (h : walk above e l = .ok (.file f)) : l.getLast? ≠ some "." := by
  induction l generalizing above e with
  | nil => simp
  | cons s rest ih =>
    rw [walk_cons] at h
    cases entered : enter above e s with
    | error cause => simp [entered] at h
    | ok next =>
      rw [entered] at h
      cases rest with
      | nil =>
        rintro ⟨⟩
        -- a `.` stays at a directory
        cases e with
        | file f => cases entered
        | directory entries =>
          cases Except.ok.inj entered
          cases h
      | cons t rest => exact ih h

/-- Inner `.` parts do not count. -/
theorem walk_filter {l : List String} (h : l.getLast? ≠ some ".") (above : List (List (String × Entry))) (e : Entry) :
    walk above e (l.filter (· ≠ ".")) = walk above e l := by
  induction l generalizing above e with
  | nil => rfl
  | cons s rest ih =>
    have inner : rest.getLast? ≠ some "." := by
      cases rest with
      | nil => simp
      | cons t rest => simpa using h
    by_cases hs : s = "."
    · rw [List.filter_cons_of_neg (by simpa using hs), ih inner, hs, walk_cons]
      cases e with
      | file f =>
        -- there are parts left that cannot be followed from a file
        cases rest with
        | nil => simp [hs] at h
        | cons t rest => rfl
      | directory entries => rfl
    · rw [List.filter_cons_of_pos (by simpa using hs), walk_cons, walk_cons]
      simp only [ih inner]

/-- The file at the end of some steps from the root. -/
def fileAt? (d : Disk) (steps : List String) : Option File :=
  match walk [] (.directory d.entries) steps with
  | .ok (.file f) => some f
  | _ => none

variable {d₁ d₂ : Disk} {p q : String} {f g : File}

/-- Where a path names a file on one disk, its steps lead to what it names on another. -/
theorem file?_eq_fileAt? (found : d₁.file? p = some f) (d : Disk) :
    d.file? p = d.fileAt? (Path.steps (Path.join d.cwd p)) := by
  by_cases hp : p = ""
  · simp [file?, entry, hp] at found
  · have last : (parts p).getLast? ≠ some "." := by
      rw [file?, entry, if_neg hp] at found
      split at found
      · next h => exact getLast?_parts_join d₁.cwd hp ▸ getLast?_of_walk_eq_file h
      · cases found
    have same : d.entry p = walk [] (.directory d.entries) (Path.steps (Path.join d.cwd p)) := by
      rw [entry, if_neg hp, ← filter_parts, walk_filter ((getLast?_parts_join d.cwd hp).symm ▸ last)]
    exact congrArg (fun r : Except IoError Entry => match r with | .ok (.file f) => some f | _ => none) same

/-- Paths of files with the same parts name the same file on every disk. -/
theorem file?_congr (same : Path.parts p = Path.parts q) (foundP : d₁.file? p = some f)
    (foundQ : d₂.file? q = some g) (d : Disk) : d.file? p = d.file? q := by
  rw [file?_eq_fileAt? foundP, file?_eq_fileAt? foundQ, Path.steps_join_congr same]

theorem eq_of_file? {d : Disk} (same : Path.parts p = Path.parts q) (foundP : d.file? p = some f)
    (foundQ : d.file? q = some g) : f = g := by
  rw [file?_congr same foundP foundQ, foundQ] at foundP
  exact (Option.some.inj foundP).symm

end Disk

end RouteTable
