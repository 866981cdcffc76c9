import RouteTable.Proofs.FileNames

/-!
# Resolving paths

A path is resolved by following its steps from a stack of names: a name is put on it, and `..` takes one off or, at the
root, nothing.  So a resolved path is spelled from names other than `..`, and it resolves to itself wherever it is seen
from (`Path.absolute_ofSteps`).  Joining is associative (`Path.join_assoc`) and following goes on where it stopped
(`Path.follow_append`), so it does not matter whether a path is resolved in one stage or in two
(`Path.absolute_absolute`).  `Path.absolute_resolves` sums this up.
-/

namespace RouteTable.Path

/-! ### Joining -/

theorem isAbsolute_ofSteps (names : List String) : isAbsolute (ofSteps names) = true := by
  rw [isAbsolute, toList_ofSteps]
  rfl

theorem join_of_isAbsolute {path : String} (h : isAbsolute path = true) (base : String) : join base path = path :=
  if_pos h

theorem isAbsolute_append {a : String} (h : a ≠ "") (b : String) : isAbsolute (a ++ b) = isAbsolute a := by
  have first : a.toList.head?.isSome := by simpa using h
  rw [isAbsolute, isAbsolute, String.toList_append, List.head?_append, Option.or_of_isSome first]

/-- What stands between a base and a relative path that is joined to it. -/
def link (base : String) : String := if base = "" ∨ base.toList.getLast? = some '/' then "" else "/"

theorem join_of_relative {path : String} (relative : isAbsolute path = false) (base : String) :
    join base path = base ++ link base ++ path := by
  rw [join, relative, if_neg Bool.false_ne_true, link]
  split
  · rw [String.append_empty]
  · rfl

theorem isAbsolute_join (a b : String) : isAbsolute (join a b) = (isAbsolute a || isAbsolute b) := by
  cases hb : isAbsolute b with
  | true => rw [join_of_isAbsolute hb, hb, Bool.or_true]
  | false =>
    rw [join_of_relative hb, Bool.or_false]
    by_cases ha : a = ""
    · subst ha
      rw [link, if_pos (Or.inl rfl), String.empty_append, String.empty_append, hb]
      rfl
    · rw [String.append_assoc, isAbsolute_append ha]

/-- A base that a path was joined to ends as that path does. -/
theorem link_append_link (a b : String) : link (a ++ link a ++ b) = link b := by
  by_cases hb : b = ""
  · -- the base ends with what the link puts behind it
    subst hb
    rw [String.append_empty, link, link, link]
    by_cases ha : a = "" ∨ a.toList.getLast? = some '/'
    · simp [ha]
    · simp [ha]
  · have final : b.toList.getLast?.isSome := by simpa using hb
    have last : (a ++ link a ++ b).toList.getLast? = b.toList.getLast? := by
      rw [String.toList_append, List.getLast?_append, Option.or_of_isSome final]
    have whole : a ++ link a ++ b ≠ "" := fun h => hb (String.append_eq_empty_iff.1 h).2
    rw [link.eq_def (a ++ link a ++ b), link.eq_def b, last]
    simp only [hb, whole, false_or]

theorem join_assoc (a b c : String) : join a (join b c) = join (join a b) c := by
  cases hc : isAbsolute c with
  | true =>
    rw [join_of_isAbsolute hc, join_of_isAbsolute hc, join_of_isAbsolute hc]
  | false =>
    cases hb : isAbsolute b with
    | true =>
      have whole : isAbsolute (join b c) = true := by rw [isAbsolute_join, hb, Bool.true_or]
      rw [join_of_isAbsolute whole, join_of_isAbsolute hb]
    | false =>
      have whole : isAbsolute (join b c) = false := by rw [isAbsolute_join, hb, hc, Bool.or_false]
      rw [join_of_relative whole, join_of_relative hc, join_of_relative hc, join_of_relative hb, link_append_link]
      simp only [String.append_assoc]

/-! ### Following steps -/

theorem follow_append (stack l m : List String) : follow stack (l ++ m) = follow (follow stack l) m := by
  induction l generalizing stack with
  | nil => rfl
  | cons s rest ih =>
    rw [List.cons_append, follow, follow]
    split
    · exact ih _
    · exact ih _

/-- Every `..` takes a name off the stack, as long as there is one. -/
theorem follow_of_forall_eq {l : List String} (h : ∀ s ∈ l, s = "..") (stack : List String) :
    follow stack l = stack.drop l.length := by
  induction l generalizing stack with
  | nil => rfl
  | cons s rest ih =>
    rw [List.forall_mem_cons] at h
    rw [follow, if_pos h.1, ih h.2, List.drop_tail, List.length_cons]

/-- The steps of a relative path are followed from the names of the path that it is joined to. -/
theorem normalSteps_join (base : String) {path : String} (relative : isAbsolute path = false) :
    normalSteps (join base path) = (follow (normalSteps base).reverse (steps path)).reverse := by
  rw [normalSteps, steps_join_of_relative base relative, follow_append, normalSteps, List.reverse_reverse]

/-! ### Resolving -/

theorem absolute_of_isAbsolute {path : String} (h : isAbsolute path = true) (cwd base : String) :
    absolute cwd base path = ofSteps (normalSteps path) := by
  rw [absolute, join_of_isAbsolute h, join_of_isAbsolute h]

/-- A resolved path resolves to itself. -/
theorem absolute_ofSteps {names : List String} (h : ∀ s ∈ names, FileName s) (cwd base : String) :
    absolute cwd base (ofSteps names) = ofSteps names := by
  rw [absolute_of_isAbsolute (isAbsolute_ofSteps names), normalSteps_ofSteps h]

/-- A path that is joined to another is resolved from what the other resolves to. -/
theorem absolute_join (cwd base p : String) {q : String} (relative : isAbsolute q = false) :
    absolute cwd base (join p q) =
      ofSteps (follow (normalSteps (join cwd (join base p))).reverse (steps q)).reverse := by
  rw [absolute, join_assoc, join_assoc, normalSteps_join _ relative, ← join_assoc]

/-- Resolving in two stages is resolving the joined path once. -/
theorem absolute_absolute (cwd base p q : String) :
    absolute cwd (absolute cwd base p) q = absolute cwd base (join p q) := by
  cases relative : isAbsolute q with
  | true => rw [absolute_of_isAbsolute relative, join_of_isAbsolute relative, absolute_of_isAbsolute relative]
  | false =>
    have names : ∀ s ∈ normalSteps (join cwd (join base p)), FileName s := fun s => fileName_of_mem_normalSteps
    have first : isAbsolute (join (absolute cwd base p) q) = true := by
      rw [isAbsolute_join, absolute, isAbsolute_ofSteps, Bool.true_or]
    rw [absolute_join cwd base p relative, absolute, join_of_isAbsolute first, normalSteps_join _ relative, absolute,
      normalSteps_ofSteps names]

theorem parts_ofSteps {names : List String} (h : ∀ s ∈ names, FileName s) :
    parts (ofSteps names) = .root :: names.map .name := by
  have each : ∀ s ∈ names, (if s = ".." then Part.up else Part.name s) = Part.name s :=
    fun s mem => if_neg (h s mem).ne_up
  rw [parts, isAbsolute_ofSteps, if_pos rfl, steps_ofSteps fun s mem => (h s mem).toIsName, List.map_congr_left each]

/-- A path as seen from a base is absolute and spelled from names, none of which is empty, `.` or `..`.  A name that is
joined to the path comes behind these, and a `..` takes the last of them away.  Where `..` goes up at least as often as
there are names, the rest of a path is resolved from the root, however often it goes up.  A resolved path resolves to
itself wherever it is seen from, an absolute path does not depend on the base, and resolving in two stages is resolving
the joined path once. -/
theorem absolute_resolves (cwd base p : String) :
    isAbsolute (absolute cwd base p) = true ∧
    (∃ names, (∀ s ∈ names, FileName s) ∧ absolute cwd base p = ofSteps names ∧
      parts (absolute cwd base p) = .root :: names.map .name ∧
      (∀ s, FileName s → absolute cwd base (join p s) = ofSteps (names ++ [s])) ∧
      absolute cwd base (join p "..") = ofSteps names.dropLast ∧
      ∀ climb q, isAbsolute climb = false → (∀ s ∈ steps climb, s = "..") → names.length ≤ (steps climb).length →
        absolute cwd base (join p (join climb q)) = absolute cwd "/" q) ∧
    (∀ here b, absolute here b (absolute cwd base p) = absolute cwd base p) ∧
    (isAbsolute p = true → ∀ here b, absolute here b p = absolute cwd base p) ∧
    ∀ q, absolute cwd (absolute cwd base p) q = absolute cwd base (join p q) := by
  have named : ∀ s ∈ normalSteps (join cwd (join base p)), FileName s := fun s => fileName_of_mem_normalSteps
  refine ⟨isAbsolute_ofSteps _, ⟨_, named, rfl, parts_ofSteps named, ?_, ?_, ?_⟩,
    fun here b => absolute_ofSteps named here b, fun rooted here b => ?_, absolute_absolute cwd base p⟩
  · intro s hs
    rw [absolute_join cwd base p hs.isAbsolute_eq, hs.steps_eq, follow, if_neg hs.ne_up, follow, List.reverse_cons,
      List.reverse_reverse]
  · have up : isAbsolute ".." = false ∧ steps ".." = [".."] := by decide +kernel
    rw [absolute_join cwd base p up.1, up.2, follow, if_pos rfl, follow, List.tail_reverse, List.reverse_reverse]
  · intro climb q relative ups surplus
    have top : absolute cwd base (join p climb) = "/" := by
      rw [absolute_join cwd base p relative, follow_of_forall_eq ups, List.drop_eq_nil_of_le (by simpa using surplus)]
      rfl
    rw [join_assoc, ← absolute_absolute, top]
  · rw [absolute_of_isAbsolute rooted, absolute_of_isAbsolute rooted]

/-- Five steps up from four names: what comes after them is seen from the root, and the fifth is not remembered. -/
theorem absolute_resolves_above_root :
    let climb := "../.././..//../.."
    isAbsolute climb = false ∧ (∀ s ∈ steps climb, s = "..") ∧ (steps climb).length = 5 ∧
      absolute "/srv" "api" "./v1//pets" = "/srv/api/v1/pets" ∧
      absolute "/srv" "api" (join "./v1//pets" (join climb "etc/./handlers")) = "/etc/handlers" ∧
      isAbsolute "/etc/../pets/" = true ∧ absolute "/" "elsewhere" "/etc/../pets/" = "/pets" := by
  intro climb
  have relative : isAbsolute climb = false := by decide +kernel
  have ups : ∀ s ∈ steps climb, s = ".." := by decide +kernel
  have five : (steps climb).length = 5 := by decide +kernel
  have rooted : isAbsolute "/etc/../pets/" = true := by decide +kernel
  have seen : absolute "/srv" "api" "./v1//pets" = "/srv/api/v1/pets" := by decide +kernel
  obtain ⟨-, ⟨names, named, spelled, -, -, -, above⟩, -⟩ := absolute_resolves "/srv" "api" "./v1//pets"
  have four : names = ["srv", "api", "v1", "pets"] := by
    rw [← normalSteps_ofSteps named, ← spelled, seen]
    decide +kernel
  have top := above climb "etc/./handlers" relative ups (by rw [four, five]; decide)
  have alone := (absolute_resolves "/srv" "api" "/etc/../pets/").2.2.2.1 rooted "/" "elsewhere"
  exact ⟨relative, ups, five, seen, top.trans (by decide +kernel), rooted, alone.trans (by decide +kernel)⟩

end RouteTable.Path
