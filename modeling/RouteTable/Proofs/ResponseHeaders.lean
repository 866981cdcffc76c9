import Mathlib.Data.List.Induction
import RouteTable.Manifest
import RouteTable.Proofs.RequestViews

/-!
# Response headers

Header names are kept apart up to the case of ASCII letters.  Every write takes away what was there under its name and
goes to the end, so the headers are the writes that no later one replaces, in order (`Response.headers_setHeaders`).
What is found under a name is the last value that was written there (`Pairs.foldedValuesOf_lastWrites`), whatever was
written under other names (`Response.headers_after_writes`).
-/

namespace RouteTable

theorem Text.sameFolded_iff {a b : String} : sameFolded a b = true ↔ a.toLower = b.toLower := by
  rw [sameFolded, beq_iff_eq]

namespace Pairs

/-- The values under a name, in order, the case of ASCII letters ignored. -/
def foldedValuesOf (pairs : Pairs) (name : String) : List String :=
  (pairs.filter (Text.sameFolded ·.1 name)).map (·.2)

/-- The writes with no later write of the same name, the case of ASCII letters ignored. -/
def lastWrites : Pairs → Pairs
  | [] => []
  | w :: later => if later.any (Text.sameFolded ·.1 w.1) then lastWrites later else w :: lastWrites later

theorem foldedValuesOf_append (pairs others : Pairs) (name : String) :
    foldedValuesOf (pairs ++ others) name = pairs.foldedValuesOf name ++ others.foldedValuesOf name := by
  rw [foldedValuesOf, List.filter_append, List.map_append]
  rfl

theorem foldedValuesOf_singleton (w : String × String) (name : String) :
    foldedValuesOf [w] name = if Text.sameFolded w.1 name then [w.2] else [] := by
  rw [foldedValuesOf, List.filter_cons]
  split <;> rfl

/-- Nothing is left under a name that is taken away, however it is spelled. -/
theorem foldedValuesOf_without_self {a name : String} (same : Text.sameFolded a name = true) (pairs : Pairs) :
    foldedValuesOf (pairs.filter fun h => !Text.sameFolded h.1 a) name = [] := by
  rw [foldedValuesOf, List.map_eq_nil_iff, List.filter_eq_nil_iff]
  intro h left named
  have other := (List.mem_filter.1 left).2
  rw [Text.sameFolded_iff] at same named
  rw [Text.sameFolded_iff.2 (named.trans same.symm)] at other
  cases other

/-- The values under other names than the one that is taken away stay. -/
theorem foldedValuesOf_without_of_ne {a name : String} (other : ¬Text.sameFolded a name = true) (pairs : Pairs) :
    foldedValuesOf (pairs.filter fun h => !Text.sameFolded h.1 a) name = pairs.foldedValuesOf name := by
  rw [foldedValuesOf, foldedValuesOf, List.filter_filter]
  congr 1
  refine List.filter_congr fun h _ => ?_
  by_cases named : Text.sameFolded h.1 name = true
  · have stays : ¬Text.sameFolded h.1 a = true := by
      intro taken
      rw [Text.sameFolded_iff] at named taken
      exact other (Text.sameFolded_iff.2 (taken.symm.trans named))
    rw [named, Bool.eq_false_iff.2 stays]
    rfl
  · rw [Bool.eq_false_iff.2 named]
    rfl

/-- One more write takes away what was left under its name. -/
theorem lastWrites_concat (writes : Pairs) (w : String × String) :
    lastWrites (writes ++ [w]) = (lastWrites writes).filter (fun h => !Text.sameFolded h.1 w.1) ++ [w] := by
  induction writes with
  | nil => rfl
  | cons a later ih =>
    rw [List.cons_append, lastWrites, lastWrites, ih, List.any_append]
    by_cases replaced : later.any (Text.sameFolded ·.1 a.1) = true
    · simp only [replaced, Bool.true_or, if_true]
    · -- `a` was left before, and the new write takes it away exactly if it has its name
      have symmetric : Text.sameFolded w.1 a.1 = Text.sameFolded a.1 w.1 := by
        rw [Bool.eq_iff_iff, Text.sameFolded_iff, Text.sameFolded_iff, eq_comm]
      rw [Bool.not_eq_true] at replaced
      simp only [replaced, Bool.false_or, List.any_cons, List.any_nil, Bool.or_false, symmetric]
      cases taken : Text.sameFolded a.1 w.1 <;> simp [taken]

theorem pairwise_lastWrites (writes : Pairs) :
    (lastWrites writes).Pairwise fun a b => Text.sameFolded a.1 b.1 = false := by
  induction writes using List.reverseRecOn with
  | nil => exact List.Pairwise.nil
  | append_singleton writes w ih =>
    rw [lastWrites_concat, List.pairwise_append]
    refine ⟨ih.filter _, List.pairwise_singleton _ _, ?_⟩
    intro a left b last
    obtain rfl := List.mem_singleton.1 last
    simpa using (List.mem_filter.1 left).2

/-- Under every name only the last value is left. -/
theorem foldedValuesOf_lastWrites (writes : Pairs) (name : String) :
    (lastWrites writes).foldedValuesOf name = (foldedValuesOf writes name).getLast?.toList := by
  induction writes using List.reverseRecOn with
  | nil => rfl
  | append_singleton writes w ih =>
    rw [lastWrites_concat, foldedValuesOf_append, foldedValuesOf_append, foldedValuesOf_singleton]
    by_cases named : Text.sameFolded w.1 name = true
    · rw [foldedValuesOf_without_self named, if_pos named, List.getLast?_concat]
      rfl
    · rw [foldedValuesOf_without_of_ne named, ih, if_neg named, List.append_nil, List.append_nil]

end Pairs

namespace Response

/-- A response with headers set one after the other. -/
def setHeaders (r : Response) (writes : Pairs) : Response := writes.foldl (fun r w => r.setHeader w.1 w.2) r

variable {r : Response} {writes : Pairs}

/-- A write keeps the headers the last writes. -/
theorem headers_setHeader (left : r.headers = writes.lastWrites) (name value : String) :
    (r.setHeader name value).headers = Pairs.lastWrites (writes ++ [(name, value)]) := by
  rw [Pairs.lastWrites_concat, ← left]
  rfl

/-- After any writes the headers are those that no later one replaced. -/
theorem headers_setHeaders (left : r.headers = writes.lastWrites) (more : Pairs) :
    (r.setHeaders more).headers = Pairs.lastWrites (writes ++ more) := by
  induction more generalizing r writes with
  | nil => rwa [List.append_nil]
  | cons w rest ih =>
    have step := ih (headers_setHeader left w.1 w.2)
    rwa [List.append_assoc] at step

/-- What the headers of a JSON response are after some writes: no two of them have the same name up to case; under every
name is the last value that was written there, and before that the type of the content; they are the writes that no later
one replaced, in order and as they were spelled. -/
structure HeadersAfter (r : Response) (writes : Pairs) : Prop where
  distinct : r.headers.Pairwise fun a b => Text.sameFolded a.1 b.1 = false
  value : ∀ name, r.header? name = (writes.foldedValuesOf name).getLast?.or
    (if Text.sameFolded "content-type" name then some "application/json" else none)
  order : r.headers = Pairs.lastWrites (("content-type", "application/json") :: writes)

theorem headersAfter_json (status : Nat) (body : Json) (writes : Pairs) :
    ((json status body).setHeaders writes).HeadersAfter writes := by
  have order : ((json status body).setHeaders writes).headers =
      Pairs.lastWrites ([("content-type", "application/json")] ++ writes) := headers_setHeaders rfl writes
  refine ⟨?_, ?_, order⟩
  · rw [order]
    exact Pairs.pairwise_lastWrites _
  · intro name
    rw [header?, order, Pairs.firstFolded?_eq_head?, ← Pairs.foldedValuesOf, Pairs.foldedValuesOf_lastWrites,
      Pairs.foldedValuesOf_append, Pairs.foldedValuesOf_singleton, Option.head?_toList, List.getLast?_append]
    cases Text.sameFolded "content-type" name <;> rfl

/-- The headers of a response are a map from names up to case, in the order of the last writes.  So are those of a fixed
response, whatever is asked and whatever names its own headers have. -/
theorem headers_after_writes :
    (∀ status body writes, ((json status body).setHeaders writes).HeadersAfter writes) ∧
    (∀ status message writes, ((error status message).setHeaders writes).HeadersAfter writes) ∧
    ∀ (fixed : FixedResponse) origin request, ((fixed.handler origin).answer request).HeadersAfter fixed.headers :=
  ⟨headersAfter_json, fun status _ => headersAfter_json status _, fun fixed _ _ => headersAfter_json _ _ fixed.headers⟩

end Response

end RouteTable
