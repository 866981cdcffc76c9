import RouteTable.Proofs.DecimalIntegers
import RouteTable.Proofs.NormalPaths

/-!
# Arrays written as one text

A collection format has one character that separates the items of an array (`Coercion.Separates`).  Joining texts
without the separator and splitting at it undo each other (`Text.split_join`, `Text.join_split`), so coercion reads back
what was joined if it reads back every item (`Parameter.coerce_join`): integers of 64 bits, truth values and texts
(`Parameter.array_text_roundtrip`).
-/

namespace RouteTable

theorem length_splitChars (sep : Char) (cs : List Char) : (splitChars sep cs).length = cs.count sep + 1 := by
  induction cs with
  | nil => rfl
  | cons c cs ih =>
    rw [splitChars]
    by_cases hc : c = sep
    · rw [if_pos hc, List.length_cons, ih, hc, List.count_cons_self]
    · cases parts : splitChars sep cs with
      | nil => exact absurd parts (splitChars_ne_nil sep cs)
      | cons piece pieces =>
        rw [parts] at ih
        rw [if_neg hc, List.count_cons_of_ne hc, ← ih]
        rfl

namespace Text

/-- Texts with a separator between them. -/
def join (sep : Char) (pieces : List String) : String := (String.singleton sep).intercalate pieces

variable {sep : Char}

theorem toList_join (sep : Char) (pieces : List String) :
    (join sep pieces).toList = joinChars sep (pieces.map String.toList) := by
  rw [join, String.toList_intercalate, joinChars_eq_intercalate, String.toList_singleton]

theorem split_join {pieces : List String} (nonempty : pieces ≠ []) (free : ∀ s ∈ pieces, sep ∉ s.toList) :
    split sep (join sep pieces) = pieces := by
  have parts : splitChars sep (joinChars sep (pieces.map String.toList)) = pieces.map String.toList := by
    refine splitChars_joinChars (by simpa using nonempty) ?_
    simpa using free
  rw [split, toList_join, parts, List.map_map]
  simp [Function.comp_def]

theorem join_split (sep : Char) (s : String) : join sep (split sep s) = s := by
  have texts : (split sep s).map String.toList = splitChars sep s.toList := by
    rw [split, List.map_map]
    simp [Function.comp_def]
  rw [← String.toList_inj, toList_join, texts, joinChars_splitChars]

theorem length_split (sep : Char) (s : String) : (split sep s).length = s.toList.count sep + 1 := by
  rw [split, List.length_map, length_splitChars]

end Text

namespace Coercion

/-- What stands between the items of an array in a collection format. -/
inductive Separates : Option String → Char → Prop
  | ssv : Separates (some "ssv") ' '
  | tsv : Separates (some "tsv") '\t'
  | pipes : Separates (some "pipes") '|'
  | comma {format : Option String} (other : format ∉ [some "ssv", some "tsv", some "pipes"]) : Separates format ','

theorem Separates.eq {format : Option String} {c : Char} (h : Separates format c) : separator format = c := by
  cases h with
  | ssv => rfl
  | tsv => rfl
  | pipes => rfl
  | comma other =>
    rw [separator] <;> rintro rfl <;> simp at other

/-- A separator is part of no integer and of no truth value. -/
theorem Separates.not_mem {format : Option String} {c : Char} (h : Separates format c) :
    c.isDigit = false ∧ c ∉ ['+', '-'] ∧ ∀ b : Bool, c ∉ (toString b).toList := by
  cases h <;> decide

theorem scalar_toString_int {n : Int} (word : IsWord n) : scalar (some "integer") (toString n) = .int n := by
  have read : integer? (toString n) = some n := integer?_eq_some_iff.2 ⟨decimalInteger_toString n, word⟩
  rw [scalar, read]
  rfl

theorem scalar_toString_bool (b : Bool) : scalar (some "boolean") (toString b) = .bool b := by
  cases b <;> rfl

/-- Items of other types stay texts. -/
theorem scalar_of_not_mem {kind : Option String} (other : kind ∉ [some "integer", some "number", some "boolean"])
    (raw : String) : scalar kind raw = .string raw := by
  rw [scalar] <;> rintro rfl <;> simp at other

end Coercion

namespace Parameter

open Coercion

variable {p : Parameter} {c : Char}

theorem coerce_string (outside : p.location ≠ .body) (raw : String) : coerce p (.string raw) = Coercion.text p raw := by
  unfold coerce
  cases place : p.location with
  | body => exact absurd place outside
  | path => rfl
  | query => rfl
  | header => rfl
  | formData => rfl

theorem coerce_array (outside : p.location ≠ .body) (array : p.kind = some "array")
    (format : Separates p.collectionFormat c) (raw : String) :
    coerce p (.string raw) = .array ((Text.split c raw).map (scalar (itemKind p))) := by
  rw [coerce_string outside, Coercion.text, array, ← format.eq]
  rfl

/-- Items that are read back one by one are read back from their joined texts. -/
theorem coerce_join {α : Type} (outside : p.location ≠ .body) (array : p.kind = some "array")
    (format : Separates p.collectionFormat c) (write : α → String) (read : α → Json) {items : List α}
    (nonempty : items ≠ []) (free : ∀ a ∈ items, c ∉ (write a).toList)
    (back : ∀ a ∈ items, scalar (itemKind p) (write a) = read a) :
    coerce p (.string (Text.join c (items.map write))) = .array (items.map read) := by
  have pieces : Text.split c (Text.join c (items.map write)) = items.map write :=
    Text.split_join (by simpa using nonempty) (by simpa using free)
  rw [coerce_array outside array format, pieces, List.map_map]
  exact congrArg Json.array (List.map_congr_left back)

/-- An array outside the body is written as the texts of its items with the separator of its collection format between
them.  Integers of 64 bits, truth values and texts without the separator are read back from what is written.  Items of no
scalar type other than texts stay as they stand in the text, so the text is read back from them, and there is one item
more than there are separators. -/
theorem array_text_roundtrip (outside : p.location ≠ .body) (array : p.kind = some "array")
    (format : Separates p.collectionFormat c) :
    (itemKind p = some "integer" → ∀ ns : List Int, ns ≠ [] → (∀ n ∈ ns, IsWord n) →
      coerce p (.string (Text.join c (ns.map toString))) = .array (ns.map .int)) ∧
    (itemKind p = some "boolean" → ∀ bs : List Bool, bs ≠ [] →
      coerce p (.string (Text.join c (bs.map toString))) = .array (bs.map .bool)) ∧
    (itemKind p ∉ [some "integer", some "number", some "boolean"] →
      (∀ texts : List String, texts ≠ [] → (∀ s ∈ texts, c ∉ s.toList) →
        coerce p (.string (Text.join c texts)) = .array (texts.map .string)) ∧
      ∀ raw : String, ∃ texts : List String, coerce p (.string raw) = .array (texts.map .string) ∧
        Text.join c texts = raw ∧ texts.length = raw.toList.count c + 1) := by
  obtain ⟨noDigit, noSign, noTruth⟩ := format.not_mem
  refine ⟨fun kind ns nonempty words => ?_, fun kind bs nonempty => ?_, fun other => ⟨fun texts nonempty free => ?_,
    fun raw => ⟨Text.split c raw, ?_, Text.join_split c raw, Text.length_split c raw⟩⟩⟩
  · refine coerce_join outside array format toString .int nonempty (fun n _ mem => ?_) fun n mem => ?_
    · rcases (decimalInteger_toString n).mem mem with digit | sign
      · rw [noDigit] at digit
        cases digit
      · exact noSign (by simpa using sign)
    · rw [kind]
      exact scalar_toString_int (words n mem)
  · refine coerce_join outside array format toString .bool nonempty (fun b _ => noTruth b) fun b _ => ?_
    rw [kind]
    exact scalar_toString_bool b
  · have same := coerce_join outside array format id .string nonempty free fun s _ => scalar_of_not_mem other s
    rwa [List.map_id] at same
  · rw [coerce_array outside array format]
    exact congrArg Json.array (List.map_congr_left fun s _ => scalar_of_not_mem other s)

/-- The ends of the range of 64 bits between pipes, and a text that begins and goes on with separators. -/
theorem array_text_roundtrip_pipes :
    let ids : Parameter :=
      { name := "ids", location := .query, kind := some "array", items := some (.object [("type", .string "integer")])
        collectionFormat := some "pipes" }
    let tags : Parameter := { name := "tags", location := .header, kind := some "array" }
    coerce ids (.string "-9223372036854775808|0|9223372036854775807") =
        .array [.int (-9223372036854775808), .int 0, .int 9223372036854775807] ∧
      ∃ texts : List String, coerce tags (.string ",a,,b") = .array (texts.map .string) ∧
        Text.join ',' texts = ",a,,b" ∧ texts.length = 4 := by
  intro ids tags
  obtain ⟨integers, -, -⟩ := array_text_roundtrip (p := ids) (c := '|') (by decide) rfl .pipes
  obtain ⟨-, -, texts⟩ := array_text_roundtrip (p := tags) (c := ',') (by decide) rfl (.comma (by decide))
  refine ⟨?_, (texts (by decide)).2 ",a,,b"⟩
  have written : Text.join '|' (([-9223372036854775808, 0, 9223372036854775807] : List Int).map toString) =
      "-9223372036854775808|0|9223372036854775807" := by decide +kernel
  rw [← written]
  refine integers rfl _ (by decide) ?_
  simp [IsWord]

end Parameter

end RouteTable
