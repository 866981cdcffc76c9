import Mathlib.Data.List.DropRight
import RouteTable.Policy
import RouteTable.Proofs.MergedParameters
import RouteTable.Proofs.ReportedIssues

/-!
# Bearer tokens

A bearer policy looks at one value of a request, the first authorization header.  This has to be `bearer` in any case,
one blank and a text that is a token of the policy with white space around it (`Policy.bearerToken?_eq_some_iff`); then
the scopes that are granted to the token decide, and else nobody is accepted (`Policy.bearer_accepts`).
-/

namespace RouteTable

namespace Text

/-! ### White space around a text -/

/-- Neither the first nor the last character is white space. -/
structure Trimmed (s : String) : Prop where
  first : ∀ c ∈ s.toList.head?, isBlank c = false
  last : ∀ c ∈ s.toList.getLast?, isBlank c = false

theorem trimChars_eq_rdropWhile (cs : List Char) : trimChars cs = (cs.dropWhile isBlank).rdropWhile isBlank := rfl

theorem isBlank_head_dropWhile (cs : List Char) {c : Char} (h : c ∈ (cs.dropWhile isBlank).head?) :
    isBlank c = false := by
  rw [Option.mem_def, ← List.find?_not_eq_head?_dropWhile] at h
  have kept := List.find?_some h
  rwa [Bool.not_eq_true'] at kept

theorem trimmed_trim (s : String) : Trimmed (trim s) := by
  constructor
  · intro c first
    rw [trim, String.toList_ofList, trimChars_eq_rdropWhile] at first
    have prefixed := List.rdropWhile_prefix isBlank (s.toList.dropWhile isBlank)
    obtain ⟨rest, split⟩ := prefixed
    refine isBlank_head_dropWhile s.toList ?_
    rw [Option.mem_def, ← split, List.head?_append, Option.mem_def.1 first, Option.some_or]
  · intro c last
    rw [trim, String.toList_ofList, trimChars, List.getLast?_reverse] at last
    exact isBlank_head_dropWhile _ last

/-- A text is one without white space at its ends, between white space. -/
theorem eq_append_trim (s : String) :
    ∃ left right : String, s = left ++ trim s ++ right ∧ (∀ c ∈ left.toList, isBlank c) ∧
      ∀ c ∈ right.toList, isBlank c := by
  refine ⟨.ofList (s.toList.takeWhile isBlank), .ofList ((s.toList.dropWhile isBlank).rtakeWhile isBlank), ?_, ?_, ?_⟩
  · rw [← String.toList_inj]
    simp only [String.toList_append, String.toList_ofList, trim, trimChars_eq_rdropWhile, List.append_assoc,
      List.rdropWhile_append_rtakeWhile, List.takeWhile_append_dropWhile]
  · intro c mem
    rw [String.toList_ofList] at mem
    exact List.mem_takeWhile_imp mem
  · intro c mem
    rw [String.toList_ofList] at mem
    exact List.mem_rtakeWhile_imp mem

theorem dropWhile_isBlank_eq_self {cs : List Char} (h : ∀ c ∈ cs.head?, isBlank c = false) :
    cs.dropWhile isBlank = cs := by
  cases cs with
  | nil => rfl
  | cons c cs =>
    have kept : isBlank c = false := h c rfl
    exact List.dropWhile_cons_of_neg (by rw [kept]; exact Bool.false_ne_true)

/-- What trimming leaves of a text can be read off it. -/
theorem trim_eq_iff {s t : String} : trim s = t ↔
    Trimmed t ∧ ∃ left right : String, s = left ++ t ++ right ∧ (∀ c ∈ left.toList, isBlank c) ∧
      ∀ c ∈ right.toList, isBlank c := by
  constructor
  · rintro rfl
    exact ⟨trimmed_trim s, eq_append_trim s⟩
  · rintro ⟨trimmed, left, right, rfl, blankLeft, blankRight⟩
    have text : (left ++ t ++ right).toList = left.toList ++ (t.toList ++ right.toList) := by
      rw [String.toList_append, String.toList_append, List.append_assoc]
    have ends : (right.toList.reverse ++ t.toList.reverse).dropWhile isBlank = t.toList.reverse := by
      rw [List.dropWhile_append_of_pos fun c mem => blankRight c (List.mem_reverse.1 mem)]
      refine dropWhile_isBlank_eq_self fun c last => trimmed.last c ?_
      rwa [List.head?_reverse] at last
    rw [trim, trimChars, text, List.dropWhile_append_of_pos blankLeft]
    by_cases empty : t.toList = []
    · -- what is left is white space altogether
      rw [empty, List.nil_append, List.dropWhile_eq_nil_iff.2 blankRight]
      rw [← String.toList_inj, empty]
      rfl
    · have starts : ∀ c ∈ (t.toList ++ right.toList).head?, isBlank c = false := by
        intro c first
        rw [List.head?_append_of_ne_nil _ empty] at first
        exact trimmed.first c first
      rw [dropWhile_isBlank_eq_self starts, List.reverse_append, ends, List.reverse_reverse, String.ofList_toList]

/-! ### Cutting once -/

theorem splitOnce?_eq_some_iff {sep : Char} {s before after : String} :
    splitOnce? sep s = some (before, after) ↔
      s = before ++ String.singleton sep ++ after ∧ sep ∉ before.toList := by
  constructor
  · intro h
    have cut := List.takeWhile_append_dropWhile (p := (· ≠ sep)) (l := s.toList)
    rw [splitOnce?] at h
    split at h
    · cases h
    · next c rest dropped =>
      obtain ⟨rfl, rfl⟩ := Prod.mk.inj (Option.some.inj h)
      have here : c = sep := by
        have stop : c ∈ (s.toList.dropWhile (· ≠ sep)).head? := by
          rw [dropped]
          rfl
        rw [Option.mem_def, ← List.find?_not_eq_head?_dropWhile] at stop
        simpa using List.find?_some stop
      rw [dropped, here] at cut
      constructor
      · rw [← String.toList_inj]
        simp only [String.toList_append, String.toList_ofList, String.toList_singleton, List.append_assoc,
          List.singleton_append]
        exact cut.symm
      · rw [String.toList_ofList]
        intro mem
        simpa using List.mem_takeWhile_imp mem
  · rintro ⟨rfl, absent⟩
    exact splitOnce?_append absent after

/-- What is `bearer` up to case has no blank. -/
theorem blank_not_mem_of_sameFolded_bearer {s : String} (h : sameFolded s "bearer" = true) : ' ' ∉ s.toList := by
  intro mem
  rw [sameFolded_eq, beq_iff_eq] at h
  have folded : ' ' ∈ s.toList.map Char.toLower := List.mem_map.2 ⟨' ', mem, by decide⟩
  rw [h] at folded
  revert folded
  decide

end Text

/-- The values of the authorization headers, in order. -/
def Request.authorizations (r : Request) : List String :=
  (r.headers.filter (Text.sameFolded ·.1 "authorization")).map (·.2)

namespace Policy

open Text

/-- The value is `bearer` in any case, one blank, and the token with white space around it. -/
def Carries (value token : String) : Prop :=
  ∃ scheme left right, value = scheme ++ " " ++ (left ++ token ++ right) ∧ sameFolded scheme "bearer" = true ∧
    (∀ c ∈ left.toList, isBlank c) ∧ (∀ c ∈ right.toList, isBlank c) ∧ Trimmed token

variable {tokens : OrderedMap String (List String)} {r : Request}

theorem carries_iff {value token : String} : Carries value token ↔
    ∃ scheme text, splitOnce? ' ' value = some (scheme, text) ∧ sameFolded scheme "bearer" = true ∧
      trim text = token := by
  constructor
  · rintro ⟨scheme, left, right, rfl, folded, blankLeft, blankRight, trimmed⟩
    have cut : splitOnce? ' ' (scheme ++ " " ++ (left ++ token ++ right)) = some (scheme, left ++ token ++ right) :=
      splitOnce?_append (blank_not_mem_of_sameFolded_bearer folded) _
    exact ⟨scheme, _, cut, folded, trim_eq_iff.2 ⟨trimmed, left, right, rfl, blankLeft, blankRight⟩⟩
  · rintro ⟨scheme, text, cut, folded, trimmed⟩
    obtain ⟨rfl, -⟩ := splitOnce?_eq_some_iff.1 cut
    obtain ⟨ends, left, right, rfl, blankLeft, blankRight⟩ := trim_eq_iff.1 trimmed
    exact ⟨scheme, left, right, rfl, folded, blankLeft, blankRight, ends⟩

theorem bearerToken?_eq_some_iff {token : String} : bearerToken? r.credentials = some token ↔
    ∃ value, r.authorizations.head? = some value ∧ Carries value token := by
  have header : r.credentials.header? "authorization" = r.authorizations.head? :=
    Pairs.firstFolded?_eq_head? r.headers "authorization"
  simp only [bearerToken?, header, Option.bind_eq_bind, Option.bind_eq_some_iff, carries_iff]
  constructor
  · rintro ⟨value, first, ⟨scheme, text⟩, cut, named⟩
    split at named
    · next folded => exact ⟨value, first, scheme, text, cut, folded, Option.some.inj named⟩
    · cases named
  · rintro ⟨value, first, scheme, text, cut, folded, rfl⟩
    exact ⟨value, first, (scheme, text), cut, if_pos folded⟩

/-- A header carries one token at most. -/
theorem Carries.unique {value token other : String} (h : Carries value token) (h' : Carries value other) :
    token = other := by
  obtain ⟨scheme, text, cut, -, rfl⟩ := carries_iff.1 h
  obtain ⟨scheme', text', cut', -, rfl⟩ := carries_iff.1 h'
  obtain ⟨-, rfl⟩ := Prod.mk.inj (Option.some.inj (cut.symm.trans cut'))
  rfl

theorem accepts_bearer_iff {scopes : List String} : (bearer tokens).accepts scopes r.credentials = true ↔
    ∃ value token granted, r.authorizations.head? = some value ∧ Carries value token ∧
      OrderedMap.get? tokens token = some granted ∧ ∀ scope ∈ scopes, scope ∈ granted := by
  simp only [accepts, Option.any_eq_true, Option.bind_eq_some_iff, List.all_eq_true, List.contains_iff_mem,
    bearerToken?_eq_some_iff]
  constructor
  · rintro ⟨granted, ⟨token, ⟨value, first, carried⟩, known⟩, held⟩
    exact ⟨value, token, granted, first, carried, known, held⟩
  · rintro ⟨value, token, granted, first, carried, known, held⟩
    exact ⟨granted, ⟨token, ⟨value, first, carried⟩, known⟩, held⟩

/-- If the first authorization header is `bearer` in any case, one blank and a known token with white space around it, a
bearer policy accepts just when all required scopes are granted to the token, and else it rejects.  A request that is
accepted stays so when only some of these scopes are required.  Nothing but the first authorization header counts. -/
theorem bearer_verdict (tokens : OrderedMap String (List String)) (origin : Origin) (name : String)
    (scopes : List String) (r : Request) :
    let verdict (scopes : List String) (r : Request) : Bool :=
      ((bearer tokens).authorizer origin).accepts name scopes r.credentials
    (∀ value token granted, r.authorizations.head? = some value → Carries value token →
      OrderedMap.get? tokens token = some granted → (verdict scopes r = true ↔ ∀ scope ∈ scopes, scope ∈ granted)) ∧
    ((¬ ∃ value token granted, r.authorizations.head? = some value ∧ Carries value token ∧
      OrderedMap.get? tokens token = some granted) → verdict scopes r = false) ∧
    (∀ others, (∀ scope ∈ others, scope ∈ scopes) → verdict scopes r = true → verdict others r = true) ∧
    ∀ other : Request, other.authorizations.head? = r.authorizations.head? →
      verdict scopes other = verdict scopes r := by
  intro verdict
  have accepted (scopes : List String) (r : Request) : verdict scopes r = true ↔
      ∃ value token granted, r.authorizations.head? = some value ∧ Carries value token ∧
        OrderedMap.get? tokens token = some granted ∧ ∀ scope ∈ scopes, scope ∈ granted := accepts_bearer_iff
  refine ⟨fun value token granted first carried known => ?_, fun uncarried => ?_, fun others sub ok => ?_,
    fun other same => ?_⟩
  · rw [accepted]
    constructor
    · rintro ⟨value', token', granted', first', carried', known', held⟩
      obtain rfl : value = value' := Option.some.inj (first.symm.trans first')
      obtain rfl : token = token' := carried.unique carried'
      obtain rfl : granted = granted' := Option.some.inj (known.symm.trans known')
      exact held
    · intro held
      exact ⟨value, token, granted, first, carried, known, held⟩
  · rw [Bool.eq_false_iff, ne_eq, accepted]
    rintro ⟨value, token, granted, first, carried, known, -⟩
    exact uncarried ⟨value, token, granted, first, carried, known⟩
  · rw [accepted] at ok ⊢
    obtain ⟨value, token, granted, first, carried, known, held⟩ := ok
    exact ⟨value, token, granted, first, carried, known, fun scope mem => held scope (sub scope mem)⟩
  · rw [Bool.eq_iff_iff, accepted, accepted, same]

/-- The first of two authorization headers, in mixed case and with blanks around the token, counts for a scope that is
granted; a query, a cookie and another second header make no difference. -/
theorem bearer_verdict_mixed_case :
    let tokens : OrderedMap String (List String) := [("abc", ["read", "write"])]
    let headers (second : String) : Pairs :=
      [("accept", "*"), ("Authorization", "BeArEr  abc "), ("authorization", second)]
    let r : Request := { headers := headers "none" }
    let other : Request := { headers := headers "Bearer xyz", query := [("q", "1")], cookies := [("c", "2")] }
    let verdict (scopes : List String) (r : Request) : Bool :=
      ((bearer tokens).authorizer (.given "tokens")).accepts "token" scopes r.credentials
    verdict ["write", "read"] r = true ∧ verdict ["write"] r = true ∧ verdict ["write", "read"] other = true := by
  intro tokens headers r other verdict
  have folded : sameFolded "accept" "authorization" = false ∧ sameFolded "Authorization" "authorization" = true ∧
      sameFolded "authorization" "authorization" = true := by
    simp only [sameFolded_eq]
    decide
  have first (second : String) (query cookies : Pairs) :
      (Request.authorizations { headers := headers second, query, cookies }).head? = some "BeArEr  abc " := by
    simp [Request.authorizations, headers, folded]
  have carried : Carries "BeArEr  abc " "abc" := by
    have blank : ∀ c ∈ " ".toList, isBlank c := by simp [isBlank]
    refine ⟨"BeArEr", " ", " ", by decide, ?_, blank, blank, by simp [isBlank], by simp [isBlank]⟩
    rw [sameFolded_eq]
    decide
  have verdicts := bearer_verdict tokens (.given "tokens") "token" ["write", "read"] r
  have ok : verdict ["write", "read"] r = true :=
    (verdicts.1 _ _ _ (first ..) carried rfl).2 (by decide)
  have same : other.authorizations.head? = r.authorizations.head? :=
    (first "Bearer xyz" [("q", "1")] [("c", "2")]).trans (first "none" [] []).symm
  exact ⟨ok, verdicts.2.2.1 ["write"] (by decide) ok, (verdicts.2.2.2 other same).trans ok⟩

end Policy

end RouteTable
