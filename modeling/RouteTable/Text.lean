/-!
# Cutting text

`splitChars` cuts a character list at every separator and `Text.split` does so for texts; `Text.splitOnce?` cuts at the
first separator only.  The key facts: joining the pieces gives the text back (`joinChars_splitChars`), and a list of
pieces without the separator is recovered from its joined text (`splitChars_joinChars`).  `Text.trim` drops the white
space of Unicode from both ends.
-/

namespace RouteTable

def splitChars (sep : Char) : List Char → List (List Char)
  | [] => [[]]
  | c :: cs =>
    if c = sep then [] :: splitChars sep cs
    else match splitChars sep cs with
      | [] => [[c]]
      | piece :: pieces => (c :: piece) :: pieces

def joinChars (sep : Char) : List (List Char) → List Char
  | [] => []
  | [piece] => piece
  | piece :: rest => piece ++ sep :: joinChars sep rest

theorem splitChars_ne_nil (sep : Char) (cs : List Char) : splitChars sep cs ≠ [] := by
  cases cs with
  | nil => simp [splitChars]
  | cons c cs =>
    unfold splitChars
    split
    · simp
    · split <;> simp

theorem joinChars_splitChars (sep : Char) (cs : List Char) : joinChars sep (splitChars sep cs) = cs := by
  induction cs with
  | nil => rfl
  | cons c cs ih =>
    unfold splitChars
    cases h : splitChars sep cs with
    | nil => exact absurd h (splitChars_ne_nil sep cs)
    | cons piece pieces =>
      rw [h] at ih
      by_cases hc : c = sep
      · simp [hc, joinChars, ih]
      · cases pieces <;> simp_all [joinChars]

theorem splitChars_append_sep {sep : Char} {piece : List Char} (h : sep ∉ piece) (cs : List Char) :
    splitChars sep (piece ++ sep :: cs) = piece :: splitChars sep cs := by
  induction piece with
  | nil => simp [splitChars]
  | cons c piece ih =>
    simp only [List.mem_cons, not_or] at h
    simp [splitChars, Ne.symm h.1, ih h.2]

theorem splitChars_of_not_mem {sep : Char} {piece : List Char} (h : sep ∉ piece) :
    splitChars sep piece = [piece] := by
  induction piece with
  | nil => rfl
  | cons c piece ih =>
    simp only [List.mem_cons, not_or] at h
    simp [splitChars, Ne.symm h.1, ih h.2]

theorem splitChars_joinChars {sep : Char} {pieces : List (List Char)} (hne : pieces ≠ [])
    (h : ∀ p ∈ pieces, sep ∉ p) : splitChars sep (joinChars sep pieces) = pieces := by
  induction pieces with
  | nil => exact absurd rfl hne
  | cons piece rest ih =>
    cases rest with
    | nil => exact splitChars_of_not_mem (h piece (by simp))
    | cons next rest =>
      rw [joinChars, splitChars_append_sep (h piece (by simp)), ih (by simp) (fun p hp => h p (by simp [hp]))]
      simp

namespace Text

/-- The pieces between separators; there is always at least one. -/
def split (sep : Char) (s : String) : List String := (splitChars sep s.toList).map String.ofList

/-- What stands before and after the first separator. -/
def splitOnce? (sep : Char) (s : String) : Option (String × String) :=
  match s.toList.dropWhile (· ≠ sep) with
  | [] => none
  | _ :: after => some (String.ofList (s.toList.takeWhile (· ≠ sep)), String.ofList after)

/-- Drops every copy of a character from the end. -/
def dropTrailing (c : Char) (s : String) : String :=
  String.ofList (s.toList.reverse.dropWhile (· == c)).reverse

/-- White space of Unicode. -/
def isBlank (c : Char) : Bool :=
  let n := c.toNat
  (9 ≤ n && n ≤ 13) || n == 0x20 || n == 0x85 || n == 0xa0 || n == 0x1680 || (0x2000 ≤ n && n ≤ 0x200a)
    || n == 0x2028 || n == 0x2029 || n == 0x202f || n == 0x205f || n == 0x3000

def trimChars (cs : List Char) : List Char :=
  (((cs.dropWhile isBlank).reverse).dropWhile isBlank).reverse

def trim (s : String) : String := String.ofList (trimChars s.toList)

/-- Equality up to the case of ASCII letters. -/
def sameFolded (a b : String) : Bool := a.toLower == b.toLower

/-- Pads with blanks on the right up to a number of characters. -/
def padRight (width : Nat) (s : String) : String := s.pushn ' ' (width - s.length)

end Text

end RouteTable
