import RouteTable.Validator

/-!
# Integers in decimal notation

A text denotes an integer if it is at least one digit, after a sign or none (`DecimalInteger`).  Texts that denote an
integer are those that are read as it (`readInt?_eq_some_iff`), and the decimal text of an integer denotes it
(`decimalInteger_toString`), so what is written is read back.
-/

namespace RouteTable

/-- Digits, at least one. -/
def IsDigits (cs : List Char) : Prop := cs ≠ [] ∧ ∀ c ∈ cs, c.isDigit

/-- Digits denote an integer, after a sign or none. -/
inductive DecimalInteger : List Char → Int → Prop
  | unsigned {digits : List Char} (h : IsDigits digits) : DecimalInteger digits (Nat.ofDigitChars 10 digits 0)
  | plus {digits : List Char} (h : IsDigits digits) : DecimalInteger ('+' :: digits) (Nat.ofDigitChars 10 digits 0)
  | minus {digits : List Char} (h : IsDigits digits) : DecimalInteger ('-' :: digits) (-Nat.ofDigitChars 10 digits 0)

theorem natOfDigits_eq (acc : Nat) (cs : List Char) : natOfDigits acc cs = Nat.ofDigitChars 10 cs acc := by
  induction cs generalizing acc with
  | nil => rfl
  | cons c cs ih =>
    have value : digitValue c = c.toNat - '0'.toNat := by simp [digitValue]
    -- the equations of `natOfDigits` do not reduce, because of the subtraction in `digitValue`
    unfold natOfDigits
    rw [ih, Nat.ofDigitChars_cons, value]

/-- What is read after a sign. -/
def readSigned? (negative : Bool) (digits : List Char) : Option Int :=
  if digits.isEmpty || !digits.all Char.isDigit then none
  else some (if negative then -natOfDigits 0 digits else natOfDigits 0 digits)

theorem readSigned?_eq_some_iff {negative : Bool} {digits : List Char} {n : Int} :
    readSigned? negative digits = some n ↔
      IsDigits digits ∧
        (if negative then -(Nat.ofDigitChars 10 digits 0 : Int) else Nat.ofDigitChars 10 digits 0) = n := by
  rw [readSigned?, natOfDigits_eq]
  by_cases h : IsDigits digits
  · have unrefused : (digits.isEmpty || !digits.all Char.isDigit) = false := by simpa [IsDigits] using h
    simp [unrefused, h]
  · have refused : (digits.isEmpty || !digits.all Char.isDigit) = true := by
      rw [← Bool.not_eq_false]
      simpa [IsDigits] using h
    simp [refused, h]

theorem readExponent?_minus (digits : List Char) : readExponent? ('-' :: digits) = readSigned? true digits := rfl

theorem readExponent?_plus (digits : List Char) : readExponent? ('+' :: digits) = readSigned? false digits := rfl

theorem readExponent?_unsigned {cs : List Char} (minus : ∀ rest, cs ≠ '-' :: rest) (plus : ∀ rest, cs ≠ '+' :: rest) :
    readExponent? cs = readSigned? false cs := by
  rw [readExponent?]
  · rfl
  · exact minus
  · exact plus

theorem readExponent?_eq_some_iff {cs : List Char} {n : Int} : readExponent? cs = some n ↔ DecimalInteger cs n := by
  constructor
  · intro h
    by_cases minus : ∃ rest, cs = '-' :: rest
    · obtain ⟨rest, rfl⟩ := minus
      rw [readExponent?_minus] at h
      obtain ⟨digits, rfl⟩ := readSigned?_eq_some_iff.1 h
      exact .minus digits
    · by_cases plus : ∃ rest, cs = '+' :: rest
      · obtain ⟨rest, rfl⟩ := plus
        rw [readExponent?_plus] at h
        obtain ⟨digits, rfl⟩ := readSigned?_eq_some_iff.1 h
        exact .plus digits
      · rw [readExponent?_unsigned (not_exists.1 minus) (not_exists.1 plus)] at h
        obtain ⟨digits, rfl⟩ := readSigned?_eq_some_iff.1 h
        exact .unsigned digits
  · intro h
    cases h with
    | unsigned h =>
      -- a sign is no digit
      rw [readExponent?_unsigned]
      · exact readSigned?_eq_some_iff.2 ⟨h, rfl⟩
      all_goals
        rintro rest rfl
        exact absurd (h.2 _ List.mem_cons_self) (by decide)
    | plus h =>
      rw [readExponent?_plus]
      exact readSigned?_eq_some_iff.2 ⟨h, rfl⟩
    | minus h =>
      rw [readExponent?_minus]
      exact readSigned?_eq_some_iff.2 ⟨h, rfl⟩

theorem readInt?_eq_some_iff {s : String} {n : Int} : readInt? s = some n ↔ DecimalInteger s.toList n :=
  readExponent?_eq_some_iff

theorem isDigits_toDigits (n : Nat) : IsDigits (Nat.toDigits 10 n) :=
  ⟨Nat.toDigits_ne_nil, fun _ mem => Nat.isDigit_of_mem_toDigits (by decide) (by decide) mem⟩

theorem decimalInteger_toString (n : Int) : DecimalInteger (toString n).toList n := by
  cases n with
  | ofNat m =>
    have text : (toString (Int.ofNat m)).toList = Nat.toDigits 10 m := by
      rw [Int.toString_eq_repr, Int.repr, Nat.toList_repr]
    have value : (Int.ofNat m) = Nat.ofDigitChars 10 (Nat.toDigits 10 m) 0 := by
      rw [Nat.ofDigitChars_ten_toDigits]
      rfl
    rw [text, value]
    exact .unsigned (isDigits_toDigits m)
  | negSucc m =>
    have text : (toString (Int.negSucc m)).toList = '-' :: Nat.toDigits 10 (m + 1) := by
      rw [Int.toString_eq_repr, Int.repr, String.toList_append, Nat.toList_repr]
      rfl
    have value : Int.negSucc m = -Nat.ofDigitChars 10 (Nat.toDigits 10 (m + 1)) 0 := by
      rw [Nat.ofDigitChars_ten_toDigits]
      rfl
    rw [text, value]
    exact .minus (isDigits_toDigits (m + 1))

/-- A text that denotes an integer has nothing but digits and signs. -/
theorem DecimalInteger.mem {cs : List Char} {n : Int} (h : DecimalInteger cs n) {c : Char} (mem : c ∈ cs) :
    c.isDigit ∨ c = '+' ∨ c = '-' := by
  cases h with
  | unsigned h => exact Or.inl (h.2 c mem)
  | plus h =>
    rcases List.mem_cons.1 mem with rfl | mem
    · exact Or.inr (Or.inl rfl)
    · exact Or.inl (h.2 c mem)
  | minus h =>
    rcases List.mem_cons.1 mem with rfl | mem
    · exact Or.inr (Or.inr rfl)
    · exact Or.inl (h.2 c mem)

/-- An integer of 64 bits. -/
def IsWord (n : Int) : Prop := -0x8000000000000000 ≤ n ∧ n < 0x8000000000000000

theorem Coercion.integer?_eq_some_iff {raw : String} {n : Int} :
    integer? raw = some n ↔ DecimalInteger raw.toList n ∧ IsWord n := by
  rw [integer?, ← readInt?_eq_some_iff]
  cases readInt? raw with
  | none => simp
  | some m =>
    dsimp only
    split
    · next h =>
      rw [Option.some.injEq]
      constructor
      · rintro rfl
        exact ⟨rfl, h⟩
      · exact fun h => h.1
    · next h =>
      constructor
      · exact fun h => nomatch h
      · rintro ⟨found, word⟩
        obtain rfl := Option.some.inj found
        exact absurd word h

end RouteTable
