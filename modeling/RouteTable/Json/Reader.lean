import RouteTable.Decimal.Literal
import RouteTable.Json

/-!
# Reading JSON text

`Json.readEntries?` keeps every entry of an object as written, `Json.read?` gives a repeated key its last value at its
first position.  Containers may nest 127 deep.  Integers from `-2^63` to `2^64 - 1` stay integers, all other numbers
are doubles, and so is `-0`.
-/

namespace RouteTable.Json.Reader

def isBlank (c : Char) : Bool := c == ' ' || c == '\n' || c == '\r' || c == '\t'

def skipBlanks (cs : List Char) : List Char := cs.dropWhile isBlank

/-- The rest after a fixed word. -/
def expect? : List Char → List Char → Option (List Char)
  | [], cs => some cs
  | w :: ws, c :: cs => if w = c then expect? ws cs else none
  | _ :: _, [] => none

def hexValue? (c : Char) : Option Nat :=
  if '0' ≤ c ∧ c ≤ '9' then some (c.toNat - 48)
  else if 'a' ≤ c ∧ c ≤ 'f' then some (c.toNat - 87)
  else if 'A' ≤ c ∧ c ≤ 'F' then some (c.toNat - 55)
  else none

def unit16? : List Char → Option (Nat × List Char)
  | a :: b :: c :: d :: rest => do
    let a ← hexValue? a
    let b ← hexValue? b
    let c ← hexValue? c
    let d ← hexValue? d
    some (4096 * a + 256 * b + 16 * c + d, rest)
  | _ => none

/-- A character written with four hexadecimal digits, or with two such units as a surrogate pair. -/
def unicodeEscape? (cs : List Char) : Option (Char × List Char) := do
  let (high, rest) ← unit16? cs
  if 0xdc00 ≤ high ∧ high ≤ 0xdfff then none
  else if 0xd800 ≤ high ∧ high ≤ 0xdbff then
    let rest ← expect? ['\\', 'u'] rest
    let (low, rest) ← unit16? rest
    if 0xdc00 ≤ low ∧ low ≤ 0xdfff then
      some (Char.ofNat (0x10000 + (high - 0xd800) * 0x400 + (low - 0xdc00)), rest)
    else none
  else some (Char.ofNat high, rest)

def shortEscape? : Char → Option Char
  | '"' => some '"'
  | '\\' => some '\\'
  | '/' => some '/'
  | 'b' => some '\x08'
  | 'f' => some '\x0c'
  | 'n' => some '\n'
  | 'r' => some '\r'
  | 't' => some '\t'
  | _ => none

/-- The characters up to the closing quote; the result starts after it. -/
def stringBody? (fuel : Nat) (acc : List Char) (cs : List Char) : Option (String × List Char) :=
  match fuel, cs with
  | _, '"' :: rest => some (String.ofList acc.reverse, rest)
  | n + 1, '\\' :: 'u' :: rest => do
    let (c, rest) ← unicodeEscape? rest
    stringBody? n (c :: acc) rest
  | n + 1, '\\' :: e :: rest => do
    let c ← shortEscape? e
    stringBody? n (c :: acc) rest
  | n + 1, c :: rest => if c.toNat < 32 ∨ c = '\\' then none else stringBody? n (c :: acc) rest
  | _, _ => none

def string? (cs : List Char) : Option (String × List Char) := stringBody? cs.length [] cs

/-- Digits of an integer: a zero stands alone. -/
def wholeDigits? (cs : List Char) : Option (List Char × List Char) :=
  match cs with
  | '0' :: rest => if rest.head?.any Char.isDigit then none else some (['0'], rest)
  | _ =>
    let digits := cs.takeWhile Char.isDigit
    if digits.isEmpty then none else some (digits, cs.dropWhile Char.isDigit)

def exponent? (cs : List Char) : Option (Int × List Char) :=
  let (negative, rest) := match cs with
    | '-' :: rest => (true, rest)
    | '+' :: rest => (false, rest)
    | rest => (false, rest)
  let digits := rest.takeWhile Char.isDigit
  if digits.isEmpty then none
  else
    let n : Int := natOfDigits 0 digits
    some (if negative then -n else n, rest.dropWhile Char.isDigit)

/-- A sign applies to the double, so a negative zero stays one. -/
def signed (negative : Bool) (x : Float) : Number := .float (if negative then -x else x)

def integer (negative : Bool) (digits : List Char) : Option Number :=
  let n := natOfDigits 0 digits
  if negative then
    if 0 < n ∧ n ≤ 0x8000000000000000 then some (.int (-n))
    else (Literal.ofDigits digits []).toFloat?.map (signed true)
  else if n < 0x10000000000000000 then some (.int n)
  else (Literal.ofDigits digits []).toFloat?.map (signed false)

def number? (cs : List Char) : Option (Number × List Char) := do
  let (negative, cs) := match cs with
    | '-' :: rest => (true, rest)
    | rest => (false, rest)
  let (whole, rest) ← wholeDigits? cs
  let (fraction, rest) ← match rest with
    | '.' :: rest =>
      let digits := rest.takeWhile Char.isDigit
      if digits.isEmpty then none else some (some digits, rest.dropWhile Char.isDigit)
    | rest => some (none, rest)
  let scaled (exponent : Int) : Option Number :=
    let l := Literal.ofDigits whole (fraction.getD [])
    ({ l with exponent := l.exponent + exponent } : Literal).toFloat?.map (signed negative)
  match rest with
  | e :: tail =>
    if e = 'e' ∨ e = 'E' then do
      let (exponent, tail) ← exponent? tail
      return (← scaled exponent, tail)
    else if fraction.isSome then return (← scaled 0, rest)
    else return (← integer negative whole, rest)
  | [] => if fraction.isSome then return (← scaled 0, []) else return (← integer negative whole, [])

mutual
/-- A value after blanks; `depth` more containers may be opened. -/
def value? (fuel depth : Nat) (cs : List Char) : Option (Json × List Char) :=
  match fuel with
  | 0 => none
  | n + 1 =>
    match skipBlanks cs with
    | '"' :: rest => (string? rest).map fun (s, rest) => (string s, rest)
    | '[' :: rest =>
      match depth, skipBlanks rest with
      | 0, _ => none
      | _ + 1, ']' :: rest => some (array [], rest)
      | d + 1, rest => (items? n d rest).map fun (vs, rest) => (array vs, rest)
    | '\x7b' :: rest =>
      match depth, skipBlanks rest with
      | 0, _ => none
      | _ + 1, '\x7d' :: rest => some (object [], rest)
      | d + 1, rest => (members? n d rest).map fun (fs, rest) => (object fs, rest)
    | 'n' :: rest => (expect? ['u', 'l', 'l'] rest).map fun rest => (null, rest)
    | 't' :: rest => (expect? ['r', 'u', 'e'] rest).map fun rest => (bool true, rest)
    | 'f' :: rest => (expect? ['a', 'l', 's', 'e'] rest).map fun rest => (bool false, rest)
    | rest => (number? rest).map fun (v, rest) => (number v, rest)

def items? (fuel depth : Nat) (cs : List Char) : Option (List Json × List Char) :=
  match fuel with
  | 0 => none
  | n + 1 => do
    let (v, rest) ← value? n depth cs
    match skipBlanks rest with
    | ',' :: rest => (items? n depth rest).map fun (vs, rest) => (v :: vs, rest)
    | ']' :: rest => some ([v], rest)
    | _ => none

def members? (fuel depth : Nat) (cs : List Char) : Option (List (String × Json) × List Char) :=
  match fuel with
  | 0 => none
  | n + 1 => do
    let rest ← expect? ['"'] (skipBlanks cs)
    let (key, rest) ← string? rest
    let rest ← expect? [':'] (skipBlanks rest)
    let (v, rest) ← value? n depth rest
    match skipBlanks rest with
    | ',' :: rest => (members? n depth rest).map fun (fs, rest) => ((key, v) :: fs, rest)
    | '\x7d' :: rest => some ([(key, v)], rest)
    | _ => none
end

end Reader

/-- Number of containers that may be open at once. -/
def maxDepth : Nat := 127

/-- The value a text spells, every entry of its objects kept. -/
def readEntries? (text : String) : Option Json := do
  let cs := text.toList
  let (v, rest) ← Reader.value? (2 * cs.length + 2) maxDepth cs
  if (Reader.skipBlanks rest).isEmpty then some v else none

/-- The value a text spells; of a repeated key the last value counts. -/
def read? (text : String) : Option Json := (readEntries? text).map settle

end RouteTable.Json
