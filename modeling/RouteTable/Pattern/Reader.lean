import RouteTable.Pattern

/-!
# Reading patterns

`Pattern.read?` reads the text of a regular expression and refuses one that is not well formed, and one with back
references or Unicode properties.  `Pattern.plain` is the spelling under which a pattern is reported: the classes `\d`,
`\w` and `\s` are written out and control escapes are replaced, unless the pattern looks around.
-/

namespace RouteTable.Pattern

namespace Reader

/-- What a backslash and the characters after it stand for. -/
inductive Escaped
  | char (c : Char)
  | set (s : CharSet)
  | anchor (a : Anchor)

def hexValue? (c : Char) : Option Nat :=
  if '0' ≤ c ∧ c ≤ '9' then some (c.toNat - 48)
  else if 'a' ≤ c ∧ c ≤ 'f' then some (c.toNat - 87)
  else if 'A' ≤ c ∧ c ≤ 'F' then some (c.toNat - 55)
  else none

/-- The character of a hexadecimal code. -/
def charOfHex? (digits : List Char) : Option Char := do
  let n ← digits.foldlM (fun n c => (hexValue? c).map fun d => 16 * n + d) 0
  if digits ≠ [] ∧ n.isValidChar then some (Char.ofNat n) else none

/-- A code between braces or of a fixed number of digits. -/
def code? (width : Nat) : List Char → Option (Escaped × List Char)
  | '\x7b' :: rest => do
    let digits := rest.takeWhile (· ≠ '\x7d')
    let c ← charOfHex? digits
    match rest.drop digits.length with
    | _ :: after => some (.char c, after)
    | [] => none
  | rest => do
    let c ← if (rest.take width).length = width then charOfHex? (rest.take width) else none
    some (.char c, rest.drop width)

/-- Letters that name a character, a set of characters or a condition. -/
def named? : Char → Option Escaped
  | 'd' => some (.set .digit)
  | 'D' => some (.set (.negate .digit))
  | 'w' => some (.set .word)
  | 'W' => some (.set (.negate .word))
  | 's' => some (.set .blank)
  | 'S' => some (.set (.negate .blank))
  | 'n' => some (.char '\n')
  | 't' => some (.char '\t')
  | 'r' => some (.char '\r')
  | 'f' => some (.char '\x0c')
  | 'v' => some (.char '\x0b')
  | 'a' => some (.char '\x07')
  | 'A' => some (.anchor .textStart)
  | 'z' => some (.anchor .textEnd)
  | 'b' => some (.anchor .wordEdge)
  | 'B' => some (.anchor .noWordEdge)
  | _ => none

def control? (c : Char) : Option Char := if c.isAlpha then some (Char.ofNat (c.toNat % 32)) else none

/-- Reads on after a backslash. -/
def escape? : List Char → Option (Escaped × List Char)
  | 'x' :: rest => code? 2 rest
  | 'u' :: rest => code? 4 rest
  | 'U' :: rest => code? 8 rest
  | 'c' :: c :: rest => (control? c).map fun c => (.char c, rest)
  | c :: rest =>
    match named? c with
    | some e => some (e, rest)
    | none =>
      if c.isAlphanum ∨ 128 ≤ c.toNat ∨ c = '<' ∨ c = '>' then none else some (.char c, rest)
  | [] => none

/-- Sets with a name between `[:` and `:]`. -/
def posix? (name : String) : Option CharSet :=
  match name with
  | "alpha" => some (.union .lower .upper)
  | "alnum" => some (.union .digit (.union .lower .upper))
  | "ascii" => some (.range '\x00' '\x7f')
  | "blank" => some (.ofList ['\t', ' '])
  | "cntrl" => some (.union (.range '\x00' '\x1f') (.one '\x7f'))
  | "digit" => some .digit
  | "graph" => some (.range '!' '~')
  | "lower" => some .lower
  | "print" => some (.range ' ' '~')
  | "punct" =>
    some (.both (.range '!' '~') (.negate (.union .digit (.union .lower .upper))))
  | "space" => some (.ofList ['\t', '\n', '\x0b', '\x0c', '\r', ' '])
  | "upper" => some .upper
  | "word" => some .word
  | "xdigit" => some (.union .digit (.union (.range 'a' 'f') (.range 'A' 'F')))
  | _ => none

/-- A named set, read on after `[:`. -/
def posixClass? (cs : List Char) : Option (CharSet × List Char) := do
  let (negated, cs) := match cs with
    | '^' :: rest => (true, rest)
    | cs => (false, cs)
  let name := cs.takeWhile Char.isAlpha
  let set ← posix? (String.ofList name)
  match cs.drop name.length with
  | ':' :: ']' :: rest => some (if negated then .negate set else set, rest)
  | _ => none

def classItem? : List Char → Option (Escaped × List Char)
  | '\\' :: rest => escape? rest
  | c :: rest => some (.char c, rest)
  | [] => none

/-- One item of a class or a range of characters. -/
def classRange? (cs : List Char) : Option (CharSet × List Char) := do
  let (first, rest) ← classItem? cs
  let single : Option (CharSet × List Char) := match first with
    | .char c => some (.one c, rest)
    | .set s => some (s, rest)
    | .anchor _ => none
  match rest with
  | '-' :: ']' :: _ => single
  | '-' :: '-' :: _ => single
  | '-' :: rest =>
    match first, ← classItem? rest with
    | .char low, (.char high, rest) => if low ≤ high then some (.range low high, rest) else none
    | _, _ => none
  | _ => single

/-- How the items after an operator of a class combine with those before it. -/
inductive Combine
  | first
  | both (left : CharSet)
  | minus (left : CharSet)
  | differ (left : CharSet)

def Combine.apply : Combine → CharSet → CharSet
  | first, s => s
  | both l, s => .both l s
  | minus l, s => .both l (.negate s)
  | differ l, s => .both (.union l s) (.negate (.both l s))

/-- Characters that stand for themselves at the front of a class. -/
def classFront : List Char → CharSet × List Char
  | '-' :: rest => let (s, rest) := classFront rest; (.union (.one '-') s, rest)
  | cs => (.none, cs)

mutual
/-- A class, read on after its opening bracket. -/
def class? : Nat → List Char → Option (CharSet × List Char)
  | 0, _ => none
  | n + 1, cs => do
    let (negated, cs) := match cs with
      | '^' :: rest => (true, rest)
      | cs => (false, cs)
    let (front, cs') := classFront cs
    let (front, cs') := match cs' with
      | ']' :: rest => if cs'.length = cs.length then (CharSet.one ']', rest) else (front, cs')
      | cs' => (front, cs')
    let (set, rest) ← classItems? n .first front cs'
    some (if negated then .negate set else set, rest)

def classItems? : Nat → Combine → CharSet → List Char → Option (CharSet × List Char)
  | 0, _, _, _ => none
  | n + 1, left, set, cs =>
    match cs with
    | [] => none
    | ']' :: rest => some (left.apply set, rest)
    | '&' :: '&' :: rest => classItems? n (.both (left.apply set)) .none rest
    | '-' :: '-' :: rest => classItems? n (.minus (left.apply set)) .none rest
    | '~' :: '~' :: rest => classItems? n (.differ (left.apply set)) .none rest
    | '[' :: rest => do
      let named := match rest with
        | ':' :: rest => posixClass? rest
        | _ => none
      let (inner, rest) ← named.or (class? n rest)
      classItems? n left (.union set inner) rest
    | cs => do
      let (item, rest) ← classRange? cs
      classItems? n left (.union set item) rest
end

structure Flags where
  ignoreCase : Bool := false
  /-- Points match line breaks too. -/
  dotAll : Bool := false
  multiLine : Bool := false

/-- Reads flags up to a colon or a closing parenthesis; letters after a minus are switched off. -/
def flags? (on : Bool) (flags : Flags) : List Char → Option (Flags × Bool × List Char)
  | ':' :: rest => some (flags, false, rest)
  | ')' :: rest => some (flags, true, rest)
  | 'i' :: rest => flags? on { flags with ignoreCase := on } rest
  | 's' :: rest => flags? on { flags with dotAll := on } rest
  | 'm' :: rest => flags? on { flags with multiLine := on } rest
  | 'U' :: rest => flags? on flags rest
  | 'u' :: rest => flags? on flags rest
  | '-' :: c :: rest => if on ∧ c ≠ ')' ∧ c ≠ ':' then flags? false flags (c :: rest) else none
  | _ => none

def number? (cs : List Char) : Option (Option Nat × List Char) :=
  let digits := cs.takeWhile Char.isDigit
  let value := digits.foldl (fun n c => 10 * n + (c.toNat - 48)) 0
  some (if digits.isEmpty then none else some value, cs.drop digits.length)

/-- Least and most, read on after an opening brace. -/
def counts? (cs : List Char) : Option (Nat × Option Nat × List Char) := do
  let (least, rest) ← number? cs
  match least, rest with
  | some n, '\x7d' :: rest => some (n, some n, rest)
  | least, ',' :: rest =>
    let (most, rest) ← number? rest
    match least, most, rest with
    | none, none, _ => none
    | least, none, '\x7d' :: rest => some (least.getD 0, none, rest)
    | least, some m, '\x7d' :: rest => if least.getD 0 ≤ m then some (least.getD 0, some m, rest) else none
    | _, _, _ => none
  | _, _ => none

/-- Least and most of the repetition a text starts with; a question mark after it changes nothing. -/
def repetition? (cs : List Char) : Option (Nat × Option Nat × List Char) := do
  let (least, most, rest) ← match cs with
    | '*' :: rest => some (0, none, rest)
    | '+' :: rest => some (1, none, rest)
    | '?' :: rest => some (0, some 1, rest)
    | '\x7b' :: rest => counts? rest
    | _ => none
  match rest with
  | '?' :: rest => some (least, most, rest)
  | rest => some (least, most, rest)

def startsRepetition : List Char → Bool
  | c :: _ => c == '*' || c == '+' || c == '?' || c == '\x7b'
  | [] => false

/-- Repetitions that follow an item. -/
def repeated? : Nat → Pattern → List Char → Option (Pattern × List Char)
  | 0, _, _ => none
  | n + 1, p, cs =>
    if startsRepetition cs then do
      let (least, most, rest) ← repetition? cs
      repeated? n (.times p least most) rest
    else some (p, cs)

/-- The name of a group, read on after its opening bracket. -/
def groupName? (cs : List Char) : Option (List Char) :=
  let name := cs.takeWhile fun c => c.isAlphanum || c == '_' || c == '.'
  match name, cs.drop name.length with
  | c :: _, '>' :: rest => if c.isDigit ∨ c = '.' then none else some rest
  | _, _ => none

def ofEscaped (flags : Flags) : Escaped → Pattern
  | .char c => .char (.one c) flags.ignoreCase
  | .set s => .char s flags.ignoreCase
  | .anchor a => .anchor a

/-- The kinds of groups: how the pattern inside is wrapped, its flags and where it starts. -/
def groupStart? (flags : Flags) : List Char → Option ((Pattern → Pattern) × Flags × List Char)
  | '?' :: '=' :: rest => some ((.ahead · false), flags, rest)
  | '?' :: '!' :: rest => some ((.ahead · true), flags, rest)
  | '?' :: '<' :: '=' :: rest => some ((.behind · false), flags, rest)
  | '?' :: '<' :: '!' :: rest => some ((.behind · true), flags, rest)
  | '?' :: 'P' :: '<' :: rest => (groupName? rest).map (id, flags, ·)
  | '?' :: '<' :: rest => (groupName? rest).map (id, flags, ·)
  | '?' :: rest =>
    match flags? true flags rest with
    | some (inner, false, rest) => some (id, inner, rest)
    | _ => none
  | rest => some (id, flags, rest)

/-- Flags that hold for the rest of a group, read on after its opening parenthesis. -/
def flagSetting? (flags : Flags) : List Char → Option (Flags × List Char)
  | '?' :: ')' :: _ => none
  | '?' :: rest =>
    match flags? true flags rest with
    | some (flags, true, rest) => some (flags, rest)
    | _ => none
  | _ => none

mutual
/-- Alternatives up to a closing parenthesis or the end. -/
def alternatives? : Nat → Flags → List Char → Option (Pattern × List Char)
  | 0, _, _ => none
  | n + 1, flags, cs => do
    let (p, flags, rest) ← sequence? n flags .empty cs
    match rest with
    | '|' :: rest => (alternatives? n flags rest).map fun (q, rest) => (.alt p q, rest)
    | rest => some (p, rest)

def sequence? : Nat → Flags → Pattern → List Char → Option (Pattern × Flags × List Char)
  | 0, _, _, _ => none
  | n + 1, flags, before, cs =>
    match cs with
    | [] => some (before, flags, [])
    | '|' :: _ => some (before, flags, cs)
    | ')' :: _ => some (before, flags, cs)
    | '(' :: rest =>
      match flagSetting? flags rest with
      | some (flags, rest) => if startsRepetition rest then none else sequence? n flags before rest
      | none => do
        let (wrap, inner, rest) ← groupStart? flags rest
        let (p, rest) ← alternatives? n inner rest
        match rest with
        | ')' :: rest => do
          let (p, rest) ← repeated? n (wrap p) rest
          sequence? n flags (.seq before p) rest
        | _ => none
    | cs => do
      let (p, rest) ← item? n flags cs
      let (p, rest) ← repeated? n p rest
      sequence? n flags (.seq before p) rest

def item? : Nat → Flags → List Char → Option (Pattern × List Char)
  | 0, _, _ => none
  | n + 1, flags, cs =>
    match cs with
    | [] => none
    | '[' :: rest => (class? n rest).map fun (s, rest) => (.char s flags.ignoreCase, rest)
    | '\\' :: rest => (escape? rest).map fun (e, rest) => (ofEscaped flags e, rest)
    | '.' :: rest =>
      some (.char (.negate (if flags.dotAll then .none else .one '\n')) false, rest)
    | '^' :: rest => some (.anchor (if flags.multiLine then .lineStart else .textStart), rest)
    | '$' :: rest => some (.anchor (if flags.multiLine then .lineEnd else .textEnd), rest)
    | c :: rest => if startsRepetition (c :: rest) then none else some (.char (.one c) flags.ignoreCase, rest)
end

end Reader

def read? (source : String) : Option Pattern :=
  let cs := source.toList
  match Reader.alternatives? (2 * cs.length + 3) {} cs with
  | some (p, []) => some p
  | _ => none

/-- Writes out class escapes and control escapes. -/
def plainChars : List Char → List Char
  | '\\' :: 'd' :: rest => "[0-9]".toList ++ plainChars rest
  | '\\' :: 'D' :: rest => "[^0-9]".toList ++ plainChars rest
  | '\\' :: 'w' :: rest => "[A-Za-z0-9_]".toList ++ plainChars rest
  | '\\' :: 'W' :: rest => "[^A-Za-z0-9_]".toList ++ plainChars rest
  | '\\' :: 's' :: rest =>
    "[ \t\n\r\x0b\x0c\u00a0\ufeff\u2003\u2029]".toList ++ plainChars rest
  | '\\' :: 'S' :: rest =>
    "[^ \t\n\r\x0b\x0c\u00a0\ufeff\u2003\u2029]".toList ++ plainChars rest
  | '\\' :: 'c' :: c :: rest => ((Reader.control? c).getD c) :: plainChars rest
  | '\\' :: c :: rest => '\\' :: c :: plainChars rest
  | c :: rest => c :: plainChars rest
  | [] => []

def plain (p : Pattern) (source : String) : String :=
  if p.looksAround then source else String.ofList (plainChars source.toList)

end RouteTable.Pattern
