import RouteTable.Yaml.Cursor

/-!
# Tokens of YAML

Each function reads one kind of token from the place where it starts and answers the token's content and the place
after it, or nothing if the text is not well formed there.  Inside a scalar a single line break becomes a blank and of
several the first is dropped (`foldedBreaks`), except in literal blocks.
-/

namespace RouteTable.Yaml

inductive Token
  | versionDirective (major minor : Nat)
  | tagDirective (handle pre : String)
  | documentStart
  | documentEnd
  | blockSequenceStart
  | blockMappingStart
  | blockEnd
  | flowSequenceStart
  | flowSequenceEnd
  | flowMappingStart
  | flowMappingEnd
  | blockEntry
  | flowEntry
  | key
  | value
  | aliasOf (name : String)
  | anchor (name : String)
  | tag (handle suffix : String)
  | scalar (text : String) (plain : Bool)
deriving DecidableEq, Repr

namespace Token

/-- What one line break and the breaks after it contribute to a folded text. -/
def foldedBreaks (first more : List Char) : List Char :=
  if first = ['\n'] then (if more = [] then [' '] else more) else first ++ more

/-- Blanks and line breaks between the parts of a scalar: the text they contribute, whether a line ended, and the place
after them.  Tabs may not stand in front of column `indent`. -/
def gap (indent : Int) : Nat → Option (List Char) → List Char → List Char → Cursor →
    Option (List Char × Bool × Cursor)
  | 0, _, _, _, _ => none
  | n + 1, first, more, blanks, c =>
    match c.peek with
    | none => done first more blanks c
    | some ch =>
      if isBlank ch then
        match first with
        | none => gap indent n none more (blanks ++ [ch]) c.skip
        | some _ => if ch = '\t' ∧ c.column < indent then none else gap indent n first more blanks c.skip
      else if isBreak ch then
        match first with
        | none => gap indent n (some c.breakText) more [] c.skipBreak
        | some _ => gap indent n first (more ++ c.breakText) blanks c.skipBreak
      else done first more blanks c
where
  done (first : Option (List Char)) (more blanks : List Char) (c : Cursor) : Option (List Char × Bool × Cursor) :=
    match first with
    | some first => some (foldedBreaks first more, true, c)
    | none => some (blanks, false, c)

def isFlowMark (c : Char) : Bool := c == ',' || c == '[' || c == ']' || c == '\x7b' || c == '\x7d'

/-- Characters of a plain scalar up to a blank, a colon that ends it or, inside brackets, a flow mark. -/
def plainRun (inFlow : Bool) : Nat → List Char → Cursor → Option (List Char × Cursor)
  | 0, _, _ => none
  | n + 1, run, c =>
    match c.peek with
    | none => some (run, c)
    | some ch =>
      if c.atGap then some (run, c)
      else if ch = ':' ∧ inFlow ∧ (c.ahead 1).peek.any (fun next => isFlowMark next || next == '?') then none
      else if ch = ':' ∧ (c.ahead 1).atGap then some (run, c)
      else if inFlow ∧ isFlowMark ch then some (run, c)
      else plainRun inFlow n (run ++ [ch]) c.skip

/-- A plain scalar, and whether the line it stands on has ended. -/
def plain (inFlow : Bool) (indent : Int) :
    Nat → List Char → List Char → Bool → Cursor → Option (List Char × Bool × Cursor)
  | 0, _, _, _, _ => none
  | n + 1, text, pending, lineEnded, c =>
    if c.atAnyDocumentMark || c.is '#' then some (text, lineEnded, c)
    else do
      let (run, c) ← plainRun inFlow (c.rest.length + 1) [] c
      if run.isEmpty then some (text, lineEnded, c)
      else
        let text := text ++ pending ++ run
        if !c.atBlank && !c.atBreak then some (text, false, c)
        else do
          let (pending, lineEnded, c) ← gap indent (c.rest.length + 1) none [] [] c
          if !inFlow && c.column < indent then some (text, lineEnded, c)
          else plain inFlow indent n text pending lineEnded c

def hexValue? (c : Char) : Option Nat :=
  if '0' ≤ c ∧ c ≤ '9' then some (c.toNat - 48)
  else if 'a' ≤ c ∧ c ≤ 'f' then some (c.toNat - 87)
  else if 'A' ≤ c ∧ c ≤ 'F' then some (c.toNat - 55)
  else none

def hexNumber? (digits : List Char) : Option Nat :=
  digits.foldlM (fun n c => (hexValue? c).map fun d => 16 * n + d) 0

/-- Escapes of double-quoted scalars with a fixed meaning. -/
def escaped? : Char → Option Char
  | '0' => some '\x00'
  | 'a' => some '\x07'
  | 'b' => some '\x08'
  | 't' => some '\t'
  | '\t' => some '\t'
  | 'n' => some '\n'
  | 'v' => some '\x0b'
  | 'f' => some '\x0c'
  | 'r' => some '\r'
  | 'e' => some '\x1b'
  | ' ' => some ' '
  | '"' => some '"'
  | '/' => some '/'
  | '\\' => some '\\'
  | 'N' => some '\u0085'
  | '_' => some '\u00a0'
  | 'L' => some '\u2028'
  | 'P' => some '\u2029'
  | _ => none

def escapeWidth? : Char → Option Nat
  | 'x' => some 2
  | 'u' => some 4
  | 'U' => some 8
  | _ => none

/-- The character an escape stands for, read on after the backslash. -/
def escape? (c : Cursor) : Option (Char × Cursor) := do
  let ch ← c.peek
  match escapeWidth? ch with
  | none => (escaped? ch).map (·, c.skip)
  | some width => do
    let digits := c.skip.rest.take width
    let n ← if digits.length = width then hexNumber? digits else none
    if n.isValidChar then some (Char.ofNat n, Cursor.skipMany (width + 1) c) else none

/-- Characters of a quoted scalar up to a blank, a line break or the closing quote; whether the run ends in an escaped
line break. -/
def quotedRun (single : Bool) : Nat → List Char → Cursor → Option (List Char × Bool × Cursor)
  | 0, _, _ => none
  | n + 1, run, c =>
    match c.rest with
    | [] => some (run, false, c)
    | ch :: rest =>
      if c.atGap then some (run, false, c)
      else if single ∧ ch = '\'' ∧ rest.head? = some '\'' then quotedRun single n (run ++ ['\'']) c.skip.skip
      else if ch = (if single then '\'' else '"') then some (run, false, c)
      else if !single ∧ ch = '\\' then
        if c.skip.atBreak then some (run, true, c.skip.skipBreak)
        else do
          let (ch, c) ← escape? c.skip
          quotedRun single n (run ++ [ch]) c
      else quotedRun single n (run ++ [ch]) c.skip

/-- A quoted scalar, read on after the opening quote. -/
def quoted (single : Bool) : Nat → List Char → Cursor → Option (List Char × Cursor)
  | 0, _, _ => none
  | n + 1, text, c =>
    if c.atAnyDocumentMark || c.atEnd then none
    else do
      let (run, broken, c) ← quotedRun single (c.rest.length + 1) [] c
      if c.is (if single then '\'' else '"') then some (text ++ run, c.skip)
      else do
        let (filler, _, c) ← gap 0 (c.rest.length + 1) (if broken then some [] else none) [] [] c
        quoted single n (text ++ run ++ filler) c

/-- How the line breaks at the end of a block scalar are treated. -/
inductive Chomping
  | strip | clip | keep
deriving DecidableEq, Repr

/-- Line breaks and indentation in front of a line of a block scalar: the breaks, the widest indentation and the place
after them.  No `indent` is known as zero. -/
def blockBreaks (indent : Nat) : Nat → List Char → Nat → Cursor → Option (List Char × Nat × Cursor)
  | 0, _, _, _ => none
  | n + 1, breaks, widest, c =>
    let open_ := indent = 0 ∨ c.column < indent
    if open_ ∧ c.is ' ' then blockBreaks indent n breaks widest c.skip
    else
      let widest := max widest c.column
      if open_ ∧ c.is '\t' then none
      else if c.atBreak then blockBreaks indent n (breaks ++ c.breakText) widest c.skipBreak
      else some (breaks, widest, c)

/-- The lines of a block scalar: the text, its last line break, the empty lines after it and the place after them. -/
def blockLines (literal : Bool) (indent : Nat) : Nat → List Char → List Char → List Char → Bool → Cursor →
    Option (List Char × List Char × List Char × Cursor)
  | 0, _, _, _, _, _ => none
  | n + 1, text, lastBreak, breaks, blankBefore, c =>
    if c.column ≠ indent ∨ c.atEnd then some (text, lastBreak, breaks, c)
    else do
      let blankHere := c.atBlank
      let joint :=
        if !literal && lastBreak == ['\n'] && !blankBefore && !blankHere then
          (if breaks.isEmpty then [' '] else [])
        else lastBreak
      let (line, c) := c.span (!isBreak ·)
      let text := text ++ joint ++ breaks ++ line
      let lastBreak := c.breakText
      let (breaks, _, c) ← blockBreaks indent (c.rest.length + 1) [] 0 c.skipBreak
      blockLines literal indent n text lastBreak breaks blankHere c

def chomping? (c : Cursor) : Option Chomping :=
  if c.is '+' then some .keep else if c.is '-' then some .strip else none

/-- The indicators of a block scalar in either order. -/
def blockHeader (c : Cursor) : Option (Chomping × Nat × Cursor) :=
  let digit (c : Cursor) : Option (Nat × Cursor) :=
    match c.peek with
    | some ch => if ch.isDigit then some (ch.toNat - 48, c.skip) else some (0, c)
    | none => some (0, c)
  let zero (c : Cursor) := c.is '0'
  match chomping? c with
  | some chomp => if zero c.skip then none else (digit c.skip).map fun (n, c) => (chomp, n, c)
  | none =>
    if zero c then none
    else (digit c).map fun (n, c') =>
      if n = 0 then (.clip, 0, c')
      else match chomping? c' with
        | some chomp => (chomp, n, c'.skip)
        | none => (.clip, n, c')

/-- A block scalar, read on after its indicator; `parent` is the indentation around it. -/
def block (literal : Bool) (parent : Int) (c : Cursor) : Option (List Char × Cursor) := do
  let (chomp, increment, c) ← blockHeader c
  let c := c.skipBlanks
  let c := if c.is '#' then c.skipLineRest else c
  if !c.atBreakOrEnd then none
  else do
    let c := c.skipBreak
    let given := if increment = 0 then 0 else (if 0 ≤ parent then parent.toNat + increment else increment)
    let (breaks, widest, c) ← blockBreaks given (c.rest.length + 1) [] 0 c
    let indent := if given = 0 then max (max widest (parent + 1).toNat) 1 else given
    let (text, lastBreak, breaks, c) ← blockLines literal indent (c.rest.length + 1) [] [] breaks false c
    let ending := match chomp with
      | .strip => []
      | .clip => lastBreak
      | .keep => lastBreak ++ breaks
    some (text ++ ending, c)

/-- The name of an anchor or alias. -/
def name? (c : Cursor) : Option (String × Cursor) :=
  let (name, c) := c.span isNameChar
  let closed := c.atGap || c.peek.any fun ch => "?:,]\x7d%@\x60".toList.contains ch
  if name.isEmpty || !closed then none else some (String.ofList name, c)

def isUriChar (verbatim : Bool) (c : Char) : Bool :=
  isNameChar c || ";/?:@&=+$.%!~*'()".toList.contains c || (verbatim && (c == ',' || c == '[' || c == ']'))

/-- Replaces percent escapes. -/
def unescapeUri : List Char → Option (List UInt8)
  | '%' :: a :: b :: rest => do
    let n ← hexNumber? [a, b]
    return n.toUInt8 :: (← unescapeUri rest)
  | '%' :: _ => none
  | c :: rest => do return (String.ofList [c]).toUTF8.toList ++ (← unescapeUri rest)
  | [] => some []

def uri? (verbatim : Bool) (c : Cursor) : Option (String × Cursor) := do
  let (raw, c) := c.span (isUriChar verbatim)
  let bytes ← unescapeUri raw
  let text ← String.fromUTF8? (ByteArray.mk bytes.toArray)
  some (text, c)

/-- A handle: an exclamation mark, perhaps a name and another exclamation mark. -/
def handle (c : Cursor) : String × Cursor :=
  let (name, c) := c.skip.span isNameChar
  let start := "!" ++ String.ofList name
  if c.is '!' then (start ++ "!", c.skip) else (start, c)

/-- A tag as handle and suffix; an empty handle says that the suffix is the whole tag. -/
def tag? (inFlow : Bool) (c : Cursor) : Option (Token × Cursor) := do
  let (t, c) ←
    if c.skip.is '<' then do
      let (text, c) ← uri? true c.skip.skip
      if text = "" ∨ !c.is '>' then none else some (Token.tag "" text, c.skip)
    else
      let (start, afterStart) := handle c
      if start ≠ "!" ∧ start.endsWith "!" then do
        let (suffix, c) ← uri? false afterStart
        if suffix = "" then none else some (Token.tag start suffix, c)
      else do
        let (suffix, c) ← uri? false afterStart
        let suffix := String.ofList (start.toList.drop 1) ++ suffix
        some (if suffix = "" then Token.tag "" "!" else Token.tag "!" suffix, c)
  if c.atGap || (inFlow && c.is ',') then some (t, c) else none

def versionNumber? (c : Cursor) : Option (Nat × Cursor) :=
  let (digits, c) := c.span Char.isDigit
  if digits.isEmpty || 9 < digits.length then none
  else some (digits.foldl (fun n ch => 10 * n + (ch.toNat - 48)) 0, c)

/-- A directive up to the end of its line. -/
def directive? (c : Cursor) : Option (Token × Cursor) := do
  let (name, c) := c.skip.span isNameChar
  if !c.atGap then none
  else do
    let (t, c) ← match String.ofList name with
      | "YAML" => do
        let (major, c) ← versionNumber? c.skipBlanks
        if !c.is '.' then none
        else do
          let (minor, c) ← versionNumber? c.skip
          some (Token.versionDirective major minor, c)
      | "TAG" => do
        let c := c.skipBlanks
        if !c.is '!' then none
        else
          let (start, c) := handle c
          if (start ≠ "!" ∧ !start.endsWith "!") ∨ !c.atBlank then none
          else do
            let (pre, c) ← uri? true c.skipBlanks
            if pre = "" ∨ !c.atGap then none else some (Token.tagDirective start pre, c)
      | _ => none
    let c := c.skipBlanks
    let c := if c.is '#' then c.skipLineRest else c
    if c.atBreakOrEnd then some (t, c.skipBreak) else none

end Token

end RouteTable.Yaml
