import RouteTable.Yaml.Token

/-!
# Cutting a YAML text into tokens

`Token.scan` answers the tokens of a text in order.  Indentation opens and closes block collections.  A colon can turn
the token before it into a key; which token that may be is remembered as a `KeyCandidate` for every level of brackets.
-/

namespace RouteTable.Yaml

/-- A token that becomes a key if a colon follows it on its line. -/
structure KeyCandidate where
  /-- Number of tokens before it. -/
  position : Nat
  index : Nat
  line : Nat
  column : Nat
  /-- Nothing but a key can stand there. -/
  required : Bool

structure Lexer where
  cursor : Cursor
  tokens : Array Token := #[]
  /-- The column of the innermost block collection, `-1` outside all of them. -/
  indent : Int := -1
  outerIndents : List Int := []
  keyAllowed : Bool := true
  /-- The candidate outside brackets. -/
  blockKey : Option KeyCandidate := none
  /-- The candidates of open brackets, the innermost first. -/
  flowKeys : List (Option KeyCandidate) := []

namespace Lexer

def inFlow (l : Lexer) : Bool := !l.flowKeys.isEmpty

def candidate (l : Lexer) : Option KeyCandidate :=
  match l.flowKeys with
  | k :: _ => k
  | [] => l.blockKey

def setCandidate (l : Lexer) (k : Option KeyCandidate) : Lexer :=
  match l.flowKeys with
  | _ :: rest => { l with flowKeys := k :: rest }
  | [] => { l with blockKey := k }

def emit (l : Lexer) (t : Token) : Lexer := { l with tokens := l.tokens.push t }

/-- Forgets the candidate, unless it has to become a key. -/
def dropCandidate (l : Lexer) : Option Lexer :=
  match l.candidate with
  | some k => if k.required then none else some (l.setCandidate none)
  | none => some l

/-- A candidate is stale on a later line and 1024 characters further on. -/
def isStale (c : Cursor) (k : KeyCandidate) : Bool := k.line < c.line || k.index + 1024 < c.index

def dropStaleOne (c : Cursor) (k : Option KeyCandidate) : Option (Option KeyCandidate) :=
  match k with
  | some k => if isStale c k then (if k.required then none else some none) else some (some k)
  | none => some none

def dropStale (l : Lexer) : Option Lexer := do
  let blockKey ← dropStaleOne l.cursor l.blockKey
  let flowKeys ← l.flowKeys.mapM (dropStaleOne l.cursor)
  some { l with blockKey, flowKeys }

/-- Notes that the next token may become a key. -/
def noteCandidate (l : Lexer) : Option Lexer :=
  if l.keyAllowed then do
    let l ← l.dropCandidate
    let c := l.cursor
    some (l.setCandidate (some
      { position := l.tokens.size, index := c.index, line := c.line, column := c.column
        required := !l.inFlow && l.indent == c.column }))
  else some l

/-- Opens a block collection at a column further right, before the token at a position. -/
def openBlock (l : Lexer) (column position : Nat) (t : Token) : Lexer :=
  if !l.inFlow && l.indent < column then
    { l with indent := column, outerIndents := l.indent :: l.outerIndents
             tokens := (l.tokens.toList.take position ++ t :: l.tokens.toList.drop position).toArray }
  else l

/-- Closes the block collections that are further right than a column. -/
def closeBlocks (column : Int) (l : Lexer) : Lexer :=
  if l.inFlow then l
  else
    let closed := (l.indent :: l.outerIndents).takeWhile (column < ·)
    match (l.indent :: l.outerIndents).drop closed.length with
    | indent :: outerIndents =>
      { l with indent, outerIndents, tokens := l.tokens ++ (closed.map fun _ => Token.blockEnd).toArray }
    | [] => l

def move (l : Lexer) (c : Cursor) : Lexer := { l with cursor := c }

def allowKey (l : Lexer) (b : Bool) : Lexer := { l with keyAllowed := b }

/-- Steps over blanks, comments and line breaks. -/
def skipToToken : Nat → Lexer → Lexer
  | 0, l => l
  | n + 1, l =>
    let c := l.cursor
    let c := if c.column = 0 ∧ c.is '\ufeff' then c.skip else c
    let c := (c.span fun ch => ch == ' ' || (ch == '\t' && (l.inFlow || !l.keyAllowed))).2
    let c := if c.is '#' then c.skipLineRest else c
    if c.atBreak then skipToToken n (({ l with keyAllowed := l.keyAllowed || !l.inFlow }).move c.skipBreak)
    else l.move c

/-- Ends everything that is open in the block context. -/
def endBlocks (l : Lexer) : Option Lexer := do
  let l ← (closeBlocks (-1) l).dropCandidate
  some (l.allowKey false)

def directive (l : Lexer) : Option Lexer := do
  let l ← l.endBlocks
  let (t, c) ← Token.directive? l.cursor
  some ((l.emit t).move c)

def documentMark (l : Lexer) (t : Token) : Option Lexer := do
  let l ← l.endBlocks
  some ((l.emit t).move (Cursor.skipMany 3 l.cursor))

def openFlow (l : Lexer) (t : Token) : Option Lexer := do
  let l ← l.noteCandidate
  some (({ l with flowKeys := none :: l.flowKeys, keyAllowed := true }.emit t).move l.cursor.skip)

def closeFlow (l : Lexer) (t : Token) : Option Lexer := do
  let l ← l.dropCandidate
  some (({ l with flowKeys := l.flowKeys.tail, keyAllowed := false }.emit t).move l.cursor.skip)

def flowEntry (l : Lexer) : Option Lexer := do
  let l ← l.dropCandidate
  some (((l.allowKey true).emit .flowEntry).move l.cursor.skip)

def blockEntry (l : Lexer) : Option Lexer :=
  if !l.inFlow && !l.keyAllowed then none
  else do
    let l ← (l.openBlock l.cursor.column l.tokens.size .blockSequenceStart).dropCandidate
    some (((l.allowKey true).emit .blockEntry).move l.cursor.skip)

def key (l : Lexer) : Option Lexer :=
  if !l.inFlow && !l.keyAllowed then none
  else do
    let l ← (l.openBlock l.cursor.column l.tokens.size .blockMappingStart).dropCandidate
    some (((l.allowKey (!l.inFlow)).emit .key).move l.cursor.skip)

/-- A colon: makes the candidate a key, or stands after a key without one. -/
def value (l : Lexer) : Option Lexer :=
  match l.candidate with
  | some k =>
    let tokens := (l.tokens.toList.take k.position ++ Token.key :: l.tokens.toList.drop k.position).toArray
    let l := ({ l with tokens }.openBlock k.column k.position .blockMappingStart).setCandidate none
    some (((l.allowKey false).emit .value).move l.cursor.skip)
  | none =>
    if !l.inFlow && !l.keyAllowed then none
    else
      let l := l.openBlock l.cursor.column l.tokens.size .blockMappingStart
      some (((l.allowKey (!l.inFlow)).emit .value).move l.cursor.skip)

/-- A token that may become a key. -/
def keyLike (l : Lexer) (read : Cursor → Option (Token × Cursor)) : Option Lexer := do
  let l ← l.noteCandidate
  let (t, c) ← read l.cursor
  some (((l.allowKey false).emit t).move c)

def quoted (single : Bool) (c : Cursor) : Option (Token × Cursor) :=
  (Token.quoted single (c.rest.length + 1) [] c.skip).map fun (text, c) => (.scalar (String.ofList text) false, c)

def plain (l : Lexer) : Option Lexer := do
  let l ← l.noteCandidate
  let (text, lineEnded, c) ← Token.plain l.inFlow (l.indent + 1) (l.cursor.rest.length + 1) [] [] false l.cursor
  some (((l.allowKey lineEnded).emit (.scalar (String.ofList text) true)).move c)

def block (l : Lexer) (literal : Bool) : Option Lexer := do
  let l ← l.dropCandidate
  let (text, c) ← Token.block literal l.indent l.cursor.skip
  some (((l.allowKey true).emit (.scalar (String.ofList text) false)).move c)

/-- A character that starts a plain scalar, given the place after it. -/
def startsPlain (inFlow : Bool) (ch : Char) (next : Cursor) : Bool :=
  !"-?:,[]\x7b\x7d#&*!|>'\"%@\x60".toList.contains ch
    || (ch == '-' && !next.atBlank) || (!inFlow && (ch == '?' || ch == ':') && !next.atGap)

/-- Reads one more token. -/
def next (l : Lexer) (ch : Char) : Option Lexer :=
  let c := l.cursor
  let after := c.ahead 1
  if c.column = 0 ∧ ch = '%' then l.directive
  else if c.atDocumentMark '-' then l.documentMark .documentStart
  else if c.atDocumentMark '.' then l.documentMark .documentEnd
  else if ch = '[' then l.openFlow .flowSequenceStart
  else if ch = '\x7b' then l.openFlow .flowMappingStart
  else if ch = ']' then l.closeFlow .flowSequenceEnd
  else if ch = '\x7d' then l.closeFlow .flowMappingEnd
  else if ch = ',' then l.flowEntry
  else if ch = '-' ∧ after.atGap then l.blockEntry
  else if ch = '?' ∧ (l.inFlow ∨ after.atGap) then l.key
  else if ch = ':' ∧ (l.inFlow ∨ after.atGap) then l.value
  else if ch = '*' then l.keyLike fun c => (Token.name? c.skip).map fun (name, c) => (.aliasOf name, c)
  else if ch = '&' then l.keyLike fun c => (Token.name? c.skip).map fun (name, c) => (.anchor name, c)
  else if ch = '!' then l.keyLike (Token.tag? l.inFlow)
  else if ch = '|' ∧ !l.inFlow then l.block true
  else if ch = '>' ∧ !l.inFlow then l.block false
  else if ch = '\'' then l.keyLike (quoted true)
  else if ch = '"' then l.keyLike (quoted false)
  else if startsPlain l.inFlow ch after then l.plain
  else none

def run : Nat → Lexer → Option Lexer
  | 0, _ => none
  | n + 1, l => do
    let l ← (skipToToken (l.cursor.rest.length + 1) l).dropStale
    let l := closeBlocks l.cursor.column l
    match l.cursor.peek with
    | none => l.endBlocks
    | some ch => do run n (← l.next ch)

end Lexer

/-- The tokens of a text; a byte order mark in front of it does not count. -/
def Token.scan (text : String) : Option (List Token) :=
  let cs := match text.toList with
    | '\ufeff' :: rest => rest
    | cs => cs
  if cs.all isPermitted then
    (Lexer.run (cs.length + 1) { cursor := { rest := cs } }).map (·.tokens.toList)
  else none

end RouteTable.Yaml
