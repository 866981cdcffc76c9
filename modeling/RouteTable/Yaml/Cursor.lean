/-!
# Places in a YAML text

A cursor is the rest of a text together with the number of characters, lines and columns before it.  Blanks are spaces
and tabs; line breaks are the two of ASCII, together or alone, and the three of Unicode.
-/

namespace RouteTable.Yaml

def isBlank (c : Char) : Bool := c == ' ' || c == '\t'

def isBreak (c : Char) : Bool := c == '\n' || c == '\r' || c == '\u0085' || c == '\u2028' || c == '\u2029'

/-- Letters, digits and the marks of names. -/
def isNameChar (c : Char) : Bool := c.isAlphanum || c == '_' || c == '-'

/-- Characters that a YAML text may hold. -/
def isPermitted (c : Char) : Bool :=
  let n := c.toNat
  n == 9 || n == 10 || n == 13 || (0x20 ≤ n && n ≤ 0x7e) || n == 0x85 || (0xa0 ≤ n && n ≤ 0xfffd)
    || 0x10000 ≤ n

structure Cursor where
  rest : List Char
  index : Nat := 0
  line : Nat := 0
  column : Nat := 0

namespace Cursor

def peek (c : Cursor) : Option Char := c.rest.head?

def is (c : Cursor) (ch : Char) : Bool := c.peek == some ch

def atEnd (c : Cursor) : Bool := c.rest.isEmpty

def atBlank (c : Cursor) : Bool := c.peek.any isBlank

def atBreak (c : Cursor) : Bool := c.peek.any isBreak

def atBreakOrEnd (c : Cursor) : Bool := c.peek.all isBreak

/-- A blank, a line break or the end. -/
def atGap (c : Cursor) : Bool := c.peek.all fun ch => isBlank ch || isBreak ch

def skip (c : Cursor) : Cursor :=
  match c.rest with
  | [] => c
  | _ :: rest => { rest, index := c.index + 1, line := c.line, column := c.column + 1 }

def skipMany : Nat → Cursor → Cursor
  | 0, c => c
  | n + 1, c => skipMany n c.skip

/-- The place some characters further on. -/
def ahead (c : Cursor) (n : Nat) : Cursor := { c with rest := c.rest.drop n }

/-- Steps over a line break, if there is one. -/
def skipBreak (c : Cursor) : Cursor :=
  match c.rest with
  | '\r' :: '\n' :: rest => { rest, index := c.index + 2, line := c.line + 1, column := 0 }
  | ch :: rest => if isBreak ch then { rest, index := c.index + 1, line := c.line + 1, column := 0 } else c
  | [] => c

/-- What a line break contributes to a text. -/
def breakText (c : Cursor) : List Char :=
  match c.peek with
  | some '\u2028' => ['\u2028']
  | some '\u2029' => ['\u2029']
  | some ch => if isBreak ch then ['\n'] else []
  | none => []

/-- The longest run of characters of some kind, none of which may be a line break, and the place after it. -/
def span (p : Char → Bool) (c : Cursor) : List Char × Cursor :=
  let run := c.rest.takeWhile p
  (run, { c with rest := c.rest.drop run.length, index := c.index + run.length, column := c.column + run.length })

def skipBlanks (c : Cursor) : Cursor := (c.span isBlank).2

/-- Steps to the end of the line. -/
def skipLineRest (c : Cursor) : Cursor := (c.span (!isBreak ·)).2

/-- A line that is only `---` or starts with it, or likewise `...`. -/
def atDocumentMark (mark : Char) (c : Cursor) : Bool :=
  c.column == 0 && c.rest.take 3 == [mark, mark, mark] && (c.ahead 3).atGap

def atAnyDocumentMark (c : Cursor) : Bool := c.atDocumentMark '-' || c.atDocumentMark '.'

end Cursor

end RouteTable.Yaml
