import RouteTable.Decimal.Notation
import RouteTable.Json

/-!
# JSON text

`Json.render` writes a value on one line without blanks, `Json.renderPretty` over several lines with two blanks for
each level.  Text beyond ASCII is written as it is; control characters, quotes and backslashes are escaped.
-/

namespace RouteTable.Json

def hexDigit (n : Nat) : Char := if n < 10 then Char.ofNat (48 + n) else Char.ofNat (87 + n)

def escapeChar (c : Char) : List Char :=
  if c = '"' then ['\\', '"']
  else if c = '\\' then ['\\', '\\']
  else if c = '\n' then ['\\', 'n']
  else if c = '\r' then ['\\', 'r']
  else if c = '\t' then ['\\', 't']
  else if c = '\x08' then ['\\', 'b']
  else if c = '\x0c' then ['\\', 'f']
  else if c.toNat < 32 then ['\\', 'u', '0', '0', hexDigit (c.toNat / 16), hexDigit (c.toNat % 16)]
  else [c]

/-- A string between quotes. -/
def quote (s : String) : String := "\"" ++ String.ofList (s.toList.flatMap escapeChar) ++ "\""

end Json

/-- A double that is not finite has no JSON text and is written as `null`. -/
def Number.render : Number → String
  | .int n => toString n
  | .float x => (renderFloat? x).getD "null"

namespace Json

mutual
def render : Json → String
  | null => "null"
  | bool b => if b then "true" else "false"
  | number n => n.render
  | string s => quote s
  | array items => "[" ++ ",".intercalate (renderItems items) ++ "]"
  | object fields => "\x7b" ++ ",".intercalate (renderFields fields) ++ "\x7d"

def renderItems : List Json → List String
  | [] => []
  | v :: vs => render v :: renderItems vs

def renderFields : List (String × Json) → List String
  | [] => []
  | (k, v) :: rest => (quote k ++ ":" ++ render v) :: renderFields rest
end

/-- Line break and indentation of a level. -/
def newline (level : Nat) : String := "\n" ++ "".pushn ' ' (2 * level)

mutual
def renderAt (level : Nat) : Json → String
  | array (v :: vs) =>
    "[" ++ newline (level + 1) ++ ("," ++ newline (level + 1)).intercalate (itemsAt (level + 1) (v :: vs))
      ++ newline level ++ "]"
  | object (f :: fs) =>
    "\x7b" ++ newline (level + 1) ++ ("," ++ newline (level + 1)).intercalate (fieldsAt (level + 1) (f :: fs))
      ++ newline level ++ "\x7d"
  | v => render v

def itemsAt (level : Nat) : List Json → List String
  | [] => []
  | v :: vs => renderAt level v :: itemsAt level vs

def fieldsAt (level : Nat) : List (String × Json) → List String
  | [] => []
  | (k, v) :: rest => (quote k ++ ": " ++ renderAt level v) :: fieldsAt level rest
end

def renderPretty (v : Json) : String := renderAt 0 v

end Json

end RouteTable
