import RouteTable.Text.Unprintable

/-!
# Quoted text in reports

`Text.quoted` writes a text between double quotes; quotes, backslashes and characters that do not print are escaped.
`Report` lays out values as names, tuples, lists, maps and records on one line.
-/

namespace RouteTable.Text

def hexDigits (n : Nat) : List Char := Nat.toDigits 16 n

def quotedChar (c : Char) : List Char :=
  if c = '\x00' then ['\\', '0']
  else if c = '\t' then ['\\', 't']
  else if c = '\r' then ['\\', 'r']
  else if c = '\n' then ['\\', 'n']
  else if c = '"' then ['\\', '"']
  else if c = '\\' then ['\\', '\\']
  else if isUnprintable c then ['\\', 'u', '\x7b'] ++ hexDigits c.toNat ++ ['\x7d']
  else [c]

def quoted (s : String) : String := "\"" ++ String.ofList (s.toList.flatMap quotedChar) ++ "\""

end RouteTable.Text

namespace RouteTable.Report

def list (items : List String) : String := "[" ++ ", ".intercalate items ++ "]"

def texts (items : List String) : String := list (items.map Text.quoted)

def tuple (name : String) (item : String) : String := name ++ "(" ++ item ++ ")"

def optional : Option String → String
  | none => "None"
  | some s => tuple "Some" s

def map (entries : List (String × String)) : String :=
  "\x7b" ++ ", ".intercalate (entries.map fun (k, v) => Text.quoted k ++ ": " ++ v) ++ "\x7d"

def field (name value : String) : String := name ++ ": " ++ value

def record (name : String) (fields : List String) : String :=
  name ++ " \x7b " ++ ", ".intercalate fields ++ " \x7d"

def flag (b : Bool) : String := if b then "true" else "false"

end RouteTable.Report
