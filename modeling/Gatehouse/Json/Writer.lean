import Gatehouse.Json.Basic

/-!
# `Gatehouse.Json.Writer` — writing JSON text

The text is compact: no white space between tokens, and only what must be escaped is escaped.

## Contents
- `escapeChar`, `quote`: strings.
- `Json.write`: any value. Object members are written in the order they have.
-/

namespace Gatehouse.Json

/-- A digit of a lowercase hexadecimal numeral. -/
def hexDigit (n : Nat) : Char :=
  Nat.digitChar n

/-- What a character is written as inside a string. -/
def escapeChar (c : Char) : List Char :=
  if c = '"' then ['\\', '"']
  else if c = '\\' then ['\\', '\\']
  else if c = Char.ofNat 8 then ['\\', 'b']
  else if c = Char.ofNat 12 then ['\\', 'f']
  else if c = '\n' then ['\\', 'n']
  else if c = '\r' then ['\\', 'r']
  else if c = '\t' then ['\\', 't']
  else if c.toNat < 0x20 then ['\\', 'u', '0', '0', hexDigit (c.toNat / 16), hexDigit (c.toNat % 16)]
  else [c]

/-- A string in quotes. -/
def quote (s : String) : String :=
  String.ofList ('"' :: s.toList.flatMap escapeChar ++ ['"'])

mutual

/-- The text of a value. -/
def write : Json → String
  | .null => "null"
  | .bool true => "true"
  | .bool false => "false"
  | .int i => toString i
  | .real m e => toString m ++ "e" ++ toString e
  | .str s => quote s
  | .garbled => "\"\\ud800\""
  | .arr items => "[" ++ writeItems items ++ "]"
  | .obj members => "\x7b" ++ writeMembers members ++ "\x7d"

/-- The texts of list elements, with commas between them. -/
def writeItems : List Json → String
  | [] => ""
  | [item] => write item
  | item :: items => write item ++ "," ++ writeItems items

/-- The texts of object members, with commas between them. -/
def writeMembers : List (String × Json) → String
  | [] => ""
  | [(name, value)] => quote name ++ ":" ++ write value
  | (name, value) :: members => quote name ++ ":" ++ write value ++ "," ++ writeMembers members

end

end Gatehouse.Json
