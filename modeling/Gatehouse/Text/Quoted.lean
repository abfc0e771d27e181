import Gatehouse.Text.Unprintable

/-!
# `Gatehouse.Text.Quoted` — text shown in quotes

Error messages and listings show untrusted text between double quotes, with everything that would not be
seen escaped.

## Contents
- `hexDigits`: a number in lowercase hexadecimal.
- `escape`: what one character is shown as.
- `quoted`, `quotedList`: a string, and a list of strings, in quotes.
-/

namespace Gatehouse.Text

/-- A number in lowercase hexadecimal, without padding. -/
def hexDigits (n : Nat) : List Char :=
  Nat.toDigits 16 n

/-- What one character is shown as: quotes, backslashes and the common controls have short escapes, other
    unprintable characters are shown by their code point. -/
def escape (c : Char) : List Char :=
  if c = Char.ofNat 0 then ['\\', '0']
  else if c = '\t' then ['\\', 't']
  else if c = '\r' then ['\\', 'r']
  else if c = '\n' then ['\\', 'n']
  else if c = '\\' then ['\\', '\\']
  else if c = '"' then ['\\', '"']
  else if isUnprintable c then ['\\', 'u', '\x7b'] ++ hexDigits c.toNat ++ ['\x7d']
  else [c]

/-- A string in quotes. -/
def quoted (s : String) : String :=
  String.ofList ('"' :: s.toList.flatMap escape ++ ['"'])

/-- A list of strings in quotes, between brackets. -/
def quotedList (ss : List String) : String :=
  "[" ++ String.intercalate ", " (ss.map quoted) ++ "]"

end Gatehouse.Text
