import Gatehouse.Toml.Basic

/-!
# `Gatehouse.Toml.Strings` — the four string forms of TOML

Basic strings have escapes, literal strings have none, and each of them has a form that spans lines. Every
reader here starts after the opening quotes and gives the text with what follows the closing ones.

## Contents
- `isPlain`: the characters that stand for themselves.
- `basicBody?`, `literalBody?`: the forms on one line.
- `basicBlock?`, `literalBlock?`: the forms on several lines.
- `quotedString?`: any form, with its opening quotes.
-/

namespace Gatehouse.Toml

/-- Whether a character may stand in strings and comments: no control character other than the tab. -/
def isPlain (c : Char) : Bool :=
  c = '\t' || (0x20 ≤ c.toNat && c.toNat ≠ 0x7f)

/-- Space or tab. -/
def isGap (c : Char) : Bool :=
  c = ' ' || c = '\t'

/-- The value of a hexadecimal digit. -/
def hexDigit? (c : Char) : Option Nat :=
  if c.isDigit then some (c.toNat - '0'.toNat)
  else if 'a' ≤ c ∧ c ≤ 'f' then some (c.toNat - 'a'.toNat + 10)
  else if 'A' ≤ c ∧ c ≤ 'F' then some (c.toNat - 'A'.toNat + 10)
  else none

/-- The character whose code point is written in hexadecimal. -/
def codePoint? (digits : List Char) : Option Char := do
  let n ← digits.foldlM (fun n d => (hexDigit? d).map (n * 16 + ·)) 0
  if n < 0xd800 ∨ (0xdfff < n ∧ n < 0x110000) then some (Char.ofNat n) else none

/-- The character of a short escape. -/
def shortEscape? : Char → Option Char
  | 'b' => some (Char.ofNat 8)
  | 't' => some '\t'
  | 'n' => some '\n'
  | 'f' => some (Char.ofNat 12)
  | 'r' => some '\r'
  | '"' => some '"'
  | '\\' => some '\\'
  | _ => none

/-- A basic string on one line. -/
def basicBody? (acc : List Char) : List Char → Option (String × List Char)
  | [] => none
  | '"' :: rest => some (String.ofList acc.reverse, rest)
  | '\\' :: 'u' :: a :: b :: c :: d :: rest =>
      match codePoint? [a, b, c, d] with
      | some x => basicBody? (x :: acc) rest
      | none => none
  | '\\' :: 'U' :: a :: b :: c :: d :: e :: f :: g :: h :: rest =>
      match codePoint? [a, b, c, d, e, f, g, h] with
      | some x => basicBody? (x :: acc) rest
      | none => none
  | '\\' :: e :: rest =>
      match shortEscape? e with
      | some x => basicBody? (x :: acc) rest
      | none => none
  | c :: rest => if isPlain c && c != '\\' then basicBody? (c :: acc) rest else none

/-- A literal string on one line. -/
def literalBody? (acc : List Char) : List Char → Option (String × List Char)
  | [] => none
  | '\'' :: rest => some (String.ofList acc.reverse, rest)
  | c :: rest => if isPlain c then literalBody? (c :: acc) rest else none

/-- The end of a string on several lines, after its closing quotes: up to two more quotes still belong to
    the text. -/
def closeBlock (quote : Char) (acc : List Char) : List Char → String × List Char
  | a :: b :: rest =>
      if a = quote ∧ b = quote then (String.ofList (b :: a :: acc).reverse, rest)
      else if a = quote then (String.ofList (a :: acc).reverse, b :: rest)
      else (String.ofList acc.reverse, a :: b :: rest)
  | [a] => if a = quote then (String.ofList (a :: acc).reverse, []) else (String.ofList acc.reverse, [a])
  | [] => (String.ofList acc.reverse, [])

/-- A basic string on several lines. While `skipping`, which a backslash at the end of a line begins, white
    space and line ends are passed over. -/
def basicBlock? (skipping : Bool) (acc : List Char) : List Char → Option (String × List Char)
  | [] => none
  | '"' :: '"' :: '"' :: rest => some (closeBlock '"' acc rest)
  | '\\' :: 'u' :: a :: b :: c :: d :: rest =>
      match codePoint? [a, b, c, d] with
      | some x => basicBlock? false (x :: acc) rest
      | none => none
  | '\\' :: 'U' :: a :: b :: c :: d :: e :: f :: g :: h :: rest =>
      match codePoint? [a, b, c, d, e, f, g, h] with
      | some x => basicBlock? false (x :: acc) rest
      | none => none
  | '\\' :: e :: rest =>
      match shortEscape? e with
      | some x => basicBlock? false (x :: acc) rest
      | none =>
          if ((e :: rest).dropWhile isGap).head? = some '\n' then basicBlock? true acc rest else none
  | c :: rest =>
      if skipping && (isGap c || c = '\n') then basicBlock? true acc rest
      else if (isPlain c && c != '\\') || c = '\n' then basicBlock? false (c :: acc) rest
      else none

/-- A literal string on several lines. -/
def literalBlock? (acc : List Char) : List Char → Option (String × List Char)
  | [] => none
  | '\'' :: '\'' :: '\'' :: rest => some (closeBlock '\'' acc rest)
  | c :: rest => if isPlain c || c = '\n' then literalBlock? (c :: acc) rest else none

/-- The text after a line end at its very start, which does not belong to a string on several lines. -/
def afterNewline : List Char → List Char
  | '\n' :: rest => rest
  | rest => rest

/-- A string in any of the four forms. -/
def quotedString? : List Char → Option (String × List Char)
  | '"' :: '"' :: '"' :: rest => basicBlock? false [] (afterNewline rest)
  | '"' :: rest => basicBody? [] rest
  | '\'' :: '\'' :: '\'' :: rest => literalBlock? [] (afterNewline rest)
  | '\'' :: rest => literalBody? [] rest
  | _ => none

end Gatehouse.Toml
