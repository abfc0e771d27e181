import Gatehouse.Toml.Document
import Gatehouse.Toml.Scalars

/-!
# `Gatehouse.Toml.Reader` — reading TOML text

## Contents
- `keyPath?`: a dotted key.
- `value?`: a value of any kind. Arrays and inline tables nest at most as deep as `maxDepth` says; `items?` and
  `members?` read what is in them.
- `Toml.read?`: the entries of a document.
-/

namespace Gatehouse.Toml

/-- One more than the number of arrays and inline tables that may be nested, and than the number of parts
    that a dotted key may have. -/
def maxDepth : Nat := 80

/-- The text after spaces and tabs. -/
def skipGap (cs : List Char) : List Char :=
  cs.dropWhile isGap

/-- The text after a comment, if it is well formed. -/
def skipComment? : List Char → Option (List Char)
  | '#' :: rest =>
      let after := rest.dropWhile isPlain
      if after.isEmpty || after.head? = some '\n' then some after else none
  | cs => some cs

/-- The text of the next line, if nothing but a comment is left on this one. -/
def lineEnd? (cs : List Char) : Option (List Char) :=
  match skipComment? (skipGap cs) with
  | some [] => some []
  | some ('\n' :: rest) => some rest
  | _ => none

/-- The text after gaps, line ends and comments. -/
def skipLines? (cs : List Char) : Option (List Char) :=
  match skipGap cs with
  | '\n' :: rest =>
      if rest.length < cs.length then skipLines? rest else none
  | '#' :: rest =>
      match skipComment? ('#' :: rest) with
      | some ('\n' :: rest') => if rest'.length < cs.length then skipLines? rest' else none
      | some [] => some []
      | _ => none
  | cs => some cs
termination_by cs.length

/-! ## Keys -/

/-- Whether a character may stand in a key without quotes. -/
def isKeyChar (c : Char) : Bool :=
  c.isAlphanum || c = '-' || c = '_'

/-- One part of a key. -/
def keyPart? : List Char → Option (String × List Char)
  | '"' :: rest => basicBody? [] rest
  | '\'' :: rest => literalBody? [] rest
  | cs =>
      let word := cs.takeWhile isKeyChar
      if word.isEmpty then none else some (String.ofList word, cs.dropWhile isKeyChar)

/-- The parts of a key after those in `acc`, which are in reverse. -/
def keyPartsFrom? (acc : List String) (cs : List Char) : Option (List String × List Char) :=
  match keyPart? (skipGap cs) with
  | none => none
  | some (part, rest) =>
      match skipGap rest with
      | '.' :: rest' =>
          if rest'.length < cs.length then keyPartsFrom? (part :: acc) rest' else none
      | rest' => some ((part :: acc).reverse, rest')
termination_by cs.length

/-- A dotted key and what follows it. -/
def keyPath? (cs : List Char) : Option (List String × List Char) :=
  match keyPartsFrom? [] cs with
  | some (path, rest) => if path.length < maxDepth then some (path, rest) else none
  | none => none

/-! ## Values -/

/-- The elements of an array after those in `acc`, which are in reverse, up to its end. Each of them is read by
    `value`. -/
def items? (value : List Char → Option (Toml × List Char)) (acc : List Toml) (cs : List Char) :
    Option (Toml × List Char) :=
  match skipLines? cs with
  | none => none
  | some (']' :: rest) => some (.array acc.reverse, rest)
  | some start =>
      match value start with
      | none => none
      | some (v, rest) =>
          match skipLines? rest with
          | some (',' :: rest') =>
              if rest'.length < cs.length then items? value (v :: acc) rest' else none
          | some (']' :: rest') => some (.array (v :: acc).reverse, rest')
          | _ => none
termination_by cs.length

/-- The lines of an inline table after those in `acc`, which are in reverse, up to its end. The value of each of
    them is read by `value`. -/
def members? (value : List Char → Option (Toml × List Char)) (acc : List (List String × Toml))
    (cs : List Char) : Option (Toml × List Char) :=
  match keyPath? cs with
  | some (path, '=' :: rest) =>
      match value (skipGap rest) with
      | none => none
      | some (v, rest) =>
          match skipGap rest with
          | ',' :: rest' =>
              if rest'.length < cs.length then members? value ((path, v) :: acc) rest' else none
          | '\x7d' :: rest' =>
              (inlineBranch? ((path, v) :: acc).reverse).map fun branch =>
                (.table (finishEntries branch), rest')
          | _ => none
  | _ => none
termination_by cs.length

/-- A value and what follows it, where `depth` more arrays and inline tables may be opened. -/
def value? : (depth : Nat) → List Char → Option (Toml × List Char)
  | _, '"' :: rest => (quotedString? ('"' :: rest)).map fun (s, rest) => (.string s, rest)
  | _, '\'' :: rest => (quotedString? ('\'' :: rest)).map fun (s, rest) => (.string s, rest)
  | depth + 1, '[' :: rest => items? (value? depth) [] rest
  | depth + 1, '\x7b' :: rest =>
      match skipGap rest with
      | '\x7d' :: rest => some (.table [], rest)
      | rest => members? (value? depth) [] rest
  | _, cs =>
      let (word, rest) := scalarWord cs
      (scalar? word).map fun v => (v, rest)

/-! ## Documents -/

/-- The text after the second of two closing brackets. -/
def closeElement? : List Char → Option (List Char)
  | ']' :: ']' :: rest => some rest
  | _ => none

/-- What the first line of a text makes of the current header and the tree, and the lines after it. -/
def line? (header : List String) (root : Branch) (cs : List Char) :
    Option (List String × Branch × List Char) :=
  match skipGap cs with
  | '[' :: '[' :: rest => do
      let (path, rest) ← keyPath? rest
      let rest ← closeElement? rest
      let rest ← lineEnd? rest
      let root ← openElement? path root
      return (path, root, rest)
  | '[' :: rest => do
      let (path, rest) ← keyPath? rest
      let rest ← expect? ']' rest
      let rest ← lineEnd? rest
      let root ← openTable? path root
      return (path, root, rest)
  | [] => some (header, root, [])
  | '\n' :: rest => some (header, root, rest)
  | '#' :: rest => (lineEnd? ('#' :: rest)).map fun rest => (header, root, rest)
  | cs => do
      let (path, rest) ← keyPath? cs
      let rest ← expect? '=' rest
      let (v, rest) ← value? (maxDepth - 1) (skipGap rest)
      let rest ← lineEnd? rest
      let root ← addLine? header path v root
      return (header, root, rest)

/-- The tree of the lines of a text. -/
def lines? (header : List String) (root : Branch) : List Char → Option Branch
  | [] => some root
  | c :: cs =>
      match line? header root (c :: cs) with
      | none => none
      | some (header, root, rest) =>
          if _ : rest.length < (c :: cs).length then lines? header root rest else none
termination_by cs => cs.length
decreasing_by assumption

/-- The text with every pair of carriage return and line feed replaced by a line feed. -/
def joinLineEnds : List Char → List Char
  | '\r' :: '\n' :: rest => '\n' :: joinLineEnds rest
  | c :: rest => c :: joinLineEnds rest
  | [] => []

/-- The text without a byte order mark. -/
def withoutMark : List Char → List Char
  | c :: rest => if c = Char.ofNat 0xfeff then rest else c :: rest
  | [] => []

/-- The entries of a document. -/
def read? (text : String) : Option Entries :=
  (lines? [] [] (joinLineEnds (withoutMark text.toList))).map finishEntries

end Gatehouse.Toml
