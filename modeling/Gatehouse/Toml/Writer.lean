import Gatehouse.Decimal.Shortest
import Gatehouse.Toml.Basic

/-!
# `Gatehouse.Toml.Writer` — the text of a TOML value

Values are written on one line, tables as inline tables with their keys in order. A string takes the
plainest form that needs no escape, if there is one.

## Contents
- `longestRun`: how many times a character is repeated.
- `stringText`, `keyText`, `floatText`: the scalars.
- `Toml.text`: any value.
-/

namespace Gatehouse.Toml

/-! ## Strings -/

/-- The length of the longest run of `c`, where `run` is the length of the run that is open and `best` the
    longest so far. -/
def longestRunFrom (c : Char) (run best : Nat) : List Char → Nat
  | [] => best
  | d :: cs =>
      if d = c then longestRunFrom c (run + 1) (max best (run + 1)) cs
      else longestRunFrom c 0 best cs

/-- The length of the longest run of `c` in a text. -/
def longestRun (c : Char) (cs : List Char) : Nat :=
  longestRunFrom c 0 0 cs

/-- Whether a character can only be written with an escape: a control other than tab and line feed. -/
def needsEscape (c : Char) : Bool :=
  (c.toNat < 0x20 || c.toNat = 0x7f) && c != '\t' && c != '\n'

/-- A hexadecimal numeral of four capital digits. -/
def fourDigits (n : Nat) : List Char :=
  let ds := (Nat.toDigits 16 n).map Char.toUpper
  List.replicate (4 - ds.length) '0' ++ ds

/-- The inside of a basic string. Line feeds stay as they are in a block; there two quotes in a row may
    stand too, and `quotes` counts those that do. -/
def basicInside (block : Bool) (quotes : Nat) : List Char → List Char
  | [] => []
  | c :: cs =>
      if c = '"' then
        if quotes < (if block then 2 else 0) then '"' :: basicInside block (quotes + 1) cs
        else '\\' :: '"' :: basicInside block 0 cs
      else
        let written : List Char :=
          if c = Char.ofNat 8 then ['\\', 'b']
          else if c = '\t' then ['\\', 't']
          else if c = '\n' then (if block then ['\n'] else ['\\', 'n'])
          else if c = Char.ofNat 12 then ['\\', 'f']
          else if c = '\r' then ['\\', 'r']
          else if c = '\\' then ['\\', '\\']
          else if c.toNat < 0x20 ∨ c.toNat = 0x7f then '\\' :: 'u' :: fourDigits c.toNat
          else [c]
        written ++ basicInside block 0 cs

/-- A basic string on one line. -/
def basicText (cs : List Char) : List Char :=
  '"' :: basicInside false 0 cs ++ ['"']

/-- A string of either kind on several lines. A line end is put first if the text has any. -/
def blockText (quote : Char) (inside : List Char) (hasLine : Bool) : List Char :=
  List.replicate 3 quote ++ (if hasLine then ['\n'] else []) ++ inside ++ List.replicate 3 quote

/-- A string. -/
def stringText (s : String) : String :=
  let cs := s.toList
  let controls := cs.any needsEscape
  let backslash := cs.contains '\\'
  let hasLine := cs.contains '\n'
  let double := longestRun '"' cs
  let single := longestRun '\'' cs
  String.ofList <|
    if !controls && !backslash && double = 0 && !hasLine then basicText cs
    else if !controls && single = 0 && !hasLine then '\'' :: cs ++ ['\'']
    else if !controls && !backslash && double ≤ 2 then blockText '"' (basicInside true 0 cs) hasLine
    else if !controls && single ≤ 2 then blockText '\'' cs hasLine
    else if hasLine then blockText '"' (basicInside true 0 cs) true
    else basicText cs

/-- A key: bare if it can be, else in quotes. -/
def keyText (key : String) : String :=
  let cs := key.toList
  let controls := cs.any fun c => needsEscape c || c = '\n'
  if !cs.isEmpty && cs.all (fun c => c.isAlphanum || c = '-' || c = '_') then key
  else if !controls && !cs.contains '\\' && !cs.contains '"' then String.ofList (basicText cs)
  else if !controls && !cs.contains '\'' then "'" ++ key ++ "'"
  else String.ofList (basicText cs)

/-! ## Values -/

/-- A number with a fraction. -/
def floatText (x : Float) : String :=
  if x.isNaN then "nan"
  else
    let text := Decimal.text x
    if x.isInf || text.toList.contains '.' then text else text ++ ".0"

mutual

/-- The text of a value. -/
def text : Toml → String
  | .string s => stringText s
  | .integer i => toString i
  | .float x => floatText x
  | .boolean b => if b then "true" else "false"
  | .datetime t => t
  | .array items => "[" ++ String.intercalate ", " (itemTexts items) ++ "]"
  | .table [] => "\x7b\x7d"
  | .table (e :: entries) =>
      let lines := (entryTexts (e :: entries)).mergeSort fun a b => decide (a.1 ≤ b.1)
      "\x7b " ++ String.intercalate ", " (lines.map fun l => keyText l.1 ++ " = " ++ l.2) ++ " \x7d"

/-- The texts of array elements. -/
def itemTexts : List Toml → List String
  | [] => []
  | item :: items => text item :: itemTexts items

/-- The keys of entries with the texts of their values. -/
def entryTexts : List (String × Toml) → List (String × String)
  | [] => []
  | (key, v) :: entries => (key, text v) :: entryTexts entries

end

end Gatehouse.Toml
