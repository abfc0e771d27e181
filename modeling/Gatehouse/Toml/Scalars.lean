import Gatehouse.Numeral
import Gatehouse.Toml.Strings

/-!
# `Gatehouse.Toml.Scalars` — numbers, truth values, dates and times

A scalar other than a string is one word without white space, except that a date and a time may have a
space between them.

## Contents
- `digitGroup?`: digits with single underscores between them.
- `integer?`, `float?`, `datetime?`, `scalar?`: the words of each kind.
- `scalarWord`: the word at the start of a text.
-/

namespace Gatehouse.Toml

/-! ## Numbers -/

/-- Digits accepted by `isDigit`, where single underscores between digits are dropped. -/
def digitGroup? (isDigit : Char → Bool) : List Char → Option (List Char)
  | [] => none
  | [d] => if isDigit d then some [d] else none
  | d :: '_' :: rest => if isDigit d then (digitGroup? isDigit rest).map (d :: ·) else none
  | d :: rest => if isDigit d then (digitGroup? isDigit rest).map (d :: ·) else none

/-- The sign of a number and what follows it: whether it is negative. -/
def signed : List Char → Bool × List Char
  | '-' :: cs => (true, cs)
  | '+' :: cs => (false, cs)
  | cs => (false, cs)

/-- A whole number of 64 bits with a sign. -/
def inRange? (i : Int) : Option Int :=
  if -((1 <<< 63 : Nat) : Int) ≤ i ∧ i < (1 <<< 63 : Nat) then some i else none

/-- A number in base `base` after its marker. -/
def based? (base : Nat) (cs : List Char) : Option Int := do
  let digits ← digitGroup? (fun c => (hexDigit? c).any (· < base)) cs
  let n ← digits.foldlM (fun n d => (hexDigit? d).map (n * base + ·)) 0
  inRange? n

/-- The digits of a whole number in base ten, which has no needless leading zero. -/
def decimalDigits? (cs : List Char) : Option (List Char) := do
  let digits ← digitGroup? Char.isDigit cs
  if digits.head? = some '0' ∧ digits.length ≠ 1 then none else some digits

/-- A whole number in any of the four bases. -/
def integer? (cs : List Char) : Option Int :=
  match cs with
  | '0' :: 'x' :: rest => based? 16 rest
  | '0' :: 'o' :: rest => based? 8 rest
  | '0' :: 'b' :: rest => based? 2 rest
  | _ => do
      let (negative, rest) := signed cs
      let digits ← decimalDigits? rest
      let n : Int := Numeral.value digits
      inRange? (if negative then -n else n)

/-- The floating-point number nearest to `digits · 10 ^ exponent`. Sizes far out of range are decided by the
    number of digits alone. -/
def nearestFloat (digits : List Char) (exponent : Int) : Float :=
  let n := Numeral.value digits
  let size : Int := (digits.dropWhile (· = '0')).length + exponent
  if n = 0 then 0
  else if size > 400 then 1 / 0
  else if size < -400 then 0
  else Float.ofScientific n (exponent < 0) exponent.natAbs

/-- A number with a fraction or an exponent, or the name of an infinity or of what is no number. A positive
    number beyond the largest is refused. -/
def float? (cs : List Char) : Option Float :=
  let (negative, rest) := signed cs
  let sign (x : Float) : Float := if negative then -x else x
  if rest = ['i', 'n', 'f'] then some (sign (1 / 0))
  else if rest = ['n', 'a', 'n'] then some (0 / 0)
  else do
    let isExponent (c : Char) : Bool := c = 'e' || c = 'E'
    let body := rest.takeWhile fun c => !isExponent c
    let tail := rest.dropWhile fun c => !isExponent c
    let exponent : Int ←
      match tail with
      | [] => some 0
      | _ :: power => do
          let (down, power) := signed power
          let digits ← digitGroup? Char.isDigit power
          let n : Int := Numeral.value digits
          pure (if down then -n else n)
    let whole ← decimalDigits? (body.takeWhile (· != '.'))
    let fraction ←
      match body.dropWhile (· != '.') with
      | [] => some []
      | _ :: fraction => digitGroup? Char.isDigit fraction
    if tail.isEmpty && fraction.isEmpty then none
    else
      let x := nearestFloat (whole ++ fraction) (exponent - fraction.length)
      if x == 1 / 0 && !negative then none else some (sign x)

/-! ## Dates and times -/

/-- The number of exactly `n` digits at the start of a text. -/
def fixedDigits? (n : Nat) (cs : List Char) : Option (Nat × List Char) :=
  let ds := cs.take n
  if ds.length = n ∧ ds.all Char.isDigit then some (Numeral.value ds, cs.drop n) else none

/-- The text after a character that must come next. -/
def expect? (c : Char) : List Char → Option (List Char)
  | d :: rest => if c = d then some rest else none
  | [] => none

/-- A number in at least two digits. -/
def twoDigits (n : Nat) : String :=
  if n < 10 then "0" ++ toString n else toString n

/-- The number of days of a month. -/
def daysOf (year month : Nat) : Nat :=
  if month = 2 then
    if year % 4 = 0 ∧ (year % 100 ≠ 0 ∨ year % 400 = 0) then 29 else 28
  else if month ∈ [4, 6, 9, 11] then 30
  else 31

/-- A date in normal form and what follows it. -/
def date? (cs : List Char) : Option (String × List Char) := do
  let (_, cs') ← fixedDigits? 4 cs
  let (year, _) ← fixedDigits? 4 cs
  let cs' ← expect? '-' cs'
  let (month, cs') ← fixedDigits? 2 cs'
  let cs' ← expect? '-' cs'
  let (day, rest) ← fixedDigits? 2 cs'
  if 1 ≤ month ∧ month ≤ 12 ∧ 1 ≤ day ∧ day ≤ daysOf year month then
    some (String.ofList (cs.take 4) ++ "-" ++ twoDigits month ++ "-" ++ twoDigits day, rest)
  else none

/-- The digits after the point of a second, cut after nine of them and without zeros at the end. -/
def secondFraction (digits : List Char) : String :=
  let kept := ((digits.take 9).reverse.dropWhile (· = '0')).reverse
  if kept.isEmpty then "" else "." ++ String.ofList kept

/-- A time in normal form and what follows it. A minute may have a leap second. -/
def time? (cs : List Char) : Option (String × List Char) := do
  let (hour, cs) ← fixedDigits? 2 cs
  let cs ← expect? ':' cs
  let (minute, cs) ← fixedDigits? 2 cs
  let cs ← expect? ':' cs
  let (second, cs) ← fixedDigits? 2 cs
  if 24 ≤ hour ∨ 60 ≤ minute ∨ 61 ≤ second then none
  else
    let text := twoDigits hour ++ ":" ++ twoDigits minute ++ ":" ++ twoDigits second
    match cs with
    | '.' :: cs =>
        let digits := cs.takeWhile Char.isDigit
        if digits.isEmpty then none
        else some (text ++ secondFraction digits, cs.dropWhile Char.isDigit)
    | cs => some (text, cs)

/-- A distance from universal time in normal form. It is less than a day, and zero has the sign `+`. -/
def offset? : List Char → Option String
  | ['Z'] => some "Z"
  | ['z'] => some "Z"
  | s :: cs => do
      let (hour, cs) ← fixedDigits? 2 cs
      let cs ← expect? ':' cs
      let (minute, cs) ← fixedDigits? 2 cs
      let text := twoDigits hour ++ ":" ++ twoDigits minute
      if !cs.isEmpty ∨ 24 ≤ hour ∨ 60 ≤ minute then none
      else if s = '+' ∨ (s = '-' ∧ hour = 0 ∧ minute = 0) then some ("+" ++ text)
      else if s = '-' then some ("-" ++ text)
      else none
  | [] => none

/-- A date, a time, or both with or without a distance from universal time, in normal form. -/
def datetime? (cs : List Char) : Option String :=
  match date? cs with
  | some (date, []) => some date
  | some (date, sep :: rest) =>
      if sep = 'T' ∨ sep = 't' ∨ sep = ' ' then do
        let (time, rest) ← time? rest
        if rest.isEmpty then some (date ++ "T" ++ time)
        else (offset? rest).map fun offset => date ++ "T" ++ time ++ offset
      else none
  | none =>
      match time? cs with
      | some (time, []) => some time
      | _ => none

/-! ## Words -/

/-- Whether a character can be part of a scalar word. -/
def isWordChar (c : Char) : Bool :=
  c.isAlphanum || c = '+' || c = '-' || c = '_' || c = '.' || c = ':'

/-- The word at the start of a text and what follows it. After a date, a space and a digit continue the
    word. -/
def scalarWord (cs : List Char) : List Char × List Char :=
  let word := cs.takeWhile isWordChar
  let rest := cs.dropWhile isWordChar
  match date? word, rest with
  | some (_, []), ' ' :: d :: rest' =>
      if d.isDigit then
        (word ++ ' ' :: (d :: rest').takeWhile isWordChar, (d :: rest').dropWhile isWordChar)
      else (word, rest)
  | _, _ => (word, rest)

/-- The value of a word. -/
def scalar? (word : List Char) : Option Toml :=
  if word = ['t', 'r', 'u', 'e'] then some (.boolean true)
  else if word = ['f', 'a', 'l', 's', 'e'] then some (.boolean false)
  else
    match datetime? word with
    | some text => some (.datetime text)
    | none =>
        match integer? word with
        | some i => some (.integer i)
        | none => (float? word).map .float

end Gatehouse.Toml
