import Gatehouse.Json.Basic

/-!
# `Gatehouse.Json.Number` — numbers as floating-point numbers

The digits of a number are read as a whole number of 64 bits, and digits that do not fit only count as
places. The whole number is then scaled by a power of ten. Each of these steps is rounded.

## Contents
- `Json.fitting`: the digits that fit.
- `Json.scaled`: a floating-point number times a power of ten.
- `Json.float?`: the floating-point number that a value stands for.
-/

namespace Gatehouse.Json

/-- The leading digits of a number that fit 64 bits, and how many digits follow them. -/
def fitting (n : Nat) : Nat × Nat :=
  if n < 1 <<< 64 then (n, 0)
  else
    let (digits, places) := fitting (n / 10)
    (digits, places + 1)
termination_by n
decreasing_by omega

/-- A power of ten. -/
def tenTo (n : Nat) : Float :=
  Float.ofScientific 1 false n

/-- A floating-point number divided by `10 ^ places`. No power above `10 ^ 308` is finite, so that more places
    take several divisions. -/
def shrunk (x : Float) (places : Nat) : Float :=
  if x == 0 then x
  else if places ≤ 308 then x / tenTo places
  else shrunk (x / tenTo 308) (places - 308)
termination_by places

/-- A floating-point number times `10 ^ exponent`, which is infinite from `10 ^ 309` on. -/
def scaled (x : Float) : Int → Float
  | .ofNat n => if x == 0 then x else x * tenTo (min n 309)
  | .negSucc n => shrunk x (n + 1)

/-- The floating-point number that a value stands for, if it is a number. -/
def float? (j : Json) : Option Float :=
  let number (mantissa exponent : Int) : Float :=
    let (digits, places) := fitting mantissa.natAbs
    let x := scaled (Float.ofNat digits) (exponent + places)
    if mantissa < 0 then -x else x
  match j with
  | .int i => some (number i 0)
  | .real mantissa exponent => some (number mantissa exponent)
  | _ => none

end Gatehouse.Json
