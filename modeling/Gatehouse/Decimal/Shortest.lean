/-!
# `Gatehouse.Decimal.Shortest` — the shortest decimal that reads back

A binary floating-point number is written with the fewest significant digits that still identify it among
all floating-point numbers; of several such decimals the nearest is taken. All arithmetic is exact, on
natural numbers.

## Contents
- `Binary`: mantissa and exponent of a finite number, `Binary.ofBits?`.
- `Decimal`: digits and exponent, `Binary.shortest`.
- `Decimal.positional`: the text without an exponent.
- `Decimal.text`: the text of any floating-point number.
-/

namespace Gatehouse

/-- The size of a finite floating-point number: `mantissa · 2 ^ exponent`. -/
structure Binary where
  mantissa : Nat
  exponent : Int
  /-- Whether the next smaller number is only half as far away as the next larger one. -/
  narrow : Bool
  deriving Repr, DecidableEq

/-- The size encoded by 64 bits; infinities and what is not a number have none. -/
def Binary.ofBits? (bits : UInt64) : Option Binary :=
  let biased : Nat := (bits.toNat >>> 52) % 1 <<< 11
  let fraction : Nat := bits.toNat % 1 <<< 52
  if biased = 1 <<< 11 - 1 then none
  else if biased = 0 then some ⟨fraction, -1074, false⟩
  else some ⟨fraction + 1 <<< 52, (biased : Int) - 1075, fraction = 0 && biased > 1⟩

/-- The number `digits · 10 ^ exponent`. -/
structure Decimal where
  digits : Nat
  exponent : Int
  deriving Repr, DecidableEq

/-- The nearest multiple of `10 ^ k` that identifies `x`, if one does. Lengths are measured in quarters of
    the last place of `x`, so that the ends of the interval around `x` are whole numbers. -/
def Binary.onGrid? (x : Binary) (k : Int) : Option Decimal :=
  let unit := x.exponent - 2
  let num := Nat.pow 10 k.toNat * Nat.pow 2 (-unit).toNat
  let den := Nat.pow 10 (-k).toNat * Nat.pow 2 unit.toNat
  let middle := 4 * x.mantissa
  let low := middle - (if x.narrow then 1 else 2)
  let high := middle + 2
  let inside (d : Nat) : Bool :=
    if x.mantissa % 2 = 0 then low * den ≤ d * num && d * num ≤ high * den
    else low * den < d * num && d * num < high * den
  let below := middle * den / num
  let above := below + 1
  let belowFirst : Bool := 2 * (middle * den - below * num) < num
  if below ≠ 0 ∧ inside below ∧ (belowFirst ∨ ¬ inside above) then some ⟨below, k⟩
  else if inside above then some ⟨above, k⟩
  else none

/-- The decimal with the fewest digits that identifies `x`: the one on the coarsest grid. The search starts
    above the size of `x`, and seventeen digits always suffice. -/
def Binary.shortest (x : Binary) : Decimal :=
  if x.mantissa = 0 then ⟨0, 0⟩
  else
    let size : Int := x.mantissa.log2 + x.exponent
    let top : Int := (size + 2) * 30103 / 100000 + 2
    ((List.range 24).findSome? fun (i : Nat) => x.onGrid? (top - (i : Int))).getD ⟨0, 0⟩

/-- The text of a decimal, with as many zeros as it takes and no exponent. -/
def Decimal.positional (d : Decimal) : String :=
  let ds := Nat.toDigits 10 d.digits
  match d.exponent with
  | .ofNat k => String.ofList (ds ++ List.replicate k '0')
  | .negSucc k =>
      let places := k + 1
      if places < ds.length then
        String.ofList (ds.take (ds.length - places) ++ '.' :: ds.drop (ds.length - places))
      else
        String.ofList ('0' :: '.' :: List.replicate (places - ds.length) '0' ++ ds)

/-- The text of a floating-point number: shortest digits, a minus sign where the sign bit is set, and names
    for what is not a finite number. -/
def Decimal.text (x : Float) : String :=
  match Binary.ofBits? x.toBits with
  | some b => (if x.toBits >>> 63 = 1 then "-" else "") ++ b.shortest.positional
  | none => if x.isNaN then "NaN" else if x < 0 then "-inf" else "inf"

end Gatehouse
