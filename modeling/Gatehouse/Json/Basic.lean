/-!
# `Gatehouse.Json.Basic` — JSON values

## Contents
- `Json`: a value. Whole numbers are kept apart from numbers with a fraction or an exponent, because only
  the former can be ids and counts.
- Readers of the simple kinds of value, each of which refuses every other kind.
- `Json.listOf?`: a list whose elements all have one kind.
-/

namespace Gatehouse

/-- A JSON value. Members keep their order, and a name may occur twice. -/
inductive Json where
  | null
  | bool (value : Bool)
  /-- A number written with digits only, apart from a sign. -/
  | int (value : Int)
  /-- Any other number: `mantissa · 10 ^ exponent`. -/
  | real (mantissa : Int) (exponent : Int)
  | str (value : String)
  /-- A string that is written correctly and yet is no text, because it names half a pair of surrogates, or
      an object with such a member name. It may stand where nothing is read from it. -/
  | garbled
  | arr (items : List Json)
  | obj (members : List (String × Json))
  deriving Inhabited

namespace Json

/-- The truth value, if that is what the value is. -/
def bool? : Json → Option Bool
  | .bool b => some b
  | _ => none

/-- The text, if that is what the value is. -/
def str? : Json → Option String
  | .str s => some s
  | _ => none

@[simp] theorem bool?_bool (b : Bool) : (bool b).bool? = some b := rfl

@[simp] theorem str?_str (s : String) : (str s).str? = some s := rfl

/-- A whole number from 0 to `bound`. -/
def nat? (bound : Nat) : Json → Option Nat
  | .int (.ofNat n) => if n ≤ bound then some n else none
  | _ => none

/-- The elements, if the value is a list. -/
def arr? : Json → Option (List Json)
  | .arr items => some items
  | _ => none

/-- A list whose elements are all accepted by `element?`. -/
def listOf? {α : Type} (element? : Json → Option α) (j : Json) : Option (List α) :=
  j.arr?.bind (·.mapM element?)

/-- The name of an alternative without data: the bare name, or an object with the name as its only member
    and nothing in it. -/
def alternative? : Json → Option String
  | .str s => some s
  | .obj [(s, .null)] => some s
  | _ => none

/-- A whole number as a value. -/
def nat (n : Nat) : Json :=
  .int n

theorem nat?_nat {bound n : Nat} (h : n ≤ bound) : (nat n).nat? bound = some n :=
  if_pos h

/-- An optional value, where nothing is `null`. -/
def ofOption {α : Type} (f : α → Json) : Option α → Json
  | some a => f a
  | none => .null

end Json

end Gatehouse
