/-!
# `Gatehouse.Numeral` — unsigned decimal numerals

Numbers in messages, gate specifications and ids are written as ASCII digits with an optional plus sign.
Leading zeros are fine, a minus sign is not, and a value beyond the largest that fits is refused.

## Contents
- `value`: the number that a list of digits stands for.
- `read?`: the number that a text stands for, up to a bound.
- `maxId`, `maxWord`: the bounds in use.
- `read?_toDigits`: a printed number stands for itself.
- `IsNumeral`: the texts that a number is read from (`read?_eq_some_iff`).
-/

namespace Gatehouse.Numeral

/-- The largest number of 64 bits. -/
def maxId : Nat := 1 <<< 64 - 1

/-- The largest number of 32 bits. -/
def maxWord : Nat := 1 <<< 32 - 1

/-- The number that a list of digits stands for in base `base`, continuing from `acc`. -/
def valueFrom (base acc : Nat) : List Char → Nat
  | [] => acc
  | c :: cs => valueFrom base (acc * base + (c.toNat - '0'.toNat)) cs

/-- The number that a list of decimal digits stands for. -/
def value (cs : List Char) : Nat :=
  valueFrom 10 0 cs

/-- The digits of a numeral: what follows the optional plus sign. -/
def unsigned : List Char → List Char
  | '+' :: cs => cs
  | cs => cs

/-- The number that a numeral stands for, if it is well formed and at most `bound`. -/
def read? (bound : Nat) (cs : List Char) : Option Nat :=
  let digits := unsigned cs
  if digits.isEmpty || !digits.all Char.isDigit then none
  else if value digits ≤ bound then some (value digits)
  else none

/-- A number that was read is within the bound. -/
theorem le_of_read? {bound n : Nat} {cs : List Char} (h : read? bound cs = some n) : n ≤ bound := by
  simp only [read?] at h
  split at h
  · simp at h
  · split at h
    · simp only [Option.some.injEq] at h
      omega
    · simp at h

/-! ## Printed numbers -/

theorem value_eq_ofDigitChars (cs : List Char) : value cs = Nat.ofDigitChars 10 cs 0 := by
  have key : ∀ acc, valueFrom 10 acc cs = Nat.ofDigitChars 10 cs acc := by
    induction cs with
    | nil => intro acc; rfl
    | cons c cs ih =>
        intro acc
        show valueFrom 10 (acc * 10 + _) cs = _
        rw [Nat.ofDigitChars_cons, ← Nat.mul_comm acc]
        exact ih _
  exact key 0

theorem isDigit_of_mem_toDigits {n : Nat} {c : Char} (h : c ∈ Nat.toDigits 10 n) : c.isDigit = true :=
  Nat.isDigit_of_mem_toDigits (by decide) (by decide) h

/-- A list of digits has no sign. -/
theorem unsigned_of_isDigit {cs : List Char} (h : ∀ c ∈ cs, c.isDigit = true) : unsigned cs = cs := by
  unfold unsigned
  split
  · have hplus := h '+' List.mem_cons_self
    simp at hplus
  · rfl

/-- A list of digits stands for its value, if that is within the bound. -/
theorem read?_of_isDigit {bound : Nat} {cs : List Char} (hne : cs ≠ []) (h : ∀ c ∈ cs, c.isDigit = true) :
    read? bound cs = if value cs ≤ bound then some (value cs) else none := by
  have hempty : cs.isEmpty = false := by simpa using hne
  rw [read?, unsigned_of_isDigit h, hempty, List.all_eq_true.mpr h]
  rfl

/-- A number that is printed is read back. -/
theorem read?_toDigits {bound n : Nat} (h : n ≤ bound) : read? bound (Nat.toDigits 10 n) = some n := by
  have hvalue : value (Nat.toDigits 10 n) = n := by
    rw [value_eq_ofDigitChars, Nat.ofDigitChars_ten_toDigits]
  rw [read?_of_isDigit Nat.toDigits_ne_nil fun c => isDigit_of_mem_toDigits, hvalue, if_pos h]

/-! ## Texts that are read -/

/-- The text is a numeral of `n`: decimal digits that stand for it, with or without a plus sign in front. -/
def IsNumeral (n : Nat) (cs : List Char) : Prop :=
  ∃ digits, (cs = digits ∨ cs = '+' :: digits) ∧ digits ≠ [] ∧ (∀ c ∈ digits, c.isDigit = true) ∧
    Nat.ofDigitChars 10 digits 0 = n

theorem isNumeral_toDigits (n : Nat) : IsNumeral n (Nat.toDigits 10 n) :=
  ⟨Nat.toDigits 10 n, .inl rfl, Nat.toDigits_ne_nil, fun _ => isDigit_of_mem_toDigits,
    Nat.ofDigitChars_ten_toDigits⟩

/-- A text is a numeral of one number at most. -/
theorem IsNumeral.unique {n m : Nat} {cs : List Char} (h : IsNumeral n cs) (h' : IsNumeral m cs) : n = m := by
  have hvalue {k : Nat} (hk : IsNumeral k cs) : Nat.ofDigitChars 10 (unsigned cs) 0 = k := by
    obtain ⟨digits, rfl | rfl, -, hdigits, rfl⟩ := hk
    · rw [unsigned_of_isDigit hdigits]
    · rfl
  exact (hvalue h).symm.trans (hvalue h')

/-- **Exactly the numerals of a number within the bound are read** as that number. -/
theorem read?_eq_some_iff {bound n : Nat} {cs : List Char} :
    read? bound cs = some n ↔ IsNumeral n cs ∧ n ≤ bound := by
  constructor
  · intro h
    refine ⟨⟨unsigned cs, ?_, ?_⟩, le_of_read? h⟩
    · unfold unsigned
      split
      · exact .inr rfl
      · exact .inl rfl
    · simp only [read?] at h
      split at h
      · cases h
      · next hdigits =>
          rw [Bool.or_eq_true, not_or, List.isEmpty_iff, Bool.not_eq_true', Bool.not_eq_false,
            List.all_eq_true] at hdigits
          split at h
          · exact ⟨hdigits.1, hdigits.2, value_eq_ofDigitChars _ ▸ Option.some.inj h⟩
          · cases h
  · rintro ⟨⟨digits, hcs, hne, hdigits, rfl⟩, hbound⟩
    have hread : read? bound digits = some (Nat.ofDigitChars 10 digits 0) := by
      rw [read?_of_isDigit hne hdigits, value_eq_ofDigitChars, if_pos hbound]
    rcases hcs with rfl | rfl
    · exact hread
    · -- The sign is dropped before the digits are looked at.
      have hsign : read? bound ('+' :: digits) = read? bound digits := by
        rw [read?, read?, unsigned_of_isDigit hdigits]
        rfl
      rw [hsign, hread]

end Gatehouse.Numeral
