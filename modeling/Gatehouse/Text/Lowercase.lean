import Gatehouse.Text.Casing

/-!
# `Gatehouse.Text.Lowercase` — lowercase text

Two foldings are in use. `asciiLowercase` touches the letters `A` to `Z` only and serves keywords.
`lowercase` is the full mapping of the character database and serves what people type.

## Contents
- `asciiLowercase`: the folding of keywords.
- `lowerChar`: the full mapping of one character outside any context.
- `endsWord`: whether a capital sigma ends a word.
- `lowercase`: the full mapping of a text.
- `lowercased_eq_asciiLowercased`: both foldings agree on ASCII.
- `lowercased_lowercased`: the full mapping comes to rest after one pass.
-/

namespace Gatehouse.Text

/-- The text with the letters `A` to `Z` in lowercase. -/
def asciiLowercase (cs : List Char) : List Char :=
  cs.map Char.toLower

/-- A string with the letters `A` to `Z` in lowercase. -/
def asciiLowercased (s : String) : String :=
  String.ofList (asciiLowercase s.toList)

/-- Whether a code point lies in one of the ranges. -/
def inRanges (ranges : List (Nat × Nat)) (c : Char) : Bool :=
  ranges.any fun r => r.1 ≤ c.toNat && c.toNat ≤ r.2

/-- Whether a run maps the code point `n`. -/
def LowerRun.covers (run : LowerRun) (n : Nat) : Bool :=
  run.first ≤ n && n ≤ run.last && (n - run.first) % run.stride == 0

/-- The lowercase form of one character. Only the dotted capital I needs two characters. -/
def lowerChar (c : Char) : List Char :=
  if c = Char.ofNat 0x130 then [Char.ofNat 0x69, Char.ofNat 0x307]
  else
    match lowerRuns.find? (·.covers c.toNat) with
    | some run => [Char.ofNat (c.toNat + run.offset).toNat]
    | none => [c]

/-- Whether the first character that is not passed over has case. -/
def meetsCased (cs : List Char) : Bool :=
  match cs.dropWhile (inRanges caseIgnorableRanges) with
  | [] => false
  | c :: _ => inRanges casedRanges c

/-- Whether a capital sigma between `before`, given in reverse, and `after` ends a word: a cased character
    precedes it and none follows. -/
def endsWord (before after : List Char) : Bool :=
  meetsCased before && !meetsCased after

/-- Lowercase the text `cs`, where `before` is what precedes it, in reverse. -/
def lowercaseFrom (before : List Char) : List Char → List Char
  | [] => []
  | c :: cs =>
      (if c = 'Σ' then [if endsWord before cs then 'ς' else 'σ'] else lowerChar c)
        ++ lowercaseFrom (c :: before) cs

/-- The lowercase form of a text. A capital sigma becomes the final form at the end of a word. -/
def lowercase (cs : List Char) : List Char :=
  lowercaseFrom [] cs

/-- The lowercase form of a string. -/
def lowercased (s : String) : String :=
  String.ofList (lowercase s.toList)

example : lowercase "ΣΑΣ".toList = "σας".toList := by decide +kernel
example : lowercase "İx".toList = "i̇x".toList := by decide +kernel

/-! ## ASCII -/

theorem lowerChar_of_ascii {c : Char} (h : c.toNat < 128) : lowerChar c = [c.toLower] := by
  have hall : ∀ n < 128, lowerChar (Char.ofNat n) = [(Char.ofNat n).toLower] := by decide +kernel
  have hc := hall c.toNat h
  rwa [Char.ofNat_toNat] at hc

theorem lowercaseFrom_of_ascii {cs : List Char} (h : ∀ c ∈ cs, c.toNat < 128) (before : List Char) :
    lowercaseFrom before cs = asciiLowercase cs := by
  induction cs generalizing before with
  | nil => rfl
  | cons c cs ih =>
      have hc : c.toNat < 128 := h c List.mem_cons_self
      have hsigma : c ≠ 'Σ' := by
        rintro rfl
        exact absurd hc (by decide)
      have hcs := ih (fun d hd => h d (List.mem_cons_of_mem _ hd)) (c :: before)
      rw [lowercaseFrom, if_neg hsigma, lowerChar_of_ascii hc, hcs]
      rfl

/-- Both foldings agree on ASCII. -/
theorem lowercased_eq_asciiLowercased {s : String} (h : ∀ c ∈ s.toList, c.toNat < 128) :
    lowercased s = asciiLowercased s :=
  congrArg String.ofList (lowercaseFrom_of_ascii h [])

/-! ## Mapping twice -/

/-- The code points that a run maps. -/
def LowerRun.uppers (run : LowerRun) : List Nat :=
  (List.range ((run.last - run.first) / run.stride + 1)).map fun k => run.first + k * run.stride

/-- What a run maps a code point to. -/
def LowerRun.lower (run : LowerRun) (n : Nat) : Char :=
  Char.ofNat (n + run.offset).toNat

theorem LowerRun.mem_uppers {run : LowerRun} {n : Nat} (h : run.covers n = true) : n ∈ run.uppers := by
  simp only [covers, Bool.and_eq_true, decide_eq_true_eq, beq_iff_eq] at h
  obtain ⟨⟨hfirst, hlast⟩, hstride⟩ := h
  refine List.mem_map.mpr ⟨(n - run.first) / run.stride, List.mem_range.mpr (Nat.lt_succ_of_le ?_), ?_⟩
  · exact Nat.div_le_div_right (Nat.sub_le_sub_right hlast _)
  · rw [Nat.div_mul_cancel (Nat.dvd_of_mod_eq_zero hstride), Nat.add_sub_cancel' hfirst]

/-- The code points with a lowercase form of their own. -/
def uppers : List Nat :=
  0x130 :: lowerRuns.flatMap LowerRun.uppers

/-- The code points that they are mapped to, those of the dotted capital I apart. -/
def lowers : List Nat :=
  lowerRuns.flatMap fun run => run.uppers.map fun n => (run.lower n).toNat

/-- The numbers of a list, as the bits of one number. Two lists are compared by one operation that way. -/
def bits : List Nat → Nat
  | [] => 0
  | n :: ns => 1 <<< n ||| bits ns

theorem testBit_bits {n : Nat} {ns : List Nat} : (bits ns).testBit n = true ↔ n ∈ ns := by
  induction ns with
  | nil => exact iff_of_false (by simp [bits]) List.not_mem_nil
  | cons m ns ih =>
      rw [bits, Nat.testBit_or, Bool.or_eq_true, Nat.one_shiftLeft, Nat.testBit_two_pow, ih,
        decide_eq_true_iff, List.mem_cons]
      exact or_congr_left eq_comm

/-- Nothing is mapped to a code point that is mapped again. -/
theorem not_mem_uppers_of_mem_lowers {n : Nat} (h : n ∈ lowers) : n ∉ uppers := by
  intro hupper
  have hdisjoint : bits lowers &&& bits uppers = 0 := by decide +kernel
  have hboth := Nat.testBit_and (bits lowers) (bits uppers) n
  rw [hdisjoint, testBit_bits.mpr h, testBit_bits.mpr hupper] at hboth
  exact absurd hboth (by simp)

/-- A code point that no run maps stands for itself. -/
theorem lowerChar_of_not_mem {c : Char} (h : c.toNat ∉ uppers) : lowerChar c = [c] := by
  have hdotted : ¬ c = Char.ofNat 0x130 := by
    rintro rfl
    exact h List.mem_cons_self
  have hfind : lowerRuns.find? (·.covers c.toNat) = none := by
    refine List.find?_eq_none.mpr fun run hrun hcovers => h ?_
    exact List.mem_cons_of_mem _ (List.mem_flatMap.mpr ⟨run, hrun, LowerRun.mem_uppers hcovers⟩)
  rw [lowerChar, if_neg hdotted, hfind]

/-- What a character is mapped to is mapped to itself. -/
theorem lowerChar_of_mem_lowerChar {c d : Char} (h : d ∈ lowerChar c) : lowerChar d = [d] := by
  by_cases hdotted : c = Char.ofNat 0x130
  · -- The dotted capital I gives two characters.
    rw [lowerChar, if_pos hdotted] at h
    rcases List.mem_cons.mp h with rfl | h
    · decide +kernel
    · rw [List.mem_singleton.mp h]
      decide +kernel
  · cases hfind : lowerRuns.find? (·.covers c.toNat) with
    | none =>
        have hc : lowerChar c = [c] := by rw [lowerChar, if_neg hdotted, hfind]
        rw [hc, List.mem_singleton] at h
        rw [h, hc]
    | some run =>
        have hc : lowerChar c = [run.lower c.toNat] := by
          rw [lowerChar, if_neg hdotted, hfind]
          rfl
        have hcovers : run.covers c.toNat = true := by simpa using List.find?_some hfind
        have hmem : (run.lower c.toNat).toNat ∈ lowers :=
          List.mem_flatMap.mpr ⟨run, List.mem_of_find?_eq_some hfind,
            List.mem_map.mpr ⟨c.toNat, LowerRun.mem_uppers hcovers, rfl⟩⟩
        rw [hc, List.mem_singleton] at h
        rw [h]
        exact lowerChar_of_not_mem (not_mem_uppers_of_mem_lowers hmem)

/-- Every character of a lowercase text is its own lowercase form. -/
theorem lowerChar_of_mem_lowercaseFrom {before cs : List Char} {d : Char} (h : d ∈ lowercaseFrom before cs) :
    lowerChar d = [d] := by
  induction cs generalizing before with
  | nil => cases h
  | cons c cs ih =>
      rw [lowercaseFrom, List.mem_append] at h
      rcases h with hhead | htail
      · split at hhead
        · -- A capital sigma becomes one of the two small ones.
          have hd : d = 'ς' ∨ d = 'σ' := by
            rw [List.mem_singleton] at hhead
            split at hhead
            · exact .inl hhead
            · exact .inr hhead
          rcases hd with rfl | rfl <;> decide +kernel
        · exact lowerChar_of_mem_lowerChar hhead
      · exact ih htail

theorem lowercaseFrom_of_settled {cs : List Char} (h : ∀ c ∈ cs, lowerChar c = [c]) (before : List Char) :
    lowercaseFrom before cs = cs := by
  induction cs generalizing before with
  | nil => rfl
  | cons c cs ih =>
      have hc : lowerChar c = [c] := h c List.mem_cons_self
      have hsigma : c ≠ 'Σ' := by
        rintro rfl
        exact absurd hc (by decide +kernel)
      rw [lowercaseFrom, if_neg hsigma, hc, ih (fun d hd => h d (List.mem_cons_of_mem _ hd))]
      rfl

/-- **A lowercase text is its own lowercase form.** -/
theorem lowercased_lowercased (s : String) : lowercased (lowercased s) = lowercased s := by
  rw [lowercased, lowercased, String.toList_ofList]
  exact congrArg String.ofList (lowercaseFrom_of_settled (fun _ => lowerChar_of_mem_lowercaseFrom) [])

end Gatehouse.Text
