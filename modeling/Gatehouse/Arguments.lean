import Gatehouse.Text.Blank

/-!
# `Gatehouse.Arguments` — cutting text into arguments

Arguments are separated by white space. A part between double quotes belongs to one argument, whatever it
holds, and the quotes themselves are dropped; a quote that is never closed reaches to the end. Quotes with
nothing between them make an empty argument.

## Contents
- `splitFrom`: the arguments of the rest of a text, given what was read of the current one.
- `Arguments.split`: the arguments of a text.
- `split_append`: white space outside of quotes separates arguments wherever it stands.
- `IsWord`: a text that is one argument as it stands.
-/

namespace Gatehouse.Arguments

/-- The argument that was read so far, in reverse, if it is one: it has a character or a quote. -/
def flush (current : List Char) (quoted : Bool) : List (List Char) :=
  if current.isEmpty && !quoted then [] else [current.reverse]

/-- The arguments of the rest of a text. `current` is what was read of the current argument, in reverse,
    `inside` whether a quote is open, and `quoted` whether the current argument has had a quote. -/
def splitFrom (current : List Char) (inside quoted : Bool) : List Char → List (List Char)
  | [] => flush current quoted
  | c :: cs =>
      if c = '"' then splitFrom current (!inside) true cs
      else if Text.isBlank c && !inside then flush current quoted ++ splitFrom [] false false cs
      else splitFrom (c :: current) inside quoted cs

/-- The arguments of a text, as lists of characters. -/
def splitChars (cs : List Char) : List (List Char) :=
  splitFrom [] false false cs

/-- The arguments of a text. -/
def split (s : String) : List String :=
  (splitChars s.toList).map String.ofList

/-! ## Texts side by side -/

/-- White space is no quote. -/
theorem ne_quote_of_isBlank {b : Char} (h : Text.isBlank b = true) : b ≠ '"' := by
  rintro rfl
  exact absurd h (by decide)

/-- A quote opens or closes, so the number of quotes after it has the other parity. -/
theorem count_after_quote {cs : List Char} {inside : Bool} (h : (('"' :: cs).count '"' + inside.toNat) % 2 = 0) :
    (cs.count '"' + (!inside).toNat) % 2 = 0 := by
  rw [List.count_cons_self] at h
  cases inside <;> simp only [Bool.not_false, Bool.not_true, Bool.toNat_false, Bool.toNat_true] at h ⊢ <;> omega

/-- White space after a text that closes its quotes ends an argument. Whether a quote is open follows from the
    number of quotes that were met. -/
theorem splitFrom_append {cs : List Char} {b : Char} (hb : Text.isBlank b = true) (rest : List Char)
    (current : List Char) (inside quoted : Bool) (h : (cs.count '"' + inside.toNat) % 2 = 0) :
    splitFrom current inside quoted (cs ++ b :: rest)
      = splitFrom current inside quoted cs ++ splitChars rest := by
  induction cs generalizing current inside quoted with
  | nil =>
      have hinside : inside = false := by
        cases inside with
        | false => rfl
        | true => simp at h
      have hstep : splitFrom current false quoted (b :: rest) = flush current quoted ++ splitChars rest := by
        rw [splitFrom, if_neg (ne_quote_of_isBlank hb), hb, Bool.not_false, Bool.and_true, if_pos rfl]
        rfl
      rw [List.nil_append, hinside, hstep]
      rfl
  | cons c cs ih =>
      rw [List.cons_append, splitFrom, splitFrom]
      by_cases hquote : c = '"'
      · subst hquote
        rw [if_pos rfl, if_pos rfl, ih _ _ _ (count_after_quote h)]
      · rw [List.count_cons_of_ne hquote] at h
        rw [if_neg hquote, if_neg hquote]
        by_cases hblank : (Text.isBlank c && !inside) = true
        · have hinside : inside = false := by
            simp only [Bool.and_eq_true, Bool.not_eq_true'] at hblank
            exact hblank.2
          rw [if_pos hblank, if_pos hblank, ih _ _ _ (by rwa [hinside] at h), List.append_assoc]
        · rw [if_neg hblank, if_neg hblank, ih _ _ _ h]

/-- **Arguments of texts side by side.** If the first closes all its quotes, a blank separates its arguments
    from those of the second. -/
theorem split_append {s : String} (h : s.toList.count '"' % 2 = 0) (rest : String) :
    split (s ++ " " ++ rest) = split s ++ split rest := by
  have hlist : (s ++ " " ++ rest).toList = s.toList ++ ' ' :: rest.toList := by
    simp [String.toList_append]
  rw [split, hlist, splitChars, splitFrom_append (by decide) rest.toList [] false false h, List.map_append]
  rfl

theorem splitFrom_word {cs : List Char} (hblank : ∀ c ∈ cs, Text.isBlank c = false) (hquote : '"' ∉ cs)
    (current : List Char) (quoted : Bool) :
    splitFrom current false quoted cs = flush (cs.reverse ++ current) quoted := by
  induction cs generalizing current with
  | nil => rfl
  | cons c cs ih =>
      have hc : ¬ c = '"' := fun he => hquote (he ▸ List.mem_cons_self)
      rw [splitFrom, if_neg hc, hblank c List.mem_cons_self, Bool.false_and, if_neg Bool.false_ne_true,
        ih (fun d hd => hblank d (List.mem_cons_of_mem _ hd)) (fun hmem => hquote (List.mem_cons_of_mem _ hmem)),
        List.reverse_cons, List.append_assoc]
      rfl

/-- A text that is one argument as it stands. -/
structure IsWord (s : String) : Prop where
  nonempty : s ≠ ""
  not_blank : ∀ c ∈ s.toList, Text.isBlank c = false
  not_quote : '"' ∉ s.toList

theorem IsWord.split {s : String} (h : IsWord s) : split s = [s] := by
  have hlist : s.toList ≠ [] := by simpa using h.nonempty
  rw [Arguments.split, splitChars, splitFrom_word h.not_blank h.not_quote, List.append_nil, flush]
  simp [hlist]

theorem IsWord.split_append {s : String} (h : IsWord s) (rest : String) :
    Arguments.split (s ++ " " ++ rest) = s :: Arguments.split rest := by
  have hcount : s.toList.count '"' % 2 = 0 := by
    rw [List.count_eq_zero.mpr h.not_quote]
  rw [Arguments.split_append hcount, h.split]
  rfl

end Gatehouse.Arguments
