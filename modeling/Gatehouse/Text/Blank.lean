/-!
# `Gatehouse.Text.Blank` — white space, trimming and splitting

Text is worked on as a list of characters. White space is the property of the character database, not
only the ASCII blanks.

## Contents
- `isBlank`: the white space characters (`not_isBlank_of_isDigit`).
- `trimStart`, `trimEnd`, `trim`: text without the white space around it (`trimStart_cons`, `trim_eq_nil_iff`,
  `trim_append`, `exists_eq_trim`).
- `splitBlank?`: the two parts around the first white space character (`splitBlank?_append`).
- `splitAt?`, `fields`: the parts around the first, and around every, occurrence of one character
  (`splitAt?_eq_some_iff`).
-/

namespace Gatehouse.Text

/-- The code points of white space, as inclusive ranges. -/
def blankRanges : List (Nat × Nat) := [
  (0x9, 0xd), (0x20, 0x20), (0x85, 0x85), (0xa0, 0xa0), (0x1680, 0x1680), (0x2000, 0x200a),
  (0x2028, 0x2029), (0x202f, 0x202f), (0x205f, 0x205f), (0x3000, 0x3000)
]

/-- Whether `c` is white space. -/
def isBlank (c : Char) : Bool :=
  blankRanges.any fun r => r.1 ≤ c.toNat && c.toNat ≤ r.2

/-- A digit is no white space. -/
theorem not_isBlank_of_isDigit {c : Char} (h : c.isDigit = true) : isBlank c = false := by
  have hrange : 48 ≤ c.toNat ∧ c.toNat ≤ 57 := by
    simpa [Char.isDigit, UInt32.le_iff_toNat_le] using h
  simp only [isBlank, blankRanges, List.any_cons, List.any_nil, Bool.or_false, Bool.or_eq_false_iff,
    Bool.and_eq_false_iff, decide_eq_false_iff_not]
  omega

/-! ## Trimming -/

/-- The text from its first character on that is not white space. -/
def trimStart (cs : List Char) : List Char :=
  cs.dropWhile isBlank

/-- The text up to its last character that is not white space. -/
def trimEnd (cs : List Char) : List Char :=
  (cs.reverse.dropWhile isBlank).reverse

/-- The text without white space at either end. -/
def trim (cs : List Char) : List Char :=
  trimEnd (trimStart cs)

/-- A string without white space at either end. -/
def trimmed (s : String) : String :=
  String.ofList (trim s.toList)

/-- Whether a string holds nothing but white space. -/
def isBlankOnly (s : String) : Bool :=
  s.toList.all isBlank

/-- Trimming leaves nothing exactly when there is nothing but white space. -/
theorem trim_eq_nil_iff {cs : List Char} : trim cs = [] ↔ cs.all isBlank = true := by
  have key : ∀ ds : List Char, ds.dropWhile isBlank = [] ↔ ds.all isBlank = true := by
    intro ds
    induction ds with
    | nil => simp
    | cons d ds ih =>
        by_cases h : isBlank d = true
        · rw [List.dropWhile_cons_of_pos h, ih, List.all_cons, h, Bool.true_and]
        · simp [h]
  constructor
  · intro h
    have h' : (trimStart cs).reverse.dropWhile isBlank = [] := by
      simpa [trim, trimEnd] using h
    rw [key, List.all_reverse] at h'
    apply (key cs).mp
    cases hd : cs.dropWhile isBlank with
    | nil => rfl
    | cons d ds =>
        have hall : (d :: ds).all isBlank = true := by
          simpa [trimStart, hd] using h'
        have hne := List.head?_dropWhile_not isBlank cs
        simp only [hd] at hne
        simp only [List.all_cons, Bool.and_eq_true] at hall
        simp [hall.1] at hne
  · intro h
    have : cs.dropWhile isBlank = [] := (key cs).mpr h
    simp [trim, trimEnd, trimStart, this]

/-- A text whose first character is not white space is not trimmed at its start. -/
theorem trimStart_cons {c : Char} (h : isBlank c = false) (cs : List Char) : trimStart (c :: cs) = c :: cs :=
  List.dropWhile_cons_of_neg (by simp [h])

/-- A text whose first character, if there is one, is not white space is not trimmed at its start. -/
theorem dropWhile_isBlank_of_head? {cs : List Char} (h : ∀ c ∈ cs.head?, isBlank c = false) :
    cs.dropWhile isBlank = cs := by
  cases cs with
  | nil => rfl
  | cons c cs => exact trimStart_cons (h c rfl) cs

/-- White space around a text is cut off, and nothing else is if the text begins and ends with other
    characters. -/
theorem trim_append {before core after : List Char} (hbefore : ∀ c ∈ before, isBlank c = true)
    (hafter : ∀ c ∈ after, isBlank c = true) (hfirst : ∀ c ∈ core.head?, isBlank c = false)
    (hlast : ∀ c ∈ core.getLast?, isBlank c = false) : trim (before ++ (core ++ after)) = core := by
  have hstart : trimStart (before ++ (core ++ after)) = trimStart (core ++ after) :=
    List.dropWhile_append_of_pos hbefore
  have hend : trimEnd (core ++ after) = core := by
    have hafter' : ∀ c ∈ after.reverse, isBlank c = true := fun c hc => hafter c (List.mem_reverse.mp hc)
    have hlast' : ∀ c ∈ core.reverse.head?, isBlank c = false := by
      rwa [List.head?_reverse]
    rw [trimEnd, List.reverse_append, List.dropWhile_append_of_pos hafter', dropWhile_isBlank_of_head? hlast',
      List.reverse_reverse]
  rw [trim, hstart]
  cases core with
  | nil =>
      have hall : trim after = [] := trim_eq_nil_iff.mpr (List.all_eq_true.mpr hafter)
      exact hall
  | cons c core =>
      rw [show trimStart (c :: core ++ after) = c :: core ++ after from trimStart_cons (hfirst c rfl) _]
      exact hend

/-- What is cut off at the start is white space, and what is left begins with another character. -/
theorem exists_eq_trimStart (cs : List Char) :
    ∃ before, cs = before ++ trimStart cs ∧ (∀ c ∈ before, isBlank c = true) ∧
      ∀ c ∈ (trimStart cs).head?, isBlank c = false := by
  refine ⟨cs.takeWhile isBlank, List.takeWhile_append_dropWhile.symm, List.all_eq_true.mp List.all_takeWhile, ?_⟩
  have hhead := List.head?_dropWhile_not isBlank cs
  intro c hc
  unfold trimStart at hc
  rw [Option.mem_def.mp hc] at hhead
  simpa using hhead

/-- What is cut off is white space. -/
theorem exists_eq_trim (cs : List Char) :
    ∃ before after, cs = before ++ (trim cs ++ after) ∧
      (∀ c ∈ before, isBlank c = true) ∧ (∀ c ∈ after, isBlank c = true) := by
  have hall (ds : List Char) : ∀ c ∈ ds.takeWhile isBlank, isBlank c = true :=
    List.all_eq_true.mp List.all_takeWhile
  have hend : trim cs ++ ((trimStart cs).reverse.takeWhile isBlank).reverse = trimStart cs := by
    rw [trim, trimEnd, ← List.reverse_append, List.takeWhile_append_dropWhile, List.reverse_reverse]
  refine ⟨cs.takeWhile isBlank, ((trimStart cs).reverse.takeWhile isBlank).reverse, ?_, hall cs, ?_⟩
  · rw [hend]
    exact List.takeWhile_append_dropWhile.symm
  · intro c hc
    exact hall _ c (List.mem_reverse.mp hc)

/-- Only letters before the 91st character have a form in lowercase. -/
theorem toLower_of_not_ascii {c : Char} (h : ¬ c.toNat < 128) : c.toLower = c := by
  refine dif_neg fun hletter => h ?_
  have hle : c.toNat ≤ 90 := by simpa [UInt32.le_iff_toNat_le] using hletter.2
  omega

/-- A letter in lowercase is no more white space than it was. -/
theorem isBlank_toLower (c : Char) : isBlank c.toLower = isBlank c := by
  have hascii : ∀ n < 128, isBlank (Char.ofNat n).toLower = isBlank (Char.ofNat n) := by
    decide +kernel
  by_cases h : c.toNat < 128
  · have hc := hascii c.toNat h
    rwa [Char.ofNat_toNat] at hc
  · rw [toLower_of_not_ascii h]

/-! ## Splitting -/

/-- The text before and after the first white space character, if there is one. -/
def splitBlank? (cs : List Char) : Option (List Char × List Char) :=
  match cs.dropWhile (fun c => !isBlank c) with
  | [] => none
  | _ :: rest => some (cs.takeWhile (fun c => !isBlank c), rest)

/-- A text without white space ends at the first white space character. -/
theorem splitBlank?_append {cs : List Char} (h : ∀ c ∈ cs, isBlank c = false) {b : Char} (hb : isBlank b = true)
    (rest : List Char) : splitBlank? (cs ++ b :: rest) = some (cs, rest) := by
  have hall : ∀ c ∈ cs, (!isBlank c) = true := fun c hc => by rw [h c hc]; rfl
  simp [splitBlank?, List.dropWhile_append_of_pos hall, List.takeWhile_append_of_pos hall, hb]

/-- The text before and after the first `sep`, if there is one. -/
def splitAt? (sep : Char) (cs : List Char) : Option (List Char × List Char) :=
  match cs.dropWhile (· != sep) with
  | [] => none
  | _ :: rest => some (cs.takeWhile (· != sep), rest)

/-- The first `sep` is where nothing before it is one. -/
theorem splitAt?_eq_some_iff {sep : Char} {cs front rest : List Char} :
    splitAt? sep cs = some (front, rest) ↔ cs = front ++ sep :: rest ∧ sep ∉ front := by
  constructor
  · intro h
    unfold splitAt? at h
    split at h
    · cases h
    · next c tail hdrop =>
        obtain ⟨rfl, rfl⟩ := Prod.mk.inj (Option.some.inj h)
        have hhead := List.head?_dropWhile_not (· != sep) cs
        rw [hdrop] at hhead
        have hc : c = sep := by simpa using hhead
        have hcs : cs.takeWhile (· != sep) ++ cs.dropWhile (· != sep) = cs := List.takeWhile_append_dropWhile
        rw [hdrop, hc] at hcs
        refine ⟨hcs.symm, fun hmem => ?_⟩
        have hne := List.all_eq_true.mp List.all_takeWhile sep hmem
        simp at hne
  · rintro ⟨rfl, hnot⟩
    have hall : ∀ c ∈ front, (c != sep) = true := fun c hc => bne_iff_ne.mpr (ne_of_mem_of_not_mem hc hnot)
    simp [splitAt?, List.dropWhile_append_of_pos hall, List.takeWhile_append_of_pos hall]

theorem splitAt?_eq_none_iff {sep : Char} {cs : List Char} : splitAt? sep cs = none ↔ sep ∉ cs := by
  constructor
  · intro h hmem
    obtain ⟨front, rest, rfl, hnot⟩ := List.eq_append_cons_of_mem hmem
    rw [splitAt?_eq_some_iff.mpr ⟨rfl, hnot⟩] at h
    cases h
  · intro hnot
    have hall : ∀ c ∈ cs, (c != sep) = true := fun c hc => bne_iff_ne.mpr (ne_of_mem_of_not_mem hc hnot)
    have hdrop : (cs ++ []).dropWhile (· != sep) = [] := List.dropWhile_append_of_pos hall
    rw [List.append_nil] at hdrop
    rw [splitAt?, hdrop]

/-- The pieces of a text between occurrences of `sep`: always one more than there are occurrences. -/
def fields (sep : Char) : List Char → List (List Char)
  | [] => [[]]
  | c :: cs =>
      if c = sep then [] :: fields sep cs
      else
        match fields sep cs with
        | [] => [[c]]
        | piece :: pieces => (c :: piece) :: pieces

/-- What follows `lead` in `cs`, if `cs` starts with it. -/
def dropLead? : (lead cs : List Char) → Option (List Char)
  | [], cs => some cs
  | _ :: _, [] => none
  | l :: lead, c :: cs => if l = c then dropLead? lead cs else none

/-- A text starts with `lead` exactly when it is `lead` and a rest. -/
theorem dropLead?_eq_some_iff {lead cs rest : List Char} :
    dropLead? lead cs = some rest ↔ cs = lead ++ rest := by
  induction lead generalizing cs with
  | nil => simp [dropLead?, eq_comm]
  | cons l lead ih =>
      cases cs with
      | nil => simp [dropLead?]
      | cons c cs =>
          by_cases h : l = c
          · simp [dropLead?, h, ih]
          · simp [dropLead?, h, Ne.symm h]

end Gatehouse.Text
