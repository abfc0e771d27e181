import Gatehouse.Arguments

/-!
# `Gatehouse.Proofs.Arguments.Runs` — the arguments of a text are its runs

White space outside of quotes makes the gaps of a text (`IsGap`), and between the gaps are its runs (`IsRun`). The
arguments are the runs from left to right, each without its quotes (`Arguments.Reading.splitFrom_eq`). So a run of quotes
alone is the empty argument, and a quote that is never closed leaves no gap after it.

Any list of texts without quotes is a list of arguments: put each between quotes and blanks between them
(`Arguments.split_join`).
-/

namespace Gatehouse.Arguments

/-! ## Gaps and runs -/

/-- Whether a text leaves a quote open: it has an odd number of quotes. -/
def leavesOpen (cs : List Char) : Bool :=
  cs.count '"' % 2 = 1

/-- There is white space at a position that is not quoted: the text before it leaves no quote open. -/
def IsGap (text : List Char) (k : Nat) : Prop :=
  ∃ c, text[k]? = some c ∧ Text.isBlank c = true ∧ leavesOpen (text.take k) = false

/-- The characters from `i` on up to `j`, and there are some, are all that is between two gaps or the ends of the
    text. -/
structure IsRun (text : List Char) (i j : Nat) : Prop where
  lt : i < j
  le : j ≤ text.length
  solid : ∀ k, i ≤ k → k < j → ¬ IsGap text k
  left : i = 0 ∨ IsGap text (i - 1)
  right : j = text.length ∨ IsGap text j

/-- What is written between two positions, without the quotes. -/
def word (text : List Char) (r : Nat × Nat) : List Char :=
  ((text.take r.2).drop r.1).filter fun c => c ≠ '"'

theorem leavesOpen_concat_quote (cs : List Char) : leavesOpen (cs ++ ['"']) = !leavesOpen cs := by
  unfold leavesOpen
  rw [List.count_append, List.count_singleton_self, ← decide_not, decide_eq_decide]
  omega

theorem leavesOpen_concat_of_ne {c : Char} (h : c ≠ '"') (cs : List Char) :
    leavesOpen (cs ++ [c]) = leavesOpen cs := by
  unfold leavesOpen
  rw [List.count_append, List.count_singleton, if_neg (by simpa using h), Nat.add_zero]

/-- What is at the end of `front` is a gap if it is white space and `front` leaves no quote open. -/
theorem isGap_length_iff {front cs : List Char} {c : Char} :
    IsGap (front ++ c :: cs) front.length ↔ Text.isBlank c = true ∧ leavesOpen front = false := by
  unfold IsGap
  rw [List.getElem?_append_right (Nat.le_refl _), Nat.sub_self, List.take_left]
  constructor
  · rintro ⟨d, hd, hblank⟩
    obtain rfl : c = d := Option.some.inj hd
    exact hblank
  · intro h
    exact ⟨c, rfl, h⟩

/-- Between two borders without a gap between them there is one run, if there is anything. -/
theorem isRun_iff_of_solid {text : List Char} {b p i j : Nat} (hle : p ≤ text.length)
    (hsolid : ∀ k, b ≤ k → k < p → ¬ IsGap text k) (hleft : b = 0 ∨ IsGap text (b - 1))
    (hright : p = text.length ∨ IsGap text p) (hb : b ≤ i) (hi : i < p) :
    IsRun text i j ↔ i = b ∧ j = p := by
  constructor
  · intro h
    constructor
    · rcases Nat.eq_or_lt_of_le hb with heq | hlt
      · exact heq.symm
      · -- A run that began later would begin after a gap.
        rcases h.left with hzero | hgap
        · omega
        · exact absurd hgap (hsolid (i - 1) (by omega) (by omega))
    · have hij := h.lt
      rcases Nat.lt_trichotomy j p with hlt | heq | hgt
      · rcases h.right with hend | hgap
        · omega
        · exact absurd hgap (hsolid j (by omega) hlt)
      · exact heq
      · rcases hright with hend | hgap
        · have hj := h.le
          omega
        · exact absurd hgap (h.solid p (by omega) hgt)
  · rintro ⟨rfl, rfl⟩
    exact ⟨hi, hle, hsolid, hleft, hright⟩

/-! ## Reading a text -/

/-- A text is read up to the end of `run`, which begins at a border and has had no gap. -/
structure Reading (text before run rest : List Char) : Prop where
  text_eq : text = before ++ run ++ rest
  solid : ∀ k, before.length ≤ k → k < (before ++ run).length → ¬ IsGap text k
  left : before.length = 0 ∨ IsGap text (before.length - 1)

/-- The runs that begin at `b` or later, from left to right. -/
structure AreRuns (text : List Char) (b : Nat) (runs : List (Nat × Nat)) : Prop where
  sorted : runs.Pairwise fun r r' => r.2 < r'.1
  mem_iff : ∀ i j, (i, j) ∈ runs ↔ b ≤ i ∧ IsRun text i j

/-- The run that ends where it is cut off, if there is anything in it. -/
def closing (before run : List Char) : List (Nat × Nat) :=
  if run = [] then [] else [(before.length, (before ++ run).length)]

namespace Reading

variable {text before run rest : List Char} {c : Char}

theorem le (h : Reading text before run rest) : (before ++ run).length ≤ text.length := by
  have hlength := congrArg List.length h.text_eq
  rw [List.length_append] at hlength
  omega

/-- The next character is a gap if it is white space and no quote is open. -/
theorem isGap_iff (h : Reading text before run (c :: rest)) :
    IsGap text (before ++ run).length ↔ Text.isBlank c = true ∧ leavesOpen (before ++ run) = false := by
  rw [h.text_eq]
  exact isGap_length_iff

/-- A character that is no gap belongs to the run. -/
theorem grow (h : Reading text before run (c :: rest)) (hgap : ¬ IsGap text (before ++ run).length) :
    Reading text before (run ++ [c]) rest where
  text_eq := by
    rw [h.text_eq]
    simp only [List.append_assoc, List.singleton_append]
  solid := by
    intro k hk hlt
    rw [← List.append_assoc, List.length_append, List.length_singleton] at hlt
    rcases Nat.eq_or_lt_of_le (Nat.le_of_lt_succ hlt) with heq | hlt
    · rw [heq]
      exact hgap
    · exact h.solid k hk hlt
  left := h.left

/-- After a gap a new run begins. -/
theorem next (h : Reading text before run (c :: rest)) (hgap : IsGap text (before ++ run).length) :
    Reading text (before ++ run ++ [c]) [] rest where
  text_eq := by
    rw [h.text_eq]
    simp only [List.append_assoc, List.singleton_append]
  solid := by
    intro k hk hlt
    rw [List.append_nil] at hlt
    omega
  left := by
    right
    rw [← List.concat_eq_append, List.length_concat, Nat.add_sub_cancel]
    exact hgap

/-- What was read of a run makes the argument when the run is cut off. -/
theorem flush_eq (h : Reading text before run rest) :
    flush (run.filter fun c => c ≠ '"').reverse (decide ('"' ∈ run)) = (closing before run).map (word text) := by
  by_cases hrun : run = []
  · subst hrun
    rfl
  · have hword : word text (before.length, (before ++ run).length) = run.filter fun c => c ≠ '"' := by
      unfold word
      rw [h.text_eq, List.take_left, List.drop_left]
    have hflush : ((run.filter fun c => c ≠ '"').reverse.isEmpty && !decide ('"' ∈ run)) = false := by
      rw [← Bool.not_eq_true]
      intro hempty
      -- What has no quote and nothing but quotes is nothing.
      have hquotes : (∀ c ∈ run, c = '"') ∧ '"' ∉ run := by simpa using hempty
      obtain ⟨c, hc⟩ := List.exists_mem_of_ne_nil run hrun
      exact hquotes.2 (hquotes.1 c hc ▸ hc)
    rw [flush, hflush, closing, if_neg hrun, List.map_singleton, hword]
    simp

/-- Where the run is cut off, it is the one between the two borders. -/
theorem mem_closing_iff (h : Reading text before run rest)
    (hright : (before ++ run).length = text.length ∨ IsGap text (before ++ run).length) {i j : Nat} :
    (i, j) ∈ closing before run ↔ before.length ≤ i ∧ i < (before ++ run).length ∧ IsRun text i j := by
  unfold closing
  constructor
  · intro hmem
    by_cases hrun : run = []
    · simp [hrun] at hmem
    · rw [if_neg hrun, List.mem_singleton, Prod.mk.injEq] at hmem
      have hlt : before.length < (before ++ run).length := by
        have hpos := List.length_pos_iff.mpr hrun
        rw [List.length_append]
        omega
      obtain ⟨rfl, rfl⟩ := hmem
      refine ⟨Nat.le_refl _, hlt, ?_⟩
      exact (isRun_iff_of_solid h.le h.solid h.left hright (Nat.le_refl _) hlt).mpr ⟨rfl, rfl⟩
  · rintro ⟨hb, hi, hij⟩
    have hrun : run ≠ [] := by
      rintro rfl
      rw [List.append_nil] at hi
      omega
    obtain ⟨rfl, rfl⟩ := (isRun_iff_of_solid h.le h.solid h.left hright hb hi).mp hij
    rw [if_neg hrun]
    exact List.mem_singleton_self _

theorem pairwise_closing (before run : List Char) : (closing before run).Pairwise fun r r' => r.2 < r'.1 := by
  unfold closing
  split
  · exact .nil
  · exact List.pairwise_singleton _ _

/-- At the end of the text there is no other run. -/
theorem areRuns_closing (h : Reading text before run []) : AreRuns text before.length (closing before run) where
  sorted := pairwise_closing before run
  mem_iff := by
    intro i j
    have hend : (before ++ run).length = text.length := by
      rw [h.text_eq, List.append_nil]
    rw [h.mem_closing_iff (.inl hend)]
    constructor
    · rintro ⟨hb, -, hij⟩
      exact ⟨hb, hij⟩
    · rintro ⟨hb, hij⟩
      have hlt := hij.lt
      have hle := hij.le
      exact ⟨hb, by omega, hij⟩

/-- At a gap the other runs are those after it. -/
theorem areRuns_closing_append (h : Reading text before run (c :: rest))
    (hgap : IsGap text (before ++ run).length) {runs : List (Nat × Nat)}
    (hruns : AreRuns text (before ++ run ++ [c]).length runs) :
    AreRuns text before.length (closing before run ++ runs) := by
  rw [← List.concat_eq_append, List.length_concat] at hruns
  have hclosing (i j : Nat) := h.mem_closing_iff (i := i) (j := j) (.inr hgap)
  constructor
  · rw [List.pairwise_append]
    refine ⟨pairwise_closing before run, hruns.sorted, ?_⟩
    rintro ⟨i, j⟩ hij ⟨i', j'⟩ hij'
    obtain ⟨hb, hi, hrun⟩ := (hclosing i j).mp hij
    have hj := (isRun_iff_of_solid h.le h.solid h.left (.inr hgap) hb hi).mp hrun
    have hlater := (hruns.mem_iff i' j').mp hij'
    show j < i'
    omega
  · intro i j
    rw [List.mem_append, hclosing, hruns.mem_iff]
    constructor
    · rintro (⟨hb, -, hij⟩ | ⟨hb, hij⟩)
      · exact ⟨hb, hij⟩
      · rw [List.length_append] at hb
        exact ⟨by omega, hij⟩
    · rintro ⟨hb, hij⟩
      rcases Nat.lt_trichotomy i (before ++ run).length with hlt | heq | hgt
      · exact .inl ⟨hb, hlt, hij⟩
      · -- No run begins in a gap.
        exact absurd (heq ▸ hgap) (hij.solid i (Nat.le_refl i) hij.lt)
      · exact .inr ⟨hgt, hij⟩

/-- **The arguments of the rest of a text are the runs that are left.** What is known of the current argument
    follows from the run that it is read from. -/
theorem splitFrom_eq (h : Reading text before run rest) :
    ∃ runs, AreRuns text before.length runs ∧
      splitFrom (run.filter fun c => c ≠ '"').reverse (leavesOpen (before ++ run)) (decide ('"' ∈ run)) rest
        = runs.map (word text) := by
  induction rest generalizing before run with
  | nil => exact ⟨closing before run, h.areRuns_closing, h.flush_eq⟩
  | cons c rest ih =>
      rw [splitFrom]
      by_cases hquote : c = '"'
      · subst hquote
        have hgap : ¬ IsGap text (before ++ run).length := by
          intro hgap
          exact ne_quote_of_isBlank (h.isGap_iff.mp hgap).1 rfl
        obtain ⟨runs, hruns, hsplit⟩ := ih (h.grow hgap)
        rw [← List.append_assoc, leavesOpen_concat_quote] at hsplit
        refine ⟨runs, hruns, ?_⟩
        rw [if_pos rfl, ← hsplit]
        simp
      · rw [if_neg hquote]
        by_cases hgap : IsGap text (before ++ run).length
        · obtain ⟨hblank, hopen⟩ := h.isGap_iff.mp hgap
          obtain ⟨runs, hruns, hsplit⟩ := ih (h.next hgap)
          rw [List.append_nil, leavesOpen_concat_of_ne hquote, hopen] at hsplit
          refine ⟨closing before run ++ runs, h.areRuns_closing_append hgap hruns, ?_⟩
          rw [hblank, hopen, Bool.not_false, Bool.and_true, if_pos rfl, h.flush_eq, List.map_append, ← hsplit]
          rfl
        · have hsolid : ¬ (Text.isBlank c && !leavesOpen (before ++ run)) = true := by
            intro hblank
            rw [Bool.and_eq_true, Bool.not_eq_true'] at hblank
            exact hgap (h.isGap_iff.mpr hblank)
          obtain ⟨runs, hruns, hsplit⟩ := ih (h.grow hgap)
          rw [← List.append_assoc, leavesOpen_concat_of_ne hquote] at hsplit
          refine ⟨runs, hruns, ?_⟩
          rw [if_neg hsolid, ← hsplit]
          simp [List.filter_append, hquote, Ne.symm hquote]

end Reading

/-- The arguments of a whole text. -/
theorem splitChars_eq (text : List Char) :
    ∃ runs, AreRuns text 0 runs ∧ splitChars text = runs.map (word text) := by
  have hstart : Reading text [] [] text := by
    refine ⟨rfl, ?_, .inl rfl⟩
    intro k _ hlt
    exact absurd hlt (Nat.not_lt_zero k)
  exact hstart.splitFrom_eq

/-! ## Texts between quotes -/

/-- A text between quotes. -/
def inQuotes (s : String) : String :=
  "\"" ++ s ++ "\""

/-- Inside of quotes everything belongs to the argument. -/
theorem splitFrom_inside {cs : List Char} (h : '"' ∉ cs) (rest current : List Char) (quoted : Bool) :
    splitFrom current true quoted (cs ++ '"' :: rest) = splitFrom (cs.reverse ++ current) false true rest := by
  induction cs generalizing current with
  | nil =>
      rw [List.nil_append, splitFrom, if_pos rfl]
      rfl
  | cons c cs ih =>
      rw [List.mem_cons, not_or] at h
      rw [List.cons_append, splitFrom, if_neg (Ne.symm h.1), Bool.not_true, Bool.and_false,
        if_neg Bool.false_ne_true, ih h.2, List.reverse_cons, List.append_assoc]
      rfl

/-- A text without quotes is one argument when it is put between quotes. -/
theorem split_inQuotes {s : String} (h : '"' ∉ s.toList) : split (inQuotes s) = [s] := by
  have hlist : (inQuotes s).toList = '"' :: (s.toList ++ '"' :: []) := by
    simp [inQuotes, String.toList_append]
  rw [split, hlist, splitChars, splitFrom, if_pos rfl, Bool.not_false, splitFrom_inside h]
  simp [splitFrom, flush]

theorem count_quote_inQuotes {s : String} (h : '"' ∉ s.toList) : (inQuotes s).toList.count '"' = 2 := by
  simp [inQuotes, String.toList_append, List.count_eq_zero.mpr h]

/-- Any texts without quotes are the arguments of the text that has each of them between quotes. -/
theorem split_join {words : List String} (h : ∀ w ∈ words, '"' ∉ w.toList) :
    split (String.intercalate " " (words.map inQuotes)) = words := by
  induction words with
  | nil => rfl
  | cons w words ih =>
      have hw := h w List.mem_cons_self
      have hwords : ∀ w' ∈ words, '"' ∉ w'.toList := fun w' hmem => h w' (List.mem_cons_of_mem _ hmem)
      cases words with
      | nil => exact split_inQuotes hw
      | cons w' words =>
          have hcount : (inQuotes w).toList.count '"' % 2 = 0 := by
            rw [count_quote_inQuotes hw]
          rw [List.map_cons, List.map_cons, String.intercalate_cons_cons, split_append hcount, split_inQuotes hw]
          exact congrArg (w :: ·) (ih hwords)

/-! ## What the arguments of a text are -/

/-- **The arguments of a text.** They are its runs, each without its quotes, from left to right. So texts without
    quotes are read back from a text that has each of them between quotes, and white space after a text that
    closes its quotes separates its arguments from what follows. -/
theorem split_runs :
    (∀ s : String, ∃ runs : List (Nat × Nat), runs.Pairwise (fun r r' => r.2 < r'.1) ∧
      (∀ i j, (i, j) ∈ runs ↔ IsRun s.toList i j) ∧
      split s = runs.map fun r => String.ofList (word s.toList r)) ∧
    (∀ words : List String, (∀ w ∈ words, '"' ∉ w.toList) →
      split (String.intercalate " " (words.map inQuotes)) = words) ∧
    (∀ s rest : String, s.toList.count '"' % 2 = 0 → split (s ++ " " ++ rest) = split s ++ split rest) := by
  refine ⟨?_, ?_, ?_⟩
  · intro s
    obtain ⟨runs, hruns, hsplit⟩ := splitChars_eq s.toList
    refine ⟨runs, hruns.sorted, ?_, ?_⟩
    · intro i j
      rw [hruns.mem_iff]
      exact and_iff_right (Nat.zero_le i)
    · rw [split, hsplit, List.map_map]
      rfl
  · intro words h
    exact split_join h
  · intro s rest h
    exact split_append h rest

theorem split_runs_quotedWords :
    (∀ w ∈ ["two words", "", "x"], '"' ∉ w.toList) ∧
    split (String.intercalate " " (["two words", "", "x"].map inQuotes)) = ["two words", "", "x"] ∧
    "say \"good day\"".toList.count '"' % 2 = 0 ∧
    split ("say \"good day\"" ++ " " ++ "b\"c d") = split "say \"good day\"" ++ split "b\"c d" := by
  have hquotes : ∀ w ∈ ["two words", "", "x"], '"' ∉ w.toList := by decide
  have hcount : "say \"good day\"".toList.count '"' % 2 = 0 := by decide
  exact ⟨hquotes, split_runs.2.1 _ hquotes, hcount, split_runs.2.2 _ _ hcount⟩

end Gatehouse.Arguments
