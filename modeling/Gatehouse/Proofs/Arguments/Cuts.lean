import Gatehouse.Proofs.Arguments.Runs

/-!
# `Gatehouse.Proofs.Arguments.Cuts` — a text cut at its first white space

What follows the first argument of a text can be found in two ways: as the other arguments, or as the text after
the first white space character. The two agree as long as that character is no part of the argument. Then the
text before it closes its quotes, and what comes after it is read as if it stood alone
(`Arguments.splitChars_after_of_closed`).

If the first argument has white space in it, the cut is inside of its quotes, and all that follows is read with
the quotes the other way round. That never comes to the same arguments, since what is read inside of a quote keeps
ahead of what is read outside (`Arguments.spelled_ahead`, `Arguments.splitChars_after_of_open`).
-/

namespace Gatehouse.Arguments

/-! ## White space around a text -/

/-- White space at the start of a text does not count. -/
theorem splitChars_append_of_blank {before : List Char} (h : ∀ c ∈ before, Text.isBlank c = true)
    (cs : List Char) : splitChars (before ++ cs) = splitChars cs := by
  induction before with
  | nil => rfl
  | cons b before ih =>
      have hb := h b List.mem_cons_self
      have hrest := ih fun c hc => h c (List.mem_cons_of_mem _ hc)
      rw [List.cons_append, ← hrest, splitChars, splitFrom, if_neg (ne_quote_of_isBlank hb), hb]
      rfl

/-- White space at the end of a text that closes its quotes does not count. -/
theorem splitFrom_append_blank {cs after : List Char} (h : ∀ c ∈ after, Text.isBlank c = true)
    (current : List Char) (inside quoted : Bool) (hclosed : (cs.count '"' + inside.toNat) % 2 = 0) :
    splitFrom current inside quoted (cs ++ after) = splitFrom current inside quoted cs := by
  cases after with
  | nil => rw [List.append_nil]
  | cons b after =>
      have hblank : splitChars after = [] := by
        have hrest := splitChars_append_of_blank (fun c hc => h c (List.mem_cons_of_mem b hc)) []
        rwa [List.append_nil] at hrest
      rw [splitFrom_append (h b List.mem_cons_self) after current inside quoted hclosed, hblank, List.append_nil]

theorem count_quote_of_blank {cs : List Char} (h : ∀ c ∈ cs, Text.isBlank c = true) : cs.count '"' = 0 := by
  rw [List.count_eq_zero]
  intro hmem
  exact ne_quote_of_isBlank (h _ hmem) rfl

/-- Trimming takes no quote away. -/
theorem count_quote_trim (cs : List Char) : (Text.trim cs).count '"' = cs.count '"' := by
  obtain ⟨before, after, heq, hbefore, hafter⟩ := Text.exists_eq_trim cs
  have hcount := congrArg (List.count '"') heq
  rw [List.count_append, List.count_append, count_quote_of_blank hbefore, count_quote_of_blank hafter] at hcount
  omega

/-- A text that closes its quotes has the same arguments when it is trimmed. -/
theorem splitChars_trim {cs : List Char} (hclosed : cs.count '"' % 2 = 0) :
    splitChars (Text.trim cs) = splitChars cs := by
  have hcount := count_quote_trim cs
  obtain ⟨before, after, heq, hbefore, hafter⟩ := Text.exists_eq_trim cs
  have hafter' : splitChars (Text.trim cs ++ after) = splitChars (Text.trim cs) :=
    splitFrom_append_blank hafter [] false false (by rw [hcount]; exact hclosed)
  calc splitChars (Text.trim cs) = splitChars (Text.trim cs ++ after) := hafter'.symm
    _ = splitChars (before ++ (Text.trim cs ++ after)) := (splitChars_append_of_blank hbefore _).symm
    _ = splitChars cs := by rw [← heq]

/-! ## Texts with arguments -/

/-- An argument that was begun is one in the end. -/
theorem splitFrom_ne_nil {current : List Char} {quoted : Bool} (h : current ≠ [] ∨ quoted = true)
    (cs : List Char) (inside : Bool) : splitFrom current inside quoted cs ≠ [] := by
  have hflush {current : List Char} {quoted : Bool} (h : current ≠ [] ∨ quoted = true) :
      flush current quoted ≠ [] := by
    rcases h with hcurrent | rfl
    · simp [flush, hcurrent]
    · simp [flush]
  induction cs generalizing current inside quoted with
  | nil => exact hflush h
  | cons c cs ih =>
      rw [splitFrom]
      split
      · exact ih (.inr rfl) _
      · split
        · exact List.append_ne_nil_of_left_ne_nil (hflush h) _
        · exact ih (.inl (List.cons_ne_nil _ _)) _

/-- **A text has arguments** unless it is nothing but white space. A quote alone is one already. -/
theorem split_eq_nil_iff {s : String} : split s = [] ↔ Text.isBlankOnly s = true := by
  rw [split, List.map_eq_nil_iff, Text.isBlankOnly]
  constructor
  · intro h
    obtain ⟨before, hcs, hbefore, hhead⟩ := Text.exists_eq_trimStart s.toList
    cases hrest : Text.trimStart s.toList with
    | nil =>
        rw [hcs, hrest, List.append_nil]
        exact List.all_eq_true.mpr hbefore
    | cons c rest =>
        rw [hrest] at hcs hhead
        have hc : Text.isBlank c = false := hhead c rfl
        rw [hcs, splitChars_append_of_blank hbefore, splitChars, splitFrom, hc] at h
        split at h
        · exact absurd h (splitFrom_ne_nil (.inr rfl) _ _)
        · exact absurd h (splitFrom_ne_nil (.inl (List.cons_ne_nil _ _)) _ _)
  · intro h
    have hblank := splitChars_append_of_blank (List.all_eq_true.mp h) []
    rwa [List.append_nil] at hblank

/-! ## Text without white space -/

/-- A text without white space belongs to the current argument, whatever its quotes. -/
theorem splitFrom_solid_append {cs : List Char} (h : ∀ c ∈ cs, Text.isBlank c = false) (rest current : List Char)
    (inside quoted : Bool) :
    splitFrom current inside quoted (cs ++ rest)
      = splitFrom ((cs.filter fun c => c ≠ '"').reverse ++ current) (inside != leavesOpen cs)
          (quoted || decide ('"' ∈ cs)) rest := by
  induction cs generalizing current inside quoted with
  | nil => simp [leavesOpen]
  | cons c cs ih =>
      have hcs : ∀ d ∈ cs, Text.isBlank d = false := fun d hd => h d (List.mem_cons_of_mem _ hd)
      rw [List.cons_append, splitFrom]
      by_cases hquote : c = '"'
      · subst hquote
        have hopen : leavesOpen ('"' :: cs) = !leavesOpen cs := by
          unfold leavesOpen
          rw [List.count_cons_self, ← decide_not, decide_eq_decide]
          omega
        rw [if_pos rfl, ih hcs, hopen]
        cases inside <;> simp
      · have hopen : leavesOpen (c :: cs) = leavesOpen cs := by
          unfold leavesOpen
          rw [List.count_cons_of_ne hquote]
        rw [if_neg hquote, h c List.mem_cons_self, Bool.false_and, if_neg Bool.false_ne_true, ih hcs, hopen]
        simp [hquote, Ne.symm hquote]

/-- By itself it is one argument. -/
theorem splitChars_solid {cs : List Char} (hne : cs ≠ []) (h : ∀ c ∈ cs, Text.isBlank c = false) :
    splitChars cs = [cs.filter fun c => c ≠ '"'] := by
  have hread : Reading cs [] cs [] := by
    refine ⟨by simp, ?_, .inl rfl⟩
    rintro k - - ⟨c, hc, hblank, -⟩
    have hsolid := h c (List.mem_of_getElem? hc)
    rw [hblank] at hsolid
    cases hsolid
  have hsplit := splitFrom_solid_append h [] [] false false
  rw [List.append_nil, List.append_nil, Bool.false_or] at hsplit
  rw [splitChars, hsplit, splitFrom, hread.flush_eq, closing, if_neg hne]
  simp [word]

/-! ## Inside and outside of quotes -/

/-- Arguments character by character, with a mark at the end of each. -/
def spelled (args : List (List Char)) : List (Option Char) :=
  args.flatMap fun arg => arg.map some ++ [none]

/-- What is spelled while the rest of a text is read. `started` says whether there is a current argument. -/
def spelledFrom (started inside : Bool) : List Char → List (Option Char)
  | [] => if started then [none] else []
  | c :: cs =>
      if c = '"' then spelledFrom true (!inside) cs
      else if Text.isBlank c && !inside then (if started then [none] else []) ++ spelledFrom false false cs
      else some c :: spelledFrom true inside cs

section

variable {c : Char} (started inside : Bool) (cs : List Char)

theorem spelledFrom_quote : spelledFrom started inside ('"' :: cs) = spelledFrom true (!inside) cs := by
  rw [spelledFrom, if_pos rfl]

theorem spelledFrom_gap (hquote : c ≠ '"') (hblank : Text.isBlank c = true) :
    spelledFrom started false (c :: cs) = (if started then [none] else []) ++ spelledFrom false false cs := by
  rw [spelledFrom, if_neg hquote, hblank]
  rfl

theorem spelledFrom_char (hquote : c ≠ '"') (hchar : Text.isBlank c = true → inside = true) :
    spelledFrom started inside (c :: cs) = some c :: spelledFrom true inside cs := by
  rw [spelledFrom, if_neg hquote, if_neg]
  intro hgap
  rw [Bool.and_eq_true, Bool.not_eq_true'] at hgap
  rw [hchar hgap.1] at hgap
  cases hgap.2

end

/-- What is left of an argument comes after what was read of it. -/
theorem spelled_splitFrom (cs current : List Char) (inside quoted : Bool) :
    spelled (splitFrom current inside quoted cs)
      = current.reverse.map some ++ spelledFrom (!current.isEmpty || quoted) inside cs := by
  have hflush (current : List Char) (quoted : Bool) : spelled (flush current quoted)
      = current.reverse.map some ++ if (!current.isEmpty || quoted) = true then [none] else [] := by
    cases current <;> cases quoted <;> simp [spelled, flush]
  induction cs generalizing current inside quoted with
  | nil => exact hflush current quoted
  | cons c cs ih =>
      rw [splitFrom, spelledFrom]
      by_cases hquote : c = '"'
      · rw [if_pos hquote, if_pos hquote, ih, Bool.or_true]
      · rw [if_neg hquote, if_neg hquote]
        by_cases hgap : (Text.isBlank c && !inside) = true
        · have happend (args args' : List (List Char)) : spelled (args ++ args') = spelled args ++ spelled args' :=
            List.flatMap_append
          rw [if_pos hgap, if_pos hgap, happend, hflush, ih, List.append_assoc]
          rfl
        · rw [if_neg hgap, if_neg hgap, ih]
          simp

/-- A text is read twice, by one reading inside of quotes where the other is outside. The first one has spelled
    `surplus` more than the other. It has an argument whenever it is inside of a quote, and to have none it has to
    end one. -/
structure Ahead (surplus : List (Option Char)) (started otherInside : Bool) : Prop where
  ne_nil : surplus ≠ []
  started_of_inside : otherInside = false → started = true
  ended : started = false → surplus.getLast? = some none

namespace Ahead

variable {surplus : List (Option Char)} {started otherInside : Bool}

/-- A quote starts an argument for both. -/
theorem quote (h : Ahead surplus started otherInside) : Ahead surplus true (!otherInside) :=
  ⟨h.ne_nil, fun _ => rfl, nofun⟩

/-- So does a character that the leading one spells. -/
theorem spell (surplus : List (Option Char)) (c : Char) (otherInside : Bool) :
    Ahead (surplus ++ [some c]) true otherInside :=
  ⟨by simp, fun _ => rfl, nofun⟩

/-- White space outside of quotes ends the argument of the leading one. -/
theorem finish (surplus : List (Option Char)) : Ahead (surplus ++ [none]) false true :=
  ⟨by simp, nofun, fun _ => List.getLast?_concat⟩

/-- A character is not all that the leading one is ahead when it has no argument. -/
theorem catchUp {c : Char} (h : Ahead (some c :: surplus) false true) : Ahead surplus false true := by
  have hlast := h.ended rfl
  have hne : surplus ≠ [] := by
    rintro rfl
    rw [List.getLast?_singleton] at hlast
    cases Option.some.inj hlast
  rw [List.getLast?_cons_of_ne_nil hne] at hlast
  exact ⟨hne, nofun, fun _ => hlast⟩

end Ahead

/-- **Who is ahead stays ahead.** If the leading reading comes out of its quote in the end, the two never spell
    the same. -/
theorem spelled_ahead {cs : List Char} {surplus : List (Option Char)} {started started' inside : Bool}
    (hahead : Ahead surplus started inside) (hclosed : (cs.count '"' + inside.toNat) % 2 = 0) :
    surplus ++ spelledFrom started (!inside) cs ≠ spelledFrom started' inside cs := by
  intro h
  induction cs generalizing surplus started started' inside with
  | nil =>
      have hout : inside = false := by
        cases inside with
        | false => rfl
        | true => simp at hclosed
      rw [hahead.started_of_inside hout] at h
      cases started' with
      | false => simp [spelledFrom] at h
      | true => exact hahead.ne_nil (by simpa [spelledFrom] using h)
  | cons c cs ih =>
      by_cases hquote : c = '"'
      · subst hquote
        rw [spelledFrom_quote, spelledFrom_quote] at h
        exact ih hahead.quote (count_after_quote hclosed) h
      · rw [List.count_cons_of_ne hquote] at hclosed
        -- Whatever the other reading spells next is the first that it is behind with.
        obtain ⟨first, behind, rfl⟩ := List.exists_cons_of_ne_nil hahead.ne_nil
        by_cases hblank : Text.isBlank c = true
        · cases inside with
          | false =>
              -- A character for the leading reading, and a gap for the other one.
              rw [Bool.not_false, spelledFrom_char started true cs hquote (fun _ => rfl),
                spelledFrom_gap started' cs hquote hblank] at h
              cases started' with
              | false => exact ih (.spell (first :: behind) c false) hclosed (by simpa using h)
              | true => exact ih (.spell behind c false) hclosed (by simpa using (List.cons.inj h).2)
          | true =>
              -- The other way round: the leading one ends an argument if it has one.
              rw [Bool.not_true, spelledFrom_gap started cs hquote hblank,
                spelledFrom_char started' true cs hquote (fun _ => rfl)] at h
              obtain ⟨rfl, hrest⟩ := List.cons.inj h
              cases started with
              | true => exact ih (.finish behind) hclosed (by simpa using hrest)
              | false => exact ih hahead.catchUp hclosed (by simpa using hrest)
        · -- Both spell the character.
          rw [spelledFrom_char started (!inside) cs hquote (fun hb => absurd hb hblank),
            spelledFrom_char started' inside cs hquote (fun hb => absurd hb hblank)] at h
          exact ih (.spell behind c inside) hclosed (by simpa using (List.cons.inj h).2)

/-- The current argument begins with what was read of it. -/
theorem exists_splitFrom_eq_cons (cs current : List Char) (inside : Bool) :
    ∃ more args, splitFrom current inside true cs = (current.reverse ++ more) :: args := by
  induction cs generalizing current inside with
  | nil => exact ⟨[], [], by simp [splitFrom, flush]⟩
  | cons c cs ih =>
      rw [splitFrom]
      split
      · exact ih current (!inside)
      · split
        · exact ⟨[], splitFrom [] false false cs, by simp [flush]⟩
        · obtain ⟨more, args, h⟩ := ih (c :: current) inside
          exact ⟨c :: more, args, by rw [h, List.reverse_cons, List.append_assoc]; rfl⟩

/-- A text that closes an open quote is not read the same inside of it and outside of it. -/
theorem splitFrom_ne_cons {cs : List Char} (hcount : cs.count '"' % 2 = 1) (current w : List Char) :
    splitFrom current true true cs ≠ w :: splitChars cs := by
  intro h
  obtain ⟨more, args, hfirst⟩ := exists_splitFrom_eq_cons cs current true
  obtain ⟨rfl, -⟩ := List.cons.inj (h.symm.trans hfirst)
  have hspelled := congrArg spelled h
  have houtside : spelled (splitChars cs) = spelledFrom false false cs := spelled_splitFrom cs [] false false
  have hcons (w : List Char) (args : List (List Char)) : spelled (w :: args) = w.map some ++ [none] ++ spelled args :=
    List.flatMap_cons
  rw [spelled_splitFrom, hcons, houtside, List.map_append, List.append_assoc, List.append_assoc,
    List.append_cancel_left_eq, ← List.append_assoc, Bool.or_true] at hspelled
  have hclosed : (cs.count '"' + true.toNat) % 2 = 0 := by
    rw [Bool.toNat_true]
    omega
  exact spelled_ahead (.finish (more.map some)) hclosed hspelled.symm

/-! ## The text after the first white space -/

/-- A text without white space is not cut. -/
theorem splitBlank?_of_solid {cs : List Char} (h : ∀ c ∈ cs, Text.isBlank c = false) :
    Text.splitBlank? cs = none := by
  have hall : ∀ c ∈ cs, (!Text.isBlank c) = true := fun c hc => by rw [h c hc]; rfl
  have hdrop : (cs ++ []).dropWhile (fun c => !Text.isBlank c) = [] := List.dropWhile_append_of_pos hall
  rw [List.append_nil] at hdrop
  rw [Text.splitBlank?, hdrop]

/-- Any other is cut at its first white space character. -/
theorem solid_or_cut (cs : List Char) :
    (∀ c ∈ cs, Text.isBlank c = false) ∨
    ∃ first b after, cs = first ++ b :: after ∧ (∀ c ∈ first, Text.isBlank c = false) ∧ Text.isBlank b = true := by
  induction cs with
  | nil => exact .inl nofun
  | cons c cs ih =>
      cases hc : Text.isBlank c with
      | true => exact .inr ⟨[], c, cs, rfl, nofun, hc⟩
      | false =>
          rcases ih with hsolid | ⟨first, b, after, rfl, hsolid, hb⟩
          · left
            exact List.forall_mem_cons.mpr ⟨hc, hsolid⟩
          · exact .inr ⟨c :: first, b, after, rfl, List.forall_mem_cons.mpr ⟨hc, hsolid⟩, hb⟩

section Cut

variable {first after : List Char} {b : Char} {w : List Char} {args : List (List Char)}

/-- **A cut outside of quotes** is between the first argument and the others. -/
theorem splitChars_after_of_closed (hne : first ≠ []) (hsolid : ∀ c ∈ first, Text.isBlank c = false)
    (hb : Text.isBlank b = true) (hopen : leavesOpen first = false)
    (hclosed : (first ++ b :: after).count '"' % 2 = 0) :
    splitChars (first ++ b :: after) = (first.filter fun c => c ≠ '"') :: splitChars (Text.trim after) := by
  have hfirst : first.count '"' % 2 = 0 := by
    have h := of_decide_eq_false hopen
    omega
  have hquote := ne_quote_of_isBlank hb
  have hafter : after.count '"' % 2 = 0 := by
    rw [List.count_append, List.count_cons_of_ne hquote] at hclosed
    omega
  rw [splitChars_trim hafter, splitChars, splitFrom_append hb after [] false false (by simpa using hfirst)]
  show splitChars first ++ _ = _
  rw [splitChars_solid hne hsolid]
  rfl

/-- **A cut inside of quotes** is inside of the first argument, and what follows it has not the other arguments. -/
theorem splitChars_after_of_open (hsolid : ∀ c ∈ first, Text.isBlank c = false) (hb : Text.isBlank b = true)
    (hopen : leavesOpen first = true) (hclosed : (first ++ b :: after).count '"' % 2 = 0)
    (hsplit : splitChars (first ++ b :: after) = w :: args) :
    b ∈ w ∧ splitChars (Text.trim after) ≠ args := by
  have hquote := ne_quote_of_isBlank hb
  have hfirst : first.count '"' % 2 = 1 := of_decide_eq_true hopen
  have hafter : after.count '"' % 2 = 1 := by
    rw [List.count_append, List.count_cons_of_ne hquote] at hclosed
    omega
  have hmem : '"' ∈ first := by
    rw [← List.count_pos_iff]
    omega
  -- The white space is quoted, so it belongs to the argument.
  have hinside : splitChars (first ++ b :: after)
      = splitFrom (b :: (first.filter fun c => c ≠ '"').reverse) true true after := by
    rw [splitChars, splitFrom_solid_append hsolid, hopen, decide_eq_true hmem, splitFrom, if_neg hquote]
    simp
  rw [hinside] at hsplit
  constructor
  · obtain ⟨more, args', hcons⟩ := exists_splitFrom_eq_cons after (b :: (first.filter fun c => c ≠ '"').reverse) true
    obtain ⟨rfl, -⟩ := List.cons.inj (hsplit.symm.trans hcons)
    simp
  · intro h
    obtain ⟨before, rest, heq, hbefore, hrest⟩ := Text.exists_eq_trim after
    have hcount : (before ++ Text.trim after).count '"' % 2 = 1 := by
      rw [List.count_append, count_quote_of_blank hbefore, count_quote_trim]
      omega
    have hread : splitFrom (b :: (first.filter fun c => c ≠ '"').reverse) true true (before ++ Text.trim after)
        = w :: splitChars (before ++ Text.trim after) := by
      rw [splitChars_append_of_blank hbefore, h, ← hsplit]
      conv => rhs; rw [heq, ← List.append_assoc]
      exact (splitFrom_append_blank hrest _ true true (by simp only [Bool.toNat_true]; omega)).symm
    exact splitFrom_ne_cons hcount _ _ hread

end Cut

/-- **Two ways to go on after the first argument.** A text that closes its quotes is cut at its first white space
    character. What follows the cut has the other arguments exactly if the first one has no white space in it. -/
theorem splitChars_after_iff {cs w : List Char} {args : List (List Char)}
    (hstart : ∀ c ∈ cs.head?, Text.isBlank c = false) (hclosed : cs.count '"' % 2 = 0)
    (hsplit : splitChars cs = w :: args) :
    splitChars (((Text.splitBlank? cs).map fun parts => Text.trim parts.2).getD []) = args ↔
      ∀ c ∈ w, Text.isBlank c = false := by
  have hword {first : List Char} (hsolid : ∀ c ∈ first, Text.isBlank c = false) :
      ∀ c ∈ first.filter (fun c => c ≠ '"'), Text.isBlank c = false := by
    intro c hc
    exact hsolid c (List.mem_filter.mp hc).1
  rcases solid_or_cut cs with hsolid | ⟨first, b, after, rfl, hsolid, hb⟩
  · have hne : cs ≠ [] := by
      rintro rfl
      cases hsplit
    rw [splitChars_solid hne hsolid] at hsplit
    obtain ⟨rfl, rfl⟩ := List.cons.inj hsplit
    rw [splitBlank?_of_solid hsolid]
    exact iff_of_true rfl (hword hsolid)
  · have hne : first ≠ [] := by
      rintro rfl
      have h := hstart b rfl
      rw [hb] at h
      cases h
    rw [Text.splitBlank?_append hsolid hb, Option.map_some, Option.getD_some]
    cases hopen : leavesOpen first with
    | false =>
        rw [splitChars_after_of_closed hne hsolid hb hopen hclosed] at hsplit
        obtain ⟨rfl, rfl⟩ := List.cons.inj hsplit
        exact iff_of_true rfl (hword hsolid)
    | true =>
        obtain ⟨hmem, hother⟩ := splitChars_after_of_open hsolid hb hopen hclosed hsplit
        refine iff_of_false hother ?_
        intro h
        rw [h b hmem] at hb
        cases hb

end Gatehouse.Arguments
