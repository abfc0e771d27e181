import Gatehouse.Locale.Template

/-!
# `Gatehouse.Proofs.Locale.References` — where the references of a template are

A reference to one of `n` arguments is an index between braces. A template can be cut at its references, so that no
piece between them has one (`Cut.IsProper`). Two references never overlap, so there is only one way to do this
(`Cut.eq_of_text_eq`), whatever else there is of braces.

Rendering finds this cut and puts the arguments in (`Template.render_fills`). The cut is there before the arguments
are, so braces in an argument make no difference to it.
-/

namespace Gatehouse.Template

/-! ## References -/

/-- Digits that stand for one of `n` arguments. -/
structure IsIndex (n : Nat) (digits : List Char) : Prop where
  ne_nil : digits ≠ []
  isDigit : ∀ c ∈ digits, c.isDigit = true
  lt : Numeral.value digits < n

/-- Digits between braces. -/
def braced (digits : List Char) : List Char :=
  '\x7b' :: (digits ++ ['\x7d'])

/-- A text without references. -/
def IsLiteral (n : Nat) (cs : List Char) : Prop :=
  ∀ digits, IsIndex n digits → ¬ braced digits <:+: cs

/-- What follows an opening brace is a reference if it is an index and a closing brace. -/
theorem reference?_eq_some_iff {n i : Nat} {cs rest : List Char} :
    reference? n cs = some (i, rest) ↔
      ∃ digits, IsIndex n digits ∧ Numeral.value digits = i ∧ cs = digits ++ '\x7d' :: rest := by
  constructor
  · intro h
    simp only [reference?] at h
    split at h
    · next rest' hrest =>
        split at h
        · next hindex =>
            obtain ⟨hvalue, rfl⟩ := Prod.mk.inj (Option.some.inj h)
            refine ⟨_, ⟨hindex.1, List.all_eq_true.mp List.all_takeWhile, hindex.2⟩, hvalue, ?_⟩
            rw [← hrest, List.takeWhile_append_dropWhile]
        · cases h
    · cases h
  · rintro ⟨digits, hindex, rfl, rfl⟩
    have hbrace : ¬ Char.isDigit '\x7d' = true := by decide
    simp only [reference?, List.dropWhile_append_of_pos hindex.isDigit, List.takeWhile_append_of_pos hindex.isDigit,
      List.dropWhile_cons_of_neg hbrace, List.takeWhile_cons_of_neg hbrace, List.append_nil]
    rw [if_pos ⟨hindex.ne_nil, hindex.lt⟩]

/-- A text without an opening brace has no references. -/
theorem isLiteral_of_not_mem {n : Nat} {cs : List Char} (h : '\x7b' ∉ cs) : IsLiteral n cs := by
  intro digits _ hpart
  exact h (hpart.subset List.mem_cons_self)

/-- A character in front that begins no reference adds none. -/
theorem IsLiteral.cons {n : Nat} {cs : List Char} (h : IsLiteral n cs) {c : Char}
    (hc : ∀ digits, IsIndex n digits → ¬ braced digits <+: c :: cs) : IsLiteral n (c :: cs) := by
  intro digits hindex hpart
  rcases List.infix_cons_iff.mp hpart with hstart | hpart
  · exact hc digits hindex hstart
  · exact h digits hindex hpart

/-- A reference is not entered in the middle: where a text with a reference at its start has an opening brace, that
    is the first one or one after the reference. -/
theorem eq_nil_or_braced_append {n : Nat} {digits front rest rest' : List Char} (hindex : IsIndex n digits)
    (h : front ++ '\x7b' :: rest = braced digits ++ rest') :
    front = [] ∨ ∃ more, front = braced digits ++ more := by
  cases front with
  | nil => exact .inl rfl
  | cons b front =>
      right
      obtain ⟨rfl, -⟩ := List.cons.inj h
      have htail : front ++ '\x7b' :: rest = digits ++ ['\x7d'] ++ rest' := (List.cons.inj h).2
      rcases List.append_eq_append_iff.mp htail with ⟨middle, hmiddle, hrest⟩ | ⟨more, rfl, -⟩
      · cases middle with
        | nil =>
            refine ⟨[], ?_⟩
            rw [List.append_nil] at hmiddle ⊢
            rw [braced, hmiddle]
        | cons b middle =>
            -- The brace would be a digit, or a closing one.
            obtain ⟨rfl, -⟩ := List.cons.inj hrest
            have hmem : '\x7b' ∈ digits ++ ['\x7d'] := hmiddle ▸ List.mem_append_right front List.mem_cons_self
            rcases List.mem_append.mp hmem with hdigit | hclosing
            · exact absurd (hindex.isDigit _ hdigit) (by decide)
            · exact absurd (List.mem_singleton.mp hclosing) (by decide)
      · exact ⟨more, rfl⟩

/-- Two references at one place are the same. -/
theorem braced_append_inj {n : Nat} {digits digits' rest rest' : List Char} (hindex : IsIndex n digits)
    (hindex' : IsIndex n digits') (h : braced digits ++ rest = braced digits' ++ rest') :
    digits = digits' ∧ rest = rest' := by
  have hread {digits : List Char} (hindex : IsIndex n digits) (rest : List Char) :
      (digits ++ ['\x7d'] ++ rest).takeWhile Char.isDigit = digits := by
    rw [List.append_assoc, List.takeWhile_append_of_pos hindex.isDigit, List.singleton_append,
      List.takeWhile_cons_of_neg (by decide), List.append_nil]
  have htail : digits ++ ['\x7d'] ++ rest = digits' ++ ['\x7d'] ++ rest' := (List.cons.inj h).2
  have hdigits : digits = digits' := by
    rw [← hread hindex rest, htail, hread hindex' rest']
  subst hdigits
  exact ⟨rfl, List.append_cancel_left htail⟩

/-! ## Cutting a template -/

/-- A template cut at references: a literal piece before each of them, and one after the last. -/
inductive Cut where
  | last (literal : List Char)
  | before (literal digits : List Char) (rest : Cut)

namespace Cut

/-- The template. -/
def text : Cut → List Char
  | last literal => literal
  | before literal digits rest => literal ++ (braced digits ++ rest.text)

/-- The template with arguments in the place of the references. -/
def fill (args : List String) : Cut → List Char
  | last literal => literal
  | before literal digits rest => literal ++ ((args[Numeral.value digits]?.getD "").toList ++ rest.fill args)

/-- It is cut at all references to one of `n` arguments, and only there. -/
def IsProper (n : Nat) : Cut → Prop
  | last literal => IsLiteral n literal
  | before literal digits rest => IsLiteral n literal ∧ IsIndex n digits ∧ rest.IsProper n

/-- A character more at the start. -/
def cons (c : Char) : Cut → Cut
  | last literal => last (c :: literal)
  | before literal digits rest => before (c :: literal) digits rest

theorem text_cons (c : Char) (cut : Cut) : (cut.cons c).text = c :: cut.text := by
  cases cut <;> rfl

theorem fill_cons (args : List String) (c : Char) (cut : Cut) : (cut.cons c).fill args = c :: cut.fill args := by
  cases cut <;> rfl

/-- Two texts that go on with a reference, and have none before, have the same before. -/
theorem literal_eq {n : Nat} {literal literal' digits digits' rest rest' : List Char}
    (hliteral : IsLiteral n literal) (hliteral' : IsLiteral n literal') (hindex : IsIndex n digits)
    (hindex' : IsIndex n digits') (h : literal ++ (braced digits ++ rest) = literal' ++ (braced digits' ++ rest')) :
    literal = literal' := by
  rcases List.append_eq_append_iff.mp h with ⟨more, rfl, hmore⟩ | ⟨more, rfl, hmore⟩
  · rcases eq_nil_or_braced_append hindex hmore.symm with rfl | ⟨after, rfl⟩
    · exact (List.append_nil literal).symm
    · exact absurd ⟨literal, after, List.append_assoc _ _ _⟩ (hliteral' digits hindex)
  · rcases eq_nil_or_braced_append hindex' hmore.symm with rfl | ⟨after, rfl⟩
    · exact List.append_nil literal'
    · exact absurd ⟨literal', after, List.append_assoc _ _ _⟩ (hliteral digits' hindex')

/-- A text with a reference is no literal. -/
theorem not_isLiteral {n : Nat} {literal digits rest : List Char} (hindex : IsIndex n digits) :
    ¬ IsLiteral n (literal ++ (braced digits ++ rest)) := by
  intro hliteral
  exact hliteral digits hindex ⟨literal, rest, List.append_assoc _ _ _⟩

/-- **There is one way** to cut a template at its references. -/
theorem eq_of_text_eq {n : Nat} {cut cut' : Cut} (hcut : cut.IsProper n) (hcut' : cut'.IsProper n)
    (h : cut.text = cut'.text) : cut = cut' := by
  induction cut generalizing cut' with
  | last literal =>
      cases cut' with
      | last literal' => exact congrArg last h
      | before literal' digits' rest' =>
          have hliteral : IsLiteral n literal := hcut
          rw [show literal = literal' ++ (braced digits' ++ rest'.text) from h] at hliteral
          exact absurd hliteral (not_isLiteral hcut'.2.1)
  | before literal digits rest ih =>
      cases cut' with
      | last literal' =>
          have hliteral : IsLiteral n literal' := hcut'
          rw [← show literal ++ (braced digits ++ rest.text) = literal' from h] at hliteral
          exact absurd hliteral (not_isLiteral hcut.2.1)
      | before literal' digits' rest' =>
          obtain ⟨hliteral, hindex, hrest⟩ := hcut
          obtain ⟨hliteral', hindex', hrest'⟩ := hcut'
          obtain rfl := literal_eq hliteral hliteral' hindex hindex' h
          obtain ⟨rfl, htext⟩ := braced_append_inj hindex hindex' (List.append_cancel_left h)
          rw [ih hrest hrest' htext]

/-- A character that begins no reference belongs to the first piece. -/
theorem IsProper.cons {n : Nat} {cut : Cut} (hcut : cut.IsProper n) {c : Char}
    (hc : ∀ digits, IsIndex n digits → ¬ braced digits <+: c :: cut.text) : (cut.cons c).IsProper n := by
  cases cut with
  | last literal => exact IsLiteral.cons hcut hc
  | before literal digits rest =>
      refine ⟨IsLiteral.cons hcut.1 ?_, hcut.2⟩
      intro digits' hindex' hstart
      have hfirst : c :: literal <+: c :: (literal ++ (braced digits ++ rest.text)) := List.prefix_append (c :: literal) _
      exact hc digits' hindex' (hstart.trans hfirst)

end Cut

/-! ## Rendering -/

/-- **The pieces of a template** come from a cut at its references. -/
theorem exists_cut (n : Nat) (cs : List Char) :
    ∃ cut : Cut, cut.IsProper n ∧ cut.text = cs ∧
      ∀ args, (pieces n cs).flatMap (Piece.text args) = cut.fill args := by
  fun_induction pieces n cs with
  | case1 => exact ⟨.last [], isLiteral_of_not_mem List.not_mem_nil, rfl, fun _ => rfl⟩
  | case2 cs i rest href _ ih =>
      obtain ⟨cut, hcut, rfl, hfill⟩ := ih
      obtain ⟨digits, hindex, rfl, rfl⟩ := reference?_eq_some_iff.mp href
      refine ⟨.before [] digits cut, ⟨isLiteral_of_not_mem List.not_mem_nil, hindex, hcut⟩, ?_, ?_⟩
      · simp [Cut.text, braced]
      · intro args
        rw [List.flatMap_cons, hfill, Cut.fill, List.nil_append]
        rfl
  | case3 cs hnone ih =>
      obtain ⟨cut, hcut, rfl, hfill⟩ := ih
      refine ⟨cut.cons '\x7b', hcut.cons ?_, cut.text_cons _, ?_⟩
      · rintro digits hindex ⟨rest, hrest⟩
        have htext : digits ++ ['\x7d'] ++ rest = cut.text := (List.cons.inj hrest).2
        rw [List.append_assoc, List.singleton_append] at htext
        rw [reference?_eq_some_iff.mpr ⟨digits, hindex, rfl, htext.symm⟩] at hnone
        cases hnone
      · intro args
        rw [List.flatMap_cons, hfill, Cut.fill_cons]
        rfl
  | case4 c cs hc ih =>
      obtain ⟨cut, hcut, rfl, hfill⟩ := ih
      refine ⟨cut.cons c, hcut.cons ?_, cut.text_cons c, ?_⟩
      · rintro digits - ⟨rest, hrest⟩
        exact hc (List.cons.inj hrest).1.symm
      · intro args
        rw [List.flatMap_cons, hfill, Cut.fill_cons]
        rfl

/-- A template is rendered by filling any cut of it at its references. -/
theorem render_of_cut {template : String} {args : List String} {cut : Cut} (hcut : cut.IsProper args.length)
    (htext : cut.text = template.toList) : render template args = String.ofList (cut.fill args) := by
  obtain ⟨found, hfound, htext', hfill⟩ := exists_cut args.length template.toList
  rw [render, hfill, Cut.eq_of_text_eq hcut hfound (htext.trans htext'.symm)]

/-- **Rendering puts arguments in the place of references** and leaves the rest as it is. There is one cut of a
    template at its references to one of `n` arguments, so that no other piece of it has one. It is filled with
    whatever arguments there are, if there are `n` of them. -/
theorem render_fills (template : String) (n : Nat) :
    ∃ cut : Cut, cut.text = template.toList ∧ cut.IsProper n ∧
      (∀ cut' : Cut, cut'.text = template.toList → cut'.IsProper n → cut' = cut) ∧
      ∀ args : List String, args.length = n → render template args = String.ofList (cut.fill args) := by
  obtain ⟨cut, hcut, htext, hfill⟩ := exists_cut n template.toList
  refine ⟨cut, htext, hcut, ?_, ?_⟩
  · intro cut' htext' hcut'
    exact Cut.eq_of_text_eq hcut' hcut (htext'.trans htext.symm)
  · rintro args rfl
    rw [render, hfill]

/-- Two references in the other order, and an argument that looks like one. -/
theorem render_fills_swapped :
    let cut : Cut := .before [] ['1'] (.before " then ".toList ['0'] (.last []))
    let args := ["\x7b1\x7d", "b"]
    cut.text = "\x7b1\x7d then \x7b0\x7d".toList ∧ cut.IsProper 2 ∧ args.length = 2 ∧
      render "\x7b1\x7d then \x7b0\x7d" args = "b then \x7b1\x7d" := by
  intro cut args
  have htext : cut.text = "\x7b1\x7d then \x7b0\x7d".toList := by decide
  have hcut : cut.IsProper 2 :=
    ⟨isLiteral_of_not_mem (by decide), ⟨by decide, by simp, by decide⟩,
      isLiteral_of_not_mem (by decide), ⟨by decide, by simp, by decide⟩, isLiteral_of_not_mem (by decide)⟩
  obtain ⟨found, -, -, hunique, hfill⟩ := render_fills "\x7b1\x7d then \x7b0\x7d" 2
  obtain rfl := hunique cut htext hcut
  exact ⟨htext, hcut, rfl, (hfill args rfl).trans (by decide)⟩

end Gatehouse.Template
