import Gatehouse.Text.Blank
import Gatehouse.Text.Lowercase

/-!
# `Gatehouse.Proofs.Text.Fields` — what may be written around words and between them

White space may stand around a word (`Text.IsPadded`), a word may be written in any ASCII case (`Text.Spells`), and
blank pieces may be scattered among the pieces between separators (`Text.Scattered`). Readers take all of it away
again: padding by trimming (`Text.IsPadded.trim_eq`), blank pieces by passing over them (`Text.scattered_iff`).
-/

namespace Gatehouse.Text

variable {core cs : List Char}

/-! ## White space around a text -/

/-- The text is `core` with white space around it. -/
def IsPadded (core cs : List Char) : Prop :=
  ∃ before after, cs = before ++ (core ++ after) ∧
    (∀ c ∈ before, isBlank c = true) ∧ ∀ c ∈ after, isBlank c = true

theorem IsPadded.refl (cs : List Char) : IsPadded cs cs :=
  ⟨[], [], by simp, nofun, nofun⟩

theorem isPadded_trim (cs : List Char) : IsPadded (trim cs) cs :=
  exists_eq_trim cs

/-- Before a character that is not white space, white space is cut off as if nothing followed. -/
theorem trimStart_append_cons {c : Char} (hc : isBlank c = false) (cs ds : List Char) :
    trimStart (cs ++ c :: ds) = trimStart cs ++ c :: ds := by
  unfold trimStart
  rw [List.dropWhile_append]
  split
  · next hempty =>
      rw [List.isEmpty_iff.mp hempty]
      exact trimStart_cons hc ds
  · rfl

theorem trimEnd_append_cons {c : Char} (hc : isBlank c = false) (cs ds : List Char) :
    trimEnd (cs ++ c :: ds) = cs ++ c :: trimEnd ds := by
  have hback := trimStart_append_cons hc ds.reverse cs.reverse
  unfold trimStart at hback
  simp [trimEnd, hback]

/-- What is cut off at the end is white space. -/
theorem exists_eq_trimEnd (cs : List Char) :
    ∃ after, cs = trimEnd cs ++ after ∧ ∀ c ∈ after, isBlank c = true := by
  obtain ⟨before, hcs, hbefore, -⟩ := exists_eq_trimStart cs.reverse
  refine ⟨before.reverse, ?_, fun c hc => hbefore c (List.mem_reverse.mp hc)⟩
  rw [trimEnd, ← List.reverse_append]
  exact List.reverse_eq_iff.mp hcs

/-- **Padding is cut off**, with the white space that the text has itself. -/
theorem IsPadded.trim_eq (h : IsPadded core cs) : trim cs = trim core := by
  obtain ⟨before, after, rfl, hbefore, hafter⟩ := h
  have hstart : trimStart (before ++ (core ++ after)) = trimStart (core ++ after) :=
    List.dropWhile_append_of_pos hbefore
  rw [trim, hstart, trimStart, List.dropWhile_append]
  split
  · next hempty =>
      -- There is nothing but white space at all.
      have hcore : trimStart core = [] := List.isEmpty_iff.mp hempty
      have hnone : trim after = [] := trim_eq_nil_iff.mpr (List.all_eq_true.mpr hafter)
      rw [trim, hcore]
      exact hnone
  · have hback : ∀ c ∈ after.reverse, isBlank c = true := fun c hc => hafter c (List.mem_reverse.mp hc)
    rw [trimEnd, List.reverse_append, List.dropWhile_append_of_pos hback]
    rfl

theorem trim_trim (cs : List Char) : trim (trim cs) = trim cs :=
  (isPadded_trim cs).trim_eq.symm

/-- White space may be put around padding. -/
theorem IsPadded.trans {inner : List Char} (h : IsPadded inner core) (hcore : IsPadded core cs) :
    IsPadded inner cs := by
  obtain ⟨before, after, rfl, hbefore, hafter⟩ := h
  obtain ⟨before', after', rfl, hbefore', hafter'⟩ := hcore
  refine ⟨before' ++ before, after ++ after', by simp, ?_, ?_⟩
  · exact List.forall_mem_append.mpr ⟨hbefore', hbefore⟩
  · exact List.forall_mem_append.mpr ⟨hafter, hafter'⟩

/-- Padding is nothing but white space. -/
theorem IsPadded.not_mem {c : Char} (h : IsPadded core cs) (hc : isBlank c = false) (hcore : c ∉ core) : c ∉ cs := by
  obtain ⟨before, after, rfl, hbefore, hafter⟩ := h
  have hnot {pad : List Char} (hpad : ∀ d ∈ pad, isBlank d = true) : c ∉ pad := by
    intro hmem
    rw [hpad c hmem] at hc
    cases hc
  rw [List.mem_append, List.mem_append, not_or, not_or]
  exact ⟨hnot hbefore, hcore, hnot hafter⟩

theorem isPadded_trimStart (cs : List Char) : IsPadded (trimStart cs) cs := by
  obtain ⟨before, hcs, hbefore, -⟩ := exists_eq_trimStart cs
  exact ⟨before, [], by simpa using hcs, hbefore, nofun⟩

/-- A text without white space is not trimmed. -/
theorem trim_eq_self (h : ∀ c ∈ cs, isBlank c = false) : trim cs = cs := by
  have hpadded : trim ([] ++ (cs ++ [])) = cs := trim_append nofun nofun
    (fun c hc => h c (List.mem_of_mem_head? hc)) (fun c hc => h c (List.mem_of_mem_getLast? hc))
  simpa using hpadded

/-! ## Words between separators -/

/-- The string can stand between separators: it is more than white space, is not trimmed, and has no separator in
    it. -/
structure IsPiece (sep : Char) (s : String) : Prop where
  ne_empty : s ≠ ""
  trimmed : trimmed s = s
  sep : sep ∉ s.toList

theorem IsPiece.trim_toList {sep : Char} {s : String} (h : IsPiece sep s) : trim s.toList = s.toList := by
  have htrimmed := congrArg String.toList h.trimmed
  rwa [Text.trimmed, String.toList_ofList] at htrimmed

/-- What is left of a text without separators, once white space is cut off, can. -/
theorem isPiece_trim {sep : Char} (hne : trim cs ≠ []) (h : sep ∉ cs) : IsPiece sep (String.ofList (trim cs)) := by
  constructor
  · exact fun hempty => hne (String.ofList_eq_empty_iff.mp hempty)
  · rw [trimmed, String.toList_ofList, trim_trim]
  · rw [String.toList_ofList]
    intro hsep
    obtain ⟨before, after, hcs, -, -⟩ := exists_eq_trim cs
    rw [hcs] at h
    exact h (List.mem_append_right _ (List.mem_append_left _ hsep))

/-- Whether a word can stand between separators and has no white space in it. -/
def isSolid (sep : Char) (word : String) : Bool :=
  !word.isEmpty && word.toList.all fun c => !isBlank c && c != sep

/-- A text without white space and separators can stand between separators. -/
theorem isPiece_of_isSolid {sep : Char} {s : String} (h : isSolid sep s = true) : IsPiece sep s := by
  obtain ⟨hne, hall⟩ := Bool.and_eq_true_iff.mp h
  have hsolid : ∀ c ∈ s.toList, isBlank c = false ∧ c ≠ sep := by
    intro c hc
    simpa using List.all_eq_true.mp hall c hc
  constructor
  · rintro rfl
    exact absurd hne (by decide)
  · rw [trimmed, trim_eq_self fun c hc => (hsolid c hc).1, String.ofList_toList]
  · exact fun hsep => (hsolid sep hsep).2 rfl

/-! ## Words in any case -/

/-- The string is the word in any ASCII case. -/
def Spells (word s : String) : Prop :=
  asciiLowercased s = word

instance (word s : String) : Decidable (Spells word s) :=
  inferInstanceAs (Decidable (asciiLowercased s = word))

theorem Spells.toList {word s : String} (h : Spells word s) : asciiLowercase s.toList = word.toList := by
  rw [← h, asciiLowercased, String.toList_ofList]

theorem toLower_toLower (c : Char) : c.toLower.toLower = c.toLower := by
  have hascii : ∀ n < 128, (Char.ofNat n).toLower.toLower = (Char.ofNat n).toLower := by
    decide +kernel
  by_cases h : c.toNat < 128
  · have hc := hascii c.toNat h
    rwa [Char.ofNat_toNat] at hc
  · rw [toLower_of_not_ascii h, toLower_of_not_ascii h]

/-- What was put in lowercase is its own spelling. -/
theorem spells_asciiLowercased (s : String) : Spells (asciiLowercased s) (asciiLowercased s) := by
  unfold Spells asciiLowercased asciiLowercase
  rw [String.toList_ofList, List.map_map]
  exact congrArg String.ofList (List.map_congr_left fun c _ => toLower_toLower c)

/-- Only a colon has the colon as its form in lowercase. -/
theorem eq_colon_of_toLower {c : Char} (h : c.toLower = ':') : c = ':' := by
  have hascii : ∀ n < 128, (Char.ofNat n).toLower = ':' → Char.ofNat n = ':' := by
    decide +kernel
  by_cases hc : c.toNat < 128
  · have hcolon := hascii c.toNat hc
    rw [Char.ofNat_toNat] at hcolon
    exact hcolon h
  · rwa [toLower_of_not_ascii hc] at h

/-- White space may be cut off before a text is put in lowercase or after it. -/
theorem trim_asciiLowercase (cs : List Char) : trim (asciiLowercase cs) = asciiLowercase (trim cs) := by
  have hblank : isBlank ∘ Char.toLower = isBlank := funext isBlank_toLower
  have hstart (ds : List Char) : (ds.map Char.toLower).dropWhile isBlank = (ds.dropWhile isBlank).map Char.toLower := by
    rw [List.dropWhile_map, hblank]
  unfold trim trimEnd trimStart asciiLowercase
  rw [hstart, ← List.map_reverse, hstart, List.map_reverse]

/-- A text that keeps its length is not trimmed. -/
theorem trim_eq_of_length_eq (h : (trim cs).length = cs.length) : trim cs = cs := by
  obtain ⟨before, after, hcs, -, -⟩ := exists_eq_trim cs
  have hlength := congrArg List.length hcs
  rw [List.length_append, List.length_append] at hlength
  have hbefore : before = [] := List.length_eq_zero_iff.mp (by omega)
  have hafter : after = [] := List.length_eq_zero_iff.mp (by omega)
  rw [hbefore, hafter, List.nil_append, List.append_nil] at hcs
  exact hcs.symm

/-- **A spelling of a word can stand where the word can.** -/
theorem Spells.isPiece {sep : Char} {word s : String} (h : Spells word s) (hsep : sep.toLower = sep)
    (hword : IsPiece sep word) : IsPiece sep s := by
  constructor
  · rintro rfl
    exact hword.ne_empty h.symm
  · have hlower : asciiLowercase (trim s.toList) = asciiLowercase s.toList := by
      rw [← trim_asciiLowercase, h.toList, hword.trim_toList]
    have hlength := congrArg List.length hlower
    rw [asciiLowercase, asciiLowercase, List.length_map, List.length_map] at hlength
    rw [trimmed, trim_eq_of_length_eq hlength, String.ofList_toList]
  · intro hmem
    refine hword.sep ?_
    rw [← h.toList, ← hsep]
    exact List.mem_map_of_mem hmem

/-- A name before a colon can stand there in lowercase too. -/
theorem IsPiece.asciiLowercased {s : String} (h : IsPiece ':' s) : IsPiece ':' (asciiLowercased s) := by
  have hlower : (Text.asciiLowercased s).toList = asciiLowercase s.toList := String.toList_ofList
  constructor
  · intro hempty
    have hnil : s.toList.map Char.toLower = [] := String.ofList_eq_empty_iff.mp hempty
    exact h.ne_empty (String.toList_eq_nil_iff.mp (List.map_eq_nil_iff.mp hnil))
  · rw [Text.trimmed, hlower, trim_asciiLowercase, h.trim_toList]
    rfl
  · rw [hlower]
    intro hmem
    obtain ⟨c, hc, hcolon⟩ := List.mem_map.mp hmem
    exact h.sep (eq_colon_of_toLower hcolon ▸ hc)

/-! ## Pieces between separators -/

theorem fields_eq_splitOn (sep : Char) (cs : List Char) : fields sep cs = cs.splitOn sep := by
  induction cs with
  | nil => exact (List.splitOn_nil sep).symm
  | cons c cs ih =>
      rw [fields, List.splitOn_cons_eq_if_modifyHead, ih]
      by_cases h : c = sep
      · simp [h]
      · have hne : cs.splitOn sep ≠ [] := List.splitOn_ne_nil sep cs
        obtain ⟨piece, pieces, hpieces⟩ := List.exists_cons_of_ne_nil hne
        simp [h, hpieces]

/-- A text is what its pieces and the separators between them make. -/
theorem intercalate_fields (sep : Char) (cs : List Char) : [sep].intercalate (fields sep cs) = cs := by
  rw [fields_eq_splitOn]
  exact List.intercalate_splitOn sep

/-- **Pieces without separators** are found again. -/
theorem fields_intercalate {sep : Char} {pieces : List (List Char)} (hne : pieces ≠ [])
    (h : ∀ piece ∈ pieces, sep ∉ piece) : fields sep ([sep].intercalate pieces) = pieces := by
  rw [fields_eq_splitOn]
  exact List.splitOn_intercalate sep h hne

/-- No piece has a separator in it. -/
theorem not_mem_of_mem_fields {sep : Char} {piece : List Char} (h : piece ∈ fields sep cs) : sep ∉ piece := by
  induction cs generalizing piece with
  | nil =>
      rw [List.mem_singleton.mp h]
      exact List.not_mem_nil
  | cons c cs ih =>
      rw [fields] at h
      split at h
      · rcases List.mem_cons.mp h with rfl | h
        · exact List.not_mem_nil
        · exact ih h
      · next hc =>
          split at h
          · rw [List.mem_singleton.mp h, List.mem_singleton]
            exact Ne.symm hc
          · next first rest hfields =>
              rcases List.mem_cons.mp h with rfl | h
              · rw [List.mem_cons, not_or]
                exact ⟨Ne.symm hc, ih (hfields ▸ List.mem_cons_self)⟩
              · exact ih (hfields ▸ List.mem_cons_of_mem _ h)

/-- What follows without a separator belongs to the last piece. -/
theorem fields_append {sep : Char} (cs : List Char) {after : List Char} (h : sep ∉ after) :
    ∃ front last, fields sep cs = front ++ [last] ∧ fields sep (cs ++ after) = front ++ [last ++ after] := by
  induction cs with
  | nil =>
      refine ⟨[], [], rfl, ?_⟩
      have hone := fields_intercalate (List.cons_ne_nil after []) (List.forall_mem_singleton.mpr h)
      simpa using hone
  | cons c cs ih =>
      obtain ⟨front, last, hfields, happended⟩ := ih
      rw [List.cons_append, fields, fields, hfields, happended]
      by_cases hc : c = sep
      · refine ⟨[] :: front, last, ?_, ?_⟩
        · rw [if_pos hc]
          rfl
        · rw [if_pos hc]
          rfl
      · rw [if_neg hc, if_neg hc]
        cases front with
        | nil => exact ⟨[], c :: last, rfl, rfl⟩
        | cons piece front => exact ⟨(c :: piece) :: front, last, rfl, rfl⟩

/-- White space at the end of a text is white space at the end of its last piece. -/
theorem map_trim_fields_trimEnd {sep : Char} (hsep : isBlank sep = false) (cs : List Char) :
    (fields sep (trimEnd cs)).map trim = (fields sep cs).map trim := by
  obtain ⟨after, hcs, hafter⟩ := exists_eq_trimEnd cs
  have hnot : sep ∉ after := by
    intro hmem
    rw [hafter sep hmem] at hsep
    cases hsep
  obtain ⟨front, last, hfields, happended⟩ := fields_append (trimEnd cs) hnot
  have hlast : IsPadded last (last ++ after) := ⟨[], after, rfl, nofun, hafter⟩
  calc (fields sep (trimEnd cs)).map trim = (front ++ [last]).map trim := by rw [hfields]
    _ = (front ++ [last ++ after]).map trim := by
      rw [List.map_append, List.map_append, List.map_singleton, List.map_singleton, hlast.trim_eq]
    _ = (fields sep cs).map trim := by rw [← happended, ← hcs]

/-! ## Blank pieces -/

/-- The words are what the pieces hold, each with white space around it, if those that hold nothing are passed
    over. -/
inductive Scattered : List String → List (List Char) → Prop where
  | nil : Scattered [] []
  | blank {words pieces piece} : (∀ c ∈ piece, isBlank c = true) → Scattered words pieces →
      Scattered words (piece :: pieces)
  | word {words pieces piece s} : IsPadded s.toList piece → Scattered words pieces →
      Scattered (s :: words) (piece :: pieces)

/-- What is left of pieces once white space and those that hold nothing are taken away. -/
def solidPieces (pieces : List (List Char)) : List String :=
  ((pieces.map trim).filter fun piece => !piece.isEmpty).map String.ofList

/-- **Words that are scattered among blank pieces are found again**, and nothing else is. -/
theorem scattered_iff {sep : Char} {words : List String} {pieces : List (List Char)}
    (hwords : ∀ s ∈ words, IsPiece sep s) : Scattered words pieces ↔ solidPieces pieces = words := by
  constructor
  · intro h
    induction h with
    | nil => rfl
    | @blank words pieces piece hblank _ ih =>
        have hnone : trim piece = [] := trim_eq_nil_iff.mpr (List.all_eq_true.mpr hblank)
        simp only [solidPieces, List.map_cons, hnone]
        exact ih hwords
    | @word words pieces piece s hpiece _ ih =>
        obtain ⟨hs, hrest⟩ := List.forall_mem_cons.mp hwords
        have htrim : trim piece = s.toList := hpiece.trim_eq.trans hs.trim_toList
        have hne : s.toList.isEmpty = false := by
          rw [List.isEmpty_eq_false_iff]
          exact fun hnil => hs.ne_empty (String.toList_eq_nil_iff.mp hnil)
        have hkept : solidPieces (piece :: pieces) = s :: solidPieces pieces := by
          simp [solidPieces, htrim, hne]
        rw [hkept, ih hrest]
  · rintro rfl
    clear hwords
    induction pieces with
    | nil => exact .nil
    | cons piece pieces ih =>
        cases hpiece : (trim piece).isEmpty with
        | true =>
            have hnone := List.isEmpty_iff.mp hpiece
            have hdropped : solidPieces (piece :: pieces) = solidPieces pieces := by
              simp [solidPieces, hnone]
            rw [hdropped]
            exact .blank (List.all_eq_true.mp (trim_eq_nil_iff.mp hnone)) ih
        | false =>
            have hkept : solidPieces (piece :: pieces) = String.ofList (trim piece) :: solidPieces pieces := by
              simp [solidPieces, hpiece]
            rw [hkept]
            refine .word ?_ ih
            rw [String.toList_ofList]
            exact isPadded_trim piece

/-- What is left of the pieces of a text can stand between the separators. -/
theorem isPiece_of_mem_solidPieces {sep : Char} {s : String} (h : s ∈ solidPieces (fields sep cs)) :
    IsPiece sep s := by
  obtain ⟨kept, hkept, rfl⟩ := List.mem_map.mp h
  obtain ⟨hmem, hne⟩ := List.mem_filter.mp hkept
  obtain ⟨piece, hpiece, rfl⟩ := List.mem_map.mp hmem
  refine isPiece_trim (fun hnil => ?_) (not_mem_of_mem_fields hpiece)
  rw [hnil] at hne
  exact absurd hne (by decide)

/-- No separator gets into the pieces. -/
theorem Scattered.sep_not_mem {sep : Char} {words : List String} {pieces : List (List Char)}
    (h : Scattered words pieces) (hsep : isBlank sep = false) (hwords : ∀ s ∈ words, sep ∉ s.toList) :
    ∀ piece ∈ pieces, sep ∉ piece := by
  induction h with
  | nil => exact nofun
  | @blank _ _ piece hblank _ ih =>
      have hpadded : IsPadded [] piece := ⟨[], piece, rfl, nofun, hblank⟩
      exact List.forall_mem_cons.mpr ⟨hpadded.not_mem hsep List.not_mem_nil, ih hwords⟩
  | word hpiece _ ih =>
      obtain ⟨hs, hrest⟩ := List.forall_mem_cons.mp hwords
      exact List.forall_mem_cons.mpr ⟨hpiece.not_mem hsep hs, ih hrest⟩

end Gatehouse.Text
