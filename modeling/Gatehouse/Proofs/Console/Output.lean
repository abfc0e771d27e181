import Gatehouse.Console

/-!
# `Gatehouse.Proofs.Console.Output` — what attempts to write put out

An attempt to write an action succeeds, and then its line is out with a line feed, or a step of it fails. Even then
the line can be out as a whole, if only the flush failed; otherwise some of its first bytes are out
(`Attempt.output_cases`). There is no line feed among these: the text of a value is one line
(`Json.newline_notMem_write`), and no other character has a line feed in its bytes. So the line feeds that are out
count the actions whose lines are out as a whole (`Console.count_bytes`).
-/

namespace Gatehouse

/-! ## The text of a value is one line -/

namespace Json

theorem newline_ne_hexDigit : ∀ n < 16, '\n' ≠ hexDigit n := by
  decide

theorem newline_notMem_escapeChar (c : Char) : '\n' ∉ escapeChar c := by
  by_cases hfeed : c = '\n'
  · subst hfeed
    decide
  · have hself : '\n' ∉ [c] := fun hmem => hfeed (List.mem_singleton.mp hmem).symm
    have hcontrol (h : c.toNat < 0x20) :
        '\n' ∉ ['\\', 'u', '0', '0', hexDigit (c.toNat / 16), hexDigit (c.toNat % 16)] := by
      have hhigh := newline_ne_hexDigit (c.toNat / 16) (by omega)
      have hlow := newline_ne_hexDigit (c.toNat % 16) (by omega)
      simp [hhigh, hlow]
    simp only [escapeChar]
    repeat' split
    all_goals first | decide | exact hcontrol ‹_› | exact hself

theorem newline_notMem_quote (s : String) : '\n' ∉ (quote s).toList := by
  simp [quote, newline_notMem_escapeChar]

theorem newline_notMem_toDigits (n : Nat) : '\n' ∉ Nat.toDigits 10 n := by
  intro hmem
  have hdigit := Nat.isDigit_of_mem_toDigits (by decide) (by decide) hmem
  cases hdigit

theorem newline_notMem_repr (i : Int) : '\n' ∉ i.repr.toList := by
  cases i with
  | ofNat n => simp [Int.repr, newline_notMem_toDigits]
  | negSucc n => simp [Int.repr, newline_notMem_toDigits]

mutual

/-- **The text of a value is one line.** -/
theorem newline_notMem_write : ∀ j : Json, '\n' ∉ j.write.toList
  | .null => by rw [write]; decide
  | .bool true => by rw [write]; decide
  | .bool false => by rw [write]; decide
  | .int i => newline_notMem_repr i
  | .real m e => by
      have hm := newline_notMem_repr m
      have he := newline_notMem_repr e
      simp [write, hm, he]
  | .str s => newline_notMem_quote s
  | .garbled => by rw [write]; decide
  | .arr items => by
      have hitems := newline_notMem_writeItems items
      simp [write, hitems]
  | .obj members => by
      have hmembers := newline_notMem_writeMembers members
      simp [write, hmembers]

/-- So are the texts of list elements with what stands between them. -/
theorem newline_notMem_writeItems : ∀ items : List Json, '\n' ∉ (writeItems items).toList
  | [] => by rw [writeItems]; decide
  | [item] => newline_notMem_write item
  | item :: next :: items => by
      have hitem := newline_notMem_write item
      have hitems := newline_notMem_writeItems (next :: items)
      simp [writeItems, hitem, hitems]

/-- And those of object members. -/
theorem newline_notMem_writeMembers : ∀ members : List (String × Json), '\n' ∉ (writeMembers members).toList
  | [] => by rw [writeMembers]; decide
  | [(name, value)] => by
      have hname := newline_notMem_quote name
      have hvalue := newline_notMem_write value
      simp [writeMembers, hname, hvalue]
  | (name, value) :: next :: members => by
      have hname := newline_notMem_quote name
      have hvalue := newline_notMem_write value
      have hmembers := newline_notMem_writeMembers (next :: members)
      simp [writeMembers, hname, hvalue, hmembers]

end

end Json

/-! ## Bytes of a line -/

/-- A byte that is another number is no line feed. -/
theorem Char.lineFeed_ne_ofNat {n : Nat} (h : n < 256) (hne : n ≠ 10) : (10 : UInt8) ≠ UInt8.ofNat n := by
  intro heq
  have hvalue : 10 = n % 256 := congrArg UInt8.toNat heq
  omega

/-- Only a line feed has a line feed in its bytes. -/
theorem Char.lineFeed_notMem_utf8 {c : Char} (h : c ≠ '\n') : 10 ∉ String.utf8EncodeChar c := by
  have hcode : c.val.toNat ≠ 10 := fun heq => h (Char.ext (UInt32.toNat_inj.mp heq))
  -- What is left are bytes above 127, and the code point itself where it is one byte.
  simp only [String.utf8EncodeChar]
  repeat' split
  all_goals simp only [List.mem_cons, List.not_mem_nil, or_false, not_or]
  · exact lineFeed_ne_ofNat (by omega) hcode
  · exact ⟨lineFeed_ne_ofNat (by omega) (by omega), lineFeed_ne_ofNat (by omega) (by omega)⟩
  · exact ⟨lineFeed_ne_ofNat (by omega) (by omega), lineFeed_ne_ofNat (by omega) (by omega),
      lineFeed_ne_ofNat (by omega) (by omega)⟩
  · exact ⟨lineFeed_ne_ofNat (by omega) (by omega), lineFeed_ne_ofNat (by omega) (by omega),
      lineFeed_ne_ofNat (by omega) (by omega), lineFeed_ne_ofNat (by omega) (by omega)⟩

theorem Action.lineFeed_notMem_bytes (a : Action) : 10 ∉ a.bytes := by
  rw [Action.bytes, List.mem_flatMap]
  rintro ⟨c, hc, hbyte⟩
  refine Char.lineFeed_notMem_utf8 ?_ hbyte
  rintro rfl
  exact Json.newline_notMem_write a.encode hc

/-- A line feed is out for an action whose line is out as a whole, and none for others. -/
theorem Output.count_bytes (o : Output) : o.bytes.count 10 = o.action?.toList.length := by
  cases o with
  | line a =>
      have hnone : a.bytes.count 10 = 0 := List.count_eq_zero.mpr a.lineFeed_notMem_bytes
      simp [bytes, action?, hnone]
  | torn a length =>
      have hnone : (a.bytes.take length).count 10 = 0 :=
        List.count_eq_zero.mpr fun hmem => a.lineFeed_notMem_bytes (List.mem_of_mem_take hmem)
      simp [bytes, action?, hnone]

/-! ## Attempts -/

namespace Attempt

variable {t : Attempt}

/-- Where no step fails, the line is out. -/
theorem output_of_success (h : t.failure? = none) (a : Action) : t.output a = .line a := by
  obtain ⟨line, lineFeed, flush⟩ := t
  simp only [failure?, Option.or_eq_none_iff, Option.map_eq_none_iff] at h
  obtain ⟨rfl, rfl, rfl⟩ := h
  rfl

/-- **What is out after an attempt that fails**: the line as a whole, if only the flush failed, and otherwise some
    of its first bytes. -/
theorem output_cases {reason : String} (h : t.failure? = some reason) (a : Action) :
    (t = ⟨none, none, some reason⟩ ∧ t.output a = .line a) ∨
    ((t.line ≠ none ∨ t.lineFeed ≠ none) ∧ ∃ length, t.output a = .torn a length) := by
  obtain ⟨line, lineFeed, flush⟩ := t
  cases line with
  | some cut => exact .inr ⟨.inl nofun, cut.1, rfl⟩
  | none =>
      cases lineFeed with
      | some r => exact .inr ⟨.inr nofun, a.bytes.length, rfl⟩
      | none =>
          left
          obtain rfl : flush = some reason := h
          exact ⟨rfl, rfl⟩

end Attempt

namespace Sink

variable {s : Sink}

theorem Works.attempt (h : s.Works) : s.attempt.failure? = none := by
  obtain ⟨next, later⟩ := s
  cases next with
  | nil => exact h.1
  | cons t next => exact h.2 t List.mem_cons_self

theorem Works.rest (h : s.Works) : s.rest.Works :=
  ⟨h.1, fun t ht => h.2 t (List.mem_of_mem_tail ht)⟩

end Sink

/-! ## Consoles -/

namespace Console

theorem written_put (c : Console) (o : Output) : (c.put o).written = c.written ++ o.action?.toList := by
  rw [written, put, List.filterMap_append, written]
  cases o <;> rfl

theorem bytes_put (c : Console) (o : Output) : (c.put o).bytes = c.bytes ++ o.bytes := by
  rw [bytes, put, List.flatMap_append, List.flatMap_singleton, bytes]

/-- **The line feeds that are out** count the actions whose lines are out as a whole. -/
theorem count_bytes (c : Console) : c.bytes.count 10 = c.written.length := by
  rw [bytes, written]
  induction c.output with
  | nil => rfl
  | cons o output ih =>
      rw [List.flatMap_cons, List.count_append, ih, o.count_bytes, List.filterMap_cons]
      cases o.action? with
      | none => exact Nat.zero_add _
      | some a => exact Nat.add_comm 1 _

end Console

end Gatehouse
