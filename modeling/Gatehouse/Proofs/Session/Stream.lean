import Gatehouse.Session

/-!
# `Gatehouse.Proofs.Session.Stream` — lines that tell nothing

A stream is cut into lines at its line feeds (`Feed.lines_append`, `Feed.lines_line`). What is read of it are the
events of its lines up to the first that is no text (`Feed.readLines_eq`). So a line that is text and holds no
event makes no difference wherever it stands (`Feed.read_congr`), and if every line is text, the session works
on the events of all lines (`Session.feed_of_text`). A line that is no text does make a difference: it hides all
that follows (`Feed.read_of_undecodable`, `Session.undecodable_line_ends_the_stream`).
-/

namespace Gatehouse

namespace Feed

/-! ## Lines -/

/-- Whether bytes end with the end of a line. -/
def EndsLine (bytes : List UInt8) : Prop :=
  bytes = [] ∨ bytes.getLast? = some 10

theorem EndsLine.of_cons {b : UInt8} {bytes : List UInt8} (h : EndsLine (b :: bytes)) : EndsLine bytes := by
  cases bytes with
  | nil => exact .inl rfl
  | cons b' bytes =>
      rw [EndsLine, List.getLast?_cons_cons] at h
      exact .inr (h.resolve_left (List.cons_ne_nil _ _))

theorem EndsLine.ne_nil_of_cons {b : UInt8} {bytes : List UInt8} (h : EndsLine (b :: bytes)) (hb : b ≠ 10) :
    bytes ≠ [] := by
  rintro rfl
  rcases h with h | h
  · exact List.cons_ne_nil _ _ h
  · exact hb (Option.some.inj h)

theorem lines_feed (bytes : List UInt8) : lines (10 :: bytes) = [] :: lines bytes := by
  simp [lines]

theorem lines_eq_nil_iff {bytes : List UInt8} : lines bytes = [] ↔ bytes = [] := by
  cases bytes with
  | nil => simp [lines]
  | cons b bytes =>
      simp only [lines, reduceCtorEq, iff_false]
      split
      · exact List.cons_ne_nil _ _
      · split <;> exact List.cons_ne_nil _ _

theorem lines_cons_of_lines {b : UInt8} (hb : b ≠ 10) {bytes line : List UInt8} {rest : List (List UInt8)}
    (h : lines bytes = line :: rest) : lines (b :: bytes) = (b :: line) :: rest := by
  simp [lines, hb, h]

/-- Bytes that end with the end of a line have no line in common with what follows. -/
theorem lines_append {front : List UInt8} (h : EndsLine front) (back : List UInt8) :
    lines (front ++ back) = lines front ++ lines back := by
  induction front with
  | nil => rfl
  | cons b front ih =>
      have ih := ih h.of_cons
      rw [List.cons_append]
      by_cases hb : b = 10
      · subst hb
        rw [lines_feed, lines_feed, ih, List.cons_append]
      · obtain ⟨line, rest, hlines⟩ :=
          List.exists_cons_of_ne_nil (mt lines_eq_nil_iff.mp (h.ne_nil_of_cons hb))
        rw [hlines, List.cons_append] at ih
        rw [lines_cons_of_lines hb hlines, lines_cons_of_lines hb ih, List.cons_append]

/-- The first line goes up to the first line feed. -/
theorem lines_line {line : List UInt8} (h : 10 ∉ line) (back : List UInt8) :
    lines (line ++ 10 :: back) = line :: lines back := by
  induction line with
  | nil => exact lines_feed back
  | cons b line ih =>
      rw [List.mem_cons, not_or] at h
      exact lines_cons_of_lines (Ne.symm h.1) (ih h.2)

/-! ## What lines tell -/

/-- Whether a line is text. -/
def isText (line : List UInt8) : Bool :=
  (text? line).isSome

/-- The event of a line, if it is text and holds one. -/
def lineEvent? (line : List UInt8) : Option Event :=
  (text? line).bind event?

/-- Whether a line is text that holds no event. -/
def isInert (line : List UInt8) : Bool :=
  isText line && (lineEvent? line).isNone

/-- The events of all lines of a stream. -/
def events (bytes : List UInt8) : List Event :=
  (lines bytes).filterMap lineEvent?

/-- A line of text is inert if the text holds no event. -/
theorem isInert_of_text {line : List UInt8} {text : String} (h : text? line = some text) :
    isInert line = (event? text).isNone := by
  simp [isInert, isText, lineEvent?, h]

/-- A line that is no text is not inert. -/
theorem isInert_of_undecodable {line : List UInt8} (h : text? line = none) : isInert line = false := by
  simp [isInert, isText, h]

/-- A blank line holds no event. -/
theorem isInert_of_blank {line : List UInt8} {text : String} (htext : text? line = some text)
    (hblank : Text.isBlankOnly text = true) : isInert line = true := by
  have htrim : Text.trimmed text = "" := by
    rw [Text.trimmed, Text.trim_eq_nil_iff.mpr hblank, String.ofList_nil]
  rw [isInert_of_text htext, event?, htrim]
  decide +kernel

/-- What is read are the events of the lines up to the first that is no text. -/
theorem readLines_eq (ls : List (List UInt8)) :
    readLines ls = ((ls.takeWhile isText).filterMap lineEvent?, ls.all isText) := by
  induction ls with
  | nil => rfl
  | cons line ls ih =>
      cases htext : text? line with
      | none => simp [readLines, isText, htext]
      | some text => cases hevent : event? text <;> simp [readLines, isText, lineEvent?, htext, hevent, ih]

/-- Inert lines make no difference. -/
theorem readLines_filter (ls : List (List UInt8)) :
    readLines (ls.filter fun line => !isInert line) = readLines ls := by
  induction ls with
  | nil => rfl
  | cons line ls ih =>
      cases htext : text? line with
      | none => simp [readLines, isInert_of_undecodable htext, htext]
      | some text => cases hevent : event? text <;> simp [readLines, isInert_of_text htext, htext, hevent, ih]

/-- Of streams that differ in inert lines only, the same is read. -/
theorem read_congr {bytes bytes' : List UInt8}
    (h : ((lines bytes).filter fun line => !isInert line) = (lines bytes').filter fun line => !isInert line) :
    read bytes = read bytes' := by
  rw [read, read, ← readLines_filter, h, readLines_filter]

/-- Of a stream of text, the events of all lines are read. -/
theorem read_of_text {bytes : List UInt8} (h : (lines bytes).all isText = true) :
    read bytes = (events bytes, true) := by
  have htake : (lines bytes).takeWhile isText = lines bytes := by
    have happend : (lines bytes ++ []).takeWhile isText = lines bytes ++ [].takeWhile isText :=
      List.takeWhile_append_of_pos (List.all_eq_true.mp h)
    rwa [List.append_nil, List.takeWhile_nil, List.append_nil] at happend
  rw [read, readLines_eq, h, htake, events]

/-- Of a stream with a line that is no text, the events of the lines before it are read. -/
theorem read_of_undecodable {bytes line : List UInt8} {before after : List (List UInt8)}
    (hlines : lines bytes = before ++ line :: after) (hbefore : before.all isText = true)
    (hline : isText line = false) : read bytes = (before.filterMap lineEvent?, false) := by
  have htake : (before ++ line :: after).takeWhile isText = before := by
    rw [List.takeWhile_append_of_pos (List.all_eq_true.mp hbefore)]
    simp [hline]
  rw [read, readLines_eq, hlines, htake]
  simp [hline]

end Feed

/-! ## Streams that a session is fed with -/

namespace Session

open Feed

theorem feed_congr {bytes bytes' : List UInt8} (h : Feed.read bytes = Feed.read bytes') (s : Session)
    (moment : Moment) : s.feed bytes moment = s.feed bytes' moment := by
  rw [feed, feed, h]

/-- **Lines of text that hold no event are inert.** If every line of a stream is text, the session takes note
    of the events of all lines and deals with their messages, and the stream is read to its end. A stream that
    differs in inert lines only comes to the same, and so does one with one inert line more or less anywhere. -/
theorem feed_of_text {bytes : List UInt8} (h : (lines bytes).all isText = true) (s : Session) (moment : Moment) :
    s.feed bytes moment = (true, processAll moment (events bytes) ((events bytes).foldl observe s)) ∧
    (∀ bytes', ((lines bytes').filter fun line => !isInert line) = ((lines bytes).filter fun line => !isInert line) →
      s.feed bytes' moment = s.feed bytes moment) ∧
    ∀ front line back, EndsLine front → 10 ∉ line → isInert line = true →
      s.feed (front ++ (line ++ 10 :: back)) moment = s.feed (front ++ back) moment := by
  refine ⟨?_, fun bytes' hsame => ?_, fun front line back hfront hline hinert => ?_⟩
  · rw [feed, read_of_text h]
    rfl
  · exact feed_congr (read_congr hsame) s moment
  · apply feed_congr (read_congr _)
    rw [lines_append hfront, lines_append hfront, lines_line hline, List.filter_append, List.filter_append,
      List.filter_cons_of_neg (by simp [hinert])]

/-! ## Lines that are no text -/

/-- The message of a user in a channel. -/
def greeting : Event :=
  ⟨.bare (Id.ofNat 1) ⟨Id.ofNat 5, "alice", false⟩ ⟨Id.ofNat 9, "alice", .direct⟩ "hi", none⟩

/-- A line that holds it. -/
def greetingLine : List UInt8 :=
  "[[1,\"hi\",[5,\"alice\"],null,null,[9,\"alice\",\"private\"]]]".toUTF8.data.toList

/-- A malformed line, a blank line, and a line with an event. -/
def noisyStream : List UInt8 :=
  "[1]\n  \n".toUTF8.data.toList ++ greetingLine

/-- A session that knows no commands. -/
def quietSession : Session where
  bot := ⟨default, ∅⟩
  state := ⟨.ofBot ⟨Id.ofNat 100, "bot", true⟩, .ofStore (.ofAdmins []) 0, Table.empty, ∅⟩

theorem feed_of_text_noisyStream : (lines noisyStream).all isText = true ∧
    quietSession.feed noisyStream ⟨0, 0⟩ = (true, (quietSession.event greeting ⟨0, 0⟩).2) ∧
    quietSession.feed greetingLine ⟨0, 0⟩ = quietSession.feed noisyStream ⟨0, 0⟩ := by
  have htext : (lines noisyStream).all isText = true := by decide +kernel
  have hevents : events noisyStream = [greeting] := by decide +kernel
  obtain ⟨hfeed, hcongr, -⟩ := feed_of_text htext quietSession ⟨0, 0⟩
  refine ⟨htext, ?_, hcongr greetingLine ?_⟩
  · rw [hfeed, hevents]
    rfl
  · decide +kernel

/-- **A line that is no text ends the stream.** Nothing is read of what comes after it, although there is an
    event. -/
theorem undecodable_line_ends_the_stream :
    events ([0xff, 10] ++ greetingLine) = [greeting] ∧ Feed.read ([0xff, 10] ++ greetingLine) = ([], false) ∧
    (quietSession.feed ([0xff, 10] ++ greetingLine) ⟨0, 0⟩).1 = false := by
  refine ⟨?_, ?_, ?_⟩
  · decide +kernel
  · decide +kernel
  · decide +kernel

end Session

end Gatehouse
