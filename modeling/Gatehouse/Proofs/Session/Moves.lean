import Gatehouse.Proofs.Locale.Sources
import Gatehouse.Proofs.Readings
import Gatehouse.Session

/-!
# `Gatehouse.Proofs.Session.Moves` — what a session goes through

A session starts with the catalogs that the documents of the languages read to (`Session.startWith_eq`). After that
it goes through moves (`Session.Move`): it takes note of events, deals with messages, posts, deletes and sweeps, and
what is on record and the way out can change meanwhile.
-/

namespace Gatehouse.Session

section

variable {config : Config} {start : Start} {gates : GateFactory} {commands : List (Descriptor × Builtin.Body)}
  {s : Session}

/-- **How a session starts**, with the documents of the languages already read. -/
theorem startWith_eq :
    startWith config start gates commands =
      ((Languages.ofCatalogs Languages.builtinTable config.bot.locale).mapError .languages >>= fun languages =>
        startIn languages config start gates commands) := by
  rw [← Languages.builtin_eq]
  rfl

/-- A session that has started speaks the built-in languages. -/
theorem exists_startIn_of_startWith (h : startWith config start gates commands = .ok s) :
    ∃ languages, startIn languages config start gates commands = .ok s := by
  obtain ⟨languages, -, hin⟩ := bind_eq_ok_iff.mp h
  exact ⟨languages, hin⟩

end

/-- What a session does, or what happens to it. -/
inductive Move where
  /-- It takes note of an event. -/
  | observe (e : Event)
  /-- It deals with a message. -/
  | dispatch (m : Message) (moment : Moment)
  | deliver (now : Nat)
  | expire (now : Nat)
  | sweep (now : Nat)
  /-- What is on record changes. -/
  | changeStore (f : Store → Store)
  /-- Attempts to write go another way from now on. -/
  | sink (sink : Sink)
  /-- Nobody takes messages out of the queue any more. -/
  | close

/-- The session after a move. -/
def move (s : Session) : Move → Session
  | .observe e => s.observe e
  | .dispatch m moment => (s.process m moment).2
  | .deliver now => s.deliver now
  | .expire now => s.expire now
  | .sweep now => s.sweep now
  | .changeStore f => s.changeStore f
  | .sink sink => s.changeWorld fun w => { w with console := { w.console with sink } }
  | .close => s.changeWorld fun w => { w with outbox := w.outbox.close }

/-- The session after moves, one after the other. -/
def moveAll (s : Session) (moves : List Move) : Session :=
  moves.foldl move s

theorem moveAll_append (s : Session) (before after : List Move) :
    s.moveAll (before ++ after) = (s.moveAll before).moveAll after :=
  List.foldl_append

/-- The bot stays what it is. -/
theorem bot_move (s : Session) (mv : Move) : (s.move mv).bot = s.bot := by
  cases mv <;> rfl

theorem bot_moveAll (s : Session) (moves : List Move) : (s.moveAll moves).bot = s.bot := by
  induction moves generalizing s with
  | nil => rfl
  | cons mv moves ih => exact (ih (s.move mv)).trans (s.bot_move mv)

/-- The reading of the clock at which a move can matter to throttles. -/
def Move.clock? : Move → Option Nat
  | .dispatch _ moment => some moment.clock
  | .sweep now => some now
  | _ => none

end Gatehouse.Session
