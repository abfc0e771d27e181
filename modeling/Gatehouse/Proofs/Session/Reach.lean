import Gatehouse.Proofs.Config.Seeding
import Gatehouse.Proofs.Session.Moves
import Gatehouse.Proofs.Store.Answers

/-!
# `Gatehouse.Proofs.Session.Reach` — what a session can become

A session deals with messages and sweeps, and anything can happen to its world in between
(`Session.Reaches`). Nothing of that changes what is on record: at every time a request is answered as by the
store that the configuration describes (`Session.Reaches.fetch_eq`).
-/

namespace Gatehouse

/-! ## What a dispatch does to the store -/

namespace Bot

variable {bot : Bot}

theorem conclude_store (c : Context) (result : Except Interrupt (Option String)) (s : BotState) :
    (conclude c result s).2.store = s.store := by
  rcases result with i | _ | gate <;> rfl

theorem execute_store (bot : Bot) (command : Command) (c : Context) (s : BotState) :
    (bot.execute command c s).2.store = s.store := by
  show (conclude _ _ _).2.store = _
  rw [conclude_store]

/-- On the way to a command the settings are requested, unless the author is a bot. -/
theorem route_store (bot : Bot) (m : Message) (moment : Moment) (s : BotState) :
    (bot.route m moment s).2.store
      = if m.author.bot then s.store else (s.store.fetch (m.guild.map Guild.id) m.author.id moment.clock).2 := by
  simp only [route]
  split
  · rfl
  · split
    · next h => rw [h]
    · next h =>
        rw [h]
        split
        · rfl
        · split
          · rfl
          · split <;> rfl

/-- A dispatch requests the settings, unless the author is a bot, and does nothing else to the store. -/
theorem process_store (bot : Bot) (m : Message) (moment : Moment) (s : BotState) :
    (bot.process m moment s).2.store
      = if m.author.bot then s.store else (s.store.fetch (m.guild.map Guild.id) m.author.id moment.clock).2 := by
  rw [← route_store]
  show (bot.run m moment s).2.store = _
  rw [run]
  split
  · next h => rw [h]
  · next h => rw [execute_store, h]

end Bot

namespace Session

/-! ## What a session can become -/

/-- What a session can become. -/
inductive Reaches (s₀ : Session) : Session → Prop
  | start : Reaches s₀ s₀
  /-- It deals with a message. -/
  | message {s : Session} (h : Reaches s₀ s) (m : Message) (moment : Moment) : Reaches s₀ (s.process m moment).2
  /-- Anything happens to its world. -/
  | world {s : Session} (h : Reaches s₀ s) (f : World → World) : Reaches s₀ (s.changeWorld f)
  /-- It drops what has expired. -/
  | sweep {s : Session} (h : Reaches s₀ s) (now : Nat) : Reaches s₀ (s.sweep now)

namespace Reaches

variable {s₀ s : Session}

theorem event (h : Reaches s₀ s) (e : Event) (moment : Moment) : Reaches s₀ (s.event e moment).2 :=
  (h.world _).message e.message moment

theorem observeAll (h : Reaches s₀ s) (events : List Event) : Reaches s₀ (events.foldl observe s) := by
  induction events generalizing s with
  | nil => exact h
  | cons e events ih => exact ih (h.world _)

theorem processAll (h : Reaches s₀ s) (moment : Moment) (events : List Event) :
    Reaches s₀ (processAll moment events s) := by
  induction events generalizing s with
  | nil => exact h
  | cons e events ih => exact ih (h.message e.message moment)

/-- Dealing with a stream is dealing with messages after anything happened to the world. -/
theorem feed (h : Reaches s₀ s) (bytes : List UInt8) (moment : Moment) : Reaches s₀ (s.feed bytes moment).2 := by
  show Reaches s₀ (if (Feed.read bytes).2 then _ else _)
  split
  · exact (h.observeAll _).processAll moment _
  · exact h.observeAll _

/-! ## What stays as it is -/

theorem bot_eq (h : Reaches s₀ s) : s.bot = s₀.bot := by
  induction h with
  | start => rfl
  | message _ m moment ih => exact ih
  | world _ f ih => exact ih
  | sweep _ now ih => exact ih

/-- The store is never changed, and its answers are remembered as they are. -/
theorem faithful (h : Reaches s₀ s) (hfaithful : s₀.state.store.Faithful)
    (hup : s₀.state.store.inner.down = false) :
    s.state.store.Faithful ∧ s.state.store.inner = s₀.state.store.inner := by
  induction h with
  | start => exact ⟨hfaithful, rfl⟩
  | @message s _ m moment ih =>
      have hfetch := ih.1.fetch_eq (ih.2 ▸ hup) (m.guild.map Guild.id) m.author.id moment.clock
      show (s.bot.process m moment s.state).2.store.Faithful ∧ (s.bot.process m moment s.state).2.store.inner = _
      rw [Bot.process_store]
      split
      · exact ih
      · exact ⟨hfetch.2.1, hfetch.2.2.trans ih.2⟩
  | world _ f ih => exact ih
  | sweep _ now ih => exact ⟨ih.1.sweep now, ih.2⟩

end Reaches

/-! ## From the start -/

/-- A session starts with the store that its configuration describes. -/
theorem startWith_eq_ok {config : Config} {start : Start} {gates : GateFactory}
    {commands : List (Descriptor × Builtin.Body)} {s : Session}
    (h : startWith config start gates commands = .ok s) :
    ∃ languages registry, s = ⟨⟨services config languages, registry⟩, freshState config⟩ := by
  obtain ⟨languages, hin⟩ := exists_startIn_of_startWith h
  rw [startIn] at hin
  split at hin
  · exact absurd hin (by simp)
  · next registry _ => exact ⟨languages, registry, (Except.ok.inj hin).symm⟩

/-- **At every time a request is answered as by the store that the configuration describes.** -/
theorem Reaches.fetch_eq {config : Config} {start : Start} {gates : GateFactory}
    {commands : List (Descriptor × Builtin.Body)} {s₀ s : Session}
    (hstart : startWith config start gates commands = .ok s₀) (h : Reaches s₀ s) (guild : Option GuildId)
    (user : UserId) (now : Nat) :
    (s.state.store.fetch guild user now).1 = .ok ((Store.ofConfig config).lookup guild user) := by
  obtain ⟨languages, registry, rfl⟩ := startWith_eq_ok hstart
  have hup := Store.down_ofConfig config
  obtain ⟨hfaithful, hinner⟩ := h.faithful (CachedStore.Faithful.ofStore _ _) hup
  rw [(hfaithful.fetch_eq (by rw [hinner]; exact hup) guild user now).1, hinner]
  rfl

end Session

end Gatehouse
