import Gatehouse.Command.Builtin
import Gatehouse.Dispatch.Basic
import Gatehouse.Feed

/-!
# `Gatehouse.Session` — a bot at work

A session is a bot with its state. It is started from a configuration, takes note of events, deals with
their messages, posts what was queued and deletes what is due.

## Contents
- `Session`, `Session.start`, `Session.StartError`.
- `Session.event`: one event. `Session.feed`: a stream of events.
- `Session.deliver`, `Session.expire`: posting and deleting.
- `Session.sweep`: dropping what has expired.
-/

namespace Gatehouse

/-- A bot with its state. -/
structure Session where
  bot : Bot
  state : BotState

namespace Session

/-! ## Starting -/

/-- Why a bot cannot be started. -/
inductive StartError where
  | languages (error : Languages.LoadError)
  | registry (error : RegistryError)
  deriving DecidableEq, Repr

/-- The account of the bot. -/
def account (config : BotConfig) : User :=
  ⟨config.userId, config.name, true⟩

/-- What is the same for every message. -/
def services (config : Config) (languages : Languages) : Services where
  botUser := config.bot.userId
  lead := config.bot.lead
  feedback := config.feedback
  languages := languages
  admins := config.permissions.botAdmins

/-- The state of a bot that has seen nothing yet. -/
def freshState (config : Config) : BotState where
  world := World.ofBot (account config.bot)
  store := CachedStore.ofStore (Store.ofConfig config) (Clock.seconds config.cacheLifetime)
  usage := Table.empty
  metrics := ∅

/-- The gates that a bot with the given configuration has. -/
def factory (config : Config) : GateFactory :=
  (GateFactory.ofGuilds config.permissions.officialGuilds).withVerified

/-- Start a bot that speaks the given languages, with the built-in commands and the given ones. -/
def startIn (languages : Languages) (config : Config) (start : Start) (gates : GateFactory)
    (commands : List (Descriptor × Builtin.Body)) : Except StartError Session :=
  match Registry.registerAll gates (Builtin.all start ++ commands) ∅ with
  | .error e => .error (.registry e)
  | .ok registry => .ok ⟨⟨services config languages, registry⟩, freshState config⟩

/-- Start a bot that speaks the built-in languages, with the built-in commands and the given ones. -/
def startWith (config : Config) (start : Start) (gates : GateFactory)
    (commands : List (Descriptor × Builtin.Body)) : Except StartError Session := do
  let languages ← (Languages.builtin config.bot.locale).mapError .languages
  startIn languages config start gates commands

/-- Start a bot with the built-in commands. -/
def start (config : Config) (start : Start) : Except StartError Session :=
  startWith config start (factory config) []

/-! ## Working -/

/-- The session after a change of its world. -/
def changeWorld (s : Session) (f : World → World) : Session :=
  { s with state := { s.state with world := f s.state.world } }

/-- The session after a change of what is on record. -/
def changeStore (s : Session) (f : Store → Store) : Session :=
  { s with state := { s.state with store := s.state.store.change f } }

/-- Take note of an event. -/
def observe (s : Session) (e : Event) : Session :=
  s.changeWorld fun w => w.observe e

/-- Deal with a message. -/
def process (s : Session) (m : Message) (moment : Moment) : Outcome × Session :=
  let (outcome, state) := s.bot.process m moment s.state
  (outcome, { s with state })

/-- Take note of an event and deal with its message. -/
def event (s : Session) (e : Event) (moment : Moment) : Outcome × Session :=
  (s.observe e).process e.message moment

/-- Deal with messages one after the other. -/
def processAll (moment : Moment) : List Event → Session → Session
  | [], s => s
  | e :: es, s => processAll moment es (s.process e.message moment).2

/-- Take note of every event of a stream, and then, if the stream could be read to its end, deal with their
    messages. -/
def feed (s : Session) (bytes : List UInt8) (moment : Moment) : Bool × Session :=
  let (events, complete) := Feed.read bytes
  let s := events.foldl observe s
  (complete, if complete then processAll moment events s else s)

/-- Post everything that is queued. -/
def deliver (s : Session) (now : Nat) : Session :=
  s.changeWorld fun w => w.deliver now

/-- Delete everything that is due. -/
def expire (s : Session) (now : Nat) : Session :=
  s.changeWorld fun w => w.expire now

/-- Drop the throttle buckets and the settings that have expired. -/
def sweep (s : Session) (now : Nat) : Session :=
  let st := s.state
  let throttle := st.world.throttle.sweep now
  { s with state := { st with
      world := { st.world with throttle }
      store := st.store.sweep now
      metrics := st.metrics.setBuckets throttle.size } }

end Session

end Gatehouse
