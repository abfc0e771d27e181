import Gatehouse.Outbox
import Gatehouse.Stateful
import Gatehouse.Throttle

/-!
# `Gatehouse.World` — what gates and commands act on

Gates and commands can ask the platform, queue messages, take calls from throttles and leave notes. All of
that happens to one value. Whatever ends a run early keeps what was done before.

## Contents
- `World`, `World.query`, `World.deliver`, `World.expire`.
- `Act`: a computation that acts on the world and may end early.
- `Act.query`, `Act.push`, `Act.acquire`, `Act.note`: what every act can do.
- `Act.send`, `Act.delete`, `Act.history`: what commands can ask of the platform (`Act.request_of_ok`,
  `Act.request_of_error`).
-/

namespace Gatehouse

/-- What gates and commands act on. -/
structure World where
  console : Console
  /-- How many more questions about capabilities the platform answers, if there is a limit. -/
  queriesLeft : Option Nat
  outbox : Outbox
  throttle : Throttle
  /-- The notes that gates and commands left, oldest first. -/
  journal : List Json

namespace World

/-- A world in which nothing has happened yet. -/
def ofBot (bot : User) : World :=
  ⟨Console.ofBot bot, none, ∅, ∅, []⟩

/-- Ask the platform what the bot may do in a channel. -/
def query (w : World) (channel : ChannelId) : Except PlatformError Capabilities × World :=
  match w.queriesLeft with
  | none => (.ok (w.console.capabilities channel), w)
  | some (n + 1) => (.ok (w.console.capabilities channel), { w with queriesLeft := some n })
  | some 0 => (.error (.unavailable "gateway"), w)

/-- The platform answers with what the console says. -/
theorem query_eq_ok {w w' : World} {channel : ChannelId} {held : Capabilities}
    (h : w.query channel = (.ok held, w')) : w.console.capabilities channel = held := by
  unfold query at h
  split at h
  · exact Except.ok.inj (Prod.mk.inj h).1
  · exact Except.ok.inj (Prod.mk.inj h).1
  · cases (Prod.mk.inj h).1

/-- A question changes nothing but how many more are answered. -/
theorem query_snd (w : World) (channel : ChannelId) :
    (w.query channel).2 = { w with queriesLeft := w.queriesLeft.map Nat.pred } := by
  rcases w with ⟨console, _ | _ | n, outbox, throttle, journal⟩
  · rfl
  · rfl
  · rfl

/-- Queue a message. -/
def push (w : World) (p : Posting) : World :=
  { w with outbox := w.outbox.push p }

/-- Take note of an event. -/
def observe (w : World) (e : Event) : World :=
  { w with console := w.console.observe e }

/-- Post everything that is queued. -/
def deliver (w : World) (now : Nat) : World :=
  let (outbox, console) := w.outbox.deliver now w.console
  { w with outbox, console }

/-- Delete everything that is due. -/
def expire (w : World) (now : Nat) : World :=
  let (outbox, console) := w.outbox.expire now w.console
  { w with outbox, console }

end World

/-- A computation that acts on the world and may end early with an `ε`. -/
abbrev Act (ε α : Type) : Type :=
  ExceptT ε (StateM World) α

namespace Act

variable {ε α : Type}

/-- Do something to the world. -/
def change (f : World → World) : Act ε Unit :=
  modify f

/-- Ask the platform what the bot may do in a channel. -/
def query (channel : ChannelId) : Act ε (Except PlatformError Capabilities) :=
  modifyGet fun w => w.query channel

theorem query_apply (channel : ChannelId) (w : World) :
    (query channel : Act ε _) w = (.ok (w.query channel).1, (w.query channel).2) := rfl

/-- Queue a message. -/
def push (p : Posting) : Act ε Unit :=
  change fun w => w.push p

/-- Take a call from a throttle. -/
def acquire (key : Throttle.Key) (now : Nat) : Act ε (Option Throttle.Decision) :=
  modifyGet fun w =>
    let (decision, throttle) := w.throttle.acquire key now
    (decision, { w with throttle })

/-- Leave a note. -/
def note (j : Json) : Act ε Unit :=
  change fun w => { w with journal := w.journal ++ [j] }

/-- Have the platform do something, and end with its error if it refuses. -/
def request (f : Console → Except PlatformError α × Console) : Act Interrupt α := do
  let result ← modifyGet fun w : World =>
    let (result, console) := f w.console
    (result, { w with console })
  match result with
  | .ok a => return a
  | .error e => throw (.error (.platform e))

theorem request_apply (f : Console → Except PlatformError α × Console) (w : World) :
    request f w = ((f w.console).1.mapError fun e => .error (.platform e), { w with console := (f w.console).2 }) := by
  have hget : (modifyGet fun w : World => ((f w.console).1, { w with console := (f w.console).2 }) :
      Act Interrupt (Except PlatformError α)) w = (.ok (f w.console).1, { w with console := (f w.console).2 }) := rfl
  rw [request, Stateful.bind_of_ok hget]
  cases (f w.console).1 <;> rfl

/-- A request that the platform grants gives its answer. -/
theorem request_of_ok {f : Console → Except PlatformError α × Console} {w : World} {a : α}
    {console : Console} (h : f w.console = (.ok a, console)) :
    request f w = (.ok a, { w with console }) := by
  rw [request_apply, h]
  rfl

/-- A request that the platform refuses ends the run. -/
theorem request_of_error {f : Console → Except PlatformError α × Console} {w : World} {e : PlatformError}
    {console : Console} (h : f w.console = (.error e, console)) :
    request f w = (.error (.error (.platform e)), { w with console }) := by
  rw [request_apply, h]
  rfl

/-- Post a message at once. -/
def send (channel : ChannelId) (notice : Notice) : Act Interrupt MessageId :=
  request fun c => c.send channel notice

/-- Delete a message. -/
def delete (channel : ChannelId) (message : MessageId) : Act Interrupt Unit :=
  request fun c => c.delete channel message

/-- The ids of the latest messages of a channel, newest first. -/
def history (channel : ChannelId) (limit : Nat) : Act Interrupt (List MessageId) :=
  request fun c => (c.history channel limit, c)

/-- An act that can only panic, as part of a run that can also end with an error. -/
def ofPanicking (act : Act Panic α) : Act Interrupt α :=
  fun w =>
    match act w with
    | (.ok a, w) => (.ok a, w)
    | (.error p, w) => (.error (.panic p), w)

theorem ofPanicking_of_ok {act : Act Panic α} {w w' : World} {a : α} (h : act w = (.ok a, w')) :
    ofPanicking act w = (.ok a, w') := by
  simp only [ofPanicking, h]

theorem ofPanicking_of_error {act : Act Panic α} {w w' : World} {p : Panic} (h : act w = (.error p, w')) :
    ofPanicking act w = (.error (.panic p), w') := by
  simp only [ofPanicking, h]

end Act

end Gatehouse
