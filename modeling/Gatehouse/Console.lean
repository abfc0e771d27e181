import Gatehouse.Failure
import Gatehouse.Json.Writer
import Gatehouse.Message.Wire
import Gatehouse.Table

/-!
# `Gatehouse.Console` — the platform as seen through a console

Messages come in as events, and everything the bot does is written out as an action. Of each channel the
console knows what the bot may do there and the latest messages, which is enough to answer the questions
that a platform would.

An action is written in three steps: its line, a line feed, and a flush of what went before. Each of them can fail,
and the first that does ends the attempt. So a line can be out in part, or as a whole without its line feed, or
even as a whole although the attempt failed.

## Contents
- `Event`, `Event.decode?`: a message with what the bot may do in its channel.
- `Action`, `Action.encode`, `Action.line`, `Action.bytes`: what the bot does.
- `Attempt`, `Sink`: how writing goes; `Output`: what it puts out.
- `ChannelState`: what is known of a channel; `ChannelState.remember`, `ChannelState.forget`.
- `Console`: `observe`, `capabilities`, `send`, `delete`, `history`.
- `Console.written`, `Console.bytes`: the complete lines that are out, and all that is out.
-/

namespace Gatehouse

/-! ## Events and actions -/

/-- A message that came in. -/
structure Event where
  message : Message
  /-- What the bot may do in the channel of the message, if that changed. -/
  botCapabilities : Option Capabilities
  deriving DecidableEq, Repr

/-- The fields of an event. -/
def Event.layout : Json.Layout := ⟨["message", "bot_capabilities"], 1⟩

def Event.decode? (j : Json) : Option Event := do
  let f ← Event.layout.fields? j
  return {
    message := ← Json.required? f "message" Message.decode?
    botCapabilities := ← Json.optional? f "bot_capabilities" Capabilities.decode? }

/-- What the bot does. -/
inductive Action where
  | send (channel : ChannelId) (message : MessageId) (notice : Notice)
  | delete (channel : ChannelId) (message : MessageId)
  deriving DecidableEq, Repr

/-- An action as an object. -/
def Action.encode : Action → Json
  | .send channel message notice =>
      .obj [
        ("action", .str "send"),
        ("channel", encodeId channel),
        ("message_id", encodeId message),
        ("content", .str notice.content),
        ("tone", .str notice.tone.name)]
  | .delete channel message =>
      .obj [
        ("action", .str "delete"),
        ("channel", encodeId channel),
        ("message_id", encodeId message)]

/-- The line that an action is written as. -/
def Action.line (a : Action) : String :=
  a.encode.write

/-- The bytes of that line, without a line feed. -/
def Action.bytes (a : Action) : List UInt8 :=
  a.line.toList.flatMap String.utf8EncodeChar

/-! ## Writing -/

/-- How one attempt to write an action goes: which of its steps fail, and what is said about it. -/
structure Attempt where
  /-- The line fails after so many bytes. -/
  line : Option (Nat × String)
  /-- The line feed after it fails. -/
  lineFeed : Option String
  /-- The flush fails. -/
  flush : Option String
  deriving DecidableEq, Repr

/-- An attempt at which no step fails. -/
def Attempt.success : Attempt :=
  ⟨none, none, none⟩

/-- What is said about the first step that fails, if any does. -/
def Attempt.failure? (t : Attempt) : Option String :=
  (t.line.map Prod.snd).or (t.lineFeed.or t.flush)

/-- How attempts to write go. -/
structure Sink where
  /-- The next ones. -/
  next : List Attempt
  /-- All others after them. -/
  later : Attempt
  deriving DecidableEq, Repr

namespace Sink

/-- A sink that takes everything. -/
def working : Sink :=
  ⟨[], .success⟩

/-- A sink that takes nothing. -/
def closed : Sink :=
  ⟨[], ⟨some (0, "sink closed"), none, none⟩⟩

/-- How the next attempt goes. -/
def attempt (s : Sink) : Attempt :=
  s.next.headD s.later

/-- The sink after that attempt. -/
def rest (s : Sink) : Sink :=
  { s with next := s.next.tail }

/-- No attempt fails any more. -/
def Works (s : Sink) : Prop :=
  s.later.failure? = none ∧ ∀ t ∈ s.next, t.failure? = none

end Sink

/-- What an attempt to write an action puts out. -/
inductive Output where
  /-- The line of the action and its line feed. -/
  | line (action : Action)
  /-- The first bytes of the line, or all of them, and no line feed. -/
  | torn (action : Action) (length : Nat)
  deriving DecidableEq, Repr

/-- The action whose line is out as a whole. -/
def Output.action? : Output → Option Action
  | .line a => some a
  | .torn _ _ => none

/-- The bytes that are out. -/
def Output.bytes : Output → List UInt8
  | .line a => a.bytes ++ [10]
  | .torn a length => a.bytes.take length

/-- What is out of an action after an attempt to write it. -/
def Attempt.output (t : Attempt) (a : Action) : Output :=
  match t.line, t.lineFeed with
  | some (length, _), _ => .torn a length
  | none, some _ => .torn a a.bytes.length
  | none, none => .line a

/-! ## Channels -/

/-- What is known of a channel. -/
structure ChannelState where
  capabilities : Capabilities
  /-- The latest messages with their authors, oldest first. -/
  history : List (MessageId × UserId)
  deriving DecidableEq, Repr

namespace ChannelState

/-- How many messages of a channel are known. -/
def depth : Nat := 200

/-- A channel of which nothing is known. The bot is taken to be allowed everything. -/
def fresh : ChannelState :=
  ⟨Capabilities.full, []⟩

/-- The channel after one more message; the oldest one is forgotten when there are too many. -/
def remember (c : ChannelState) (message : MessageId) (author : UserId) : ChannelState :=
  { c with history := c.history.drop (c.history.length + 1 - depth) ++ [(message, author)] }

/-- The author of a message, as far as known. -/
def author? (c : ChannelState) (message : MessageId) : Option UserId :=
  c.history.lookup message

/-- The channel without the oldest entry of a message. -/
def forget (c : ChannelState) (message : MessageId) : ChannelState :=
  { c with history := c.history.eraseP fun e => e.1 = message }

end ChannelState

/-! ## The console -/

/-- The platform as seen through a console. -/
structure Console where
  /-- The account of the bot. -/
  bot : User
  channels : Table ChannelId ChannelState
  /-- The id of the next message that the bot posts. -/
  nextId : MessageId
  /-- What the attempts to write have put out, oldest first. -/
  output : List Output
  /-- How the attempts that are still to come go. -/
  sink : Sink

namespace Console

/-- The id of the first message that the bot posts. -/
def firstId : MessageId :=
  Id.ofNat (1 <<< 48)

/-- A console on which nothing has happened. -/
def ofBot (bot : User) : Console :=
  ⟨bot, Table.empty, firstId, [], .working⟩

/-- The actions whose lines are out as a whole, oldest first. -/
def written (c : Console) : List Action :=
  c.output.filterMap Output.action?

/-- All bytes that are out. -/
def bytes (c : Console) : List UInt8 :=
  c.output.flatMap Output.bytes

/-- What is known of a channel. -/
def channel (c : Console) (id : ChannelId) : ChannelState :=
  (c.channels.get? id).getD .fresh

/-- The console with something else known of a channel. -/
def setChannel (c : Console) (id : ChannelId) (s : ChannelState) : Console :=
  { c with channels := c.channels.insert id s }

/-- Take note of an event. -/
def observe (c : Console) (e : Event) : Console :=
  let id := e.message.channel.id
  let s := c.channel id
  let s := { s with capabilities := e.botCapabilities.getD s.capabilities }
  c.setChannel id (s.remember e.message.id e.message.author.id)

/-- What the bot may do in a channel. -/
def capabilities (c : Console) (id : ChannelId) : Capabilities :=
  (c.channel id).capabilities

/-- The console after an attempt to write, which put something out. -/
def put (c : Console) (o : Output) : Console :=
  { c with output := c.output ++ [o], sink := c.sink.rest }

/-- Write an action. -/
def write (c : Console) (a : Action) : Except PlatformError Unit × Console :=
  let t := c.sink.attempt
  match t.failure? with
  | some reason => (.error (.unavailable reason), c.put (t.output a))
  | none => (.ok (), c.put (t.output a))

/-- The capability that the bot lacks for a message of the given tone, if it lacks one. -/
def lacking? (held : Capabilities) (tone : Tone) : Option Capability :=
  if !held.allows .sendMessages then some .sendMessages
  else if tone.isEmbed && !held.allows .embedLinks then some .embedLinks
  else none

/-- Post a message. The id is used up even if nothing can be written. -/
def send (c : Console) (id : ChannelId) (notice : Notice) : Except PlatformError MessageId × Console :=
  match lacking? (c.capabilities id) notice.tone with
  | some needed => (.error (.missingCapability needed), c)
  | none =>
      let message := c.nextId
      let c := { c with nextId := ⟨message.val + 1⟩ }
      match c.write (.send id message notice) with
      | (.error e, c) => (.error e, c)
      | (.ok (), c) => (.ok message, c.setChannel id ((c.channel id).remember message c.bot.id))

/-- Delete a message. It is forgotten even if nothing can be written. -/
def delete (c : Console) (id : ChannelId) (message : MessageId) : Except PlatformError Unit × Console :=
  let s := c.channel id
  match s.author? message with
  | none => (.error (.unknownMessage message), c)
  | some author =>
      if author ≠ c.bot.id ∧ !s.capabilities.allows .manageMessages then
        (.error (.missingCapability .manageMessages), c)
      else (c.setChannel id (s.forget message)).write (.delete id message)

/-- The ids of the latest messages of a channel, newest first. -/
def history (c : Console) (id : ChannelId) (limit : Nat) : Except PlatformError (List MessageId) :=
  let s := c.channel id
  if !s.capabilities.allows .readMessageHistory then .error (.missingCapability .readMessageHistory)
  else .ok ((s.history.reverse.take limit).map Prod.fst)

/-- What is out, and the console without it. -/
def drain (c : Console) : List Output × Console :=
  (c.output, { c with output := [] })

end Console

end Gatehouse
