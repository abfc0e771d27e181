import Gatehouse.Command.Builtin

/-!
# `Gatehouse.Command.Script` — bodies made of instructions

A script does simple things one after the other and leaves notes about what it finds. The first instruction
that fails ends it.

## Contents
- `Instruction`, `Instruction.run`.
- `Script.body`: the body of a script.
- `Script.dump`: everything that a command can see.
-/

namespace Gatehouse

/-- One thing that a script does. -/
inductive Instruction where
  /-- Say something, perhaps only for some seconds. -/
  | say (tone : Tone) (content : String) (deleteAfter : Option Nat)
  /-- Note the text of a key of the command. -/
  | translateOwn (key : String) (args : List String)
  /-- Note the text of a key. -/
  | translate (key : String) (args : List String)
  /-- Note the latest messages of a channel, by default the one that the call came from. -/
  | history (channel : Option ChannelId) (limit : Nat)
  | delete (message : MessageId)
  /-- Post a message at once and note its id. -/
  | send (notice : Notice)
  | fail (error : CommandError)
  | panic (panic : Panic)
  /-- Note everything that the command can see. -/
  | dump
  deriving DecidableEq, Repr

namespace Script

/-- Everything that a command can see. -/
def dump (c : Context) : Json :=
  let guild := c.record.guild
  .obj [
    ("command", .str c.command.name),
    ("arguments", .arr (c.arguments.map .str)),
    ("content_raw", .str c.contentRaw),
    ("prefix", .str c.invocation.lead),
    ("mentionable", .bool c.invocation.mentionable),
    ("mentioned", .arr (c.mentionedUsers.map fun u => encodeId u.id)),
    ("guild_message", .bool c.message.isGuildMessage),
    ("guild", .ofOption (fun g => encodeId g.id) c.message.guild),
    ("member", .ofOption (fun m => .str m.effectiveName) c.message.member),
    ("author", encodeId c.message.author.id),
    ("channel", encodeId c.channel),
    ("message", encodeId c.message.id),
    ("level", .str c.level.name),
    ("bot_admin", .bool c.isBotAdmin),
    ("locale", .str c.catalog.code),
    ("guild_prefix", .ofOption .str (guild.bind GuildSettings.lead)),
    ("experience", .ofOption (fun p => .nat p.experience) c.record.player),
    ("verified", .ofOption (fun v => .bool v.verified) c.record.verification),
    ("feedback_secs", .arr [.nat c.services.feedback.error, .nat c.services.feedback.throttle]),
    ("commands", .nat c.directory.length)]

end Script

/-- Do one thing. -/
def Instruction.run (c : Context) : Instruction → Act Interrupt Unit
  | .say tone content deleteAfter => .push (c.posting tone content deleteAfter)
  | .translateOwn key args => .note (.obj [("text", .str (c.commandText key args))])
  | .translate key args => .note (.obj [("text", .str (c.text key args))])
  | .history channel limit => do
      let messages ← Act.history (channel.getD c.channel) limit
      .note (.obj [("history", .arr (messages.map encodeId))])
  | .delete message => .delete c.channel message
  | .send notice => do
      let message ← Act.send c.channel notice
      .note (.obj [("sent", encodeId message)])
  | .fail e => throw (.error e)
  | .panic p => throw (.panic p)
  | .dump => .note (Script.dump c)

/-- The body of a script. -/
def Script.body : List Instruction → Builtin.Body
  | [], _ => return ()
  | i :: is, c => do
      i.run c
      Script.body is c

end Gatehouse
