import Gatehouse.Calendar
import Gatehouse.Command.Registry
import Gatehouse.Mention

/-!
# `Gatehouse.Command.Builtin` — the commands that come with the bot

## Contents
- `Start`: when the bot was started.
- `Builtin.uptime`, `Builtin.channelId`, `Builtin.userId`, `Builtin.help`: utilities.
- `Builtin.repeatText`, `Builtin.profile`: entertainment.
- `Builtin.purge`: administration.
- `Builtin.stats`: the system.
- `Builtin.all`: every one of them with its declaration.
-/

namespace Gatehouse

/-- When the bot was started. -/
structure Start where
  /-- The seconds of the calendar clock. -/
  calendar : Int
  /-- How the moment is shown. -/
  label : String
  deriving DecidableEq, Repr

/-- The start at a reading of the calendar clock. -/
def Start.ofCalendar (seconds : Int) : Start :=
  ⟨seconds, Calendar.text seconds⟩

namespace Builtin

/-- The body of a command. -/
abbrev Body := Context → Act Interrupt Unit

/-- End with a complaint about the arguments. -/
def refuse {α : Type} (reason : String) : Act Interrupt α :=
  throw (.error (.invalidArguments reason))

/-! ## Utilities -/

/-- How long the bot has been online. A start in the future counts as now. -/
def uptime (start : Start) : Body := fun c =>
  c.info (c.commandText "message" [Calendar.span (c.moment.calendar - start.calendar).toNat, start.label])

/-- The id of the channel. -/
def channelId : Body := fun c =>
  c.info (c.commandText "message" [c.channel.text])

/-- The user that an argument names, by a mention or an id. -/
def userOf? (arg : String) : Option UserId :=
  (Mention.parse? arg).or ((Numeral.read? Numeral.maxId arg.toList).map Id.ofNat)

/-- The id of the mentioned user, of the user that the first argument names, or of the caller. -/
def userId : Body := fun c =>
  match c.mentionedUsers, c.arguments with
  | user :: _, _ => c.info (c.commandText "message" [user.name, user.id.text])
  | [], arg :: _ =>
      match userOf? arg with
      | some id => c.info (c.commandText "message" [id.text, id.text])
      | none => refuse ("`" ++ arg ++ "` is not a user")
  | [], [] => c.info (c.commandText "message" [c.callerName, c.message.author.id.text])

/-- Text set off from what is around it. -/
def setOff (s : String) : String :=
  "`" ++ s ++ "`"

/-- The lines that describe a command. -/
def description (c : Context) (l : Listing) : List String :=
  let d := l.descriptor
  let helps := l.gates.filterMap Prod.snd
  [c.commandText "header" [d.name, d.category.key, d.description],
    c.commandText "triggers" [String.intercalate ", " d.triggers]]
  ++ (if d.usage.isEmpty then []
    else
      [c.commandText "usage"
        [String.intercalate ", " (d.usage.map fun u => setOff (c.invocation.lead ++ u))]])
  ++ (if helps.isEmpty then []
    else [c.commandText "gates" [String.intercalate "\n" (helps.map ("- " ++ ·))]])

/-- A list of all commands, or the description of one. -/
def help : Body := fun c =>
  match c.arguments with
  | [] =>
      let names := c.directory.map fun l => setOff l.descriptor.name
      c.info (c.commandText "overview" [String.intercalate ", " names, c.invocation.lead])
  | query :: _ =>
      match c.lookup? query with
      | none => c.warning (c.commandText "unknown" [query])
      | some l => c.info (String.intercalate "\n" (description c l))

/-! ## Entertainment -/

/-- The text of the caller. -/
def repeatText : Body := fun c =>
  if c.contentRaw.isEmpty then refuse (c.commandText "missing" [])
  else c.reply c.contentRaw

/-- The progress of the caller in the guild. -/
def profile : Body := fun c =>
  let experience := (c.record.player.map PlayerProfile.experience).getD 0
  let account := (c.record.verification.bind Verification.linkedAccount).getD "-"
  c.info (c.commandText "message" [c.callerName, toString experience, account])

/-! ## Administration -/

/-- The most messages that one call deletes. -/
def purgeLimit : Nat := 100

/-- The number of messages that the arguments ask to delete. -/
def purgeAmount? (args : List String) : Option Nat := do
  let n ← Numeral.read? Numeral.maxId (← args.head?).toList
  if 1 ≤ n ∧ n ≤ purgeLimit then some n else none

/-- Delete messages of a channel one after the other. -/
def deleteEach (channel : ChannelId) : List MessageId → Act Interrupt Unit
  | [] => return ()
  | m :: ms => do
      Act.delete channel m
      deleteEach channel ms

/-- Deletes the latest messages and the message that called the command. -/
def purge : Body := fun c =>
  match purgeAmount? c.arguments with
  | none => refuse (c.commandText "invalidAmount" [toString purgeLimit])
  | some n => do
      let messages ← Act.history c.channel (n + 1)
      deleteEach c.channel messages
      let deleted := messages.countP fun m => m ≠ c.message.id
      c.success (c.commandText "deleted" [toString deleted]) c.services.feedback.error

/-! ## The system -/

/-- How often which command was called. -/
def stats : Body := fun c =>
  if c.usage.isEmpty then c.info (c.commandText "empty" [])
  else
    let entries := c.usage.map fun e => c.commandText "entry" [e.1, toString e.2]
    c.info (String.intercalate "\n" (c.commandText "header" [] :: entries))

/-! ## Declarations -/

/-- Every command that comes with the bot. -/
def all (start : Start) : List (Descriptor × Body) := [
  (.declare "uptime" .utility [] "How long the bot has been online" ["uptime"] [], uptime start),
  (.declare "channelid" .utility ["cid"] "Show the id of this channel" ["channelid"] [], channelId),
  (.declare "userid" .utility ["uid"] "Show the id of a user" ["userid [@user | id]"] [], userId),
  (.declare "help" .utility [] "List commands or describe one" ["help [command]"] [], help),
  (.declare "repeat" .entertainment ["echo"] "Repeat a message" ["repeat <text>"] ["throttle:user,2,5"],
    repeatText),
  (.declare "profile" .entertainment ["rank"] "Show your experience and linked account" ["profile"]
    ["guild-only", "verified"], profile),
  (.declare "purge" .administration ["clear"] "Delete recent messages in this channel" ["purge <amount>"]
    ["guild-only", "require:user,text.manage_messages",
      "require:bot,text.manage_messages,text.read_message_history", "throttle:channel,1,5"], purge),
  (.declare "stats" .system [] "Command usage since startup" ["stats"] ["permission:bot-admin"], stats)]

end Builtin

end Gatehouse
