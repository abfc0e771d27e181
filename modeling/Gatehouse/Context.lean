import Gatehouse.Command.Descriptor
import Gatehouse.Config.Basic
import Gatehouse.Locale.Languages
import Gatehouse.Permission
import Gatehouse.World

/-!
# `Gatehouse.Context` — what gates and commands look at

A context is built once for each message that calls a command, and never changes.

## Contents
- `Services`: what is the same for every message.
- `Moment`: readings of the clocks.
- `Invocation`: how a message calls a command.
- `Context`, with what can be learned from it; `Context.bare`.
- `Context.reply`, `Context.info`, `Context.warning`, `Context.success`, `Context.error`: what can be said to
  the caller.
-/

namespace Gatehouse

/-- What is the same for every message. -/
structure Services where
  botUser : UserId
  /-- What introduces a command in guilds without a choice of their own. -/
  lead : String
  feedback : FeedbackConfig
  languages : Languages
  /-- The users with privileges everywhere. -/
  admins : List UserId

instance : Inhabited Services := ⟨⟨default, "", FeedbackConfig.standard, default, []⟩⟩

/-- Readings of the clocks. -/
structure Moment where
  /-- The nanoseconds on the clock that windows and lifetimes are measured with. -/
  clock : Nat
  /-- The seconds of the calendar clock. -/
  calendar : Int
  deriving DecidableEq, Repr

/-- How a message calls a command. -/
structure Invocation where
  command : Descriptor
  /-- What introduced the command in the message. -/
  lead : String
  /-- Whether that was a mention of the bot. -/
  mentionable : Bool
  /-- Fixed arguments of an alias of the guild. -/
  aliasArguments : List String
  /-- The arguments in the message. -/
  userArguments : List String
  /-- The text after the trigger. -/
  remainder : String
  deriving DecidableEq, Repr

/-- What gates and commands look at. -/
structure Context where
  message : Message
  record : CallerRecord
  invocation : Invocation
  /-- The language that the caller is answered in. -/
  catalog : Catalog
  services : Services
  /-- Every command there is, in the order of registration. -/
  directory : List Listing
  /-- How often which command was called, most often first. -/
  usage : List (String × Nat)
  moment : Moment

namespace Context

/-- The context of a call of which nothing is known but the message and the command. -/
def bare (m : Message) (command : Descriptor) : Context where
  message := m
  record := default
  invocation := ⟨command, "", false, [], [], ""⟩
  catalog := default
  services := default
  directory := []
  usage := []
  moment := ⟨0, 0⟩

/-! ## The message -/

/-- The channel that the message was posted in. -/
def channel (c : Context) : ChannelId :=
  c.message.channel.id

/-- The name that the author goes by. -/
def callerName (c : Context) : String :=
  (c.message.member.map Member.effectiveName).getD c.message.author.name

/-- The mentioned users without the mention of the bot that introduced the command. -/
def mentionedUsers (c : Context) : List User :=
  match c.message.mentions with
  | [] => []
  | u :: us => if c.invocation.mentionable && u.id = c.services.botUser then us else u :: us

/-! ## The invocation -/

/-- The command that is called. -/
def command (c : Context) : Descriptor :=
  c.invocation.command

/-- The arguments: those of the alias, then those of the message. -/
def arguments (c : Context) : List String :=
  c.invocation.aliasArguments ++ c.invocation.userArguments

/-- The arguments of the alias and the text after the trigger, with a blank between them. -/
def contentRaw (c : Context) : String :=
  let fixed := String.intercalate " " c.invocation.aliasArguments
  if fixed.isEmpty then c.invocation.remainder
  else if c.invocation.remainder.isEmpty then fixed
  else fixed ++ " " ++ c.invocation.remainder

/-- The command that a trigger of any case stands for. -/
def lookup? (c : Context) (trigger : String) : Option Listing :=
  c.directory.find? fun l => l.descriptor.triggers.contains (Text.lowercased trigger)

/-! ## Privileges -/

/-- Whether the author has privileges everywhere. -/
def isBotAdmin (c : Context) : Bool :=
  c.services.admins.contains c.message.author.id

/-- The level of the author. -/
def level (c : Context) : Permission :=
  Permission.resolve c.services.admins c.record.guild c.message.guild c.message.member c.message.author

/-- Whether the author has linked an account. -/
def isVerified (c : Context) : Bool :=
  c.record.verification.any Verification.verified

/-! ## Texts -/

/-- The text of a key with the arguments put in. -/
def text (c : Context) (key : String) (args : List String) : String :=
  c.services.languages.translate c.catalog key args

/-- The text of a key of the command that is called. -/
def commandText (c : Context) (key : String) (args : List String) : String :=
  c.text (c.command.category.key ++ "." ++ c.command.name ++ "." ++ key) args

/-! ## Feedback -/

variable {ε : Type}

/-- The message to the channel of the caller. -/
def posting (c : Context) (tone : Tone) (content : String) (deleteAfter : Option Nat) : Posting :=
  ⟨c.channel, ⟨content, tone⟩, deleteAfter⟩

/-- Say something. -/
def reply (c : Context) (content : String) : Act ε Unit :=
  .push (c.posting .plain content none)

/-- Tell something. -/
def info (c : Context) (content : String) : Act ε Unit :=
  .push (c.posting .info content none)

/-- Warn of something. -/
def warning (c : Context) (content : String) : Act ε Unit :=
  .push (c.posting .warning content none)

/-- Report a success for some seconds. -/
def success (c : Context) (content : String) (secs : Nat) : Act ε Unit :=
  .push (c.posting .success content (some secs))

/-- Report a failure for some seconds. -/
def error (c : Context) (content : String) (secs : Nat) : Act ε Unit :=
  .push (c.posting .error content (some secs))

end Context

end Gatehouse
