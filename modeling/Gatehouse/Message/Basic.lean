import Gatehouse.Entity

/-!
# `Gatehouse.Message.Basic` — messages that come in and go out

## Contents
- `Shard`, `Message`: a message that somebody posted; `Message.bare`.
- `Tone`, `Notice`: a message that the bot wants to post.
-/

namespace Gatehouse

/-- Which connection of how many delivered a message. -/
structure Shard where
  id : UInt32
  total : UInt32
  deriving DecidableEq, Repr

/-- The text of a shard. -/
def Shard.text (s : Shard) : String :=
  toString s.id.toNat ++ "/" ++ toString s.total.toNat

/-- A message posted in a channel that the bot can see. Direct messages come without guild and member. -/
structure Message where
  id : MessageId
  content : String
  author : User
  member : Option Member
  guild : Option Guild
  channel : Channel
  /-- The mentioned users, in order of appearance. -/
  mentions : List User
  mentionsEveryone : Bool
  shard : Shard
  deriving DecidableEq, Repr

/-- A message without anything that may be left out. -/
def Message.bare (id : MessageId) (author : User) (channel : Channel) (content : String) : Message where
  id := id
  content := content
  author := author
  member := none
  guild := none
  channel := channel
  mentions := []
  mentionsEveryone := false
  shard := ⟨0, 0⟩

/-- Whether a message was posted in a channel of a guild. -/
def Message.isGuildMessage (m : Message) : Bool :=
  m.guild.isSome && !m.channel.isDirect

/-- Whether a user is mentioned. -/
def Message.mentionsUser (m : Message) (user : UserId) : Bool :=
  m.mentions.any fun u => u.id = user

/-- How a message of the bot is meant. -/
inductive Tone where
  | plain
  | info
  | success
  | warning
  | error
  deriving DecidableEq, Repr

/-- The accent color of a tone; plain text has none. -/
def Tone.color : Tone → Option Nat
  | .plain => none
  | .info => some 0x3498db
  | .success => some 0x2ecc71
  | .warning => some 0xf39c12
  | .error => some 0xe74c3c

/-- Whether a tone is shown as an embed. Everything but plain text is. -/
def Tone.isEmbed (t : Tone) : Bool :=
  t ≠ .plain

/-- The name of a tone. -/
def Tone.name : Tone → String
  | .plain => "plain"
  | .info => "info"
  | .success => "success"
  | .warning => "warning"
  | .error => "error"

/-- The tone of a name. -/
def Tone.ofName? : String → Option Tone
  | "plain" => some .plain
  | "info" => some .info
  | "success" => some .success
  | "warning" => some .warning
  | "error" => some .error
  | _ => none

/-- A message that the bot wants to post. -/
structure Notice where
  content : String
  tone : Tone
  deriving DecidableEq, Repr

end Gatehouse
