import Gatehouse.Capability.Set
import Gatehouse.Id

/-!
# `Gatehouse.Entity` — accounts, guilds and channels

Snapshots of platform objects as they come with a message.

## Contents
- `User`, `Role`, `Guild`, `Member`, `ChannelKind`, `Channel`.
- `User.mention`: the markup that mentions a user.
- `Member.effectiveName`, `Member.hasAnyRole`.
-/

namespace Gatehouse

/-- A user account. -/
structure User where
  id : UserId
  name : String
  /-- Whether the account is a bot. -/
  bot : Bool
  deriving DecidableEq, Repr

/-- The markup that mentions a user. -/
def User.mention (u : User) : String :=
  "<@" ++ u.id.text ++ ">"

/-- A role of a guild. -/
structure Role where
  id : RoleId
  name : String
  deriving DecidableEq, Repr

/-- A guild with the user who owns it and the roles it defines. -/
structure Guild where
  id : GuildId
  name : String
  owner : UserId
  roles : List Role
  deriving DecidableEq, Repr

/-- A user's membership in a guild. -/
structure Member where
  user : User
  nickname : Option String
  roles : List RoleId
  /-- What the member may do in the channel that the message came from. -/
  capabilities : Capabilities
  deriving DecidableEq, Repr

/-- The nickname if there is one, otherwise the account name. -/
def Member.effectiveName (m : Member) : String :=
  m.nickname.getD m.user.name

/-- Whether the member holds any of `roles`. -/
def Member.hasAnyRole (m : Member) (roles : List RoleId) : Bool :=
  m.roles.any fun r => roles.contains r

/-- The kinds of channels. -/
inductive ChannelKind where
  /-- A text channel of a guild. -/
  | text
  /-- A channel between two users. -/
  | direct
  deriving DecidableEq, Repr

/-- A channel. -/
structure Channel where
  id : ChannelId
  name : String
  kind : ChannelKind
  deriving DecidableEq, Repr

/-- Whether a channel is between two users. -/
def Channel.isDirect (c : Channel) : Bool :=
  c.kind = .direct

end Gatehouse
