import Gatehouse.Id
import Gatehouse.Table
import Gatehouse.Text.Lowercase

/-!
# `Gatehouse.Settings` — what is on record about guilds and users

## Contents
- `GuildSettings`: the choices of one guild; `GuildSettings.normalized`.
- `PlayerProfile`, `Verification`: a user in a guild, and a user anywhere.
- `CallerRecord`: everything on record that matters for one message.
-/

namespace Gatehouse

/-- The choices of one guild. -/
structure GuildSettings where
  /-- What introduces a command, if the guild has a choice of its own. -/
  lead : Option String
  /-- The code of the language, if the guild has a choice of its own. -/
  locale : Option String
  moderatorRoles : List RoleId
  adminRoles : List RoleId
  adminUsers : List UserId
  /-- Triggers of the guild's own, each standing for a trigger and fixed arguments. -/
  aliases : Table String String

/-- No choices. -/
def GuildSettings.empty : GuildSettings :=
  ⟨none, none, [], [], [], Table.empty⟩

instance : Inhabited GuildSettings := ⟨GuildSettings.empty⟩

/-- The settings with alias triggers in lowercase, which is how they are looked up. -/
def GuildSettings.normalized (s : GuildSettings) : GuildSettings :=
  { s with
    aliases := Table.ofList (s.aliases.entries.map fun e => (Text.lowercased e.1, e.2)) }

/-- The progress of a user in one guild. -/
structure PlayerProfile where
  user : UserId
  guild : GuildId
  experience : Nat
  deriving DecidableEq, Repr

/-- Whether a user has linked an external account. -/
structure Verification where
  user : UserId
  verified : Bool
  linkedAccount : Option String
  deriving DecidableEq, Repr

/-- Everything on record about the guild and the author of a message. -/
structure CallerRecord where
  guild : Option GuildSettings
  player : Option PlayerProfile
  verification : Option Verification

instance : Inhabited CallerRecord := ⟨⟨none, none, none⟩⟩

end Gatehouse
