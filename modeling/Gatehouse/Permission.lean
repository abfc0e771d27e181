import Gatehouse.Entity
import Gatehouse.Settings

/-!
# `Gatehouse.Permission` — levels of privilege

Levels are ordered, and a higher level includes every lower one. The level of an author follows from the
global list of bot administrators, the guild, the membership and the settings of the guild.

## Contents
- `Permission`: the levels, with their order, names and language keys.
- `Permission.parse`.
- `Permission.resolve`: the level of an author.
-/

namespace Gatehouse

/-- A level of privilege. -/
inductive Permission where
  | everyone
  | moderator
  | administrator
  | botAdmin
  deriving DecidableEq, Repr

namespace Permission

/-- The position of a level, from the lowest. -/
def rank : Permission → Nat
  | .everyone => 0
  | .moderator => 1
  | .administrator => 2
  | .botAdmin => 3

instance : LE Permission := ⟨fun a b => a.rank ≤ b.rank⟩

instance (a b : Permission) : Decidable (a ≤ b) :=
  inferInstanceAs (Decidable (a.rank ≤ b.rank))

/-- The name of a level. -/
def name : Permission → String
  | .everyone => "default"
  | .moderator => "moderator"
  | .administrator => "administrator"
  | .botAdmin => "bot-admin"

/-- The language key of the name that people see. -/
def key : Permission → String
  | .everyone => "permissionLevels.default"
  | .moderator => "permissionLevels.moderator"
  | .administrator => "permissionLevels.administrator"
  | .botAdmin => "permissionLevels.botAdmin"

/-- A name that no level has. -/
structure Unknown where
  name : String
  deriving DecidableEq, Repr

/-- The level of a name, without regard to ASCII case and surrounding white space. -/
def parse (s : String) : Except Unknown Permission :=
  match String.ofList (Text.asciiLowercase (Text.trim s.toList)) with
  | "default" | "everyone" => .ok .everyone
  | "moderator" | "mod" => .ok .moderator
  | "administrator" | "admin" => .ok .administrator
  | "bot-admin" | "botadmin" | "bot_admin" => .ok .botAdmin
  | _ => .error ⟨Text.trimmed s⟩

/-- Whether a member administers the guild: its owner, whoever has the administrator capability or an
    administrator role, and the users that the settings name. -/
def isAdministrator (settings : GuildSettings) (guild : Guild) (member : Member) : Bool :=
  guild.owner = member.user.id
    || member.capabilities.contains .administrator
    || member.hasAnyRole settings.adminRoles
    || settings.adminUsers.contains member.user.id

/-- Whether a member moderates the guild, by a role or by the capability to manage it. -/
def isModerator (settings : GuildSettings) (member : Member) : Bool :=
  member.hasAnyRole settings.moderatorRoles || member.capabilities.contains .manageServer

/-- The level of an author. Bot administrators are recognized everywhere; without a guild or a membership
    nobody else has privileges. -/
def resolve (admins : List UserId) (settings : Option GuildSettings) (guild : Option Guild)
    (member : Option Member) (author : User) : Permission :=
  if admins.contains author.id then .botAdmin
  else
    match guild, member with
    | some guild, some member =>
        let settings := settings.getD .empty
        if isAdministrator settings guild member then .administrator
        else if isModerator settings member then .moderator
        else .everyone
    | _, _ => .everyone

end Permission

end Gatehouse
