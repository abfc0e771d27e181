import Gatehouse.Settings

/-!
# `Gatehouse.Store.Basic` — the store of settings, profiles and verifications

## Contents
- `Store` and its changes: `insertGuild`, `insertPlayer`, `insertVerification`.
- `Store.Unavailable`, `Store.offline`: the store cannot be reached.
- `Store.fetch`: what is on record for one guild and user (`Store.fetch_of_up`, `Store.fetch_of_down`).
- `Store.botAdmins`: the global list of bot administrators.
-/

namespace Gatehouse

/-- What is on record about guilds and users. -/
structure Store where
  guilds : Table GuildId GuildSettings
  players : Table (GuildId × UserId) PlayerProfile
  verifications : Table UserId Verification
  admins : List UserId
  /-- Whether the store cannot be reached. -/
  down : Bool

namespace Store

/-- A store that knows nothing but who administers the bot. -/
def ofAdmins (admins : List UserId) : Store :=
  ⟨Table.empty, Table.empty, Table.empty, admins, false⟩

/-- A request that the store did not answer. -/
structure Unavailable where
  reason : String
  deriving DecidableEq, Repr

/-- What is said about an unanswered request. -/
def Unavailable.message (e : Unavailable) : String :=
  "data store unavailable: " ++ e.reason

/-- What becomes of a request while the store cannot be reached. -/
def offline : Unavailable :=
  ⟨"memory store offline"⟩

/-- Put settings of a guild on record, in place of any that were there. -/
def insertGuild (s : Store) (guild : GuildId) (settings : GuildSettings) : Store :=
  { s with guilds := s.guilds.insert guild settings.normalized }

/-- Put a profile on record. -/
def insertPlayer (s : Store) (p : PlayerProfile) : Store :=
  { s with players := s.players.insert (p.guild, p.user) p }

/-- Put a verification on record. -/
def insertVerification (s : Store) (v : Verification) : Store :=
  { s with verifications := s.verifications.insert v.user v }

/-- What is on record for a user, within a guild if one is given. -/
def lookup (s : Store) (guild : Option GuildId) (user : UserId) : CallerRecord where
  guild := guild.bind s.guilds.get?
  player := guild.bind fun g => s.players.get? (g, user)
  verification := s.verifications.get? user

/-- Request what is on record for a user. -/
def fetch (s : Store) (guild : Option GuildId) (user : UserId) : Except Unavailable CallerRecord :=
  if s.down then .error offline else .ok (s.lookup guild user)

theorem fetch_of_up {s : Store} (h : s.down = false) (guild : Option GuildId) (user : UserId) :
    s.fetch guild user = .ok (s.lookup guild user) :=
  if_neg (by simp [h])

theorem fetch_of_down {s : Store} (h : s.down = true) (guild : Option GuildId) (user : UserId) :
    s.fetch guild user = .error offline :=
  if_pos h

/-- Request who administers the bot: each user once, in ascending order of ids. -/
def botAdmins (s : Store) : Except Unavailable (List UserId) :=
  if s.down then .error offline
  else .ok (s.admins.eraseDups.mergeSort fun a b => decide (a.val ≤ b.val))

end Store

end Gatehouse
