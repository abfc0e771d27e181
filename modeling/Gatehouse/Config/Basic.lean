import Gatehouse.Message.Basic
import Gatehouse.Settings
import Gatehouse.Store.Basic

/-!
# `Gatehouse.Config.Basic` — the configuration of a bot

## Contents
- `BotConfig`, `FeedbackConfig`, `PermissionsConfig`, `LoggingConfig`: the parts of a configuration.
- `PlayerSeed`, `GuildSeed`: what is on record from the start.
- `Config`.
- `Store.ofConfig`: the store that a configuration describes.
-/

namespace Gatehouse

/-- Who the bot is and what applies where nothing else is chosen. -/
structure BotConfig where
  name : String
  userId : UserId
  /-- What introduces a command in guilds without a choice of their own. -/
  lead : String
  /-- The language of guilds without a choice of their own. -/
  locale : String
  shard : Shard
  /-- Where the metrics endpoint listens. -/
  metricsPort : Option Nat
  deriving DecidableEq, Repr

/-- How many seconds feedback stays up before it is deleted. -/
structure FeedbackConfig where
  capabilityWarning : Nat
  error : Nat
  restriction : Nat
  throttle : Nat
  deriving DecidableEq, Repr

/-- The lifetimes of feedback without a choice. -/
def FeedbackConfig.standard : FeedbackConfig :=
  ⟨30, 30, 45, 10⟩

/-- Who has privileges everywhere, and which guilds may use restricted commands. -/
structure PermissionsConfig where
  botAdmins : List UserId
  officialGuilds : List GuildId
  deriving DecidableEq, Repr

/-- The forms of log output. -/
inductive LogFormat where
  | pretty
  | json
  deriving DecidableEq, Repr

/-- The name of a form of log output. -/
def LogFormat.name : LogFormat → String
  | .pretty => "pretty"
  | .json => "json"

/-- How much is logged and in which form. -/
structure LoggingConfig where
  level : String
  format : LogFormat
  deriving DecidableEq, Repr

/-- What is on record about a user of a guild from the start. -/
structure PlayerSeed where
  user : UserId
  experience : Nat
  verified : Bool
  linkedAccount : Option String
  deriving DecidableEq, Repr

/-- The profile of a seeded user. -/
def PlayerSeed.profile (p : PlayerSeed) (guild : GuildId) : PlayerProfile :=
  ⟨p.user, guild, p.experience⟩

/-- The verification of a seeded user. -/
def PlayerSeed.verification (p : PlayerSeed) : Verification :=
  ⟨p.user, p.verified, p.linkedAccount⟩

/-- What is on record about a guild from the start. -/
structure GuildSeed where
  id : GuildId
  settings : GuildSettings
  players : List PlayerSeed

/-- The configuration of a bot. -/
structure Config where
  bot : BotConfig
  feedback : FeedbackConfig
  /-- The seconds between two sweeps of what has expired. -/
  sweepInterval : Nat
  /-- The seconds that settings are remembered for. -/
  cacheLifetime : Nat
  permissions : PermissionsConfig
  logging : LoggingConfig
  guilds : List GuildSeed

/-- Put a seed on record: the settings of the guild, then its users one after the other. -/
def Store.plant (s : Store) (seed : GuildSeed) : Store :=
  seed.players.foldl
    (fun s p => (s.insertPlayer (p.profile seed.id)).insertVerification p.verification)
    (s.insertGuild seed.id seed.settings)

/-- The store that a configuration describes. -/
def Store.ofConfig (config : Config) : Store :=
  config.guilds.foldl Store.plant (Store.ofAdmins config.permissions.botAdmins)

end Gatehouse
