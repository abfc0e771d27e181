import Gatehouse.Config.Basic
import Gatehouse.Locale.Languages

/-!
# `Gatehouse.Config.Problem` — what keeps a bot from being started

## Contents
- `Config.Problem`, `Config.Problem.message`.
- `Config.problems`: every problem of a configuration, in a fixed order.
- `Config.isSound`: whether there is none.
-/

namespace Gatehouse.Config

/-- What keeps a bot from being started. -/
inductive Problem where
  | missingBotUserId
  | emptyDefaultLead
  | unknownDefaultLocale (code : String)
  | invalidShardTotal
  | shardOutOfRange (id total : UInt32)
  | zeroSweepInterval
  | duplicateGuild (guild : GuildId)
  | emptyGuildLead (guild : GuildId)
  | unknownGuildLocale (guild : GuildId) (code : String)
  | emptyAlias (guild : GuildId) (trigger : String)
  deriving DecidableEq, Repr

/-- What is said about a problem. -/
def Problem.message : Problem → String
  | .missingBotUserId => "bot.bot_user_id must be a non-zero snowflake"
  | .emptyDefaultLead => "bot.default_prefix must not be empty"
  | .unknownDefaultLocale code => "bot.default_locale '" ++ code ++ "' has no language bundle"
  | .invalidShardTotal => "bot.shard_total must be at least 1"
  | .shardOutOfRange id total =>
      "bot.shard_id " ++ toString id.toNat ++ " is out of range for " ++ toString total.toNat ++ " shards"
  | .zeroSweepInterval => "throttle.sweep_interval_secs must be at least 1"
  | .duplicateGuild guild => "guild " ++ guild.text ++ " is configured more than once"
  | .emptyGuildLead guild => "guild " ++ guild.text ++ ": prefix must not be empty"
  | .unknownGuildLocale guild code =>
      "guild " ++ guild.text ++ ": locale '" ++ code ++ "' has no language bundle"
  | .emptyAlias guild trigger =>
      "guild " ++ guild.text ++ ": alias '" ++ trigger ++ "' has no target command"

/-- The problem `p`, if `b` holds. -/
def when (b : Bool) (p : Problem) : List Problem :=
  if b then [p] else []

/-- The problems of the identity of the bot. -/
def botProblems (bot : BotConfig) : List Problem :=
  when (bot.userId = Id.ofNat 0) .missingBotUserId
    ++ when (Text.isBlankOnly bot.lead) .emptyDefaultLead
    ++ when (!Languages.available.contains bot.locale) (.unknownDefaultLocale bot.locale)

/-- The problems of a shard. -/
def shardProblems (shard : Shard) : List Problem :=
  if shard.total = 0 then [.invalidShardTotal]
  else when (shard.total ≤ shard.id) (.shardOutOfRange shard.id shard.total)

/-- The problems of the aliases of a guild, in the order of what is said about them. -/
def aliasProblems (guild : GuildId) (aliases : Table String String) : List Problem :=
  ((aliases.filter fun _ target => Text.isBlankOnly target).keys.map (.emptyAlias guild)).mergeSort
    fun p q => decide (p.message ≤ q.message)

/-- The problems of the settings of a guild. -/
def settingsProblems (guild : GuildId) (s : GuildSettings) : List Problem :=
  (match s.lead with
    | some lead => when (Text.isBlankOnly lead) (.emptyGuildLead guild)
    | none => [])
    ++ (match s.locale with
      | some code => when (!Languages.available.contains code) (.unknownGuildLocale guild code)
      | none => [])
    ++ aliasProblems guild s.aliases

/-- The problems of seeded guilds. `seen` holds the ids of the guilds before them. -/
def guildProblems (seen : List GuildId) : List GuildSeed → List Problem
  | [] => []
  | seed :: seeds =>
      when (seen.contains seed.id) (.duplicateGuild seed.id)
        ++ settingsProblems seed.id seed.settings
        ++ guildProblems (seed.id :: seen) seeds

/-- Every problem of a configuration. -/
def problems (config : Config) : List Problem :=
  botProblems config.bot
    ++ shardProblems config.bot.shard
    ++ when (config.sweepInterval = 0) .zeroSweepInterval
    ++ guildProblems [] config.guilds

/-- Whether a bot can be started with a configuration. -/
def isSound (config : Config) : Bool :=
  (problems config).isEmpty

end Gatehouse.Config
