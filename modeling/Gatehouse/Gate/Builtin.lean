import Gatehouse.Gate.Basic
import Gatehouse.Gate.Spec

/-!
# `Gatehouse.Gate.Builtin` — the gates that come with the bot

## Contents
- `Gate.permission`: asks for a level of privilege.
- `Gate.require`: asks for capabilities of the caller or the bot.
- `Gate.throttle`: limits how often a command may be called.
- `Gate.officialGuild`, `Gate.guildOnly`: restrict where a command may be called.
- `Gate.verified`: asks for a linked account.
-/

namespace Gatehouse

namespace Gate

variable {ε : Type}

/-- Tell the caller why the call ends here. -/
def reject (c : Context) (content : String) (secs : Nat) : Act ε Flow := do
  c.error content secs
  return .halt

/-! ## Privileges -/

/-- What a gate tells about the level it asks for. The lowest level asks for nothing. -/
def permissionHelp : Permission → Option String
  | .everyone => none
  | level => some ("Permission level: " ++ level.name)

/-- Lets callers through who have at least the given level. -/
def permission (required : Permission) : Gate where
  name := "permission"
  help := permissionHelp required
  check c :=
    if required ≤ c.level then return .proceed
    else
      reject c (c.text "errors.missingPermissionLevel" [c.text required.key []]) c.services.feedback.error

/-! ## Capabilities -/

/-- The names of capabilities, each set off from the text around it. -/
def capabilityList (s : Capabilities) : String :=
  String.intercalate ", " (s.names.map fun name => "`" ++ name ++ "`")

/-- The decision of a gate that asks for `wanted` where `held` is there. -/
def weigh (c : Context) (key : String) (held wanted : Capabilities) : Act ε Flow :=
  let missing := held.missing wanted
  if missing.isEmpty then return .proceed
  else reject c (c.text key [capabilityList missing]) c.services.feedback.error

/-- Lets members through who have the given capabilities. Bot administrators need none. -/
def requireUser (wanted : Capabilities) : Gate where
  name := "require:user"
  help := some ("You need: " ++ wanted.text)
  check c :=
    if !c.message.isGuildMessage || c.isBotAdmin then return .proceed
    else
      weigh c "errors.missingUserCapability" ((c.message.member.map Member.capabilities).getD ∅) wanted

/-- Lets calls through where the bot has the given capabilities. If the platform does not tell, the call
    ends without a word. -/
def requireBot (wanted : Capabilities) : Gate where
  name := "require:bot"
  help := some ("The bot needs: " ++ wanted.text)
  check c := do
    if !c.message.isGuildMessage then return .proceed
    else
      match ← Act.query c.channel with
      | .error _ => return .halt
      | .ok held => weigh c "errors.missingBotCapability" held wanted

/-- Asks for capabilities. Direct messages always pass: only channels of guilds have capabilities. -/
def require : RequireTarget → Capabilities → Gate
  | .user => requireUser
  | .bot => requireBot

/-! ## Limits -/

/-- What calls are counted against. Direct messages count against their channel where a guild is asked
    for. -/
def throttleSubject (c : Context) : Throttle.Scope → UInt64
  | .user => c.message.author.id.val
  | .channel => c.channel.val
  | .guild => (c.message.guild.map fun g => g.id.val).getD c.channel.val
  | .global => 0

/-- The bucket that a call counts in. -/
def throttleKey (c : Context) (scope : Throttle.Scope) (limit window : Nat) : Throttle.Key :=
  ⟨scope, throttleSubject c scope, c.command.name, limit, Clock.seconds window⟩

/-- What follows from the decision of a throttle: only the first denial of a window is told. -/
def throttleVerdict (c : Context) : Option Throttle.Decision → Act Panic Flow
  | some (.allowed _) => return .proceed
  | some (.denied retryAfter true) =>
      reject c (c.text "errors.tooManyAttempts" [toString (max (Clock.wholeSeconds retryAfter) 1)])
        c.services.feedback.throttle
  | some (.denied _ false) => return .halt
  | none => throw (.text "overflow when adding duration to instant")

/-- Lets through at most `limit` calls in `window` seconds. -/
def throttle (scope : Throttle.Scope) (limit window : Nat) : Gate where
  name := "throttle"
  help := some ("Limited to " ++ toString limit ++ " use(s) per " ++ toString window ++ " second(s) per "
    ++ scope.name)
  check c := do
    let decision ← Act.acquire (throttleKey c scope limit window) c.moment.clock
    throttleVerdict c decision

/-! ## Places -/

/-- Whether a call comes from a guild that is not on the list. -/
def fromUnofficialGuild (official : List GuildId) (c : Context) : Bool :=
  c.message.guild.any fun g => !official.contains g.id

/-- Lets through direct messages, official guilds and bot administrators. -/
def officialGuild (official : List GuildId) : Gate where
  name := "official-guild"
  help := some "Only available in official guilds"
  check c :=
    if fromUnofficialGuild official c && !c.isBotAdmin then
      reject c (c.text "errors.notOfficialGuild" []) c.services.feedback.restriction
    else return .proceed

/-- Lets through messages of guilds. -/
def guildOnly : Gate where
  name := "guild-only"
  help := some "Only available in servers"
  check c :=
    if c.message.isGuildMessage then return .proceed
    else reject c (c.text "errors.guildOnly" []) c.services.feedback.restriction

/-! ## Accounts -/

/-- Lets through callers with a linked account and bot administrators. -/
def verified : Gate where
  name := "verified"
  help := some "Requires a linked account"
  check c :=
    if c.isBotAdmin || c.isVerified then return .proceed
    else reject c (c.text "errors.notVerified" []) c.services.feedback.restriction

end Gate

end Gatehouse
