import Gatehouse.Dispatch.Address
import Gatehouse.Dispatch.Outcome
import Gatehouse.Metrics.Basic
import Gatehouse.Store.Cached

/-!
# `Gatehouse.Dispatch.Basic` — from a message to its outcome

A message goes through these stages, any of which can be the last: authors who are bots are ignored; the
settings that apply are fetched; the message must address the bot; in a guild the bot must be able to
answer; the message must name a command; the gates of the command are asked; its body runs. Whatever goes
wrong from the gates on is reported to the caller.

## Contents
- `Bot`: what does not change. `BotState`: what does.
- `Bot.canAnswer`: whether the bot can answer in a channel.
- `Bot.route`: everything up to the command.
- `Bot.report`, `Bot.conclude`, `Bot.execute`: the command and its result.
- `Bot.process`: all of it.
-/

namespace Gatehouse

/-- What does not change between messages. -/
structure Bot where
  services : Services
  registry : Registry

/-- What changes between messages. -/
structure BotState where
  world : World
  store : CachedStore
  usage : Usage
  metrics : Metrics

namespace Bot

/-- Whether the bot can answer a message. In a guild it has to be able to post, and to post embeds; if only
    the latter is missing, it says so for some seconds. -/
def canAnswer (bot : Bot) (m : Message) (catalog : Catalog) (w : World) : Bool × World :=
  if !m.isGuildMessage then (true, w)
  else
    match w.query m.channel.id with
    | (.error _, w) => (false, w)
    | (.ok held, w) =>
        if !held.allows .sendMessages then (false, w)
        else if !held.allows .embedLinks then
          let text := bot.services.languages.translate catalog "errors.missingEmbedLinks" []
          (false, w.push ⟨m.channel.id, ⟨text, .plain⟩, some bot.services.feedback.capabilityWarning⟩)
        else (true, w)

/-- What gates and commands look at. -/
def contextOf (bot : Bot) (m : Message) (record : CallerRecord) (invocation : Invocation)
    (catalog : Catalog) (moment : Moment) : Context where
  message := m
  record := record
  invocation := invocation
  catalog := catalog
  services := bot.services
  directory := bot.registry.listings
  usage := []
  moment := moment

/-- The command that a message calls and what it looks at, or the outcome if it does not get that far. -/
def route (bot : Bot) (m : Message) (moment : Moment) (s : BotState) :
    Except Outcome (Command × Context) × BotState :=
  if m.author.bot then (.error .botAuthor, s)
  else
    match s.store.fetch (m.guild.map Guild.id) m.author.id moment.clock with
    | (.error _, store) => (.error .storeUnavailable, { s with store })
    | (.ok record, store) =>
        let s := { s with store }
        match Address.ofContent? m.content (effectiveLead record.guild bot.services.lead)
            bot.services.botUser with
        | none => (.error .notCandidate, s)
        | some address =>
            let catalog := bot.services.languages.resolve (record.guild.bind GuildSettings.locale)
            match bot.canAnswer m catalog s.world with
            | (false, world) => (.error .missingCapabilities, { s with world })
            | (true, world) =>
                let s := { s with world }
                match Invocation.ofAddress? bot.registry record.guild address with
                | none => (.error .unknownCommand, s)
                | some (command, invocation) =>
                    (.ok (command, bot.contextOf m record invocation catalog moment), s)

/-- How a command is called: what introduced it and its first example, or its name. -/
def usageText (c : Context) : String :=
  c.invocation.lead ++ c.command.usage.head?.getD c.command.name

/-- What the caller is told about a failure, and the outcome. -/
def report (c : Context) : Failure → String × Outcome
  | .insufficientPermission e => (c.text "errors.externalPermission" [e.message], .externalPermission)
  | .invalidArguments reason =>
      (c.text "errors.invalidArguments" [reason, usageText c], .invalidArguments)
  | .unexpected _ _ => (c.text "errors.unexpected" [c.command.name], .failed)

/-- The outcome of a call whose gates and body have run. A failure is counted and told to the caller. -/
def conclude (c : Context) (result : Except Interrupt (Option String)) (s : BotState) : Outcome × BotState :=
  match result with
  | .ok none => (.completed, s)
  | .ok (some gate) => (.rejected, { s with metrics := s.metrics.recordRejection gate })
  | .error interrupt =>
      let failure := Failure.ofInterrupt interrupt
      let (text, outcome) := report c failure
      let notice := c.posting .error text (some c.services.feedback.error)
      (outcome, { s with
        metrics := s.metrics.recordFailure c.command.category.key failure.label
        world := s.world.push notice })

/-- Call a command. The call counts as a use whatever comes of it. -/
def execute (bot : Bot) (command : Command) (c : Context) (s : BotState) : Outcome × BotState :=
  let usage := s.usage.record command.name
  let c := { c with usage := bot.registry.stats usage }
  let (result, world) := command.run c s.world
  let (outcome, s) := conclude c result { s with usage, world }
  (outcome, { s with metrics := s.metrics.recordCommand command.name 0 })

/-- The outcome of a message, before it is counted. -/
def run (bot : Bot) (m : Message) (moment : Moment) (s : BotState) : Outcome × BotState :=
  match bot.route m moment s with
  | (.error outcome, s) => (outcome, s)
  | (.ok (command, c), s) => bot.execute command c s

/-- The outcome of a message. -/
def process (bot : Bot) (m : Message) (moment : Moment) (s : BotState) : Outcome × BotState :=
  let (outcome, s) := bot.run m moment s
  (outcome, { s with metrics := s.metrics.recordOutcome outcome.name })

end Bot

end Gatehouse
