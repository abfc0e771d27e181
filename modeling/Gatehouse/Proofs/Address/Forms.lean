import Gatehouse.Proofs.Address.Mentions
import Gatehouse.Proofs.Dispatch.Passages
import Gatehouse.Proofs.Session.Moves
import Gatehouse.Proofs.Session.Reach

/-!
# `Gatehouse.Proofs.Address.Forms` — two ways to address the bot

A command is introduced by what introduces commands in the guild, or by a mention of the bot and a blank. Both
come to the same call (`Session.Reaches.forms_agree`). There are two provisos. What introduces commands counts
first, even where a mention begins with it; and white space at its start does not match, because that is taken
off a message (`Session.leads_that_fail`).
-/

namespace Gatehouse

/-- Whether a text begins with white space. -/
def Text.startsBlank (s : String) : Bool :=
  s.toList.head?.any isBlank

theorem Text.trimStart_toList {s : String} (h : startsBlank s = false) : trimStart s.toList = s.toList := by
  cases hs : s.toList with
  | nil => rfl
  | cons c cs => exact trimStart_cons (by simpa [startsBlank, hs] using h) cs

/-! ## Addresses -/

namespace Address

/-- What introduces commands counts first. -/
theorem ofContent?_of_eq {content lead rest : String} (hcontent : content = lead ++ rest)
    (hblank : Text.startsBlank content = false) (bot : UserId) :
    ofContent? content lead bot = some ⟨rest, false, lead⟩ := by
  have hdrop : Text.dropLead? lead.toList content.toList = some rest.toList := by
    rw [Text.dropLead?_eq_some_iff, hcontent, String.toList_append]
  simp only [ofContent?, Text.trimStart_toList hblank, hdrop, String.ofList_toList]

/-- It is followed by the rest of the message, if it is not white space at its start. -/
theorem ofContent?_lead {lead : String} (hlead : Text.isBlankOnly lead = false)
    (hblank : Text.startsBlank lead = false) (text : String) (bot : UserId) :
    ofContent? (lead ++ text) lead bot = some ⟨text, false, lead⟩ := by
  refine ofContent?_of_eq rfl ?_ bot
  cases hcs : lead.toList with
  | nil => simp [Text.isBlankOnly, hcs] at hlead
  | cons c cs => simpa [Text.startsBlank, String.toList_append, hcs] using hblank

/-- A message that begins with a mention does not begin with white space. -/
theorem not_startsBlank_mention (bot : User) (text : String) :
    Text.startsBlank (bot.mention ++ " " ++ text) = false := by
  rw [Text.startsBlank, String.toList_append, String.toList_append, User.mention_toList]
  rfl

/-- A mention of the bot counts if what introduces commands does not. -/
theorem ofContent?_mention (bot : User) {lead text : String}
    (hlead : ∀ rest, bot.mention ++ " " ++ text ≠ lead ++ rest) :
    ofContent? (bot.mention ++ " " ++ text) lead bot.id = some ⟨text, true, bot.mention ++ " "⟩ := by
  have hread : Mention.parse? bot.mention = some bot.id :=
    Mention.parse?_eq_some_iff.mpr (Mention.isMention_user bot).1
  have hblank : Text.isBlank ' ' = true := by decide
  exact (ofContent?_of_mention hread hblank hlead bot.id).trans (if_pos rfl)

end Address

/-! ## Calls -/

/-- What a message calls. -/
structure Call where
  command : Command
  /-- Fixed arguments of an alias of the guild. -/
  aliasArguments : List String
  /-- The arguments in the message. -/
  userArguments : List String
  /-- The text after the trigger. -/
  remainder : String

/-- What an invocation of a command calls, however it was introduced. -/
def Invocation.call (command : Command) (i : Invocation) : Call :=
  ⟨command, i.aliasArguments, i.userArguments, i.remainder⟩

/-- What is called depends on the text after the address only. -/
theorem Invocation.call_ofAddress? (r : Registry) (settings : Option GuildSettings) {a a' : Address}
    (h : a.rest = a'.rest) :
    (ofAddress? r settings a).map (fun p => p.2.call p.1) = (ofAddress? r settings a').map fun p => p.2.call p.1 := by
  rw [ofAddress?, ofAddress?, h]
  cases Arguments.split a'.rest with
  | nil => rfl
  | cons word userArguments => cases hfind : r.find? settings word <;> simp [hfind, call]

namespace Bot

variable {bot : Bot} {m : Message} {moment : Moment} {s : BotState} {record : CallerRecord}

/-- The way from an address to the command. -/
def routeTo (bot : Bot) (m : Message) (moment : Moment) (record : CallerRecord) (address : Address)
    (s : BotState) : Except Outcome (Command × Context) × BotState :=
  let catalog := bot.services.languages.resolve (record.guild.bind GuildSettings.locale)
  match bot.canAnswer m catalog s.world with
  | (false, world) => (.error .missingCapabilities, { s with world })
  | (true, world) =>
      let s := { s with world }
      match Invocation.ofAddress? bot.registry record.guild address with
      | none => (.error .unknownCommand, s)
      | some (command, invocation) => (.ok (command, bot.contextOf m record invocation catalog moment), s)

/-- From an address on, a message is not passed over. -/
theorem routeTo_ne_notCandidate (address : Address) (s : BotState) :
    (bot.routeTo m moment record address s).1 ≠ .error .notCandidate := by
  simp only [routeTo]
  split
  · simp
  · split <;> simp

/-- What is called, if anything, and what the state is after that, does not depend on the content of the message
    but for the text after the address. -/
theorem routeTo_congr (content : String) {a a' : Address} (h : a.rest = a'.rest) (s : BotState) :
    (bot.routeTo m moment record a s).1.map (fun p => p.2.invocation.call p.1)
        = (bot.routeTo { m with content } moment record a' s).1.map (fun p => p.2.invocation.call p.1) ∧
      (bot.routeTo m moment record a s).2 = (bot.routeTo { m with content } moment record a' s).2 := by
  have hcan (catalog : Catalog) (w : World) :
      bot.canAnswer { m with content } catalog w = bot.canAnswer m catalog w := rfl
  have hcall := Invocation.call_ofAddress? bot.registry record.guild h
  simp only [routeTo, hcan]
  split
  · exact ⟨rfl, rfl⟩
  · cases hfound : Invocation.ofAddress? bot.registry record.guild a <;>
      cases hfound' : Invocation.ofAddress? bot.registry record.guild a' <;>
      rw [hfound, hfound'] at hcall
    · exact ⟨rfl, rfl⟩
    · cases hcall
    · cases hcall
    · exact ⟨congrArg Except.ok (Option.some.inj hcall), rfl⟩

/-- What a message calls, or its outcome if it calls nothing, and the state after that. -/
def called (bot : Bot) (m : Message) (moment : Moment) (s : BotState) : Except Outcome Call × BotState :=
  let (result, s) := bot.route m moment s
  (result.map fun (command, c) => c.invocation.call command, s)

section

variable {store : CachedStore} {lead : String} {user : UserId}
variable (hfetch : s.store.fetch (m.guild.map Guild.id) m.author.id moment.clock = (.ok record, store))
variable (hlead : effectiveLead record.guild bot.services.lead = lead) (huser : bot.services.botUser = user)
include hfetch hlead huser

/-- A message of a user whose settings are known goes on if it addresses the bot. -/
theorem route_of_address (hauthor : m.author.bot = false) {a : Address}
    (h : Address.ofContent? m.content lead user = some a) :
    bot.route m moment s = bot.routeTo m moment record a { s with store } := by
  simp only [route, hauthor, hfetch, hlead, huser, h]
  rfl

/-- A message that addresses the bot is not passed over. -/
theorem process_ne_notCandidate {a : Address}
    (h : Address.ofContent? m.content lead user = some a) :
    (bot.process m moment s).1 ≠ .notCandidate := by
  intro hnot
  have hstopped := route_of_isEarly hnot rfl
  cases hauthor : m.author.bot with
  | false =>
      rw [route_of_address hfetch hlead huser hauthor h] at hstopped
      exact routeTo_ne_notCandidate _ _ hstopped
  | true => simp [route, hauthor] at hstopped

/-- Two ways to address the bot call the same if the same text follows. -/
theorem called_congr {content : String} {a a' : Address}
    (h : Address.ofContent? m.content lead user = some a)
    (h' : Address.ofContent? content lead user = some a') (hrest : a.rest = a'.rest) :
    bot.called m moment s = bot.called { m with content } moment s := by
  cases hauthor : m.author.bot with
  | false =>
      have hroute := route_of_address hfetch hlead huser hauthor h
      have hroute' := route_of_address (m := { m with content }) hfetch hlead huser hauthor h'
      rw [called, called, hroute, hroute']
      exact Prod.ext (routeTo_congr content hrest _).1 (routeTo_congr content hrest _).2
  | true => simp [called, route, hauthor]

end

end Bot

/-! ## Both ways -/

namespace Session

/-- **Both ways to address the bot come to the same**: what introduces commands in the guild, and a mention of the
    bot followed by a blank. -/
structure FormsAgree (s : Session) (lead : String) (bot : User) (m : Message) (moment : Moment)
    (text : String) : Prop where
  /-- This is what introduces commands where the message comes from. -/
  effective : ∃ record,
    (s.state.store.fetch (m.guild.map Guild.id) m.author.id moment.clock).1 = .ok record ∧
    effectiveLead record.guild s.bot.services.lead = lead
  by_lead : Text.startsBlank lead = false →
    Address.ofContent? (lead ++ text) lead bot.id = some ⟨text, false, lead⟩
  by_mention : (∀ rest, bot.mention ++ " " ++ text ≠ lead ++ rest) →
    Address.ofContent? (bot.mention ++ " " ++ text) lead bot.id = some ⟨text, true, bot.mention ++ " "⟩
  /-- A mention that begins with what introduces commands is not taken for a mention. -/
  lead_first : ∀ rest, bot.mention ++ " " ++ text = lead ++ rest →
    Address.ofContent? (bot.mention ++ " " ++ text) lead bot.id = some ⟨rest, false, lead⟩
  same_call : Text.startsBlank lead = false → (∀ rest, bot.mention ++ " " ++ text ≠ lead ++ rest) →
    s.bot.called { m with content := lead ++ text } moment s.state
      = s.bot.called { m with content := bot.mention ++ " " ++ text } moment s.state
  /-- Neither is passed over. -/
  lead_candidate : Text.startsBlank lead = false →
    (s.process { m with content := lead ++ text } moment).1 ≠ .notCandidate
  mention_candidate : (s.process { m with content := bot.mention ++ " " ++ text } moment).1 ≠ .notCandidate

variable {config : Config} {start : Start} {gates : GateFactory} {commands : List (Descriptor × Builtin.Body)}
variable {s₀ s : Session}

/-- **The two ways to address the bot agree**, at any time in the life of a bot with a sound configuration. -/
theorem Reaches.forms_agree (hsound : config.isSound = true)
    (hstart : startWith config start gates commands = .ok s₀) (h : Reaches s₀ s) (m : Message) (moment : Moment)
    (text : String) :
    s.FormsAgree (config.leadIn (m.guild.map Guild.id)) (account config.bot) m moment text := by
  obtain ⟨hdefault, huser⟩ : s.bot.services.lead = config.bot.lead ∧
      s.bot.services.botUser = (account config.bot).id := by
    obtain ⟨languages, registry, rfl⟩ := startWith_eq_ok hstart
    rw [h.bot_eq]
    exact ⟨rfl, rfl⟩
  obtain ⟨record, store, hfetch, hlead⟩ : ∃ record store,
      s.state.store.fetch (m.guild.map Guild.id) m.author.id moment.clock = (.ok record, store) ∧
      effectiveLead record.guild s.bot.services.lead = config.leadIn (m.guild.map Guild.id) := by
    refine ⟨_, _, Prod.ext (h.fetch_eq hstart _ _ _) rfl, ?_⟩
    rw [hdefault]
    exact Store.effectiveLead_lookup hsound _ _
  have hnonblank := Config.leadIn_not_blank hsound (m.guild.map Guild.id)
  have hmention := Address.not_startsBlank_mention (account config.bot) text
  constructor
  case effective => exact ⟨record, by rw [hfetch], hlead⟩
  case by_lead => exact fun hblank => Address.ofContent?_lead hnonblank hblank text _
  case by_mention => exact Address.ofContent?_mention _
  case lead_first => exact fun rest hrest => Address.ofContent?_of_eq hrest hmention _
  case same_call =>
    intro hblank hother
    exact Bot.called_congr (m := { m with content := config.leadIn (m.guild.map Guild.id) ++ text }) hfetch hlead
      huser (Address.ofContent?_lead hnonblank hblank text _) (Address.ofContent?_mention _ hother) rfl
  case lead_candidate =>
    intro hblank
    exact Bot.process_ne_notCandidate (m := { m with content := _ }) hfetch hlead huser
      (Address.ofContent?_lead hnonblank hblank text _)
  case mention_candidate =>
    -- Either what introduces commands comes first, or the mention counts.
    by_cases hother : ∃ rest, (account config.bot).mention ++ " " ++ text
        = config.leadIn (m.guild.map Guild.id) ++ rest
    · obtain ⟨rest, hrest⟩ := hother
      exact Bot.process_ne_notCandidate (m := { m with content := _ }) hfetch hlead huser
        (Address.ofContent?_of_eq hrest hmention _)
    · exact Bot.process_ne_notCandidate (m := { m with content := _ }) hfetch hlead huser
        (Address.ofContent?_mention _ (not_exists.mp hother))

/-! ## Configurations -/

/-- A configuration with a default for what introduces commands, and a guild that has a choice of its own. -/
def configOf (lead : String) : Config where
  bot := ⟨"gatebot", Id.ofNat 100, lead, "en_US", ⟨0, 1⟩, none⟩
  feedback := .standard
  sweepInterval := 60
  cacheLifetime := 300
  permissions := ⟨[], []⟩
  logging := ⟨"info", .pretty⟩
  guilds := [⟨Id.ofNat 1, { GuildSettings.empty with lead := some "?" }, []⟩]

/-- A message in that guild. -/
def guildMessage : Message :=
  { Message.bare (Id.ofNat 1) ⟨Id.ofNat 5, "alice", false⟩ ⟨Id.ofNat 9, "general", .text⟩ "" with
    guild := some ⟨Id.ofNat 1, "home", Id.ofNat 5, []⟩ }

theorem forms_agree_configOf : (configOf "!").isSound = true ∧
    ∃ s₀ s, startWith (configOf "!") ⟨0, ""⟩ (factory (configOf "!")) [] = .ok s₀ ∧ Reaches s₀ s ∧
      s.FormsAgree "?" (account (configOf "!").bot) guildMessage ⟨7, 0⟩ "ping" := by
  have hsound : (configOf "!").isSound = true := by decide +kernel
  obtain ⟨s₀, hstart⟩ : ∃ s₀, startWith (configOf "!") ⟨0, ""⟩ (factory (configOf "!")) [] = .ok s₀ :=
    exists_of_isOk (by rw [startWith_eq]; decide +kernel)
  have hreach : Reaches s₀ ((s₀.process guildMessage ⟨5, 0⟩).2.sweep 6) :=
    (Reaches.start.message guildMessage ⟨5, 0⟩).sweep 6
  exact ⟨hsound, s₀, _, hstart, hreach, hreach.forms_agree hsound hstart guildMessage ⟨7, 0⟩ "ping"⟩

/-- **What introduces commands can get in the way.** If it is the first character of a mention, a mention of the
    bot is not taken for one. If it begins with white space, it is accepted but nothing begins with it. -/
theorem leads_that_fail :
    (configOf "<").isSound = true ∧ (configOf "<").leadIn none = "<" ∧
    Address.ofContent? ((account (configOf "<").bot).mention ++ " " ++ "ping") "<" (Id.ofNat 100)
      = some ⟨"@100> ping", false, "<"⟩ ∧
    (configOf " !").isSound = true ∧ (configOf " !").leadIn none = " !" ∧
    Address.ofContent? (" !" ++ "ping") " !" (Id.ofNat 100) = none := by
  refine ⟨?_, ?_, ?_, ?_, ?_, ?_⟩ <;> decide +kernel

end Session

end Gatehouse
