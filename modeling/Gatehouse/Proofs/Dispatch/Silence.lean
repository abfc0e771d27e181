import Gatehouse.Proofs.Dispatch.Passages
import Gatehouse.Proofs.Session.Reach
import Gatehouse.Proofs.Store.Staleness

/-!
# `Gatehouse.Proofs.Dispatch.Silence` — messages that call no command leave no trace

A message that reaches no command is counted, the answer of the store may be remembered, and the platform may have
been asked one question. Nothing else happens (`Bot.Traceless`): no gate and no body is run, so that anything
could stand in their place, and nothing is queued. Only where the bot may post but not post embeds, there is one
warning in plain text (`Bot.process_traceless`).

The way to a command is cut in two for this: up to where the command is named, which depends on nothing that is
registered and on no counter (`Bot.approach`), and the naming of it (`Bot.route_eq`).
-/

namespace Gatehouse

/-- The outcomes of messages that are ignored without a word. -/
def Outcome.isSilent : Outcome → Bool
  | .botAuthor | .storeUnavailable | .notCandidate | .unknownCommand => true
  | .missingCapabilities | .rejected | .completed | .invalidArguments | .externalPermission | .failed => false

theorem Outcome.isEarly_of_isSilent {o : Outcome} (h : o.isSilent = true) : o.isEarly = true := by
  cases o <;> first | rfl | cases h

/-! ## Commands that are not called -/

namespace Registry

/-- Two registries have the same triggers, whatever the commands are. -/
def SameTriggers (r r' : Registry) : Prop :=
  ∀ trigger, (r.resolve? trigger).isSome = (r'.resolve? trigger).isSome

namespace SameTriggers

variable {r r' : Registry}

theorem exists_resolve? (h : r.SameTriggers r') {trigger : String} {c' : Command}
    (hc' : r'.resolve? trigger = some c') : ∃ c, r.resolve? trigger = some c := by
  rw [← Option.isSome_iff_exists, h trigger, hc']
  rfl

theorem resolve?_eq_none (h : r.SameTriggers r') {trigger : String} (hnone : r'.resolve? trigger = none) :
    r.resolve? trigger = none := by
  rw [← Option.not_isSome_iff_eq_none, h trigger, hnone]
  exact Bool.false_ne_true

/-- A word that names a command in one names a command in the other. -/
theorem exists_find? (h : r.SameTriggers r') {settings : Option GuildSettings} {word : String}
    {found' : Command × List String} (hfound' : r'.find? settings word = some found') :
    ∃ found, r.find? settings word = some found := by
  rcases find?_eq_some_iff.mp hfound' with
    ⟨hword, -⟩ | ⟨hword, settings', target, first, rfl, halias, hsplit, hfirst⟩
  · obtain ⟨c, hc⟩ := h.exists_resolve? hword
    exact ⟨(c, []), find?_of_trigger hc settings⟩
  · obtain ⟨c, hc⟩ := h.exists_resolve? hfirst
    refine ⟨(c, found'.2), ?_⟩
    rw [find?_of_alias (h.resolve?_eq_none hword) halias hsplit, hc]
    rfl

/-- A text that names no command in one names none in the other. -/
theorem ofAddress?_eq_none (h : r.SameTriggers r') {settings : Option GuildSettings} {a : Address}
    (hnone : Invocation.ofAddress? r settings a = none) : Invocation.ofAddress? r' settings a = none := by
  unfold Invocation.ofAddress? at hnone ⊢
  split at hnone
  · rfl
  · next word arguments _ =>
      rw [Option.map_eq_none_iff] at hnone
      cases hfound' : r'.find? settings word with
      | none => rfl
      | some found' =>
          obtain ⟨found, hfound⟩ := h.exists_find? hfound'
          rw [hnone] at hfound
          cases hfound

end SameTriggers

end Registry

namespace Bot

variable {bot : Bot} {m : Message} {moment : Moment} {s s₁ : BotState}

/-! ## The way to a command in two parts -/

/-- The way to a command up to where it is named: what is on record, what addresses the bot, and the language, or
    the outcome if it does not get that far. -/
def approach (bot : Bot) (m : Message) (moment : Moment) (s : BotState) :
    Except Outcome (CallerRecord × Address × Catalog) × BotState :=
  if m.author.bot then (.error .botAuthor, s)
  else
    match s.store.fetch (m.guild.map Guild.id) m.author.id moment.clock with
    | (.error _, store) => (.error .storeUnavailable, { s with store })
    | (.ok record, store) =>
        match Address.ofContent? m.content (effectiveLead record.guild bot.services.lead)
            bot.services.botUser with
        | none => (.error .notCandidate, { s with store })
        | some address =>
            let catalog := bot.services.languages.resolve (record.guild.bind GuildSettings.locale)
            match bot.canAnswer m catalog s.world with
            | (false, world) => (.error .missingCapabilities, { s with store, world })
            | (true, world) => (.ok (record, address, catalog), { s with store, world })

/-- What is then left to do is to name the command. -/
theorem route_eq (bot : Bot) (m : Message) (moment : Moment) (s : BotState) :
    bot.route m moment s =
      match bot.approach m moment s with
      | (.error outcome, s) => (.error outcome, s)
      | (.ok (record, address, catalog), s) =>
          match Invocation.ofAddress? bot.registry record.guild address with
          | none => (.error .unknownCommand, s)
          | some (command, invocation) => (.ok (command, bot.contextOf m record invocation catalog moment), s) := by
  unfold route approach
  cases m.author.bot with
  | true => rfl
  | false =>
      rcases s.store.fetch (m.guild.map Guild.id) m.author.id moment.clock with ⟨e | record, store⟩
      · rfl
      · simp only [Bool.false_eq_true, if_false]
        cases Address.ofContent? m.content (effectiveLead record.guild bot.services.lead)
            bot.services.botUser with
        | none => rfl
        | some address =>
            simp only
            rcases bot.canAnswer m (bot.services.languages.resolve (record.guild.bind GuildSettings.locale)) s.world
              with ⟨_ | _, world⟩
            · rfl
            · rfl

/-- Up to there no counter is looked at. -/
theorem approach_metrics (bot : Bot) (m : Message) (moment : Moment) (s : BotState) (metrics : Metrics) :
    bot.approach m moment { s with metrics }
      = ((bot.approach m moment s).1, { (bot.approach m moment s).2 with metrics }) := by
  simp only [approach]
  split
  · rfl
  · split
    · rfl
    · split
      · rfl
      · split <;> rfl

theorem route_metrics (bot : Bot) (m : Message) (moment : Moment) (s : BotState) (metrics : Metrics) :
    bot.route m moment { s with metrics }
      = ((bot.route m moment s).1, { (bot.route m moment s).2 with metrics }) := by
  simp only [route_eq, approach_metrics]
  rcases bot.approach m moment s with ⟨outcome | ⟨record, address, catalog⟩, s₁⟩
  · rfl
  · simp only
    split <;> rfl

/-- A message that reaches no command does not depend on what the commands are. -/
theorem route_of_sameTriggers {outcome : Outcome} (h : bot.route m moment s = (.error outcome, s₁))
    {r : Registry} (hr : bot.registry.SameTriggers r) :
    route { bot with registry := r } m moment s = (.error outcome, s₁) := by
  have happroach : approach { bot with registry := r } m moment s = bot.approach m moment s := rfl
  rw [route_eq] at h ⊢
  rw [happroach]
  rcases hway : bot.approach m moment s with ⟨outcome' | ⟨record, address, catalog⟩, s₂⟩
  · rw [hway] at h
    exact h
  · rw [hway] at h
    simp only at h ⊢
    split at h
    · next hname =>
        rw [hr.ofAddress?_eq_none hname]
        exact h
    · cases (Prod.mk.inj h).1

/-! ## What is left behind -/

/-- What a message that reaches no command leaves behind. Of all that is queued, `queued` comes from it. -/
structure Traceless (bot : Bot) (m : Message) (moment : Moment) (s : BotState) (queued : List Posting) : Prop where
  /-- Everything known of channels, every throttle and every note is as it was. If the platform only answers so
      many questions, it may answer one less. -/
  world : ∃ left, (s.world.queriesLeft = none → left = none) ∧
    (bot.process m moment s).2.world
      = { s.world with queriesLeft := left, outbox := queued.foldl Outbox.push s.world.outbox }
  /-- No command was used. -/
  usage : (bot.process m moment s).2.usage = s.usage
  /-- Only the outcome is counted. -/
  metrics : (bot.process m moment s).2.metrics = s.metrics.recordOutcome (bot.process m moment s).1.name
  /-- What the store answered may be remembered. -/
  store : (bot.process m moment s).2.store = s.store ∨
    ∃ record, s.store.inner.fetch (m.guild.map Guild.id) m.author.id = .ok record ∧
      (bot.process m moment s).2.store
        = { s.store with cache := s.store.cache.insert (m.guild.map Guild.id, m.author.id) record moment.clock }
  /-- Nothing is remembered if answers are not to be. -/
  uncached : s.store.cache.lifetime = 0 → (bot.process m moment s).2.store = s.store
  /-- No gate and no body was run: any commands with the same triggers could stand in the place of those that
      are registered. -/
  uncalled : ∀ r, bot.registry.SameTriggers r →
    process { bot with registry := r } m moment s = bot.process m moment s

end Bot

/-- What a request can do to the store: nothing, or it remembers what the store says. -/
theorem CachedStore.fetch_cases (s : CachedStore) (guild : Option GuildId) (user : UserId) (now : Nat) :
    (s.fetch guild user now).2 = s ∨
    ∃ record, s.inner.fetch guild user = .ok record ∧
      (s.fetch guild user now).2 = { s with cache := s.cache.insert (guild, user) record now } := by
  unfold fetch fetchDuring
  split
  · exact .inl rfl
  · split
    · exact .inl rfl
    · split
      · next record hrecord => exact .inr ⟨record, hrecord, rfl⟩
      · exact .inl rfl

/-- Where answers are not to be remembered, none is. -/
theorem CachedStore.fetch_of_lifetime_zero {s : CachedStore} (h : s.cache.lifetime = 0) (guild : Option GuildId)
    (user : UserId) (now : Nat) : (s.fetch guild user now).2 = s := by
  unfold fetch fetchDuring
  rw [if_pos h]

namespace Bot

variable {bot : Bot} {m : Message} {moment : Moment} {s s₁ : BotState}

/-- **A message that reaches no command leaves no trace**, but for one warning at most where the bot cannot
    answer. -/
theorem process_traceless (h : (bot.process m moment s).1.isEarly = true) :
    ∃ queued, bot.Traceless m moment s queued ∧
      ((bot.process m moment s).1.isSilent = true → queued = []) ∧
      (queued = [] ∨ ∃ catalog, queued = [bot.embedWarning m catalog]) := by
  have hstop := route_of_isEarly rfl h
  have hroute : bot.route m moment s = (.error (bot.process m moment s).1, (bot.route m moment s).2) :=
    Prod.ext hstop rfl
  have hprocess := process_of_stop hroute
  obtain ⟨hmetrics, husage⟩ := bot.route_counters m moment s
  have hworld := process_world_of_stop hstop
  -- Whatever was queued, the rest is the same.
  have htraceless {queued : List Posting} (hleft : ∃ left, (s.world.queriesLeft = none → left = none) ∧
      (bot.process m moment s).2.world
        = { s.world with queriesLeft := left, outbox := queued.foldl Outbox.push s.world.outbox }) :
      bot.Traceless m moment s queued := by
    refine ⟨hleft, ?_, ?_, ?_, ?_, ?_⟩
    · rw [hprocess]
      exact husage
    · rw [← hmetrics, hprocess]
    · rw [process_store]
      split
      · exact .inl rfl
      · exact s.store.fetch_cases _ _ _
    · intro hlifetime
      rw [process_store]
      split
      · rfl
      · exact CachedStore.fetch_of_lifetime_zero hlifetime _ _ _
    · intro r hr
      rw [process_of_stop (route_of_sameTriggers hroute hr), ← hprocess]
  rcases bot.route_cases m moment s with ⟨-, hsame⟩ | ⟨catalog, hmissing, hanswer⟩ | ⟨catalog, -, hanswer⟩
  · refine ⟨[], htraceless ⟨s.world.queriesLeft, fun hnone => hnone, ?_⟩, fun _ => rfl, .inl rfl⟩
    rw [hworld, hsame]
    rfl
  · obtain ⟨queued, ⟨left, hleft, hw⟩, hwarning, -⟩ := answering_of_canAnswer hanswer
    refine ⟨queued, htraceless ⟨left, hleft, hworld.trans hw⟩, ?_, hwarning.imp_right fun h => ⟨catalog, h.1⟩⟩
    intro hsilent
    rw [← Except.error.inj (hmissing.symm.trans hstop)] at hsilent
    cases hsilent
  · obtain ⟨queued, ⟨left, hleft, hw⟩, -, hable⟩ := answering_of_canAnswer hanswer
    obtain rfl := (hable rfl).1
    exact ⟨[], htraceless ⟨left, hleft, hworld.trans hw⟩, fun _ => rfl, .inl rfl⟩

end Bot

end Gatehouse
