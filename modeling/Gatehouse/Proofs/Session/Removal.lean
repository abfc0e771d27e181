import Gatehouse.Proofs.Dispatch.Coverage
import Gatehouse.Proofs.Dispatch.Silence
import Gatehouse.Proofs.Session.Moves

/-!
# `Gatehouse.Proofs.Session.Removal` — messages that are ignored could as well not be dealt with

Of each message that a session deals with on its way through moves, it is reported what became of it and what was
queued (`Session.reports`).

Counters are never looked at, so sessions that are alike in everything else go on alike (`Session.Alike.reports`).
Where answers of the store are not remembered, a session that ignored a message is alike to one that did not even
deal with it. So the message can be taken out of a run, and all other reports are the same
(`Session.ignored_leave_no_trace`).
-/

namespace Gatehouse

/-! ## Counters do not matter -/

/-- States that differ in counters at most. -/
structure BotState.Alike (s s' : BotState) : Prop where
  world : s.world = s'.world
  store : s.store = s'.store
  usage : s.usage = s'.usage

theorem BotState.Alike.refl (s : BotState) : s.Alike s :=
  ⟨rfl, rfl, rfl⟩

theorem BotState.Alike.eq {s s' : BotState} (h : s.Alike s') : s = { s' with metrics := s.metrics } := by
  obtain ⟨world, store, usage, metrics⟩ := s
  obtain ⟨rfl, rfl, rfl⟩ := h
  rfl

namespace Bot

variable {bot : Bot}

theorem execute_alike (bot : Bot) (command : Command) (c : Context) (s : BotState) (metrics : Metrics) :
    (bot.execute command c { s with metrics }).1 = (bot.execute command c s).1 ∧
    (bot.execute command c { s with metrics }).2.Alike (bot.execute command c s).2 := by
  rcases hrun : command.run (bot.callContext command c s) s.world with ⟨result, w⟩
  have hrun' : command.run (bot.callContext command c { s with metrics }) s.world = (result, w) := hrun
  rw [execute_eq hrun, execute_eq hrun']
  rcases result with i | _ | gate
  · exact ⟨rfl, rfl, rfl, rfl⟩
  · exact ⟨rfl, rfl, rfl, rfl⟩
  · exact ⟨rfl, rfl, rfl, rfl⟩

/-- **What becomes of a message does not depend on counters**, nor does what is left behind besides them. -/
theorem process_alike (bot : Bot) (m : Message) (moment : Moment) {s s' : BotState} (h : s.Alike s') :
    (bot.process m moment s).1 = (bot.process m moment s').1 ∧
    (bot.process m moment s).2.Alike (bot.process m moment s').2 := by
  rw [h.eq]
  have hway := bot.route_metrics m moment s' s.metrics
  rcases hroute : bot.route m moment s' with ⟨outcome | ⟨command, c⟩, s₁⟩
  · rw [hroute] at hway
    rw [process_of_stop hway, process_of_stop hroute]
    exact ⟨rfl, rfl, rfl, rfl⟩
  · rw [hroute] at hway
    rw [process_of_route hway, process_of_route hroute]
    obtain ⟨houtcome, hworld, hstore, husage⟩ := bot.execute_alike command c s₁ s.metrics
    exact ⟨houtcome, hworld, hstore, husage⟩

end Bot

/-! ## Reports of a session -/

namespace Session

/-- What becomes of a message and what is queued meanwhile. -/
structure Report where
  outcome : Outcome
  queued : List Posting

/-- The report of a message that a session deals with. -/
def report (s : Session) (m : Message) (moment : Moment) : Report where
  outcome := (s.process m moment).1
  queued := (s.process m moment).2.state.world.outbox.queue.drop s.state.world.outbox.queue.length

/-- The report of a move, if it is a message that is dealt with. -/
def report? (s : Session) : Move → Option Report
  | .dispatch m moment => some (s.report m moment)
  | _ => none

/-- The reports of moves, one after the other. -/
def reports (s : Session) : List Move → List Report
  | [] => []
  | mv :: moves => (s.report? mv).toList ++ (s.move mv).reports moves

theorem reports_append (s : Session) (before after : List Move) :
    s.reports (before ++ after) = s.reports before ++ (s.moveAll before).reports after := by
  induction before generalizing s with
  | nil => rfl
  | cons mv before ih =>
      rw [List.cons_append, reports, reports, ih, List.append_assoc]
      rfl

/-! ## Sessions that go on alike -/

/-- Sessions that differ in counters at most. -/
structure Alike (s s' : Session) : Prop where
  bot : s.bot = s'.bot
  state : s.state.Alike s'.state

namespace Alike

variable {s s' : Session}

theorem changeWorld (h : s.Alike s') (f : World → World) : (s.changeWorld f).Alike (s'.changeWorld f) where
  bot := h.bot
  state := ⟨congrArg f h.state.world, h.state.store, h.state.usage⟩

theorem process (h : s.Alike s') (m : Message) (moment : Moment) :
    (s.process m moment).1 = (s'.process m moment).1 ∧ (s.process m moment).2.Alike (s'.process m moment).2 := by
  have hprocess := s'.bot.process_alike m moment h.state
  unfold Session.process
  rw [h.bot]
  exact ⟨hprocess.1, ⟨rfl, hprocess.2⟩⟩

/-- **A move keeps sessions alike**, and the reports are the same. -/
theorem move (h : s.Alike s') (mv : Move) : s.report? mv = s'.report? mv ∧ (s.move mv).Alike (s'.move mv) := by
  cases mv with
  | observe e => exact ⟨rfl, h.changeWorld fun w => w.observe e⟩
  | dispatch m moment =>
      obtain ⟨houtcome, halike⟩ := h.process m moment
      have hreport : s.report m moment = s'.report m moment := by
        unfold report
        rw [houtcome, halike.state.world, h.state.world]
      exact ⟨congrArg some hreport, halike⟩
  | deliver now => exact ⟨rfl, h.changeWorld fun w => w.deliver now⟩
  | expire now => exact ⟨rfl, h.changeWorld fun w => w.expire now⟩
  | sweep now =>
      refine ⟨rfl, h.bot, ?_, ?_, h.state.usage⟩
      · exact congrArg (fun w : World => { w with throttle := w.throttle.sweep now }) h.state.world
      · exact congrArg (fun store : CachedStore => store.sweep now) h.state.store
  | changeStore f =>
      exact ⟨rfl, h.bot, h.state.world, congrArg (fun store : CachedStore => store.change f) h.state.store,
        h.state.usage⟩
  | sink sink => exact ⟨rfl, h.changeWorld fun w => { w with console := { w.console with sink } }⟩
  | close => exact ⟨rfl, h.changeWorld fun w => { w with outbox := w.outbox.close }⟩

/-- **Sessions that are alike go on alike.** -/
theorem reports (h : s.Alike s') (moves : List Move) :
    s.reports moves = s'.reports moves ∧ (s.moveAll moves).Alike (s'.moveAll moves) := by
  induction moves generalizing s s' with
  | nil => exact ⟨rfl, h⟩
  | cons mv moves ih =>
      obtain ⟨hreport, hmove⟩ := h.move mv
      obtain ⟨hreports, halike⟩ := ih hmove
      refine ⟨?_, halike⟩
      show (s.report? mv).toList ++ (s.move mv).reports moves = _
      rw [hreport, hreports]
      rfl

end Alike

/-! ## Sessions in which nothing is remembered -/

/-- The platform answers every question, answers of the store are not remembered, and every command stays within
    the frame. -/
structure Forgetful (s : Session) : Prop where
  mannered : s.bot.registry.Mannered
  queries : s.state.world.queriesLeft = none
  uncached : s.state.store.cache.lifetime = 0

namespace Forgetful

variable {s : Session}

theorem process (h : s.Forgetful) (m : Message) (moment : Moment) : (s.process m moment).2.Forgetful where
  mannered := h.mannered
  queries := (Bot.process_conduct h.mannered m moment s.state).queries h.queries
  uncached := by
    show (s.bot.process m moment s.state).2.store.cache.lifetime = 0
    rw [Bot.process_store]
    split
    · exact h.uncached
    · rw [CachedStore.fetch_of_lifetime_zero h.uncached]
      exact h.uncached

theorem move (h : s.Forgetful) (mv : Move) : (s.move mv).Forgetful := by
  cases mv with
  | dispatch m moment => exact h.process m moment
  | observe _ | deliver _ | expire _ | sweep _ | changeStore _ | sink _ | close =>
      exact ⟨h.mannered, h.queries, h.uncached⟩

theorem moveAll (h : s.Forgetful) (moves : List Move) : (s.moveAll moves).Forgetful := by
  induction moves generalizing s with
  | nil => exact h
  | cons mv moves ih => exact ih (h.move mv)

/-- **Ignoring a message changes nothing but counters**, and nothing is queued. -/
theorem alike_of_isSilent (h : s.Forgetful) {m : Message} {moment : Moment}
    (hsilent : (s.process m moment).1.isSilent = true) :
    (s.process m moment).2.Alike s ∧ (s.report m moment).queued = [] := by
  obtain ⟨queued, htrace, hqueued, -⟩ := Bot.process_traceless (Outcome.isEarly_of_isSilent hsilent)
  obtain rfl := hqueued hsilent
  obtain ⟨left, hleft, hworld⟩ := htrace.world
  have hsame : (s.bot.process m moment s.state).2.world = s.state.world := by
    rw [hworld, hleft h.queries, ← h.queries]
    rfl
  refine ⟨⟨rfl, hsame, htrace.uncached h.uncached, htrace.usage⟩, ?_⟩
  show (s.bot.process m moment s.state).2.world.outbox.queue.drop _ = []
  rw [hsame, List.drop_length]

end Forgetful

/-- A session starts without limits on what the platform answers, and remembers nothing if it is not to. -/
theorem forgetful_of_startWith {config : Config} {start : Start} {gates : GateFactory}
    {commands : List (Descriptor × Builtin.Body)} {s : Session} (hgates : gates.Mannered)
    (hcommands : ∀ d ∈ commands, Builtin.Body.Mannered d.2)
    (h : startWith config start gates commands = .ok s) (hlifetime : config.cacheLifetime = 0) :
    s.Forgetful := by
  refine ⟨mannered_of_startWith hgates hcommands h, ?_, ?_⟩
  · obtain ⟨languages, registry, rfl⟩ := startWith_eq_ok h
    rfl
  · obtain ⟨languages, registry, rfl⟩ := startWith_eq_ok h
    show Clock.seconds config.cacheLifetime = 0
    rw [hlifetime]
    rfl

/-! ## Messages that are ignored -/

/-- A message can be taken out of the run of a session, between the moves `before` and `after`: nothing is queued
    for it, all other reports are the same without it, and at the end only counters can be different. -/
structure Removable (s : Session) (before : List Move) (m : Message) (moment : Moment) (after : List Move) :
    Prop where
  queued : ((s.moveAll before).report m moment).queued = []
  reports : s.reports (before ++ .dispatch m moment :: after)
    = s.reports before ++ (s.moveAll before).report m moment :: (s.moveAll before).reports after
  rest : s.reports (before ++ after) = s.reports before ++ (s.moveAll before).reports after
  state : (s.moveAll (before ++ .dispatch m moment :: after)).Alike (s.moveAll (before ++ after))

theorem Forgetful.removable {s : Session} (h : s.Forgetful) (before : List Move) {m : Message} {moment : Moment}
    (after : List Move) (hsilent : ((s.moveAll before).process m moment).1.isSilent = true) :
    s.Removable before m moment after := by
  obtain ⟨halike, hqueued⟩ := (h.moveAll before).alike_of_isSilent hsilent
  obtain ⟨hreports, hstate⟩ := halike.reports after
  refine ⟨hqueued, ?_, s.reports_append before after, ?_⟩
  · rw [reports_append]
    show s.reports before ++ ((s.moveAll before).report m moment
      :: ((s.moveAll before).process m moment).2.reports after) = _
    rw [hreports]
  · rw [moveAll_append, moveAll_append]
    exact hstate

/-- **Messages that are ignored leave no trace.** In every state of a bot, a message that is ignored without a
    word queues nothing, calls nothing, and changes nothing but counters of outcomes and remembered answers; where
    the bot cannot answer, there can be one warning in plain text besides, which goes to the channel of the
    message and is deleted after a while. Where no answers are remembered, a message that is ignored without a
    word can be taken out of any run. -/
theorem ignored_leave_no_trace {config : Config} {start : Start} {gates : GateFactory}
    {commands : List (Descriptor × Builtin.Body)} {s₀ : Session} (hgates : gates.Mannered)
    (hcommands : ∀ d ∈ commands, Builtin.Body.Mannered d.2)
    (hstart : startWith config start gates commands = .ok s₀) :
    (∀ m moment s, (s₀.bot.process m moment s).1.isSilent = true → s₀.bot.Traceless m moment s []) ∧
    (∀ m moment s, (s₀.bot.process m moment s).1 = .missingCapabilities →
      ∃ queued, s₀.bot.Traceless m moment s queued ∧
        (queued = [] ∨ ∃ p, queued = [p] ∧ p.channel = m.channel.id ∧ p.notice.tone = .plain ∧
          p.deleteAfter.isSome = true)) ∧
    (config.cacheLifetime = 0 → ∀ before m moment after,
      ((s₀.moveAll before).process m moment).1.isSilent = true → s₀.Removable before m moment after) := by
  refine ⟨?silent, ?missing, ?removed⟩
  case silent =>
    intro m moment s hsilent
    obtain ⟨queued, htrace, hqueued, -⟩ := Bot.process_traceless (Outcome.isEarly_of_isSilent hsilent)
    rwa [hqueued hsilent] at htrace
  case missing =>
    intro m moment s hmissing
    have hearly : (s₀.bot.process m moment s).1.isEarly = true := by
      rw [hmissing]
      rfl
    obtain ⟨queued, htrace, -, hqueued⟩ := Bot.process_traceless hearly
    refine ⟨queued, htrace, hqueued.imp_right ?_⟩
    rintro ⟨catalog, rfl⟩
    exact ⟨_, rfl, rfl, rfl, rfl⟩
  case removed =>
    intro hlifetime before m moment after hsilent
    exact (forgetful_of_startWith hgates hcommands hstart hlifetime).removable before after hsilent

/-- A configuration under which answers of the store are not remembered. -/
def quietConfig : Config :=
  { configOf "!" with cacheLifetime := 0 }

/-- A message of the guild that calls nothing comes between its own observation and a call. -/
theorem ignored_leave_no_trace_quietConfig : ∃ s₀,
    (factory quietConfig).withProbes.Mannered ∧ (∀ d ∈ [pong], Builtin.Body.Mannered d.2) ∧
    startWith quietConfig ⟨0, ""⟩ (factory quietConfig).withProbes [pong] = .ok s₀ ∧
    ((s₀.moveAll [.observe ⟨guildMessage, none⟩]).process guildMessage ⟨5, 0⟩).1 = .notCandidate ∧
    s₀.Removable [.observe ⟨guildMessage, none⟩] guildMessage ⟨5, 0⟩
      [.observe ⟨pingCall, none⟩, .dispatch pingCall ⟨7, 0⟩, .deliver 8] := by
  have hgates : (factory quietConfig).withProbes.Mannered := (mannered_factory _).withProbes
  obtain ⟨s₀, hstart, houtcome⟩ : ∃ s₀,
      startWith quietConfig ⟨0, ""⟩ (factory quietConfig).withProbes [pong] = .ok s₀ ∧
      ((s₀.moveAll [.observe ⟨guildMessage, none⟩]).process guildMessage ⟨5, 0⟩).1 = .notCandidate :=
    exists_of_toOption_map (by rw [startWith_eq]; decide +kernel)
  refine ⟨s₀, hgates, mannered_pong, hstart, houtcome, ?_⟩
  refine (ignored_leave_no_trace hgates mannered_pong hstart).2.2 rfl _ guildMessage ⟨5, 0⟩ _ ?_
  rw [houtcome]
  rfl

end Session

end Gatehouse
