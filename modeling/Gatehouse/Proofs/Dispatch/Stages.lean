import Gatehouse.Dispatch.Basic

/-!
# `Gatehouse.Proofs.Dispatch.Stages` — what each stage of a dispatch leaves behind

The way to a command touches no counter (`Bot.route_counters`). It ends before the platform is asked whether the
bot can answer, or with its answer, or at the command (`Bot.route_cases`); asking costs one question at most and can
lead to one warning (`Bot.Answering`). What a call results in decides the outcome and
what is counted (`Outcome.ofResult`, `Metrics.recordResult`); it leaves the throttles as the gates and the
body left them (`Bot.execute_of_run`).
-/

namespace Gatehouse

/-- The outcome of a call with the given result. -/
def Outcome.ofResult : Except Interrupt (Option String) → Outcome
  | .ok none => .completed
  | .ok (some _) => .rejected
  | .error i =>
      match Failure.ofInterrupt i with
      | .insufficientPermission _ => .externalPermission
      | .invalidArguments _ => .invalidArguments
      | .unexpected _ _ => .failed

/-- Only calls that a gate halted are rejected. -/
theorem Outcome.ofResult_error_ne_rejected (i : Interrupt) : Outcome.ofResult (.error i) ≠ .rejected := by
  simp only [Outcome.ofResult]
  cases Failure.ofInterrupt i <;> simp

/-- The counters after a call with the given result. -/
def Metrics.recordResult (m : Metrics) (category : String) : Except Interrupt (Option String) → Metrics
  | .ok none => m
  | .ok (some gate) => m.recordRejection gate
  | .error i => m.recordFailure category (Failure.ofInterrupt i).label

namespace Bot

variable {bot : Bot} {m : Message} {moment : Moment} {command : Command} {c : Context} {s s₁ : BotState}
variable {result : Except Interrupt (Option String)} {w : World}

/-! ## The way to a command -/

/-- On the way to a command nothing is counted. -/
theorem route_counters (bot : Bot) (m : Message) (moment : Moment) (s : BotState) :
    (bot.route m moment s).2.metrics = s.metrics ∧ (bot.route m moment s).2.usage = s.usage := by
  simp only [route]
  -- The two checks of the author and the store, then the address, the capabilities and the trigger.
  split
  · exact ⟨rfl, rfl⟩
  · split
    · exact ⟨rfl, rfl⟩
    · split
      · exact ⟨rfl, rfl⟩
      · split
        · exact ⟨rfl, rfl⟩
        · split <;> exact ⟨rfl, rfl⟩

/-- What the caller is told where the bot may post, but not embeds. -/
def embedWarning (bot : Bot) (m : Message) (catalog : Catalog) : Posting :=
  ⟨m.channel.id, ⟨bot.services.languages.translate catalog "errors.missingEmbedLinks" [], .plain⟩,
    some bot.services.feedback.capabilityWarning⟩

/-- **Whether the bot can answer.** Outside of guilds it can. In a guild the platform is asked: it does not
    answer, or the bot may not post, or it may not post embeds and says so, or it may do both. -/
theorem canAnswer_cases (bot : Bot) (m : Message) (catalog : Catalog) (w : World) :
    (m.isGuildMessage = false ∧ bot.canAnswer m catalog w = (true, w)) ∨
    (m.isGuildMessage = true ∧ (∃ e, (w.query m.channel.id).1 = .error e) ∧
      bot.canAnswer m catalog w = (false, (w.query m.channel.id).2)) ∨
    (m.isGuildMessage = true ∧ (w.console.capabilities m.channel.id).allows .sendMessages = false ∧
      bot.canAnswer m catalog w = (false, (w.query m.channel.id).2)) ∨
    (m.isGuildMessage = true ∧ (w.console.capabilities m.channel.id).allows .sendMessages = true ∧
      (w.console.capabilities m.channel.id).allows .embedLinks = false ∧
      bot.canAnswer m catalog w
        = (false, (w.query m.channel.id).2.push (bot.embedWarning m catalog))) ∨
    (m.isGuildMessage = true ∧ (w.console.capabilities m.channel.id).allows .sendMessages = true ∧
      (w.console.capabilities m.channel.id).allows .embedLinks = true ∧
      bot.canAnswer m catalog w = (true, (w.query m.channel.id).2)) := by
  unfold canAnswer
  cases hguild : m.isGuildMessage with
  | false => exact .inl ⟨rfl, rfl⟩
  | true =>
      right
      rcases hquery : w.query m.channel.id with ⟨e | held, w'⟩
      · exact .inl ⟨rfl, ⟨e, rfl⟩, rfl⟩
      · right
        have hheld := World.query_eq_ok hquery
        subst hheld
        cases hsend : (w.console.capabilities m.channel.id).allows .sendMessages with
        | false => exact .inl ⟨rfl, rfl, by simp [hsend]⟩
        | true =>
            right
            cases hembed : (w.console.capabilities m.channel.id).allows .embedLinks with
            | false => exact .inl ⟨rfl, rfl, rfl, by simp [hsend, hembed, embedWarning]⟩
            | true => exact .inr ⟨rfl, rfl, rfl, by simp [hsend, hembed]⟩

/-- What finding out whether the bot can answer leaves behind. At most one question was asked, and at most one
    warning was queued. -/
structure Answering (bot : Bot) (m : Message) (catalog : Catalog) (w : World) (answer : Bool) (w' : World)
    (queued : List Posting) : Prop where
  world : ∃ left, (w.queriesLeft = none → left = none) ∧
    w' = { w with queriesLeft := left, outbox := queued.foldl Outbox.push w.outbox }
  /-- There is only a warning where the bot may post. -/
  warning : queued = [] ∨
    (queued = [bot.embedWarning m catalog] ∧ (w.console.capabilities m.channel.id).allows .sendMessages = true)
  /-- If the bot can answer, there is none, and in a guild it may post messages and embeds. -/
  able : answer = true → queued = [] ∧ (m.isGuildMessage = true →
    (w.console.capabilities m.channel.id).allows .sendMessages = true ∧
    (w.console.capabilities m.channel.id).allows .embedLinks = true)

theorem answering_of_canAnswer {catalog : Catalog} {w w' : World} {answer : Bool}
    (h : bot.canAnswer m catalog w = (answer, w')) : ∃ queued, bot.Answering m catalog w answer w' queued := by
  have hleft : w.queriesLeft = none → w.queriesLeft.map Nat.pred = none := by
    intro hnone
    rw [hnone]
    rfl
  rcases bot.canAnswer_cases m catalog w with
    ⟨hdirect, hcase⟩ | ⟨-, -, hcase⟩ | ⟨-, -, hcase⟩ | ⟨-, hsend, -, hcase⟩ | ⟨-, hsend, hembed, hcase⟩
  · cases h.symm.trans hcase
    refine ⟨[], ⟨w.queriesLeft, fun hnone => hnone, rfl⟩, .inl rfl, fun _ => ⟨rfl, fun hguild => ?_⟩⟩
    rw [hdirect] at hguild
    cases hguild
  · cases h.symm.trans hcase
    exact ⟨[], ⟨_, hleft, w.query_snd m.channel.id⟩, .inl rfl, nofun⟩
  · cases h.symm.trans hcase
    exact ⟨[], ⟨_, hleft, w.query_snd m.channel.id⟩, .inl rfl, nofun⟩
  · cases h.symm.trans hcase
    refine ⟨[bot.embedWarning m catalog], ⟨_, hleft, ?_⟩, .inr ⟨rfl, hsend⟩, nofun⟩
    rw [World.query_snd]
    rfl
  · cases h.symm.trans hcase
    exact ⟨[], ⟨_, hleft, w.query_snd m.channel.id⟩, .inl rfl, fun _ => ⟨rfl, fun _ => ⟨hsend, hembed⟩⟩⟩

/-- **Where the way to a command ends.** It ends before the platform is asked and leaves the world alone, or the
    bot cannot answer, or it can and the message names no command or calls one. -/
theorem route_cases (bot : Bot) (m : Message) (moment : Moment) (s : BotState) :
    (((bot.route m moment s).1 = .error .botAuthor ∨ (bot.route m moment s).1 = .error .storeUnavailable ∨
        (bot.route m moment s).1 = .error .notCandidate) ∧ (bot.route m moment s).2.world = s.world) ∨
    (∃ catalog, (bot.route m moment s).1 = .error .missingCapabilities ∧
      bot.canAnswer m catalog s.world = (false, (bot.route m moment s).2.world)) ∨
    (∃ catalog, ((bot.route m moment s).1 = .error .unknownCommand ∨
        ∃ command c, (bot.route m moment s).1 = .ok (command, c) ∧ c.message = m ∧ c.moment = moment) ∧
      bot.canAnswer m catalog s.world = (true, (bot.route m moment s).2.world)) := by
  simp only [route]
  -- The checks of the author and the store, then the address, the capabilities and the trigger.
  split
  · exact .inl ⟨.inl rfl, rfl⟩
  · split
    · exact .inl ⟨.inr (.inl rfl), rfl⟩
    · split
      · exact .inl ⟨.inr (.inr rfl), rfl⟩
      · right
        split
        · next hanswer => exact .inl ⟨_, rfl, hanswer⟩
        · next hanswer =>
            right
            split
            · exact ⟨_, .inl rfl, hanswer⟩
            · exact ⟨_, .inr ⟨_, _, rfl, rfl, rfl⟩, hanswer⟩

/-- What a call looks at is the message that made it, at the moment when it is dealt with. -/
theorem origin_of_route (h : bot.route m moment s = (.ok (command, c), s₁)) :
    c.message = m ∧ c.moment = moment := by
  rcases bot.route_cases m moment s with
    ⟨hstop | hstop | hstop, -⟩ | ⟨catalog, hstop, -⟩ | ⟨catalog, hstop | ⟨command', c', hcall, horigin⟩, -⟩
  case inr.inr.inr =>
    rw [h] at hcall
    cases hcall
    exact horigin
  all_goals
    rw [h] at hstop
    cases hstop

theorem message_of_route (h : bot.route m moment s = (.ok (command, c), s₁)) : c.message = m :=
  (origin_of_route h).1

theorem moment_of_route (h : bot.route m moment s = (.ok (command, c), s₁)) : c.moment = moment :=
  (origin_of_route h).2

/-- On the way to a command no throttle is asked. -/
theorem route_throttle (bot : Bot) (m : Message) (moment : Moment) (s : BotState) :
    (bot.route m moment s).2.world.throttle = s.world.throttle := by
  have hasked {catalog : Catalog} {answer : Bool} {w : World}
      (h : bot.canAnswer m catalog s.world = (answer, w)) : w.throttle = s.world.throttle := by
    obtain ⟨queued, ⟨left, -, rfl⟩, -, -⟩ := answering_of_canAnswer h
    rfl
  rcases bot.route_cases m moment s with ⟨-, hworld⟩ | ⟨catalog, -, hanswer⟩ | ⟨catalog, -, hanswer⟩
  · rw [hworld]
  · exact hasked hanswer
  · exact hasked hanswer

/-! ## The call -/

/-- What the gates and the body of a command look at. The call is in the statistics already. -/
def callContext (bot : Bot) (command : Command) (c : Context) (s : BotState) : Context :=
  { c with usage := bot.registry.stats (s.usage.record command.name) }

theorem conclude_outcome (c : Context) (result : Except Interrupt (Option String)) (s : BotState) :
    (conclude c result s).1 = Outcome.ofResult result := by
  rcases result with i | _ | gate
  · show (report c (Failure.ofInterrupt i)).2 = _
    simp only [Outcome.ofResult, report]
    cases Failure.ofInterrupt i <;> rfl
  · rfl
  · rfl

theorem conclude_metrics (c : Context) (result : Except Interrupt (Option String)) (s : BotState) :
    (conclude c result s).2.metrics = s.metrics.recordResult c.command.category.key result := by
  rcases result with i | _ | gate <;> rfl

theorem conclude_usage (c : Context) (result : Except Interrupt (Option String)) (s : BotState) :
    (conclude c result s).2.usage = s.usage := by
  rcases result with i | _ | gate <;> rfl

/-- Telling the caller about a failure takes nothing from a throttle. -/
theorem conclude_throttle (c : Context) (result : Except Interrupt (Option String)) (s : BotState) :
    (conclude c result s).2.world.throttle = s.world.throttle := by
  rcases result with i | _ | gate <;> rfl

/-- A call is concluded with its result, in the world that it left. -/
theorem execute_eq (h : command.run (bot.callContext command c s) s.world = (result, w)) :
    bot.execute command c s =
      let (outcome, s') := conclude (bot.callContext command c s) result
        { s with usage := s.usage.record command.name, world := w }
      (outcome, { s' with metrics := s'.metrics.recordCommand command.name 0 }) := by
  simp only [execute, callContext] at h ⊢
  rw [h]

/-- **What a call leaves behind**, once its gates and its body have come to a result. -/
theorem execute_of_run (h : command.run (bot.callContext command c s) s.world = (result, w)) :
    (bot.execute command c s).1 = Outcome.ofResult result ∧
    (bot.execute command c s).2.metrics
      = (s.metrics.recordResult c.command.category.key result).recordCommand command.name 0 ∧
    (bot.execute command c s).2.usage = s.usage.record command.name ∧
    (bot.execute command c s).2.world.throttle = w.throttle := by
  rw [execute_eq h]
  refine ⟨?_, ?_, ?_, ?_⟩
  · exact conclude_outcome _ _ _
  · show ((conclude _ _ _).2.metrics.recordCommand _ _) = _
    rw [conclude_metrics]
    rfl
  · exact conclude_usage _ _ _
  · exact conclude_throttle _ _ _

/-! ## The message -/

/-- A message that reaches a command comes to what the call comes to, and the outcome is counted. -/
theorem process_of_route (h : bot.route m moment s = (.ok (command, c), s₁)) :
    bot.process m moment s =
      let (outcome, s') := bot.execute command c s₁
      (outcome, { s' with metrics := s'.metrics.recordOutcome outcome.name }) := by
  unfold process run
  rw [h]

/-- For a message that reaches no command, only the outcome is counted. -/
theorem process_of_stop {outcome : Outcome} (h : bot.route m moment s = (.error outcome, s₁)) :
    bot.process m moment s =
      (outcome, { s₁ with metrics := s₁.metrics.recordOutcome outcome.name }) := by
  unfold process run
  rw [h]

/-- It leaves the world as the way there left it. -/
theorem process_world_of_stop {outcome : Outcome} (h : (bot.route m moment s).1 = .error outcome) :
    (bot.process m moment s).2.world = (bot.route m moment s).2.world := by
  have hroute : bot.route m moment s = (.error outcome, (bot.route m moment s).2) := Prod.ext h rfl
  rw [process_of_stop hroute]

end Bot

end Gatehouse
