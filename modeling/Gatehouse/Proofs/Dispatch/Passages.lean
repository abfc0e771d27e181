import Gatehouse.Proofs.Command.Registration
import Gatehouse.Proofs.Dispatch.Stages

/-!
# `Gatehouse.Proofs.Dispatch.Passages` — one message, in one of two ways

A message either stops on its way to a command, with one of five outcomes, or calls a command, and then the
result of the call decides everything that is counted (`Passage`). `Bot.passage` says which of the two a
message does, and `Bot.process_passage` that its outcome and all counters follow from that.
-/

namespace Gatehouse

/-! ## The way to a command -/

/-- The outcomes of messages that reach no command. -/
def Outcome.isEarly : Outcome → Bool
  | .botAuthor | .storeUnavailable | .notCandidate | .missingCapabilities | .unknownCommand => true
  | .rejected | .completed | .invalidArguments | .externalPermission | .failed => false

/-- A call that was made has none of them. -/
theorem Outcome.isEarly_ofResult (result : Except Interrupt (Option String)) :
    (Outcome.ofResult result).isEarly = false := by
  rcases result with i | _ | gate
  · simp only [Outcome.ofResult]
    cases Failure.ofInterrupt i <;> rfl
  · rfl
  · rfl

/-- The command of a word is what some trigger stands for. -/
theorem Registry.exists_resolve?_of_find? {r : Registry} {settings : Option GuildSettings} {word : String}
    {found : Command × List String} (h : r.find? settings word = some found) :
    ∃ trigger, r.resolve? trigger = some found.1 := by
  rcases find?_eq_some_iff.mp h with ⟨hword, -⟩ | ⟨-, _, _, first, -, -, -, hfirst⟩
  · exact ⟨word, hword⟩
  · exact ⟨first, hfirst⟩

/-- The call that a text makes is a call of the command that it names. -/
theorem Invocation.of_ofAddress? {r : Registry} {settings : Option GuildSettings} {a : Address}
    {command : Command} {invocation : Invocation}
    (h : Invocation.ofAddress? r settings a = some (command, invocation)) :
    invocation.command = command.descriptor ∧ ∃ trigger, r.resolve? trigger = some command := by
  unfold Invocation.ofAddress? at h
  split at h
  · cases h
  · obtain ⟨found, hfound, heq⟩ := Option.map_eq_some_iff.mp h
    cases heq
    exact ⟨rfl, Registry.exists_resolve?_of_find? hfound⟩

namespace Bot

variable {bot : Bot} {m : Message} {moment : Moment} {s s₁ : BotState}

/-- What the way to a command can come to: an early outcome, or a call of a command that has a trigger. -/
def Leads (r : Registry) : Except Outcome (Command × Context) → Prop
  | .error outcome => outcome.isEarly = true
  | .ok (command, c) => c.command = command.descriptor ∧ ∃ trigger, r.resolve? trigger = some command

theorem route_leads (bot : Bot) (m : Message) (moment : Moment) (s : BotState) :
    Leads bot.registry (bot.route m moment s).1 := by
  simp only [route]
  -- The checks of the author and the store, then the address, the capabilities and the trigger.
  split
  · rfl
  · split
    · rfl
    · split
      · rfl
      · split
        · rfl
        · split
          · rfl
          · next hinvocation => exact Invocation.of_ofAddress? hinvocation

theorem isEarly_of_route {outcome : Outcome} (h : bot.route m moment s = (.error outcome, s₁)) :
    outcome.isEarly = true := by
  have hleads := route_leads bot m moment s
  rwa [h] at hleads

theorem command_of_route {command : Command} {c : Context}
    (h : bot.route m moment s = (.ok (command, c), s₁)) :
    c.command = command.descriptor ∧ ∃ trigger, bot.registry.resolve? trigger = some command := by
  have hleads := route_leads bot m moment s
  rwa [h] at hleads

/-- A message with an early outcome stopped on its way to a command. -/
theorem route_of_isEarly {outcome : Outcome} (h : (bot.process m moment s).1 = outcome)
    (hearly : outcome.isEarly = true) : (bot.route m moment s).1 = .error outcome := by
  rcases hroute : bot.route m moment s with ⟨outcome' | ⟨command, c⟩, s₁⟩
  · rw [process_of_stop hroute] at h
    rw [← h]
  · rw [process_of_route hroute] at h
    rcases hrun : command.run (bot.callContext command c s₁) s₁.world with ⟨result, w⟩
    have houtcome : Outcome.ofResult result = outcome := (execute_of_run hrun).1.symm.trans h
    rw [← houtcome, Outcome.isEarly_ofResult] at hearly
    exact absurd hearly (by simp)

end Bot

/-! ## Passages -/

/-- What a message does. -/
inductive Passage where
  /-- It reaches no command. -/
  | stopped (outcome : Outcome)
  /-- It calls a command, with the given result. -/
  | called (command : Command) (result : Except Interrupt (Option String))

namespace Passage

def outcome : Passage → Outcome
  | .stopped outcome => outcome
  | .called _ result => .ofResult result

/-- The command that is called, if one is. -/
def command? : Passage → Option Command
  | .stopped _ => none
  | .called command _ => some command

/-- The counters after it. -/
def record (m : Metrics) (p : Passage) : Metrics :=
  match p with
  | .stopped outcome => m.recordOutcome outcome.name
  | .called command result =>
      ((m.recordResult command.descriptor.category.key result).recordCommand command.name 0).recordOutcome
        (Outcome.ofResult result).name

/-- The uses of commands after it. -/
def use (u : Usage) : Passage → Usage
  | .stopped _ => u
  | .called command _ => u.record command.name

/-- It stops with an early outcome or calls a command of the registry. -/
def Of (r : Registry) : Passage → Prop
  | .stopped outcome => outcome.isEarly = true
  | .called command _ => command ∈ r.commands

/-- The outcome alone tells whether a command was called. -/
theorem isSome_command? {r : Registry} {p : Passage} (h : p.Of r) :
    p.command?.isSome = !p.outcome.isEarly := by
  cases p with
  | stopped outcome =>
      have hearly : outcome.isEarly = true := h
      simp [command?, Passage.outcome, hearly]
  | called command result =>
      have hlate := Outcome.isEarly_ofResult result
      simp [command?, Passage.outcome, hlate]

end Passage

namespace Bot

variable {bot : Bot}

/-- What a message does. -/
def passage (bot : Bot) (m : Message) (moment : Moment) (s : BotState) : Passage :=
  match bot.route m moment s with
  | (.error outcome, _) => .stopped outcome
  | (.ok (command, c), s) => .called command (command.run (bot.callContext command c s) s.world).1

theorem passage_of (hbuilt : bot.registry.Built) (m : Message) (moment : Moment) (s : BotState) :
    (bot.passage m moment s).Of bot.registry := by
  unfold passage
  split
  · next hroute => exact isEarly_of_route hroute
  · next hroute =>
      obtain ⟨-, trigger, hresolve⟩ := command_of_route hroute
      exact hbuilt.mem_of_resolve? hresolve

/-- **A message is counted as what it does.** -/
theorem process_passage (bot : Bot) (m : Message) (moment : Moment) (s : BotState) :
    (bot.process m moment s).1 = (bot.passage m moment s).outcome ∧
    (bot.process m moment s).2.metrics = (bot.passage m moment s).record s.metrics ∧
    (bot.process m moment s).2.usage = (bot.passage m moment s).use s.usage := by
  -- Nothing was counted on the way, so both cases go on from the counters of `s`.
  obtain ⟨hmetrics, husage⟩ := route_counters bot m moment s
  unfold passage
  split
  · next outcome s₁ hroute =>
      rw [hroute] at hmetrics husage
      rw [process_of_stop hroute, ← hmetrics, ← husage]
      exact ⟨rfl, rfl, rfl⟩
  · next command c s₁ hroute =>
      rw [hroute] at hmetrics husage
      obtain ⟨hcommand, -⟩ := command_of_route hroute
      obtain ⟨houtcome, hm, hu, -⟩ := execute_of_run
        (rfl : command.run (bot.callContext command c s₁) s₁.world = (_, _))
      rw [process_of_route hroute, ← hmetrics, ← husage]
      refine ⟨houtcome, ?_, hu⟩
      show ((bot.execute command c s₁).2.metrics.recordOutcome (bot.execute command c s₁).1.name) = _
      rw [houtcome, hm, hcommand]
      rfl

end Bot

end Gatehouse
