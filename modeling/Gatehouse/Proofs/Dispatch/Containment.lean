import Gatehouse.Proofs.Dispatch.Calls
import Gatehouse.Proofs.Dispatch.Stages
import Gatehouse.Proofs.Metrics.Tally

/-!
# `Gatehouse.Proofs.Dispatch.Containment` — a dispatch ends where its first gate stops it

A message that reaches a command is decided by the course of the call (`Calls`): the gates up to the first
that does not let the call through, and the body only if there is no such gate. Whatever a gate or the body
does, the message has an outcome, which follows from how the call ended (`Ending.outcome`), and the only gate
that is counted as rejecting is the one that halted.
-/

namespace Gatehouse

/-- What becomes of a message whose call ends so. Two errors of a body have outcomes of their own; every other
    error, and every panic of a gate or a body, is a failure. -/
def Ending.outcome : Ending → Outcome
  | .halted _ => .rejected
  | .finished => .completed
  | .interrupted (.error (.invalidArguments _)) => .invalidArguments
  | .interrupted (.error (.platform (.missingCapability _))) => .externalPermission
  | .cut _ | .interrupted _ => .failed

theorem Ending.ofResult_result (e : Ending) : Outcome.ofResult e.result = e.outcome := by
  rcases e with g | p | _ | e | p
  · rfl
  · rfl
  · rfl
  · -- Of the errors, two kinds are told apart from the rest.
    rcases e with (c | id | reason) | reason | ⟨reason, contexts⟩ <;> rfl
  · rfl

namespace Bot

variable {bot : Bot} {m : Message} {moment : Moment} {command : Command} {c : Context} {s s₁ : BotState}
variable {w : World} {calls : List Callee} {ending : Ending}

/-- What the gates that halt a call add to the counters of rejections. -/
theorem process_rejections (hroute : bot.route m moment s = (.ok (command, c), s₁))
    (hrun : command.run (bot.callContext command c s₁) s₁.world = (ending.result, w)) :
    (bot.process m moment s).2.metrics.rejections
      = match ending with
        | .halted g => s.metrics.rejections.increment [g.name]
        | _ => s.metrics.rejections := by
  obtain ⟨-, hmetrics, -, -⟩ := execute_of_run hrun
  have hbefore : s₁.metrics = s.metrics := by
    have := (route_counters bot m moment s).1
    rwa [hroute] at this
  have hprocess : (bot.process m moment s).2.metrics.rejections
      = (bot.execute command c s₁).2.metrics.rejections := by
    rw [process_of_route hroute]
    rfl
  rw [hprocess, hmetrics, hbefore]
  rcases ending with g | p | _ | i <;> rfl

/-- What a dispatch comes to whose call asks the gates `asked`, does not ask the gates `later`, ends with
    `ending` and leaves the world `w`. The call is the one that `route` led to: of `command`, with the context
    `c`, in the state `s₁`. -/
structure Contained (bot : Bot) (m : Message) (moment : Moment) (s : BotState) (command : Command)
    (c : Context) (s₁ : BotState) (asked later : List Gate) (ending : Ending) (w : World) : Prop where
  /-- The gates that are asked are the first ones. -/
  gates : command.gates = asked ++ later
  /-- They are asked in order and each once, and the body is run after them if the call gets so far. -/
  calls : Calls command.body (bot.callContext command c s₁) command.gates s₁.world
    (asked.map .gate ++ if ending.inBody then [.body] else []) ending w
  /-- The body is not run unless every gate was asked. -/
  all_asked : ending.inBody = true → later = []
  /-- The gate that halts is the last one asked. -/
  halted_last : ∀ g, ending = .halted g → asked.getLast? = some g
  /-- If a gate ends the call, anything could stand in place of the other gates and the body. -/
  rest_unused : ending.inBody = false → ∀ later' body',
    bot.execute ⟨command.descriptor, asked ++ later', body'⟩ c s₁ = bot.execute command c s₁
  /-- The throttles are as the callees left them. -/
  throttle : (bot.process m moment s).2.world.throttle = w.throttle
  outcome : (bot.process m moment s).1 = ending.outcome
  /-- The counter of the gate that halts goes up by one, and no other counter of rejections does. Labels with one
      digest are one counter; those of the gates that come with the bot are all different
      (`Contained.rejected_by_name`). -/
  rejected : ∀ g, ending = .halted g → ∀ labels,
    (bot.process m moment s).2.metrics.rejections.count labels
      = s.metrics.rejections.count labels
        + if Metrics.digest labels = Metrics.digest [g.name] then 1 else 0
  /-- If no gate halts, none is counted. -/
  not_rejected : (∀ g, ending ≠ .halted g) →
    (bot.process m moment s).2.metrics.rejections = s.metrics.rejections

/-- **A dispatch is contained.** A message that reaches a command asks the first gates of it, up to the first
    that does not let the call through, and runs the body if there is no such gate. It has an outcome whatever
    they do, and what it does not reach has no effect. -/
theorem process_contained (hroute : bot.route m moment s = (.ok (command, c), s₁)) :
    ∃ asked later ending w, bot.Contained m moment s command c s₁ asked later ending w := by
  obtain ⟨calls, ending, w, hcalls⟩ :=
    exists_calls command.body (bot.callContext command c s₁) command.gates s₁.world
  obtain ⟨asked, later, hgates, rfl, hlater, hother⟩ := hcalls.exists_asked
  have hrun := hcalls.run_eq command.descriptor
  obtain ⟨houtcome, -, -, hthrottle⟩ := execute_of_run hrun
  have hrejections := process_rejections hroute hrun
  refine ⟨asked, later, ending, w, hgates, hcalls, hlater, ?_, ?_, ?_, ?_, ?_, ?_⟩
  · rintro g rfl
    have hlast := hcalls.getLast?_of_halted rfl
    simpa [Ending.inBody] using hlast
  · -- The course of the call does not depend on what it does not reach, and the rest of the dispatch only
    -- on what the course comes to.
    intro he later' body'
    rw [execute_eq ((hother he later' body').run_eq command.descriptor), execute_eq hrun]
    rfl
  · rw [process_of_route hroute]
    exact hthrottle
  · rw [process_of_route hroute, ← Ending.ofResult_result]
    exact houtcome
  · rintro g rfl labels
    rw [hrejections]
    exact Metrics.SeriesTable.count_increment _ _ _
  · intro hg
    rw [hrejections]
    cases ending with
    | halted g => exact absurd rfl (hg g)
    | cut _ | finished | interrupted _ => rfl

/-! ## A call that its first gate halts -/

/-- A command for guilds that may be called once a minute. -/
def ping : Command where
  descriptor := .declare "ping" .utility [] "" [] ["guild-only", "throttle:user:1:60"]
  gates := [Gate.guildOnly, Gate.throttle .user 1 60]
  body c := c.reply "pong"

/-- A bot that knows one command. -/
def pingBot : Bot where
  services := { (default : Services) with lead := "!" }
  registry := Registry.empty.add ping

/-- A direct message that calls the command. -/
def pingMessage : Message :=
  .bare (Id.ofNat 1) ⟨Id.ofNat 2, "alice", false⟩ ⟨Id.ofNat 3, "alice", .direct⟩ "!ping"

/-- Nothing has happened yet. -/
def pingState : BotState where
  world := .ofBot ⟨Id.ofNat 9, "bot", true⟩
  store := .ofStore (.ofAdmins []) 0
  usage := Table.empty
  metrics := ∅

theorem process_contained_ping : ∃ c s₁ asked later ending w,
    pingBot.route pingMessage ⟨0, 0⟩ pingState = (.ok (ping, c), s₁) ∧
    pingBot.Contained pingMessage ⟨0, 0⟩ pingState ping c s₁ asked later ending w := by
  obtain ⟨c, s₁, hroute⟩ : ∃ c s₁, pingBot.route pingMessage ⟨0, 0⟩ pingState = (.ok (ping, c), s₁) :=
    ⟨_, _, rfl⟩
  obtain ⟨asked, later, ending, w, h⟩ := process_contained hroute
  exact ⟨c, s₁, asked, later, ending, w, hroute, h⟩

end Bot

end Gatehouse
