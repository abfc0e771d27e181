import Gatehouse.Proofs.Dispatch.Passages
import Gatehouse.Proofs.Gate.Notices

/-!
# `Gatehouse.Proofs.Dispatch.Feedback` — what a call leaves in the queue

A call of a command with built-in gates gives its caller one piece of feedback (`Bot.Feedback`): what its body
queues, if it gets so far and comes to its end; what is queued until something goes wrong and then one notice about
that; or one notice of the gate that halts it, which only a throttle can omit (`Bot.feedback_of_route`).
-/

namespace Gatehouse

/-! ## Where a call ends -/

/-- A call ends at the last gate that it asks, or in its body, which begins where the gates left off. -/
inductive Stops (body : Context → Act Interrupt Unit) (c : Context) (place : Nat) (gates : List Gate) (w : World) :
    Ending → World → Prop where
  | halted {front a w'} : Gate.askings c place gates w = front ++ [a] →
      a.gate.check a.context a.world = (.ok .halt, w') → Stops body c place gates w (.halted a.gate) w'
  | cut {front a p w'} : Gate.askings c place gates w = front ++ [a] →
      a.gate.check a.context a.world = (.error p, w') → Stops body c place gates w (.cut p) w'
  | finished {w₁ w'} : Gate.runAll c gates w = (.ok none, w₁) → body c w₁ = (.ok (), w') →
      Stops body c place gates w .finished w'
  | interrupted {w₁ i w'} : Gate.runAll c gates w = (.ok none, w₁) → body c w₁ = (.error i, w') →
      Stops body c place gates w (.interrupted i) w'

theorem Calls.stops {body : Context → Act Interrupt Unit} {c : Context} {gates : List Gate} {w w' : World}
    {calls : List Callee} {ending : Ending} (h : Calls body c gates w calls ending w') (place : Nat) :
    Stops body c place gates w ending w' := by
  induction h generalizing place with
  | @proceed g gates w w₁ _ _ _ hg _ ih =>
      have hfirst : Gate.askings c place (g :: gates) w = ⟨place, g, c, w⟩ :: Gate.askings c (place + 1) gates w₁ := by
        rw [Gate.askings, hg]
      have hpassed {w₂ : World} (h : Gate.runAll c gates w₁ = (.ok none, w₂)) :
          Gate.runAll c (g :: gates) w = (.ok none, w₂) := Gate.runAll_cons_eq_none_iff.mpr ⟨w₁, hg, h⟩
      cases ih (place + 1) with
      | halted hasked hcheck => exact .halted (by rw [hfirst, hasked, List.cons_append]) hcheck
      | cut hasked hcheck => exact .cut (by rw [hfirst, hasked, List.cons_append]) hcheck
      | finished hrest hbody => exact .finished (hpassed hrest) hbody
      | interrupted hrest hbody => exact .interrupted (hpassed hrest) hbody
  | @halt g gates w _ hg =>
      have hlast : Gate.askings c place (g :: gates) w = [] ++ [⟨place, g, c, w⟩] := by
        rw [Gate.askings, hg]
        rfl
      exact .halted hlast hg
  | @panic g gates w _ _ hg =>
      have hlast : Gate.askings c place (g :: gates) w = [] ++ [⟨place, g, c, w⟩] := by
        rw [Gate.askings, hg]
        rfl
      exact .cut hlast hg
  | finish hb => exact .finished rfl hb
  | interrupt hb => exact .interrupted rfl hb

theorem Outcome.ofResult_error_ne_completed (i : Interrupt) : Outcome.ofResult (.error i) ≠ .completed := by
  simp only [Outcome.ofResult]
  cases Failure.ofInterrupt i <;> simp

namespace Bot

variable {bot : Bot} {m : Message} {moment : Moment} {s s₁ : BotState} {command : Command} {c : Context}

/-! ## The way to a command -/

theorem services_of_route (h : bot.route m moment s = (.ok (command, c), s₁)) : c.services = bot.services := by
  simp only [route] at h
  -- The checks of the author and the store, then the address, the capabilities and the trigger.
  split at h
  · cases h
  · split at h
    · cases h
    · split at h
      · cases h
      · split at h
        · cases h
        · split at h
          · cases h
          · cases h
            rfl

/-- A command answers in the channel of the message. -/
theorem channel_of_route (h : bot.route m moment s = (.ok (command, c), s₁)) :
    (bot.callContext command c s₁).channel = m.channel.id := by
  show c.message.channel.id = m.channel.id
  rw [message_of_route h]

/-- Nothing is queued on the way to a command, and the platform answers as before. -/
theorem untouched_of_route (h : bot.route m moment s = (.ok (command, c), s₁)) :
    s₁.world.outbox = s.world.outbox ∧ (s.world.queriesLeft = none → s₁.world.queriesLeft = none) := by
  rcases bot.route_cases m moment s with ⟨hstop, -⟩ | ⟨catalog, hstop, -⟩ | ⟨catalog, -, hanswer⟩
  · rw [h] at hstop
    rcases hstop with hstop | hstop | hstop <;> cases hstop
  · rw [h] at hstop
    cases hstop
  · rw [h] at hanswer
    obtain ⟨queued, ⟨left, hleft, hworld⟩, -, hable⟩ := answering_of_canAnswer hanswer
    rw [(hable rfl).1] at hworld
    have hsame : s₁.world = { s.world with queriesLeft := left } := hworld
    rw [hsame]
    exact ⟨rfl, hleft⟩

/-! ## The end of a call -/

/-- What a message that calls a command comes to, and the world that it leaves. -/
theorem process_of_run {result : Except Interrupt (Option String)} {w : World}
    (hroute : bot.route m moment s = (.ok (command, c), s₁))
    (hrun : command.run (bot.callContext command c s₁) s₁.world = (result, w)) :
    (bot.process m moment s).1 = Outcome.ofResult result ∧
    (bot.process m moment s).2.world = match result with
      | .ok _ => w
      | .error i => w.push (c.posting .error (report (bot.callContext command c s₁) (Failure.ofInterrupt i)).1
          (some bot.services.feedback.error)) := by
  rw [process_of_route hroute, ← services_of_route hroute]
  refine ⟨(execute_of_run hrun).1, ?_⟩
  show (bot.execute command c s₁).2.world = _
  rw [execute_eq hrun]
  rcases result with i | _ | gate <;> rfl

/-! ## Feedback -/

/-- What a message leaves in the queue that calls a command in the world `w`. The gates that are asked before a
    throttle decide whether it was `spent`. -/
structure Feedback (bot : Bot) (m : Message) (moment : Moment) (s : BotState) (command : Command) (c : Context)
    (w : World) (spent : List Gate.Asking → Gate.Asking → Prop) : Prop where
  /-- Whatever gate is asked, nothing was queued before; and if it lets the call through, it queues nothing. -/
  proceed : ∀ a ∈ Gate.askings c 0 command.gates w, a.world.outbox = s.world.outbox ∧
    ((a.gate.check a.context a.world).1 = .ok .proceed →
      (a.gate.check a.context a.world).2.outbox = a.world.outbox)
  /-- If the call is rejected, the last gate that was asked did so, and all that was queued is its notice, or
      nothing if it is a throttle that was spent. -/
  rejected : (bot.process m moment s).1 = .rejected → ∃ front a, Gate.askings c 0 command.gates w = front ++ [a] ∧
    a.gate.check a.context a.world = (.ok .halt, (bot.process m moment s).2.world) ∧
    (spent front a ∧ (bot.process m moment s).2.world.outbox = s.world.outbox ∨
      ¬ spent front a ∧ ∃ p : Posting, p.IsNotice m.channel.id ∧
        (bot.process m moment s).2.world.outbox = s.world.outbox.push p)
  /-- If it is completed, the queue is as the body left it, and the body found nothing queued. -/
  completed : (bot.process m moment s).1 = .completed → ∃ w₁, w₁.outbox = s.world.outbox ∧
    command.body c w₁ = (.ok (), (bot.process m moment s).2.world)
  /-- If something goes wrong, a notice about that is queued after what the body or the gate left, and the body
      found nothing queued, and the gate left nothing. -/
  failed : (bot.process m moment s).1 ∈ [.invalidArguments, .externalPermission, .failed] →
    ∃ (w₂ : World) (p : Posting), p.IsNotice m.channel.id ∧ p.deleteAfter = some bot.services.feedback.error ∧
      (bot.process m moment s).2.world.outbox = w₂.outbox.push p ∧
      ((∃ w₁ i, w₁.outbox = s.world.outbox ∧ command.body c w₁ = (.error i, w₂)) ∨
        ∃ front a e, Gate.askings c 0 command.gates w = front ++ [a] ∧
          a.gate.check a.context a.world = (.error e, w₂) ∧ w₂.outbox = s.world.outbox)

/-- It does not matter how it is said when a throttle that halts the call was spent. -/
theorem Feedback.congr_spent {w : World} {spent spent' : List Gate.Asking → Gate.Asking → Prop}
    (h : bot.Feedback m moment s command c w spent)
    (hspent : ∀ front a, Gate.askings c 0 command.gates w = front ++ [a] →
      (a.gate.check a.context a.world).1 = .ok .halt → (spent front a ↔ spent' front a)) :
    bot.Feedback m moment s command c w spent' where
  proceed := h.proceed
  rejected houtcome := by
    obtain ⟨front, a, hasked, hcheck, hqueued⟩ := h.rejected houtcome
    have hiff := hspent front a hasked (congrArg Prod.fst hcheck)
    exact ⟨front, a, hasked, hcheck, by rwa [← hiff]⟩
  completed := h.completed
  failed := h.failed

/-! ## The endings -/

/-- Each gate that a call asks finds the same queue, and queues a notice to the channel or nothing. So the body finds
    that queue too. -/
structure Polled (c : Context) (gates : List Gate) (w : World) (channel : ChannelId) (found : Outbox) : Prop where
  notifies : ∀ a ∈ Gate.askings c 0 gates w, a.context.channel = channel ∧ a.world.outbox = found ∧
    Gate.Notifies a.rate? a.context a.world (a.gate.check a.context a.world)
  passed : ∀ w₁, Gate.runAll c gates w = (.ok none, w₁) → w₁.outbox = found

/-- Built-in gates are asked like that. -/
theorem polled_of_route (hroute : bot.route m moment s = (.ok (command, c), s₁))
    (hgates : Gate.AreBuiltin command.descriptor 0 command.gates) (hanswers : s.world.queriesLeft = none) :
    Polled (bot.callContext command c s₁) command.gates s₁.world m.channel.id s.world.outbox := by
  obtain ⟨hsame, hkept⟩ := untouched_of_route hroute
  have hcommand : (bot.callContext command c s₁).command = command.descriptor := (command_of_route hroute).1
  rw [← hcommand] at hgates
  refine ⟨fun a ha => ?_, fun w₁ hpassed => (hgates.outbox_of_passed (hkept hanswers) hpassed).trans hsame⟩
  -- What is queued is found out gate by gate, and does not change before the last one.
  obtain ⟨houtbox, hleft⟩ := hgates.untouched (hkept hanswers) ha
  refine ⟨?_, houtbox.trans hsame, (hgates.isBuiltin ha).notifies hleft⟩
  rw [(Gate.mem_of_mem_askings ha).1]
  exact channel_of_route hroute

section

variable {w w₁ w₂ w' : World} {front : List Gate.Asking} {a : Gate.Asking}

theorem Polled.proceed (h : Polled c command.gates w m.channel.id s.world.outbox)
    (ha : a ∈ Gate.askings c 0 command.gates w) :
    a.world.outbox = s.world.outbox ∧ ((a.gate.check a.context a.world).1 = .ok .proceed →
      (a.gate.check a.context a.world).2.outbox = a.world.outbox) := by
  obtain ⟨-, houtbox, hnotifies⟩ := h.notifies a ha
  exact ⟨houtbox, fun hflow => hnotifies.outbox_of_proceed hflow⟩

theorem Feedback.of_halted (h : Polled c command.gates w m.channel.id s.world.outbox)
    (houtcome : (bot.process m moment s).1 = .rejected) (hworld : (bot.process m moment s).2.world = w')
    (hasked : Gate.askings c 0 command.gates w = front ++ [a])
    (hcheck : a.gate.check a.context a.world = (.ok .halt, w')) :
    bot.Feedback m moment s command c w fun _ a => a.Marked := by
  obtain ⟨hplace, houtbox, hnotifies⟩ := h.notifies a (hasked ▸ List.mem_append_right front List.mem_cons_self)
  refine ⟨fun _ => h.proceed, fun _ => ⟨front, a, hasked, hworld ▸ hcheck, ?_⟩, ?_, ?_⟩
  · rw [hcheck] at hnotifies
    rw [hworld, ← houtbox, ← hplace]
    exact hnotifies.outbox_of_halt
  · rw [houtcome]
    exact nofun
  · rw [houtcome]
    exact fun h => absurd h (by decide)

theorem Feedback.of_finished (h : Polled c command.gates w m.channel.id s.world.outbox)
    (houtcome : (bot.process m moment s).1 = .completed) (hworld : (bot.process m moment s).2.world = w')
    (hpassed : Gate.runAll c command.gates w = (.ok none, w₁)) (hrun : command.body c w₁ = (.ok (), w')) :
    bot.Feedback m moment s command c w fun _ a => a.Marked := by
  refine ⟨fun _ => h.proceed, ?_, fun _ => ⟨w₁, h.passed w₁ hpassed, hworld ▸ hrun⟩, ?_⟩
  · rw [houtcome]
    exact nofun
  · rw [houtcome]
    exact fun h => absurd h (by decide)

/-- A call that goes wrong leaves a notice behind what the gate or the body left. -/
theorem Feedback.of_error {i : Interrupt} {text : String} (h : Polled c command.gates w m.channel.id s.world.outbox)
    (hchannel : c.channel = m.channel.id) (houtcome : (bot.process m moment s).1 = Outcome.ofResult (.error i))
    (hworld : (bot.process m moment s).2.world
      = w₂.push (c.posting .error text (some bot.services.feedback.error)))
    (hleft : (∃ w₁ i, w₁.outbox = s.world.outbox ∧ command.body c w₁ = (.error i, w₂)) ∨
      ∃ front a e, Gate.askings c 0 command.gates w = front ++ [a] ∧
        a.gate.check a.context a.world = (.error e, w₂) ∧ w₂.outbox = s.world.outbox) :
    bot.Feedback m moment s command c w fun _ a => a.Marked := by
  refine ⟨fun _ => h.proceed, fun h => ?_, fun h => ?_, fun _ => ⟨w₂, _, ?_, rfl, congrArg World.outbox hworld, hleft⟩⟩
  · exact absurd (houtcome.symm.trans h) (Outcome.ofResult_error_ne_rejected i)
  · exact absurd (houtcome.symm.trans h) (Outcome.ofResult_error_ne_completed i)
  · rw [← hchannel]
    exact c.isNotice_posting _ _

/-- A gate that panics has left nothing. -/
theorem Polled.outbox_of_cut {e : Panic} (h : Polled c command.gates w m.channel.id s.world.outbox)
    (hasked : Gate.askings c 0 command.gates w = front ++ [a])
    (hcheck : a.gate.check a.context a.world = (.error e, w₂)) : w₂.outbox = s.world.outbox := by
  obtain ⟨-, houtbox, hnotifies⟩ := h.notifies a (hasked ▸ List.mem_append_right front List.mem_cons_self)
  rw [hcheck] at hnotifies
  rw [hnotifies.outbox_of_panic, houtbox]

end

/-- **A call of a command with built-in gates gives one piece of feedback**, if the platform answers. -/
theorem feedback_of_route (hroute : bot.route m moment s = (.ok (command, c), s₁))
    (hgates : Gate.AreBuiltin command.descriptor 0 command.gates) (hanswers : s.world.queriesLeft = none) :
    bot.Feedback m moment s command (bot.callContext command c s₁) s₁.world fun _ a => a.Marked := by
  have hpolled := polled_of_route hroute hgates hanswers
  have hchannel := channel_of_route hroute
  obtain ⟨calls, ending, w', hcalls⟩ := exists_calls command.body (bot.callContext command c s₁) command.gates s₁.world
  obtain ⟨houtcome, hworld⟩ := process_of_run hroute (hcalls.run_eq command.descriptor)
  cases hcalls.stops 0 with
  | halted hasked hcheck => exact .of_halted hpolled houtcome hworld hasked hcheck
  | finished hpassed hrun => exact .of_finished hpolled houtcome hworld hpassed hrun
  | cut hasked hcheck =>
      have hleft := hpolled.outbox_of_cut hasked hcheck
      exact .of_error hpolled hchannel houtcome hworld (.inr ⟨_, _, _, hasked, hcheck, hleft⟩)
  | interrupted hpassed hrun =>
      exact .of_error hpolled hchannel houtcome hworld (.inl ⟨_, _, hpolled.passed _ hpassed, hrun⟩)

end Bot

end Gatehouse
