import Gatehouse.Proofs.Gate.Askings
import Gatehouse.Proofs.Session.Moves
import Gatehouse.Proofs.Dispatch.Passages

/-!
# `Gatehouse.Proofs.Session.Throttles` — what happens to the throttle of a bot at work

All throttles of a bot share their buckets. Whatever a session goes through, what happens to the buckets is a run
of calls and sweeps: each gate that is asked and was declared as a throttle takes one call, and nothing else does
(`Session.recorded_moveAll`). If the clock does not go backwards from move to move, time does not go backwards in
the run (`Session.sorted_throttleOps`).

Besides the gates and commands that come with the bot there can be others, as long as they leave throttles alone
(`Registry.Sparing`).
-/

namespace Gatehouse

/-! ## Calls of commands -/

/-- The gates are what the command declares, and nothing else in it takes calls from throttles. -/
structure Command.Sparing (command : Command) : Prop where
  gates : ∀ x ∈ command.gates.zipIdx, x.1.Fits command.descriptor x.2
  body : Builtin.Body.Sparing command.body

/-- The throttle is as the gates left it. -/
theorem Command.throttle_run {command : Command} (h : Builtin.Body.Sparing command.body) (c : Context)
    (w : World) : (command.run c w).2.throttle = (Gate.runAll c command.gates w).2.throttle := by
  rcases hgates : Gate.runAll c command.gates w with ⟨p | _ | gate, w'⟩
  · rw [run, Stateful.bind_of_error (Act.ofPanicking_of_error hgates)]
  · rw [run, Stateful.bind_of_ok (Act.ofPanicking_of_ok hgates)]
    exact World.sparing_frame.bind (h c) (fun _ => World.sparing_frame.pure c.channel none) w'
  · rw [run, Stateful.bind_of_ok (Act.ofPanicking_of_ok hgates)]
    rfl

/-- Every command of the registry is of that kind, and goes by a name of its own. -/
structure Registry.Sparing (r : Registry) : Prop where
  commands : ∀ command ∈ r.commands, command.Sparing
  resolve : ∀ trigger command, r.resolve? trigger = some command → command ∈ r.commands
  names : (r.commands.map Command.name).Nodup

/-- Commands of one name are the same. -/
theorem Registry.Sparing.eq_of_name {r : Registry} (h : r.Sparing) {command command' : Command}
    (hc : command ∈ r.commands) (hc' : command' ∈ r.commands) (hname : command.name = command'.name) :
    command = command' :=
  List.inj_on_of_nodup_map h.names hc hc' hname

/-- Registered commands are of that kind if all that they are made of is. -/
theorem Registry.sparing_enterAll {f : GateFactory} (hf : f.Sparing) {ds : List Declaration}
    (hbodies : ∀ d ∈ ds, Builtin.Body.Sparing d.body) (hnamed : ∀ d ∈ ds, d.IsNamed) :
    (enterAll f ∅ ds).Sparing where
  commands command hc := by
    obtain ⟨d, hd, -, hbody⟩ := mem_of_mem_enterAll hc
    refine ⟨hf.fits ((inOrder_enterAll f ds).gates command hc), ?_⟩
    rw [hbody]
    exact hbodies d hd
  resolve trigger command hc := (((inOrder_enterAll f ds).index _ command).mp hc).1
  names := names_nodup_enterAll f hnamed

/-! ## Messages -/

namespace Bot

variable {bot : Bot} {m : Message} {moment : Moment} {s : BotState} {a : Gate.Asking}

/-- The gates that are asked about a message. -/
def askings (bot : Bot) (m : Message) (moment : Moment) (s : BotState) : List Gate.Asking :=
  match bot.route m moment s with
  | (.ok (command, c), s) => Gate.askings (bot.callContext command c s) 0 command.gates s.world
  | (.error _, _) => []

/-- They are gates of a registered command, as it declares them, and are asked at the moment when the message is
    dealt with. -/
theorem of_mem_askings (hbot : bot.registry.Sparing) (ha : a ∈ bot.askings m moment s) :
    (∃ command ∈ bot.registry.commands, a.context.command = command.descriptor) ∧
    a.gate.Fits a.context.command a.place ∧ a.context.moment = moment := by
  unfold askings at ha
  split at ha
  · next command c s₁ hroute =>
      obtain ⟨hcommand, trigger, hresolve⟩ := command_of_route hroute
      have hmem := hbot.resolve trigger command hresolve
      have hmoment := moment_of_route hroute
      obtain ⟨hcontext, hgate⟩ := Gate.mem_of_mem_askings ha
      have hdescriptor : a.context.command = command.descriptor := by
        rw [hcontext]
        exact hcommand
      refine ⟨⟨command, hmem, hdescriptor⟩, ?_, ?_⟩
      · rw [hdescriptor]
        exact (hbot.commands command hmem).gates _ hgate
      · rw [hcontext]
        exact hmoment
  · cases ha

/-- **What a message does to the throttle** is a run of it. -/
theorem recorded_process (hbot : bot.registry.Sparing) (m : Message) (moment : Moment) (s : BotState) :
    Recorded ((bot.askings m moment s).filterMap Gate.Asking.op?) (bot.askings m moment s) s.world.throttle
      (bot.process m moment s).2.world.throttle := by
  have hway := bot.route_throttle m moment s
  unfold askings
  rcases hroute : bot.route m moment s with ⟨outcome | ⟨command, c⟩, s₁⟩
  · rw [hroute] at hway
    rw [process_of_stop hroute, ← hway]
    exact .nil s₁.world.throttle
  · rw [hroute] at hway
    obtain ⟨hcommand, trigger, hresolve⟩ := command_of_route hroute
    have hsparing := hbot.commands command (hbot.resolve trigger command hresolve)
    have hgates : ∀ x ∈ command.gates.zipIdx, x.1.Fits (bot.callContext command c s₁).command x.2 := by
      show ∀ x ∈ command.gates.zipIdx, x.1.Fits c.command x.2
      rw [hcommand]
      exact hsparing.gates
    have hleft : (bot.execute command c s₁).2.world.throttle
        = (Gate.runAll (bot.callContext command c s₁) command.gates s₁.world).2.throttle := by
      rw [← Command.throttle_run hsparing.body]
      exact (execute_of_run (Prod.ext rfl rfl)).2.2.2
    rw [process_of_route hroute, ← hway]
    show Recorded _ _ _ (bot.execute command c s₁).2.world.throttle
    rw [hleft]
    exact Gate.recorded_askings hgates s₁.world

/-- A message is rejected if a gate that is asked about it halts the call. -/
theorem rejected_of_mem_askings (ha : a ∈ bot.askings m moment s)
    (hhalt : (a.gate.check a.context a.world).1 = .ok .halt) : (bot.process m moment s).1 = .rejected := by
  unfold askings at ha
  split at ha
  · next command c s₁ hroute =>
      have hname := Gate.runAll_of_mem_askings ha hhalt
      rcases hgates : Gate.runAll (bot.callContext command c s₁) command.gates s₁.world with ⟨result, w⟩
      rw [hgates] at hname
      obtain rfl : result = .ok (some a.gate.name) := hname
      have hrun : command.run (bot.callContext command c s₁) s₁.world = (.ok (some a.gate.name), w) := by
        rw [Command.run, Stateful.bind_of_ok (Act.ofPanicking_of_ok hgates)]
        rfl
      rw [process_of_route hroute]
      exact (execute_of_run hrun).1
  · cases ha

end Bot

/-! ## Sessions -/

namespace Session

variable {s : Session} {moves : List Move} {mv : Move}

/-- The gates that are asked in a move. -/
def asked (s : Session) : Move → List Gate.Asking
  | .dispatch m moment => s.bot.askings m moment s.state
  | _ => []

/-- What happens to the throttle in a move. -/
def throttled (s : Session) : Move → List Throttle.Op
  | .sweep now => [.sweep now]
  | mv => (s.asked mv).filterMap Gate.Asking.op?

/-- The gates that are asked in moves, one after the other. -/
def askings (s : Session) : List Move → List Gate.Asking
  | [] => []
  | mv :: moves => s.asked mv ++ (s.move mv).askings moves

/-- What happens to the throttle in moves, one after the other. -/
def throttleOps (s : Session) : List Move → List Throttle.Op
  | [] => []
  | mv :: moves => s.throttled mv ++ (s.move mv).throttleOps moves

theorem recorded_move (hbot : s.bot.registry.Sparing) (mv : Move) :
    Recorded (s.throttled mv) (s.asked mv) s.state.world.throttle (s.move mv).state.world.throttle := by
  cases mv with
  | dispatch m moment => exact Bot.recorded_process hbot m moment s.state
  | sweep now => exact .sweep s.state.world.throttle now
  | observe _ | deliver _ | expire _ | changeStore _ | sink _ | close => exact .nil s.state.world.throttle

/-- **What happens to the throttle of a session** is a run of it. -/
theorem recorded_moveAll (hbot : s.bot.registry.Sparing) (moves : List Move) :
    Recorded (s.throttleOps moves) (s.askings moves) s.state.world.throttle
      (s.moveAll moves).state.world.throttle := by
  induction moves generalizing s with
  | nil => exact .nil s.state.world.throttle
  | cons mv moves ih =>
      have hbot' : (s.move mv).bot.registry.Sparing := (s.bot_move mv).symm ▸ hbot
      exact (recorded_move hbot mv).append (ih hbot')

theorem askings_append (s : Session) (moves moves' : List Move) :
    s.askings (moves ++ moves') = s.askings moves ++ (s.moveAll moves).askings moves' := by
  induction moves generalizing s with
  | nil => rfl
  | cons mv moves ih =>
      show s.asked mv ++ (s.move mv).askings (moves ++ moves') = _
      rw [ih, ← List.append_assoc]
      rfl

theorem askings_concat (s : Session) (moves : List Move) (mv : Move) :
    s.askings (moves ++ [mv]) = s.askings moves ++ (s.moveAll moves).asked mv := by
  rw [askings_append]
  exact congrArg _ (List.append_nil _)

/-! ### Time -/

/-- What happens in a move happens when the clock reads so. -/
theorem time_of_mem_throttled (hbot : s.bot.registry.Sparing) {op : Throttle.Op} (h : op ∈ s.throttled mv) :
    mv.clock? = some op.time := by
  cases mv with
  | dispatch m moment =>
      obtain ⟨a, ha, hop⟩ := List.mem_filterMap.mp h
      obtain ⟨r, -, rfl⟩ := Option.map_eq_some_iff.mp hop
      have hmoment := (Bot.of_mem_askings hbot ha).2.2
      exact congrArg (fun moment : Moment => some moment.clock) hmoment.symm
  | sweep now =>
      obtain rfl := List.mem_singleton.mp h
      rfl
  | observe _ | deliver _ | expire _ | changeStore _ | sink _ | close => cases h

theorem time_of_mem_throttleOps (hbot : s.bot.registry.Sparing) {op : Throttle.Op}
    (h : op ∈ s.throttleOps moves) : op.time ∈ moves.filterMap Move.clock? := by
  induction moves generalizing s with
  | nil => cases h
  | cons mv moves ih =>
      have hbot' : (s.move mv).bot.registry.Sparing := (s.bot_move mv).symm ▸ hbot
      rcases List.mem_append.mp h with hfirst | hrest
      · exact List.mem_filterMap.mpr ⟨mv, List.mem_cons_self, time_of_mem_throttled hbot hfirst⟩
      · obtain ⟨mv', hmv', hclock⟩ := List.mem_filterMap.mp (ih hbot' hrest)
        exact List.mem_filterMap.mpr ⟨mv', List.mem_cons_of_mem mv hmv', hclock⟩

/-- If the clock does not go backwards from move to move, time does not go backwards for the throttle. -/
theorem sorted_throttleOps (hbot : s.bot.registry.Sparing)
    (h : (moves.filterMap Move.clock?).Pairwise (· ≤ ·)) :
    ((s.throttleOps moves).map Throttle.Op.time).Pairwise (· ≤ ·) := by
  induction moves generalizing s with
  | nil => exact .nil
  | cons mv moves ih =>
      have hbot' : (s.move mv).bot.registry.Sparing := (s.bot_move mv).symm ▸ hbot
      rw [throttleOps, List.map_append, List.pairwise_append]
      refine ⟨?_, ?_, ?_⟩
      · -- All that happens in one move happens at one time.
        refine List.pairwise_map.mpr (List.pairwise_of_forall_mem_list fun op hop op' hop' => ?_)
        have hclock := time_of_mem_throttled hbot hop
        have hclock' := time_of_mem_throttled hbot hop'
        exact Nat.le_of_eq (Option.some.inj (hclock.symm.trans hclock'))
      · refine ih hbot' ?_
        rw [List.filterMap_cons] at h
        split at h
        · exact h
        · exact (List.pairwise_cons.mp h).2
      · intro time htime time' htime'
        obtain ⟨op, hop, rfl⟩ := List.mem_map.mp htime
        obtain ⟨op', hop', rfl⟩ := List.mem_map.mp htime'
        rw [List.filterMap_cons_some (time_of_mem_throttled hbot hop)] at h
        exact (List.pairwise_cons.mp h).1 _ (time_of_mem_throttleOps hbot' hop')

/-- When a throttle is asked about a message, its bucket fits the window that its calls have opened, if the
    throttles of the session were new and the clock does not go backwards. -/
theorem agrees_of_mem_asked (hbot : s.bot.registry.Sparing) (hnew : s.state.world.throttle = ∅) {m : Message}
    {moment : Moment} (htimes : ((moves ++ [Move.dispatch m moment]).filterMap Move.clock?).Pairwise (· ≤ ·))
    {a : Gate.Asking} (ha : a ∈ (s.moveAll moves).asked (.dispatch m moment)) {r : Rate}
    (hr : a.rate? = some r) : ∃ f?, a.world.throttle.Agrees (r.key a.context) a.context.moment.clock f? := by
  have hmem : a ∈ s.askings (moves ++ [Move.dispatch m moment]) := by
    rw [askings_concat]
    exact List.mem_append_right _ ha
  obtain ⟨front, back, hasked⟩ := List.append_of_mem hmem
  have hrecorded := recorded_moveAll hbot (moves ++ [Move.dispatch m moment])
  rw [hnew] at hrecorded
  exact ⟨_, hrecorded.agrees (sorted_throttleOps hbot htimes) hasked hr⟩

/-! ### The start -/

/-- The commands that come with the bot are declared by their names. -/
theorem isNamed_all (start : Start) : ∀ d ∈ Builtin.all start, Declaration.IsNamed ⟨d.1, d.2⟩ := by
  simp only [Builtin.all, List.forall_mem_cons]
  refine ⟨?_, ?_, ?_, ?_, ?_, ?_, ?_, ?_, List.forall_mem_nil _⟩
  all_goals exact Declaration.isNamed_declare ..

/-- A session starts with commands of that kind if all that they are made of is, and with no calls on
    record. -/
theorem sparing_of_startWith {config : Config} {start : Start} {gates : GateFactory}
    {commands : List (Descriptor × Builtin.Body)} (hgates : gates.Sparing)
    (hcommands : ∀ d ∈ commands, Builtin.Body.Sparing d.2 ∧ Declaration.IsNamed ⟨d.1, d.2⟩)
    (h : startWith config start gates commands = .ok s) :
    s.bot.registry.Sparing ∧ s.state.world.throttle = ∅ := by
  obtain ⟨languages, hin⟩ := exists_startIn_of_startWith h
  rw [startIn] at hin
  split at hin
  · cases hin
  · next registry hregistry =>
      cases hin
      refine ⟨?_, rfl⟩
      show registry.Sparing
      have hall : ∀ d ∈ Builtin.all start ++ commands,
          Builtin.Body.Sparing d.2 ∧ Declaration.IsNamed ⟨d.1, d.2⟩ := by
        intro d hd
        rcases List.mem_append.mp hd with hd | hd
        · exact ⟨World.sparing_frame.all start d hd, isNamed_all start d hd⟩
        · exact hcommands d hd
      rw [Registry.registerAll_eq_ok hregistry]
      refine Registry.sparing_enterAll hgates ?_ ?_
      · intro d hd
        obtain ⟨d', hd', rfl⟩ := List.mem_map.mp hd
        exact (hall d' hd').1
      · intro d hd
        obtain ⟨d', hd', rfl⟩ := List.mem_map.mp hd
        exact (hall d' hd').2

theorem sparing_factory (config : Config) : (factory config).Sparing :=
  World.sparing_frame.withVerified (World.Frame.ofGuilds _ _)

end Session

end Gatehouse
