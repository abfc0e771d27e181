import Gatehouse.Proofs.Address.Forms
import Gatehouse.Proofs.Command.Conduct
import Gatehouse.Proofs.Dispatch.Passages

/-!
# `Gatehouse.Proofs.Dispatch.Coverage` — what is queued can be posted

Two parties look at what the bot may do in a channel: the dispatch, before it goes on to a command, and the
console, when a message is posted. In a guild the first check covers every later one. Whatever the command is and
however its call ends, each message that was queued goes to the channel of the call and lacks nothing there
(`Bot.process_covered`), so that the console does not refuse it as long as the bot may do what it could do
(`Session.dispatch_covered`).
-/

namespace Gatehouse

/-! ## What is appended to the queue -/

/-- What comes to the queue of an outbox by pushing messages. -/
def Outbox.accepted (o : Outbox) (postings : List Posting) : List Posting :=
  if o.closed then [] else postings

theorem Outbox.pushAll_eq (o : Outbox) (postings : List Posting) :
    postings.foldl push o = { o with queue := o.queue ++ o.accepted postings } := by
  induction postings generalizing o with
  | nil =>
      unfold accepted
      split <;> simp
  | cons p postings ih =>
      rw [List.foldl_cons, ih]
      unfold push accepted
      cases hclosed : o.closed with
      | true => simp [hclosed]
      | false => simp

theorem Outbox.mem_of_mem_accepted {o : Outbox} {postings : List Posting} {p : Posting}
    (h : p ∈ o.accepted postings) : p ∈ postings := by
  unfold accepted at h
  split at h
  · cases h
  · exact h

namespace Bot

variable {bot : Bot} {m : Message} {moment : Moment} {s : BotState}

/-! ## The frame of a dispatch -/

/-- Reporting a failure to the caller queues one message to the channel of the call. -/
theorem conclude_conduct (c : Context) (result : Except Interrupt (Option String)) (s : BotState) :
    s.world.Conduct c.channel (conclude c result s).2.world := by
  rcases result with i | _ | gate
  · exact World.Conduct.push s.world rfl
  · exact World.Conduct.refl c.channel s.world
  · exact World.Conduct.refl c.channel s.world

/-- A call of a command stays within the frame. -/
theorem execute_conduct {command : Command} (h : command.Mannered) (bot : Bot) (c : Context) (s : BotState) :
    s.world.Conduct c.channel (bot.execute command c s).2.world := by
  rcases hrun : command.run (bot.callContext command c s) s.world with ⟨result, w⟩
  have hcall := h.run (bot.callContext command c s) s.world
  rw [hrun] at hcall
  rw [execute_eq hrun]
  exact hcall.trans (conclude_conduct (bot.callContext command c s) result
    { s with usage := s.usage.record command.name, world := w })

/-- The way to a command stays within the frame. -/
theorem route_conduct (bot : Bot) (m : Message) (moment : Moment) (s : BotState) :
    s.world.Conduct m.channel.id (bot.route m moment s).2.world := by
  have hasked {catalog : Catalog} {answer : Bool} {w : World}
      (h : bot.canAnswer m catalog s.world = (answer, w)) : s.world.Conduct m.channel.id w := by
    obtain ⟨queued, ⟨left, hleft, rfl⟩, hwarning, -⟩ := answering_of_canAnswer h
    refine ⟨fun _ => rfl, hleft, queued, ?_, rfl⟩
    intro p hp
    rcases hwarning with rfl | ⟨rfl, -⟩
    · cases hp
    · rw [List.mem_singleton.mp hp]
      rfl
  rcases bot.route_cases m moment s with ⟨-, hworld⟩ | ⟨catalog, -, hanswer⟩ | ⟨catalog, -, hanswer⟩
  · rw [hworld]
    exact World.Conduct.refl m.channel.id s.world
  · exact hasked hanswer
  · exact hasked hanswer

/-- **A dispatch stays within the frame** if every command does. -/
theorem process_conduct (hbot : bot.registry.Mannered) (m : Message) (moment : Moment) (s : BotState) :
    s.world.Conduct m.channel.id (bot.process m moment s).2.world := by
  have hroute := bot.route_conduct m moment s
  rcases hr : bot.route m moment s with ⟨outcome | ⟨command, c⟩, s₁⟩
  · rw [hr] at hroute
    rw [process_of_stop hr]
    exact hroute
  · obtain ⟨-, trigger, hresolve⟩ := command_of_route hr
    have hmessage := message_of_route hr
    rw [hr] at hroute
    rw [process_of_route hr]
    have hcall := execute_conduct (hbot trigger command hresolve) bot c s₁
    unfold Context.channel at hcall
    rw [hmessage] at hcall
    exact hroute.trans hcall

/-! ## What a dispatch queues -/

/-- **Nothing is queued that cannot be posted.** In a guild, the messages that a dispatch queues all go to the
    channel of the call and lack nothing there. -/
theorem process_postings (hbot : bot.registry.Mannered) (hm : m.isGuildMessage = true) (moment : Moment)
    (s : BotState) :
    ∃ postings : List Posting,
      (∀ p ∈ postings, p.channel = m.channel.id ∧
        Console.lacking? (s.world.console.capabilities m.channel.id) p.notice.tone = none) ∧
      (bot.process m moment s).2.world.outbox = postings.foldl Outbox.push s.world.outbox := by
  rcases bot.route_cases m moment s with ⟨hstop, hworld⟩ | ⟨catalog, hstop, hanswer⟩ | ⟨catalog, -, hanswer⟩
  · -- The way ended before the platform was asked.
    have hprocess : (bot.process m moment s).2.world = s.world := by
      rcases hstop with hstop | hstop | hstop
      · rw [process_world_of_stop hstop, hworld]
      · rw [process_world_of_stop hstop, hworld]
      · rw [process_world_of_stop hstop, hworld]
    rw [hprocess]
    exact ⟨[], nofun, rfl⟩
  · -- A warning is in plain text, so it is enough that the bot may post.
    obtain ⟨queued, ⟨left, -, hworld⟩, hwarning, -⟩ := answering_of_canAnswer hanswer
    refine ⟨queued, ?_, ?_⟩
    · intro p hp
      rcases hwarning with rfl | ⟨rfl, hsend⟩
      · cases hp
      · obtain rfl := List.mem_singleton.mp hp
        exact ⟨rfl, Console.lacking?_eq_none_iff.mpr ⟨hsend, nofun⟩⟩
    · rw [process_world_of_stop hstop, hworld]
  · -- Both are allowed, so any message to the channel can be posted.
    obtain ⟨queued, -, -, hable⟩ := answering_of_canAnswer hanswer
    obtain ⟨hsend, hembed⟩ := (hable rfl).2 hm
    obtain ⟨postings, hchannel, houtbox⟩ := (process_conduct hbot m moment s).outbox
    refine ⟨postings, fun p hp => ⟨hchannel p hp, ?_⟩, houtbox⟩
    exact Console.lacking?_eq_none_iff.mpr ⟨hsend, fun _ => hembed⟩

/-- What a dispatch queued for a message in a guild, and what can become of it. -/
structure Covered (bot : Bot) (m : Message) (moment : Moment) (s : BotState) (queued : List Posting) : Prop where
  /-- It was put at the end of the queue, and nothing else happened to the outbox. -/
  outbox : (bot.process m moment s).2.world.outbox
    = { s.world.outbox with queue := s.world.outbox.queue ++ queued }
  /-- All of it goes to the channel of the call. -/
  channel : ∀ p ∈ queued, p.channel = m.channel.id
  /-- Embeds are only queued where the bot may post them. -/
  embeds : ∀ p ∈ queued, p.notice.tone.isEmbed = true →
    (s.world.console.capabilities m.channel.id).allows .sendMessages = true ∧
    (s.world.console.capabilities m.channel.id).allows .embedLinks = true
  /-- Where the bot may not post, nothing is queued. -/
  silent : (s.world.console.capabilities m.channel.id).allows .sendMessages = false → queued = []
  /-- A console on which the bot may do there what it could do refuses none of it for want of a capability. -/
  posted : ∀ console : Console,
    console.capabilities m.channel.id = s.world.console.capabilities m.channel.id →
    ∀ p ∈ queued, ∀ needed, (console.send p.channel p.notice).1 ≠ .error (.missingCapability needed)
  /-- The dispatch does not change what the bot may do. -/
  capabilities : ∀ id, (bot.process m moment s).2.world.console.capabilities id
    = s.world.console.capabilities id

/-- **The check before a command covers every message that is queued.** -/
theorem process_covered (hbot : bot.registry.Mannered) (hm : m.isGuildMessage = true) (moment : Moment)
    (s : BotState) : ∃ queued, bot.Covered m moment s queued := by
  obtain ⟨postings, hpostings, houtbox⟩ := process_postings hbot hm moment s
  have hqueued : ∀ p ∈ s.world.outbox.accepted postings, p.channel = m.channel.id ∧
      Console.lacking? (s.world.console.capabilities m.channel.id) p.notice.tone = none :=
    fun p hp => hpostings p (Outbox.mem_of_mem_accepted hp)
  refine ⟨s.world.outbox.accepted postings, ?_, ?_, ?_, ?_, ?_, ?_⟩
  · rw [houtbox, Outbox.pushAll_eq]
  · exact fun p hp => (hqueued p hp).1
  · intro p hp hembed
    obtain ⟨hsend, hembeds⟩ := Console.lacking?_eq_none_iff.mp (hqueued p hp).2
    exact ⟨hsend, hembeds hembed⟩
  · intro hsend
    refine List.eq_nil_iff_forall_not_mem.mpr fun p hp => ?_
    have hallowed := (Console.lacking?_eq_none_iff.mp (hqueued p hp).2).1
    rw [hsend] at hallowed
    cases hallowed
  · intro console hsame p hp needed
    obtain ⟨hchannel, hlacking⟩ := hqueued p hp
    rw [hchannel]
    exact console.send_ne_missingCapability (hsame ▸ hlacking) needed
  · exact (process_conduct hbot m moment s).capabilities

end Bot

/-! ## Sessions -/

namespace Session

/-- A session only has commands that stay within the frame, if those that were added to the built-in ones do. -/
theorem mannered_of_startWith {config : Config} {start : Start} {gates : GateFactory}
    {commands : List (Descriptor × Builtin.Body)} {s : Session} (hgates : gates.Mannered)
    (hcommands : ∀ d ∈ commands, Builtin.Body.Mannered d.2)
    (h : startWith config start gates commands = .ok s) : s.bot.registry.Mannered := by
  obtain ⟨languages, hin⟩ := exists_startIn_of_startWith h
  rw [startIn] at hin
  split at hin
  · cases hin
  · next registry hregistry =>
      obtain rfl := Except.ok.inj hin
      refine Registry.mannered_empty.registerAll hgates ?_ hregistry
      intro d hd
      rcases List.mem_append.mp hd with hd | hd
      · exact Builtin.mannered_all start d hd
      · exact hcommands d hd

theorem mannered_factory (config : Config) : (factory config).Mannered :=
  (GateFactory.mannered_ofGuilds _).withVerified

/-- **The check before a command covers every message that a session queues**, whatever the command and however
    its call ends. Besides those that come with the bot there can be other gates and commands, as long as they
    queue messages to the channel of the call only and leave the capabilities of the bot alone. -/
theorem dispatch_covered {config : Config} {start : Start} {gates : GateFactory}
    {commands : List (Descriptor × Builtin.Body)} {s₀ : Session} (hgates : gates.Mannered)
    (hcommands : ∀ d ∈ commands, Builtin.Body.Mannered d.2)
    (hstart : startWith config start gates commands = .ok s₀) {m : Message} (hm : m.isGuildMessage = true)
    (moment : Moment) (s : BotState) : ∃ queued, s₀.bot.Covered m moment s queued := by
  have hbot : s₀.bot.registry.Mannered := mannered_of_startWith hgates hcommands hstart
  exact Bot.process_covered hbot hm moment s

/-- A command that says something in an embed. -/
def pong : Descriptor × Builtin.Body :=
  (.declare "ping" .utility [] "" [] ["pass:1"], Script.body [.say .info "pong" none])

theorem mannered_pong : ∀ d ∈ [pong], Builtin.Body.Mannered d.2 := by
  intro d hd
  rw [List.mem_singleton.mp hd]
  exact Script.mannered_body _

/-- A call of the command in the guild that has a choice of its own. -/
def pingCall : Message :=
  { guildMessage with content := "?ping" }

theorem dispatch_covered_pingCall : ∃ s₀,
    (factory (configOf "!")).withProbes.Mannered ∧ (∀ d ∈ [pong], Builtin.Body.Mannered d.2) ∧
    startWith (configOf "!") ⟨0, ""⟩ (factory (configOf "!")).withProbes [pong] = .ok s₀ ∧
    pingCall.isGuildMessage = true ∧
    ∃ queued, s₀.bot.Covered pingCall ⟨7, 0⟩ (freshState (configOf "!")) queued := by
  have hgates : (factory (configOf "!")).withProbes.Mannered := (mannered_factory _).withProbes
  obtain ⟨s₀, hstart⟩ : ∃ s₀,
      startWith (configOf "!") ⟨0, ""⟩ (factory (configOf "!")).withProbes [pong] = .ok s₀ :=
    exists_of_isOk (by rw [startWith_eq]; decide +kernel)
  exact ⟨s₀, hgates, mannered_pong, hstart, rfl,
    dispatch_covered hgates mannered_pong hstart rfl ⟨7, 0⟩ (freshState (configOf "!"))⟩

example : ((startWith (configOf "!") ⟨0, ""⟩ (factory (configOf "!")).withProbes [pong]).toOption.map fun s₀ =>
    (s₀.bot.process pingCall ⟨7, 0⟩ (freshState (configOf "!"))).2.world.outbox.queue.map fun p =>
      (p.channel, p.notice.tone)) = some [(pingCall.channel.id, .info)] := by
  rw [startWith_eq]
  decide +kernel

end Session

end Gatehouse
