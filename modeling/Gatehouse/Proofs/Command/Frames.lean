import Gatehouse.Command.Script
import Gatehouse.Gate.Probe
import Gatehouse.Proofs.Command.Atomicity
import Gatehouse.Proofs.Console.Channels
import Gatehouse.Proofs.Gate.Verdicts

/-!
# `Gatehouse.Proofs.Command.Frames` — what calls can do to the world at most

A frame says what may become of a world by acts in a channel. It holds of each thing that an act can do besides
taking calls from throttles, and of acts one after the other (`World.Frame`). So every act that is made of such
stays within it (`Act.Within`): all gates that come with the bot but throttles (`World.Frame.build`), all its
commands (`World.Frame.all`), probes and scripts. Whether throttles do as well depends on the frame.
-/

namespace Gatehouse

/-- What may become of worlds by acts in channels, as far as acts without throttles go. -/
structure World.Frame (K : ChannelId → World → World → Prop) : Prop where
  refl : ∀ channel w, K channel w w
  trans : ∀ {channel w w' w''}, K channel w w' → K channel w' w'' → K channel w w''
  /-- A message to the channel may be queued. -/
  push : ∀ w p, K p.channel w (w.push p)
  /-- The platform may be asked. -/
  query : ∀ channel w id, K channel w (w.query id).2
  /-- Notes may be left. -/
  note : ∀ channel w journal, K channel w { w with journal }
  /-- Anything may happen to the console that changes nothing in what the bot may do. -/
  console : ∀ channel w console, (∀ id, console.capabilities id = w.console.capabilities id) →
    K channel w { w with console }

variable {K : ChannelId → World → World → Prop}

/-- Whatever the world, the act stays within the frame. -/
def Act.Within {ε α : Type} (K : ChannelId → World → World → Prop) (channel : ChannelId) (act : Act ε α) : Prop :=
  ∀ w, K channel w (act w).2

/-- Whoever calls, the gate stays within the frame. -/
def Gate.Within (K : ChannelId → World → World → Prop) (g : Gate) : Prop :=
  ∀ c, (g.check c).Within K c.channel

/-- Every custom gate that can be declared stays within the frame. -/
def GateFactory.Within (K : ChannelId → World → World → Prop) (f : GateFactory) : Prop :=
  ∀ name builder args gate, f.custom.get? name = some builder → builder args = .ok gate → gate.Within K

/-- Whoever calls, the body stays within the frame. -/
def Builtin.Body.Within (K : ChannelId → World → World → Prop) (body : Builtin.Body) : Prop :=
  ∀ c, (body c).Within K c.channel

namespace World.Frame

/-! ## Acts -/

section
variable {ε α β : Type} {channel : ChannelId}

theorem pure (hK : Frame K) (channel : ChannelId) (a : α) : (Pure.pure a : Act ε α).Within K channel :=
  hK.refl channel

theorem throw (hK : Frame K) (channel : ChannelId) (e : ε) :
    (MonadExcept.throw e : Act ε α).Within K channel :=
  hK.refl channel

/-- Acts one after the other stay within the frame if each does. -/
theorem bind (hK : Frame K) {act : Act ε α} {next : α → Act ε β} (h : act.Within K channel)
    (hnext : ∀ a, (next a).Within K channel) : (act >>= next).Within K channel := by
  intro w
  have hw := h w
  rcases hact : act w with ⟨e | a, w'⟩
  · rw [hact] at hw
    rw [Stateful.bind_of_error hact]
    exact hw
  · rw [hact] at hw
    rw [Stateful.bind_of_ok hact]
    exact hK.trans hw (hnext a w')

/-- What is said to the caller goes to the channel of the call. -/
theorem say (hK : Frame K) (c : Context) (tone : Tone) (content : String) (deleteAfter : Option Nat) :
    (Act.push (c.posting tone content deleteAfter) : Act ε Unit).Within K c.channel :=
  fun w => hK.push w (c.posting tone content deleteAfter)

theorem remark (hK : Frame K) (channel : ChannelId) (j : Json) : (Act.note j : Act ε Unit).Within K channel :=
  fun w => hK.note channel w _

/-- Whatever the platform is asked to do, unless it changes what the bot may do. -/
theorem request (hK : Frame K) {f : Console → Except PlatformError α × Console}
    (h : ∀ c id, (f c).2.capabilities id = c.capabilities id) (channel : ChannelId) :
    (Act.request f).Within K channel := by
  intro w
  rw [Act.request_apply]
  exact hK.console channel w _ (h w.console)

theorem send (hK : Frame K) (channel id : ChannelId) (notice : Notice) :
    (Act.send id notice).Within K channel :=
  hK.request (fun c => c.capabilities_send id notice) channel

theorem delete (hK : Frame K) (channel id : ChannelId) (message : MessageId) :
    (Act.delete id message).Within K channel :=
  hK.request (fun c => c.capabilities_delete id message) channel

theorem history (hK : Frame K) (channel id : ChannelId) (limit : Nat) :
    (Act.history id limit).Within K channel :=
  hK.request (fun _ _ => rfl) channel

theorem ofPanicking {act : Act Panic α} (h : act.Within K channel) :
    (Act.ofPanicking act).Within K channel := by
  intro w
  have hw := h w
  rcases hact : act w with ⟨p | a, w'⟩
  · rw [hact] at hw
    rw [Act.ofPanicking_of_error hact]
    exact hw
  · rw [hact] at hw
    rw [Act.ofPanicking_of_ok hact]
    exact hw

end

/-! ## Gates -/

/-- A gate that only looks at the context stays within the frame. -/
theorem verdict (hK : Frame K) {p : Prop} [Decidable p] (c : Context) (text : String) (secs : Nat)
    (w : World) : K c.channel w (Gate.verdict p c text secs w).2 := by
  unfold Gate.verdict
  split
  · exact hK.refl c.channel w
  · exact hK.push w (c.posting .error text (some secs))

theorem permission (hK : Frame K) (level : Permission) : (Gate.permission level).Within K := by
  intro c w
  rw [Gate.permission_check]
  exact hK.verdict c _ _ w

theorem requireUser (hK : Frame K) (wanted : Capabilities) : (Gate.requireUser wanted).Within K := by
  intro c w
  rw [Gate.requireUser_check]
  exact hK.verdict c _ _ w

theorem requireBot (hK : Frame K) (wanted : Capabilities) : (Gate.requireBot wanted).Within K := by
  intro c w
  cases hguild : c.message.isGuildMessage with
  | false =>
      rw [Gate.requireBot_check_direct wanted hguild]
      exact hK.refl c.channel w
  | true =>
      have hasked := hK.query c.channel w c.channel
      rcases hquery : w.query c.channel with ⟨e | held, w'⟩
      · rw [hquery] at hasked
        rw [Gate.requireBot_check_unanswered wanted hguild hquery]
        exact hasked
      · rw [hquery] at hasked
        rw [Gate.requireBot_check_answered wanted hguild hquery]
        exact hK.trans hasked (hK.verdict c _ _ w')

theorem officialGuild (hK : Frame K) (official : List GuildId) : (Gate.officialGuild official).Within K := by
  intro c w
  rw [Gate.officialGuild_check]
  exact hK.verdict c _ _ w

theorem guildOnly (hK : Frame K) : Gate.guildOnly.Within K := by
  intro c w
  rw [Gate.guildOnly_check]
  exact hK.verdict c _ _ w

theorem verified (hK : Frame K) : Gate.verified.Within K := by
  intro c w
  rw [Gate.verified_check]
  exact hK.verdict c _ _ w

theorem probe (hK : Frame K) (p : Gate.Probe) (mark : String) : (p.gate mark).Within K := by
  intro c
  refine hK.bind (hK.remark c.channel _) fun _ => ?_
  cases p with
  | pass => exact hK.pure c.channel _
  | halt => exact hK.pure c.channel _
  | boom => exact hK.throw c.channel _

/-- What a throttle makes of its decision. -/
theorem throttleVerdict (hK : Frame K) (c : Context) (decision : Option Throttle.Decision) :
    (Gate.throttleVerdict c decision).Within K c.channel := by
  rcases decision with _ | ⟨_ | ⟨retryAfter, first⟩⟩
  · exact hK.throw c.channel _
  · exact hK.pure c.channel _
  · cases first with
    | true => exact hK.bind (hK.say c _ _ _) fun _ => hK.pure c.channel _
    | false => exact hK.pure c.channel _

/-- Gates that are asked one after the other stay within the frame if each does. -/
theorem runAll (hK : Frame K) {gates : List Gate} (h : ∀ g ∈ gates, g.Within K) (c : Context) :
    (Gate.runAll c gates).Within K c.channel := by
  induction gates with
  | nil => exact hK.pure c.channel none
  | cons g gates ih =>
      refine hK.bind (h g List.mem_cons_self c) fun flow => ?_
      cases flow with
      | proceed => exact ih fun g' hg' => h g' (List.mem_cons_of_mem g hg')
      | halt => exact hK.pure c.channel _

/-! ## Declared gates -/

theorem ofGuilds (K : ChannelId → World → World → Prop) (official : List GuildId) :
    (GateFactory.ofGuilds official).Within K := by
  intro name builder args gate hbuilder
  cases hbuilder

theorem register {f : GateFactory} (h : f.Within K) {name : String} {builder : GateBuilder}
    (hbuilder : ∀ args gate, builder args = .ok gate → gate.Within K) : (f.register name builder).Within K := by
  intro name' builder' args gate hget hgate
  have hget' : (f.custom.insert (Text.asciiLowercased name) builder).get? name' = some builder' := hget
  rw [Table.get?_insert] at hget'
  split at hget'
  · obtain rfl := Option.some.inj hget'
    exact hbuilder args gate hgate
  · exact h name' builder' args gate hget' hgate

theorem withVerified (hK : Frame K) {f : GateFactory} (h : f.Within K) : f.withVerified.Within K := by
  refine register h fun args gate hgate => ?_
  cases args with
  | nil =>
      obtain rfl := Except.ok.inj hgate
      exact hK.verified
  | cons _ _ => cases hgate

theorem withProbes (hK : Frame K) {f : GateFactory} (h : f.Within K) : f.withProbes.Within K := by
  have hprobe (p : Gate.Probe) (args : List String) (gate : Gate) (hgate : p.builder args = .ok gate) :
      gate.Within K := by
    cases args with
    | nil => cases hgate
    | cons mark _ =>
        obtain rfl := Except.ok.inj hgate
        exact hK.probe p mark
  exact register (register (register h (hprobe .pass)) (hprobe .halt)) (hprobe .boom)

/-- **A declared gate** is a throttle, if it is declared as one, and otherwise stays within the frame. -/
theorem build (hK : Frame K) {f : GateFactory} (h : f.Within K) {command spec : String} {gate : Gate}
    (hgate : f.build command spec = .ok gate) :
    (∃ scope limit window, GateSpec.parse spec = .ok (.throttle scope limit window) ∧
      gate = Gate.throttle scope limit window) ∨
    ((∀ scope limit window, GateSpec.parse spec ≠ .ok (.throttle scope limit window)) ∧ gate.Within K) := by
  unfold GateFactory.build at hgate
  split at hgate
  · next parsed hparsed =>
      rw [hparsed]
      cases parsed with
      | throttle scope limit window => exact .inl ⟨scope, limit, window, rfl, (Except.ok.inj hgate).symm⟩
      | permission level =>
          obtain rfl := Except.ok.inj hgate
          exact .inr ⟨by simp, hK.permission level⟩
      | require target capabilities =>
          obtain rfl := Except.ok.inj hgate
          cases target with
          | user => exact .inr ⟨by simp, hK.requireUser capabilities⟩
          | bot => exact .inr ⟨by simp, hK.requireBot capabilities⟩
      | officialGuild =>
          obtain rfl := Except.ok.inj hgate
          exact .inr ⟨by simp, hK.officialGuild f.officialGuilds⟩
      | guildOnly =>
          obtain rfl := Except.ok.inj hgate
          exact .inr ⟨by simp, hK.guildOnly⟩
      | custom name args =>
          simp only [GateFactory.ofSpec] at hgate
          split at hgate
          · next builder hbuilder =>
              cases hbuilt : builder args with
              | ok built =>
                  rw [hbuilt] at hgate
                  obtain rfl := Except.ok.inj hgate
                  exact .inr ⟨by simp, h name builder args built hbuilder hbuilt⟩
              | error e =>
                  rw [hbuilt] at hgate
                  cases hgate
          · cases hgate
  · cases hgate

/-! ## Bodies -/

theorem uptime (hK : Frame K) (start : Start) : Builtin.Body.Within K (Builtin.uptime start) :=
  fun c => hK.say c _ _ _

theorem channelId (hK : Frame K) : Builtin.Body.Within K Builtin.channelId :=
  fun c => hK.say c _ _ _

theorem userId (hK : Frame K) : Builtin.Body.Within K Builtin.userId := by
  intro c
  unfold Builtin.userId
  split
  · exact hK.say c _ _ _
  · split
    · exact hK.say c _ _ _
    · exact hK.throw c.channel _
  · exact hK.say c _ _ _

theorem help (hK : Frame K) : Builtin.Body.Within K Builtin.help := by
  intro c
  unfold Builtin.help
  split
  · exact hK.say c _ _ _
  · split
    · exact hK.say c _ _ _
    · exact hK.say c _ _ _

theorem repeatText (hK : Frame K) : Builtin.Body.Within K Builtin.repeatText := by
  intro c
  unfold Builtin.repeatText
  split
  · exact hK.throw c.channel _
  · exact hK.say c _ _ _

theorem profile (hK : Frame K) : Builtin.Body.Within K Builtin.profile :=
  fun c => hK.say c _ _ _

theorem deleteEach (hK : Frame K) (channel id : ChannelId) (messages : List MessageId) :
    (Builtin.deleteEach id messages).Within K channel := by
  induction messages with
  | nil => exact hK.pure channel ()
  | cons m messages ih => exact hK.bind (hK.delete channel id m) fun _ => ih

theorem purge (hK : Frame K) : Builtin.Body.Within K Builtin.purge := by
  intro c
  unfold Builtin.purge
  split
  · exact hK.throw c.channel _
  · refine hK.bind (hK.history c.channel _ _) fun messages => ?_
    refine hK.bind (hK.deleteEach c.channel c.channel messages) fun _ => ?_
    exact hK.say c _ _ _

theorem stats (hK : Frame K) : Builtin.Body.Within K Builtin.stats := by
  intro c
  unfold Builtin.stats
  split
  · exact hK.say c _ _ _
  · exact hK.say c _ _ _

/-- **Every command that comes with the bot stays within the frame.** -/
theorem all (hK : Frame K) (start : Start) : ∀ d ∈ Builtin.all start, Builtin.Body.Within K d.2 := by
  simp only [Builtin.all, List.forall_mem_cons]
  exact ⟨hK.uptime start, hK.channelId, hK.userId, hK.help, hK.repeatText, hK.profile, hK.purge, hK.stats,
    nofun⟩

/-- A script stays within the frame. -/
theorem script (hK : Frame K) (instructions : List Instruction) :
    Builtin.Body.Within K (Script.body instructions) := by
  intro c
  induction instructions with
  | nil => exact hK.pure c.channel ()
  | cons i instructions ih =>
      refine hK.bind ?_ fun _ => ih
      cases i with
      | say tone content deleteAfter => exact hK.say c _ _ _
      | translateOwn key args => exact hK.remark c.channel _
      | translate key args => exact hK.remark c.channel _
      | history id limit => exact hK.bind (hK.history c.channel _ _) fun _ => hK.remark c.channel _
      | delete message => exact hK.delete c.channel _ _
      | send notice => exact hK.bind (hK.send c.channel _ _) fun _ => hK.remark c.channel _
      | fail e => exact hK.throw c.channel _
      | panic p => exact hK.throw c.channel _
      | dump => exact hK.remark c.channel _

end World.Frame

end Gatehouse
