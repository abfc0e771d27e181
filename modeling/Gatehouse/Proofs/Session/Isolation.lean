import Gatehouse.Proofs.Dispatch.Coverage
import Gatehouse.Proofs.Gate.DirectMessages
import Gatehouse.Proofs.Session.Throttles

/-!
# `Gatehouse.Proofs.Session.Isolation` — callers do not use up each other's calls

A throttle counts calls against the author, the channel or the guild of a message. Messages that differ in that
(`Throttle.Scope.Apart`) count in different buckets, whichever command they call and at whatever rate
(`Rate.key_ne_of_apart`). So a throttle decides about the calls of one of them as if the others had never been dealt
with (`Session.apart_callers_isolated`).

Direct messages count against their channel where a guild is asked for. The ids of channels and guilds are told
apart by their types, but not by the buckets: a guild and a direct channel with the same number share theirs
(`Session.guild_shares_with_direct_channel`).
-/

namespace Gatehouse

/-! ## What calls count against -/

/-- The messages count against different things at the scope. Direct messages stand with their channel for a
    guild, so its id must not be the one of the other's guild. -/
def Throttle.Scope.Apart : Throttle.Scope → Message → Message → Prop
  | .user, m, m' => m.author.id ≠ m'.author.id
  | .channel, m, m' => m.channel.id ≠ m'.channel.id
  | .guild, m, m' =>
      match m.guild, m'.guild with
      | some g, some g' => g.id ≠ g'.id
      | none, none => m.channel.id ≠ m'.channel.id
      | some g, none => g.id.val ≠ m'.channel.id.val
      | none, some g' => m.channel.id.val ≠ g'.id.val
  | .global, _, _ => False

/-- They are apart exactly if the bucket tells them apart. -/
theorem Throttle.Scope.apart_iff {scope : Throttle.Scope} {c c' : Context} :
    scope.Apart c.message c'.message ↔ Gate.throttleSubject c scope ≠ Gate.throttleSubject c' scope := by
  cases scope with
  | user => exact not_congr Id.val_inj.symm
  | channel => exact not_congr Id.val_inj.symm
  | guild =>
      cases hg : c.message.guild with
      | none =>
          rw [Gate.throttleSubject_of_no_guild hg]
          cases hg' : c'.message.guild with
          | none =>
              rw [Gate.throttleSubject_of_no_guild hg']
              simp only [Apart, hg, hg']
              exact not_congr Id.val_inj.symm
          | some g' =>
              rw [Gate.throttleSubject_of_guild hg']
              simp only [Apart, hg, hg']
              exact Iff.rfl
      | some g =>
          rw [Gate.throttleSubject_of_guild hg]
          cases hg' : c'.message.guild with
          | none =>
              rw [Gate.throttleSubject_of_no_guild hg']
              simp only [Apart, hg, hg']
              exact Iff.rfl
          | some g' =>
              rw [Gate.throttleSubject_of_guild hg']
              simp only [Apart, hg, hg']
              exact not_congr Id.val_inj.symm
  | global => exact ⟨False.elim, fun h => h rfl⟩

/-- Calls that are apart at the scope of a rate do not count in its bucket, at whatever rate they count. -/
theorem Rate.key_ne_of_apart {r r' : Rate} {c c' : Context} (h : r.scope.Apart c.message c'.message) :
    r'.key c ≠ r.key c' := by
  intro hkey
  have hscope : r'.scope = r.scope := congrArg Throttle.Key.scope hkey
  have hsubject : Gate.throttleSubject c r'.scope = Gate.throttleSubject c' r.scope :=
    congrArg Throttle.Key.subject hkey
  rw [hscope] at hsubject
  exact Throttle.Scope.apart_iff.mp h hsubject

/-! ## Buckets that are the same -/

namespace Throttle

variable {t t' : Throttle} {p : Key → Prop}

/-- The throttles hold the same in the buckets of all keys for which `p` holds. -/
def SameOn (p : Key → Prop) (t t' : Throttle) : Prop :=
  ∀ key, p key → t.buckets.get? key = t'.buckets.get? key

/-- A call that both get is decided in the same way, whenever it is made. -/
theorem SameOn.acquire (h : SameOn p t t') {key : Key} (hkey : p key) (now : Nat) :
    (t.acquire key now).1 = (t'.acquire key now).1 ∧
    SameOn p (t.acquire key now).2 (t'.acquire key now).2 := by
  have hbucket : t.bucketAt key now = t'.bucketAt key now := by
    rw [bucketAt, bucketAt, h key hkey]
  have hafter : (t.acquire key now).2.buckets.get? key = (t'.acquire key now).2.buckets.get? key := by
    simp only [Throttle.acquire, hbucket]
    split <;> rw [Table.get?_insert_self, Table.get?_insert_self]
  refine ⟨?_, fun other hother => ?_⟩
  · simp only [Throttle.acquire, hbucket]
    split <;> rfl
  · by_cases he : other = key
    · rw [he]
      exact hafter
    · rw [get?_acquire_of_ne t now he, get?_acquire_of_ne t' now he]
      exact h other hother

/-- A sweep that both go through leaves the same. -/
theorem SameOn.sweep (h : SameOn p t t') (now : Nat) : SameOn p (t.sweep now) (t'.sweep now) := by
  intro key hkey
  show (t.buckets.filter _).get? key = (t'.buckets.filter _).get? key
  rw [Table.get?_filter, Table.get?_filter, h key hkey]

/-- Whether a step is a call of a key for which `p` does not hold. -/
def Op.Spares (p : Key → Prop) (op : Op) : Prop :=
  ∃ key now, op = .acquire key now ∧ ¬ p key

/-- Calls of other keys, however many and whenever they are made, change nothing. -/
theorem SameOn.after {ops : List Op} (h : SameOn p t t') (hops : ∀ op ∈ ops, op.Spares p) :
    SameOn p (Throttle.after ops t) t' := by
  induction ops generalizing t with
  | nil => exact h
  | cons op ops ih =>
      obtain ⟨key, now, rfl, hkey⟩ := hops op List.mem_cons_self
      refine ih (fun other hother => ?_) fun op' hop' => hops op' (List.mem_cons_of_mem _ hop')
      have hne : other ≠ key := fun he => hkey (he ▸ hother)
      exact (get?_acquire_of_ne t now hne).trans (h other hother)

end Throttle

/-! ## Dispatches -/

/-- The gates that are asked about a message look at that message. -/
theorem Bot.message_of_mem_askings {bot : Bot} {m : Message} {moment : Moment} {s : BotState}
    {a : Gate.Asking} (ha : a ∈ bot.askings m moment s) : a.context.message = m := by
  unfold askings at ha
  split at ha
  · next command c s₁ hroute =>
      have hmessage : c.message = m := message_of_route hroute
      rw [(Gate.mem_of_mem_askings ha).1]
      exact hmessage
  · cases ha

namespace Session

variable {s s' : Session} {p : Throttle.Key → Prop}

/-- Whatever command it calls, the message does not count in a bucket for which `p` holds. -/
def SparedBy (m : Message) (p : Throttle.Key → Prop) : Prop :=
  ∀ (r : Rate) (c : Context), c.message = m → ¬ p (r.key c)

/-- **A message that is dealt with** changes nothing in the buckets that it does not count in. -/
theorem sameOn_dispatch (hbot : s.bot.registry.Sparing) {m : Message} (hm : SparedBy m p) (moment : Moment)
    (h : Throttle.SameOn p s.state.world.throttle s'.state.world.throttle) :
    Throttle.SameOn p (s.move (.dispatch m moment)).state.world.throttle s'.state.world.throttle := by
  rw [(recorded_move hbot (.dispatch m moment)).state]
  refine h.after fun op hop => ?_
  obtain ⟨a, ha, hop⟩ := List.mem_filterMap.mp hop
  obtain ⟨r, -, rfl⟩ := Option.map_eq_some_iff.mp hop
  exact ⟨r.key a.context, _, rfl, hm r a.context (Bot.message_of_mem_askings ha)⟩

/-! ## Two runs -/

/-- What happens to a session while a throttle is watched. -/
inductive Turn where
  /-- The session goes through a move. -/
  | move (mv : Move)
  /-- The throttle is asked about a call. -/
  | ask (c : Context)

/-- Whether a message is dealt with in a turn. -/
def Turn.isDispatch : Turn → Bool
  | .move (.dispatch _ _) => true
  | _ => false

/-- The session after the gate of a rate was asked about a call. -/
def ask (s : Session) (r : Rate) (c : Context) : Session :=
  s.changeWorld fun w => (r.gate.check c w).2

/-- What the throttle of a rate decides about the calls that it is asked about. -/
def decisions (r : Rate) : List Turn → Session → List (Option Throttle.Decision)
  | [], _ => []
  | .move mv :: turns, s => decisions r turns (s.move mv)
  | .ask c :: turns, s =>
      (s.state.world.throttle.acquire (r.key c) c.moment.clock).1 :: decisions r turns (s.ask r c)

/-- The gate takes the call from the throttle. -/
theorem throttle_ask (s : Session) (r : Rate) (c : Context) :
    (s.ask r c).state.world.throttle = (s.state.world.throttle.acquire (r.key c) c.moment.clock).2 :=
  r.throttle_gate c s.state.world

/-- Any move but a dispatch leaves the same where there was the same. -/
theorem sameOn_move {mv : Move} (hmv : (Turn.move mv).isDispatch = false)
    (h : Throttle.SameOn p s.state.world.throttle s'.state.world.throttle) :
    Throttle.SameOn p (s.move mv).state.world.throttle (s'.move mv).state.world.throttle := by
  cases mv with
  | dispatch m moment => cases hmv
  | sweep now => exact h.sweep now
  | observe _ | deliver _ | expire _ | changeStore _ | sink _ | close => exact h

/-- Sessions that hold the same in the buckets that are asked about decide alike, though messages that do not count
    in these buckets are dealt with in one of them only. -/
theorem decisions_filter (hbot : s.bot.registry.Sparing) {r : Rate} {turns : List Turn}
    (hask : ∀ c, .ask c ∈ turns → p (r.key c))
    (hmove : ∀ m moment, .move (.dispatch m moment) ∈ turns → SparedBy m p)
    (h : Throttle.SameOn p s.state.world.throttle s'.state.world.throttle) :
    decisions r turns s = decisions r (turns.filter fun turn => !turn.isDispatch) s' := by
  -- On the turns. Both sessions go through a turn, or only the first one does if it is a dispatch.
  induction turns generalizing s s' with
  | nil => rfl
  | cons turn turns ih =>
      have hask' : ∀ c, .ask c ∈ turns → p (r.key c) := fun c hc => hask c (List.mem_cons_of_mem _ hc)
      have hmove' : ∀ m moment, .move (.dispatch m moment) ∈ turns → SparedBy m p :=
        fun m moment hm => hmove m moment (List.mem_cons_of_mem _ hm)
      cases turn with
      | ask c =>
          obtain ⟨hdecision, hafter⟩ := h.acquire (hask c List.mem_cons_self) c.moment.clock
          rw [← s.throttle_ask, ← s'.throttle_ask] at hafter
          rw [List.filter_cons_of_pos rfl, decisions, decisions, hdecision]
          exact congrArg (_ :: ·) (ih hbot hask' hmove' hafter)
      | move mv =>
          have hbot' : (s.move mv).bot.registry.Sparing := (s.bot_move mv).symm ▸ hbot
          cases hmv : (Turn.move mv).isDispatch with
          | false =>
              rw [List.filter_cons_of_pos (by rw [hmv]; rfl), decisions, decisions]
              exact ih hbot' hask' hmove' (sameOn_move hmv h)
          | true =>
              rw [List.filter_cons_of_neg (by simp [hmv]), decisions]
              cases mv with
              | dispatch m moment =>
                  have hm := hmove m moment List.mem_cons_self
                  exact ih hbot' hask' hmove' (sameOn_dispatch hbot hm moment h)
              | observe _ | deliver _ | expire _ | sweep _ | changeStore _ | sink _ | close => cases hmv

/-- **Callers who are apart are isolated.** Whatever a session has become, let a throttle be asked about calls, with
    other turns between them, and let all messages that are dealt with meanwhile be apart from these calls at the
    scope of the throttle. However many they are, whatever commands they call and at whatever times: the throttle
    decides about the calls as if none of these messages had been dealt with. -/
theorem apart_callers_isolated {config : Config} {start : Start} {gates : GateFactory}
    {commands : List (Descriptor × Builtin.Body)} {s₀ : Session} (hgates : gates.Sparing)
    (hcommands : ∀ d ∈ commands, Builtin.Body.Sparing d.2 ∧ Declaration.IsNamed ⟨d.1, d.2⟩)
    (hstart : startWith config start gates commands = .ok s₀) (before : List Move) {r : Rate}
    {turns : List Turn}
    (hapart : ∀ m moment, .move (.dispatch m moment) ∈ turns → ∀ c, .ask c ∈ turns → r.scope.Apart m c.message) :
    decisions r turns (s₀.moveAll before)
      = decisions r (turns.filter fun turn => !turn.isDispatch) (s₀.moveAll before) := by
  obtain ⟨hbot, -⟩ := sparing_of_startWith hgates hcommands hstart
  have hbot' : (s₀.moveAll before).bot.registry.Sparing := (s₀.bot_moveAll before).symm ▸ hbot
  refine decisions_filter (p := fun key => ∃ c, .ask c ∈ turns ∧ r.key c = key) hbot' ?asked ?spared ?same
  case asked => exact fun c hc => ⟨c, hc, rfl⟩
  case spared =>
    rintro m moment hm r' c' rfl ⟨c, hc, hkey⟩
    exact Rate.key_ne_of_apart (hapart _ moment hm c hc) hkey.symm
  case same => exact fun _ _ => rfl

/-- A command that can be called once in an hour in each guild. -/
def hourly : Descriptor × Builtin.Body :=
  (.declare "ping" .utility [] "" [] ["throttle:guild,1,3600"], Script.body [.say .info "pong" none])

/-- The rate that it declares. -/
def hourlyRate : Rate :=
  ⟨.guild, 1, 3600⟩

/-- A call of the command in a guild. -/
def guildCall : Message :=
  { guildMessage with content := "!ping", guild := some ⟨Id.ofNat 5, "club", Id.ofNat 7, []⟩ }

/-- A call of the command by somebody else, in a direct channel. -/
def directCall (channel : Nat) : Message :=
  { guildMessage with
    content := "!ping"
    author := ⟨Id.ofNat 6, "bob", false⟩
    guild := none
    channel := ⟨Id.ofNat channel, "", .direct⟩ }

/-- What the gate of the command looks at when the message is dealt with. -/
def callOf (m : Message) (clock : Nat) : Context :=
  { Gate.ownerContext none with message := m, moment := ⟨clock, 0⟩ }

theorem sparing_hourly : ∀ d ∈ [hourly], Builtin.Body.Sparing d.2 ∧ Declaration.IsNamed ⟨d.1, d.2⟩ := by
  intro d hd
  rw [List.mem_singleton.mp hd]
  exact ⟨World.sparing_frame.script _, Declaration.isNamed_declare ..⟩

/-- Two calls in a direct channel, with calls in a guild and in another direct channel between them. -/
def crowdedTurns : List Turn :=
  [.ask (callOf (directCall 20) 0), .move (.dispatch guildCall ⟨0, 0⟩),
    .move (.dispatch (directCall 21) ⟨Clock.seconds 1, 0⟩), .move (.dispatch guildCall ⟨Clock.seconds 2, 0⟩),
    .ask (callOf (directCall 20) (Clock.seconds 3))]

theorem apart_callers_isolated_crowdedTurns : ∃ s₀,
    startWith (configOf "!") ⟨0, ""⟩ (factory (configOf "!")) [hourly] = .ok s₀ ∧
    (∀ m moment, .move (.dispatch m moment) ∈ crowdedTurns → ∀ c, .ask c ∈ crowdedTurns →
      Throttle.Scope.guild.Apart m c.message) ∧
    decisions hourlyRate crowdedTurns s₀ = [some (.allowed 0), some (.denied (Clock.seconds 3597) true)] ∧
    decisions hourlyRate (crowdedTurns.filter fun turn => !turn.isDispatch) s₀
      = [some (.allowed 0), some (.denied (Clock.seconds 3597) true)] := by
  obtain ⟨s₀, hs, hdecisions⟩ : ∃ s₀,
      startWith (configOf "!") ⟨0, ""⟩ (factory (configOf "!")) [hourly] = .ok s₀ ∧
      decisions hourlyRate crowdedTurns s₀ = [some (.allowed 0), some (.denied (Clock.seconds 3597) true)] :=
    exists_of_toOption_map (by rw [startWith_eq]; decide +kernel)
  have hapart : ∀ m moment, .move (.dispatch m moment) ∈ crowdedTurns → ∀ c, .ask c ∈ crowdedTurns →
      Throttle.Scope.guild.Apart m c.message := by
    intro m moment hm c hc
    simp only [crowdedTurns, List.mem_cons, Turn.move.injEq, Move.dispatch.injEq, Turn.ask.injEq, reduceCtorEq,
      false_or, or_false, List.not_mem_nil] at hm hc
    rcases hm with ⟨rfl, -⟩ | ⟨rfl, -⟩ | ⟨rfl, -⟩ <;> rcases hc with rfl | rfl <;>
      simp [Throttle.Scope.Apart, guildCall, directCall, callOf, Id.ofNat]
  have hsame := apart_callers_isolated (r := hourlyRate) (sparing_factory _) sparing_hourly hs [] hapart
  exact ⟨s₀, hs, hapart, hdecisions, hsame.symm.trans hdecisions⟩

/-- **A guild shares its bucket with the direct channel of the same number.** A call in a direct channel would be
    allowed, but after a call of somebody else in the guild it is denied, and the message is rejected. -/
theorem guild_shares_with_direct_channel :
    let s₀ := (startWith (configOf "!") ⟨0, ""⟩ (factory (configOf "!")) [hourly]).toOption
    let guildMove : Move := .dispatch guildCall ⟨0, 0⟩
    guildCall.isGuildMessage = true ∧ (directCall 5).isGuildMessage = false ∧ (directCall 5).guild = none ∧
    s₀.map (fun s => decisions hourlyRate [.ask (callOf (directCall 5) 0)] s) = some [some (.allowed 0)] ∧
    s₀.map (fun s => decisions hourlyRate [.move guildMove, .ask (callOf (directCall 5) 0)] s)
      = some [some (.denied (Clock.seconds 3600) true)] ∧
    s₀.map (fun s => (s.process (directCall 5) ⟨0, 0⟩).1) = some .completed ∧
    s₀.map (fun s => ((s.move guildMove).process (directCall 5) ⟨0, 0⟩).1) = some .rejected := by
  rw [startWith_eq]
  decide +kernel

end Session

end Gatehouse
