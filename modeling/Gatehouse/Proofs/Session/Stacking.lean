import Gatehouse.Proofs.Dispatch.Coverage
import Gatehouse.Proofs.Readings
import Gatehouse.Proofs.Session.Throttles

/-!
# `Gatehouse.Proofs.Session.Stacking` — throttles of one command

Throttles of a command share buckets exactly if they are declared with the same rate. Whatever a session goes
through, all gates of a command with one rate decide together as one throttle would that nothing else uses
(`Recorded.alone`). So a throttle whose rate is declared once decides as one of its own that only gets the calls
that reach it (`Session.stacked_throttles_separate`). A rate that is declared twice does not count twice as many
calls, but every call twice (`Session.equal_throttles_share`).
-/

namespace Gatehouse

/-! ## One rate -/

/-- Whether a bucket counts calls of the command at the rate. -/
def Rate.counts (r : Rate) (name : String) (key : Throttle.Key) : Bool :=
  key.command = name ∧ key.scope = r.scope ∧ key.limit = r.limit ∧ key.window = Clock.seconds r.window

/-- The bucket of a call tells at which rate it counts. -/
theorem Rate.counts_key {r r' : Rate} {name : String} {c : Context} :
    r.counts name (r'.key c) = true ↔ c.command.name = name ∧ r' = r := by
  obtain ⟨scope, limit, window⟩ := r
  obtain ⟨scope', limit', window'⟩ := r'
  simp [Rate.counts, Rate.key, Gate.throttleKey, Clock.seconds_inj]

namespace Gate.Asking

/-- Whether the gate is one that the command of the given name declares with the rate. -/
def hasRate (name : String) (r : Rate) (a : Asking) : Bool :=
  a.context.command.name = name ∧ a.rate? = some r

/-- Whether the gate is the one at the given place of the command. -/
def isAt (name : String) (place : Nat) (a : Asking) : Bool :=
  a.context.command.name = name ∧ a.place = place

/-- The gates with the rate are those that count in its buckets. -/
theorem filter_rate? {α : Type} (a : Asking) (name : String) (r : Rate) (f : Rate → α) (p : α → Bool)
    (hp : ∀ r', p (f r') = r.counts name (r'.key a.context)) :
    (a.rate?.map f).filter p = if a.hasRate name r then some (f r) else none := by
  cases hrate : a.rate? with
  | none => simp [hasRate, hrate]
  | some r' =>
      have hcounts : p (f r') = true ↔ a.context.command.name = name ∧ r' = r := by
        rw [hp, Rate.counts_key]
      by_cases hsame : a.context.command.name = name ∧ r' = r
      · obtain ⟨hname, rfl⟩ := hsame
        simp [hasRate, hrate, hname, hcounts]
      · have hother : p (f r') = false := Bool.eq_false_iff.mpr fun hp' => hsame (hcounts.mp hp')
        simp [hasRate, hrate, hother, hsame]

end Gate.Asking

/-- **The throttles of one rate decide alone.** In a run in which time does not go backwards, they decide what one
    throttle would that only gets their calls. -/
theorem Recorded.alone {ops : List Throttle.Op} {asked : List Gate.Asking} {t : Throttle}
    (h : Recorded ops asked ∅ t) (hsorted : (ops.map Throttle.Op.time).Pairwise (· ≤ ·)) (name : String)
    (r : Rate) :
    (asked.filter (Gate.Asking.hasRate name r)).map (fun a => (r.key a.context, a.decision r))
      = Throttle.run ((asked.filter (Gate.Asking.hasRate name r)).map fun a => a.op r) ∅ := by
  have hcalls : ops.filter (Throttle.Op.isCallOf (r.counts name))
      = (ops.filter Throttle.Op.isCall).filter (Throttle.Op.isCallOf (r.counts name)) := by
    rw [List.filter_filter]
    refine List.filter_congr fun op _ => ?_
    cases op with
    | acquire key now => exact (Bool.and_true _).symm
    | sweep now => rfl
  have hops : ops.filter (Throttle.Op.isCallOf (r.counts name))
      = (asked.filter (Gate.Asking.hasRate name r)).map fun a => a.op r := by
    rw [hcalls, h.calls]
    exact filter_filterMap_eq (fun a => a.filter_rate? name r a.op _ fun _ => rfl) asked
  have hlog : (Throttle.run ops ∅).filter (fun e => r.counts name e.1)
      = (asked.filter (Gate.Asking.hasRate name r)).map (fun a => (r.key a.context, a.decision r)) := by
    rw [← h.log]
    exact filter_filterMap_eq (fun a => a.filter_rate? name r _ _ fun _ => rfl) asked
  rw [← hlog, ← hops]
  exact Throttle.run_filter hsorted (r.counts name)

namespace Session

variable {s : Session} {moves : List Move} {a : Gate.Asking}

theorem of_mem_askings (hbot : s.bot.registry.Sparing) (ha : a ∈ s.askings moves) :
    (∃ command ∈ s.bot.registry.commands, a.context.command = command.descriptor) ∧
    a.gate.Fits a.context.command a.place := by
  induction moves generalizing s with
  | nil => cases ha
  | cons mv moves ih =>
      have hsame := s.bot_move mv
      rcases List.mem_append.mp ha with hfirst | hrest
      · cases mv with
        | dispatch m moment =>
            obtain ⟨hcommand, hfits, -⟩ := Bot.of_mem_askings hbot hfirst
            exact ⟨hcommand, hfits⟩
        | observe _ | deliver _ | expire _ | sweep _ | changeStore _ | sink _ | close => cases hfirst
      · have hlater := ih (hsame.symm ▸ hbot) hrest
        rwa [hsame] at hlater

/-- Where a rate is declared at one place only, the gate at that place is the only one with it. -/
theorem filter_isAt (hbot : s.bot.registry.Sparing) {command : Command}
    (hcommand : command ∈ s.bot.registry.commands) {place : Nat} {r : Rate}
    (hrate : command.descriptor.rate? place = some r)
    (honce : ∀ place', command.descriptor.rate? place' = some r → place' = place) (moves : List Move) :
    (s.askings moves).filter (Gate.Asking.isAt command.name place)
      = (s.askings moves).filter (Gate.Asking.hasRate command.name r) := by
  refine List.filter_congr fun a ha => ?_
  obtain ⟨⟨command', hcommand', hdescriptor⟩, -⟩ := of_mem_askings hbot ha
  unfold Gate.Asking.isAt Gate.Asking.hasRate
  rw [decide_eq_decide]
  refine and_congr_right fun hname => ?_
  have hsame : command' = command := by
    refine hbot.eq_of_name hcommand' hcommand ?_
    rw [← hname, hdescriptor]
    rfl
  rw [Gate.Asking.rate?, hdescriptor, hsame]
  constructor
  · rintro rfl
    exact hrate
  · exact honce a.place

/-- **Throttles that are stacked on one command count independently**, if they are declared with different rates.
    Whatever a session goes through, with the clock not going backwards: a throttle whose rate the command declares
    nowhere else decides about the calls that reach it as a throttle of its own would that only gets these calls.
    In particular it allows the first one. -/
theorem stacked_throttles_separate {config : Config} {start : Start} {gates : GateFactory}
    {commands : List (Descriptor × Builtin.Body)} {s₀ : Session} (hgates : gates.Sparing)
    (hcommands : ∀ d ∈ commands, Builtin.Body.Sparing d.2 ∧ Declaration.IsNamed ⟨d.1, d.2⟩)
    (hstart : startWith config start gates commands = .ok s₀) {moves : List Move}
    (htimes : (moves.filterMap Move.clock?).Pairwise (· ≤ ·)) {command : Command}
    (hcommand : command ∈ s₀.bot.registry.commands) {place : Nat} {r : Rate}
    (hrate : command.descriptor.rate? place = some r)
    (honce : ∀ place', command.descriptor.rate? place' = some r → place' = place) :
    let asked := (s₀.askings moves).filter (Gate.Asking.isAt command.name place)
    (∀ a ∈ asked, a.gate = r.gate) ∧
    asked.map (fun a => a.decision r) = (Throttle.run (asked.map fun a => a.op r) ∅).map Prod.snd ∧
    ∀ d ∈ (asked.map fun a => a.decision r).head?, d = some (.allowed (r.limit - 1)) := by
  intro asked
  obtain ⟨hbot, hempty⟩ := sparing_of_startWith hgates hcommands hstart
  have hasked : asked = (s₀.askings moves).filter (Gate.Asking.hasRate command.name r) :=
    filter_isAt hbot hcommand hrate honce moves
  have hrecorded := recorded_moveAll hbot moves
  rw [hempty] at hrecorded
  have halone := hrecorded.alone (sorted_throttleOps hbot htimes) command.name r
  rw [← hasked] at halone
  refine ⟨?gate, ?alone, ?first⟩
  case gate =>
    intro a ha
    rw [hasked] at ha
    obtain ⟨hmem, hhas⟩ := List.mem_filter.mp ha
    have hr : a.context.command.rate? a.place = some r := (of_decide_eq_true hhas).2
    exact (of_mem_askings hbot hmem).2.eq_gate hr
  case alone =>
    rw [← halone, List.map_map]
    rfl
  case first =>
    have hpos := (Descriptor.rate?_pos hrate).1
    cases hlist : asked with
    | nil => exact nofun
    | cons a later =>
        rw [hlist] at halone
        have hfirst := (List.cons.inj halone).1
        rintro d hd
        obtain rfl := Option.some.inj hd
        exact (Prod.mk.inj hfirst).2.trans (Throttle.acquire_empty _ hpos)

/-- A command with two throttles of different rates. -/
def layered : Descriptor × Builtin.Body :=
  (.declare "ping" .utility [] "" [] ["throttle:user,1,5", "throttle:channel,5,60"],
    Script.body [.say .info "pong" none])

/-- The second call does not get past the first throttle. -/
def layeredMoves : List Move :=
  [.dispatch pingCall ⟨0, 0⟩, .dispatch pingCall ⟨Clock.seconds 1, 0⟩, .sweep (Clock.seconds 5),
    .dispatch pingCall ⟨Clock.seconds 5, 0⟩]

theorem sparing_layered : ∀ d ∈ [layered], Builtin.Body.Sparing d.2 ∧ Declaration.IsNamed ⟨d.1, d.2⟩ := by
  intro d hd
  rw [List.mem_singleton.mp hd]
  exact ⟨World.sparing_frame.script _, Declaration.isNamed_declare ..⟩

theorem stacked_throttles_separate_layered : ∃ s₀,
    startWith (configOf "!") ⟨0, ""⟩ (factory (configOf "!")) [layered] = .ok s₀ ∧
    (layeredMoves.filterMap Move.clock?).Pairwise (· ≤ ·) ∧
    layered.1.rate? 1 = some ⟨.channel, 5, 60⟩ ∧
    ((s₀.askings layeredMoves).filter (Gate.Asking.isAt "ping" 1)).map (fun a => a.decision ⟨.channel, 5, 60⟩)
      = (Throttle.run (((s₀.askings layeredMoves).filter (Gate.Asking.isAt "ping" 1)).map
          fun a => a.op ⟨.channel, 5, 60⟩) ∅).map Prod.snd ∧
    (s₀.askings layeredMoves).length = 5 := by
  have hrate : layered.1.rate? 1 = some ⟨.channel, 5, 60⟩ := by decide +kernel
  have hother : layered.1.rate? 0 ≠ some ⟨.channel, 5, 60⟩ := by decide +kernel
  obtain ⟨s₀, hs, hfacts⟩ : ∃ s₀,
      startWith (configOf "!") ⟨0, ""⟩ (factory (configOf "!")) [layered] = .ok s₀ ∧
      ((s₀.bot.registry.commands.find? fun c => c.name = "ping").map Command.descriptor,
        (s₀.askings layeredMoves).length) = (some layered.1, 5) :=
    exists_of_toOption_map (by rw [startWith_eq]; decide +kernel)
  obtain ⟨hfound, hlength⟩ := Prod.mk.inj hfacts
  obtain ⟨command, hfind, hdescriptor⟩ := Option.map_eq_some_iff.mp hfound
  have htimes : (layeredMoves.filterMap Move.clock?).Pairwise (· ≤ ·) := by decide
  have honce : ∀ place', command.descriptor.rate? place' = some ⟨.channel, 5, 60⟩ → place' = 1 := by
    intro place' hplace
    rw [hdescriptor] at hplace
    match place' with
    | 0 => exact absurd hplace hother
    | 1 => rfl
    | n + 2 => cases hplace
  have hseparate := stacked_throttles_separate (sparing_factory _) sparing_layered hs htimes
    (List.mem_of_find?_eq_some hfind) (hdescriptor ▸ hrate) honce
  have hname : command.name = "ping" := congrArg Descriptor.name hdescriptor
  rw [hname] at hseparate
  exact ⟨s₀, hs, htimes, hrate, hseparate.2.1, hlength⟩

/-- A command that declares one rate twice. -/
def twinThrottles : Descriptor × Builtin.Body :=
  (.declare "ping" .utility [] "" [] ["throttle:user,1,60", "throttle:user,1,60"],
    Script.body [.say .info "pong" none])

/-- **Throttles of the same rate count together.** The very first call of the command is rejected by the second
    one, which alone would have allowed it. -/
theorem equal_throttles_share :
    let s₀ := (startWith (configOf "!") ⟨0, ""⟩ (factory (configOf "!")) [twinThrottles]).toOption
    let r : Rate := ⟨.user, 1, 60⟩
    s₀.map (fun s => (s.process pingCall ⟨0, 0⟩).1) = some .rejected ∧
    s₀.map (fun s => (s.askings [.dispatch pingCall ⟨0, 0⟩]).map fun a => (a.place, a.decision r))
      = some [(0, some (.allowed 0)), (1, some (.denied (Clock.seconds 60) true))] ∧
    s₀.map (fun s => (s.askings [.dispatch pingCall ⟨0, 0⟩]).map fun a =>
        (a.place, (Throttle.run [a.op r] ∅).map Prod.snd))
      = some [(0, [some (.allowed 0)]), (1, [some (.allowed 0)])] := by
  rw [startWith_eq]
  decide +kernel

end Session

end Gatehouse
