import Gatehouse.Proofs.Command.Frames

/-!
# `Gatehouse.Proofs.Command.Conduct` — what gates and bodies do to the world

Gates and bodies can do many things, but there is a frame for all of them (`World.Conduct`): what the bot may do
stays as it is, the platform does not stop answering, and whatever is queued is meant for the channel that the
call came from. Throttles stay within it as well; so it holds of every gate and every command that comes with the
bot, of probes and of scripts (`Gate.Mannered`, `Builtin.Body.Mannered`), and of calls of commands that are made of
such (`Command.Mannered.run`).
-/

namespace Gatehouse

/-! ## The frame -/

/-- What may become of the world `w` by acts in a channel. -/
structure World.Conduct (channel : ChannelId) (w w' : World) : Prop where
  /-- The bot may do what it could do before. -/
  capabilities : ∀ id, w'.console.capabilities id = w.console.capabilities id
  /-- A platform that answers every question still does. -/
  queries : w.queriesLeft = none → w'.queriesLeft = none
  /-- Messages were queued, all of them to the channel, and nothing else happened to the outbox. -/
  outbox : ∃ postings : List Posting, (∀ p ∈ postings, p.channel = channel) ∧
    w'.outbox = postings.foldl Outbox.push w.outbox

namespace World.Conduct

variable {channel : ChannelId} {w w' w'' : World}

theorem refl (channel : ChannelId) (w : World) : w.Conduct channel w where
  capabilities _ := rfl
  queries h := h
  outbox := ⟨[], nofun, rfl⟩

theorem trans (h : w.Conduct channel w') (h' : w'.Conduct channel w'') : w.Conduct channel w'' where
  capabilities id := (h'.capabilities id).trans (h.capabilities id)
  queries hq := h'.queries (h.queries hq)
  outbox := by
    obtain ⟨postings, hchannel, houtbox⟩ := h.outbox
    obtain ⟨postings', hchannel', houtbox'⟩ := h'.outbox
    refine ⟨postings ++ postings', ?_, ?_⟩
    · intro p hp
      rcases List.mem_append.mp hp with hp | hp
      · exact hchannel p hp
      · exact hchannel' p hp
    · rw [houtbox', houtbox, List.foldl_append]

/-- A message to the channel may be queued. -/
theorem push (w : World) {p : Posting} (hp : p.channel = channel) : w.Conduct channel (w.push p) where
  capabilities _ := rfl
  queries h := h
  outbox := by
    refine ⟨[p], ?_, rfl⟩
    intro p' hp'
    rw [List.mem_singleton.mp hp']
    exact hp

/-- The platform may be asked. -/
theorem query (channel : ChannelId) (w : World) (id : ChannelId) : w.Conduct channel (w.query id).2 := by
  rw [World.query_snd]
  refine ⟨fun _ => rfl, fun hnone => ?_, ⟨[], nofun, rfl⟩⟩
  show w.queriesLeft.map Nat.pred = none
  rw [hnone]
  rfl

/-- Anything may happen to the throttles and the notes. -/
theorem change (channel : ChannelId) (w : World) (throttle : Throttle) (journal : List Json) :
    w.Conduct channel { w with throttle, journal } where
  capabilities _ := rfl
  queries h := h
  outbox := ⟨[], nofun, rfl⟩

/-- Anything may happen to the console that changes nothing in what the bot may do. -/
theorem console (channel : ChannelId) (w : World) {console : Console}
    (h : ∀ id, console.capabilities id = w.console.capabilities id) :
    w.Conduct channel { w with console } where
  capabilities := h
  queries h := h
  outbox := ⟨[], nofun, rfl⟩

end World.Conduct

/-- It is a frame. -/
theorem World.Conduct.frame : World.Frame World.Conduct where
  refl := refl
  trans := trans
  push w _ := push w rfl
  query channel w id := query channel w id
  note channel w _ := change channel w w.throttle _
  console channel w _ := console channel w

/-! ## Acts and gates -/

/-- Whatever the world, the act stays within the frame. -/
def Act.Keeps {ε α : Type} (channel : ChannelId) (act : Act ε α) : Prop :=
  ∀ w : World, w.Conduct channel (act w).2

namespace Gate

/-- Whoever calls, the gate stays within the frame. -/
def Mannered (g : Gate) : Prop :=
  ∀ c, Act.Keeps c.channel (g.check c)

theorem mannered_throttle (scope : Throttle.Scope) (limit window : Nat) :
    (throttle scope limit window).Mannered := by
  intro c w
  rw [throttle_check, countIn_apply]
  have hcounted := World.Conduct.change c.channel w
    (w.throttle.acquire (throttleKey c scope limit window) c.moment.clock).2 w.journal
  exact hcounted.trans (World.Conduct.frame.throttleVerdict c _ _)

end Gate

namespace GateFactory

/-- Every custom gate that can be declared stays within the frame. -/
def Mannered (f : GateFactory) : Prop :=
  ∀ name builder args gate, f.custom.get? name = some builder → builder args = .ok gate → gate.Mannered

theorem mannered_ofGuilds (official : List GuildId) : (ofGuilds official).Mannered :=
  World.Frame.ofGuilds World.Conduct official

theorem Mannered.withVerified {f : GateFactory} (h : f.Mannered) : f.withVerified.Mannered :=
  World.Conduct.frame.withVerified h

theorem Mannered.withProbes {f : GateFactory} (h : f.Mannered) : f.withProbes.Mannered :=
  World.Conduct.frame.withProbes h

/-- Whatever is declared, the gate stays within the frame. -/
theorem Mannered.build {f : GateFactory} (h : f.Mannered) {command spec : String} {gate : Gate}
    (hgate : f.build command spec = .ok gate) : gate.Mannered := by
  rcases World.Conduct.frame.build h hgate with ⟨scope, limit, window, -, rfl⟩ | ⟨-, hwithin⟩
  · exact Gate.mannered_throttle scope limit window
  · exact hwithin

theorem Mannered.buildAll {f : GateFactory} (h : f.Mannered) {command : String} {specs : List String}
    {gates : List Gate} (hgates : f.buildAll command specs = .ok gates) : ∀ g ∈ gates, g.Mannered := by
  rw [buildAll_eq_ok_iff] at hgates
  induction hgates with
  | nil => exact nofun
  | cons hgate _ ih =>
      intro g hg
      rcases List.mem_cons.mp hg with rfl | hg
      · exact h.build hgate
      · exact ih g hg

end GateFactory

/-! ## Bodies -/

namespace Builtin

/-- Whoever calls, the body stays within the frame. -/
def Body.Mannered (body : Body) : Prop :=
  ∀ c, Act.Keeps c.channel (body c)

/-- **Every command that comes with the bot stays within the frame.** -/
theorem mannered_all (start : Start) : ∀ d ∈ all start, Body.Mannered d.2 :=
  World.Conduct.frame.all start

end Builtin

/-- A script stays within the frame. -/
theorem Script.mannered_body (script : List Instruction) : Builtin.Body.Mannered (Script.body script) :=
  World.Conduct.frame.script script

/-! ## Commands -/

/-- The gates and the body of a command stay within the frame. -/
structure Command.Mannered (command : Command) : Prop where
  gates : ∀ g ∈ command.gates, g.Mannered
  body : Builtin.Body.Mannered command.body

/-- **A call stays within the frame.** -/
theorem Command.Mannered.run {command : Command} (h : command.Mannered) (c : Context) :
    Act.Keeps c.channel (command.run c) := by
  have hgates := World.Conduct.frame.runAll h.gates c
  refine World.Conduct.frame.bind (World.Frame.ofPanicking hgates) fun halted => ?_
  cases halted with
  | some gate => exact World.Conduct.frame.pure c.channel _
  | none => exact World.Conduct.frame.bind (h.body c) fun _ => World.Conduct.frame.pure c.channel _

namespace Registry

/-- Every command that can be called stays within the frame. -/
def Mannered (r : Registry) : Prop :=
  ∀ trigger command, r.resolve? trigger = some command → command.Mannered

theorem mannered_empty : (∅ : Registry).Mannered := by
  intro trigger command h
  cases h

theorem Mannered.register {r r' : Registry} (h : r.Mannered) {f : GateFactory} (hf : f.Mannered)
    {d : Descriptor} {body : Builtin.Body} (hbody : Builtin.Body.Mannered body)
    (hr : r.register f d body = .ok r') : r'.Mannered := by
  obtain ⟨-, -, gates, hgates, rfl⟩ := register_eq_ok_iff.mp hr
  intro trigger command hresolve
  have hget : (r.add ⟨d, gates, body⟩).index.get? (Text.lowercased trigger) = some command := hresolve
  rw [get?_add] at hget
  split at hget
  · obtain rfl := Option.some.inj hget
    exact ⟨hf.buildAll hgates, hbody⟩
  · exact h trigger command hget

/-- **Registered commands stay within the frame** if all that they are made of does. -/
theorem Mannered.registerAll {r r' : Registry} (h : r.Mannered) {f : GateFactory} (hf : f.Mannered)
    {ds : List (Descriptor × Builtin.Body)} (hbodies : ∀ d ∈ ds, Builtin.Body.Mannered d.2)
    (hr : Registry.registerAll f ds r = .ok r') : r'.Mannered := by
  induction ds generalizing r with
  | nil =>
      obtain rfl := Except.ok.inj hr
      exact h
  | cons d ds ih =>
      unfold Registry.registerAll at hr
      split at hr
      · next r₁ hregister =>
          have hfirst := h.register hf (hbodies d List.mem_cons_self) hregister
          exact ih hfirst (fun d' hd' => hbodies d' (List.mem_cons_of_mem d hd')) hr
      · cases hr

end Registry

end Gatehouse
