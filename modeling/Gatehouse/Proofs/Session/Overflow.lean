import Gatehouse.Proofs.Session.Stacking

/-!
# `Gatehouse.Proofs.Session.Overflow` — when a throttle cannot decide

A throttle that denies a call computes the end of the window. The clock cannot hold every time, so there can be no
decision about the call, and the gate panics. That happens exactly to calls beyond the limit in windows whose end
is out of reach (`Throttle.Agrees.decision`). No such window opens if the rate is one that the clock can hold from
now on, and then every call that a throttle does not let through is rejected (`Session.throttles_decide`). But
declarations are accepted with windows of any length (`Session.endless_window_panics`).
-/

namespace Gatehouse

namespace Throttle

variable {t : Throttle} {key : Key} {f? : Option Frame} {now : Nat}

/-- **When there is no decision.** The bucket that a call meets has not counted beyond the limit, and its window is
    not in the future. There is no decision exactly if it is full and the clock cannot hold the end of its
    window. -/
theorem Agrees.decision (h : Agrees t key now f?) :
    (t.bucketAt key now).count ≤ key.limit ∧ (t.bucketAt key now).start ≤ now ∧
    ((t.acquire key now).1 = none ↔
      (t.bucketAt key now).count = key.limit ∧
        Clock.limit ≤ (t.bucketAt key now).start + key.window) := by
  obtain ⟨hstart, hcalls⟩ := h.enter
  rw [h.bucketAt, h.acquire.1]
  generalize key.enter now f? = f at *
  simp only [Key.bucket, Key.decided]
  refine ⟨Nat.min_le_right _ _, hstart, ?_⟩
  by_cases hdecided : f.calls ≤ key.limit ∨ f.start + key.window < Clock.limit
  · rw [if_pos hdecided]
    refine ⟨fun h => absurd h (Option.some_ne_none _), ?_⟩
    rintro ⟨hfull, hend⟩
    omega
  · rw [if_neg hdecided]
    refine ⟨fun _ => ?_, fun _ => rfl⟩
    omega

end Throttle

namespace Gate

variable {c : Context} {w : World} {r : Rate}

/-- The gate of a rate lets a call through that its throttle allows. -/
theorem check_of_allowed {remaining : Nat}
    (h : (w.throttle.acquire (r.key c) c.moment.clock).1 = some (.allowed remaining)) :
    (r.gate.check c w).1 = .ok .proceed := by
  rw [Rate.gate, throttle_check, countIn_apply]
  show (throttleVerdict c (w.throttle.acquire (r.key c) c.moment.clock).1 _).1 = _
  rw [h]
  rfl

/-- It halts a call that is denied, whether or not the caller is told. -/
theorem check_of_denied {retryAfter : Nat} {first : Bool}
    (h : (w.throttle.acquire (r.key c) c.moment.clock).1 = some (.denied retryAfter first)) :
    (r.gate.check c w).1 = .ok .halt := by
  rw [Rate.gate, throttle_check, countIn_apply]
  show (throttleVerdict c (w.throttle.acquire (r.key c) c.moment.clock).1 _).1 = _
  rw [h]
  cases first <;> rfl

end Gate

namespace Session

/-- **Throttles decide.** Let a throttle be asked about a message, in whatever a session has become with the clock
    not going backwards. The bucket has not counted beyond the limit. There is no decision exactly if the bucket is
    full and the clock cannot hold the end of its window. If the clock can hold a window that opens now, the
    throttle lets the call through or denies it, and then the message is rejected. -/
theorem throttles_decide {config : Config} {start : Start} {gates : GateFactory}
    {commands : List (Descriptor × Builtin.Body)} {s₀ : Session} (hgates : gates.Sparing)
    (hcommands : ∀ d ∈ commands, Builtin.Body.Sparing d.2 ∧ Declaration.IsNamed ⟨d.1, d.2⟩)
    (hstart : startWith config start gates commands = .ok s₀) {before : List Move} {m : Message}
    {moment : Moment} (htimes : ((before ++ [Move.dispatch m moment]).filterMap Move.clock?).Pairwise (· ≤ ·))
    {a : Gate.Asking} (ha : a ∈ (s₀.moveAll before).asked (.dispatch m moment)) {r : Rate}
    (hr : a.rate? = some r) :
    let bucket := a.world.throttle.bucketAt (r.key a.context) moment.clock
    bucket.count ≤ r.limit ∧ bucket.start ≤ moment.clock ∧
    (a.decision r = none ↔
      bucket.count = r.limit ∧ Clock.limit ≤ bucket.start + Clock.seconds r.window) ∧
    (moment.clock + Clock.seconds r.window < Clock.limit →
      (∃ remaining, a.decision r = some (.allowed remaining) ∧
        (a.gate.check a.context a.world).1 = .ok .proceed) ∨
      (∃ retryAfter first, a.decision r = some (.denied retryAfter first) ∧
        ((s₀.moveAll before).process m moment).1 = .rejected)) := by
  intro bucket
  obtain ⟨hbot, hnew⟩ := sparing_of_startWith hgates hcommands hstart
  obtain ⟨f?, hagrees⟩ := agrees_of_mem_asked hbot hnew htimes ha hr
  have hbot' : (s₀.moveAll before).bot.registry.Sparing := (s₀.bot_moveAll before).symm ▸ hbot
  obtain ⟨-, hfits, rfl⟩ := Bot.of_mem_askings hbot' ha
  have hgate : a.gate = r.gate := hfits.eq_gate hr
  obtain ⟨hcount, hopen, hnone⟩ := hagrees.decision
  refine ⟨hcount, hopen, hnone, fun hreach => ?_⟩
  cases hd : a.decision r with
  | none =>
      have hend : Clock.limit ≤ bucket.start + Clock.seconds r.window := (hnone.mp hd).2
      have hstart : bucket.start ≤ a.context.moment.clock := hopen
      omega
  | some d =>
      cases d with
      | allowed remaining =>
          refine .inl ⟨remaining, rfl, ?_⟩
          rw [hgate]
          exact Gate.check_of_allowed hd
      | denied retryAfter first =>
          refine .inr ⟨retryAfter, first, rfl, ?_⟩
          refine Bot.rejected_of_mem_askings ha ?_
          rw [hgate]
          exact Gate.check_of_denied hd

theorem throttles_decide_layered : ∃ s₀ a,
    startWith (configOf "!") ⟨0, ""⟩ (factory (configOf "!")) [layered] = .ok s₀ ∧
    a ∈ (s₀.moveAll [.dispatch pingCall ⟨0, 0⟩]).asked (.dispatch pingCall ⟨Clock.seconds 1, 0⟩) ∧
    a.rate? = some ⟨.user, 1, 5⟩ ∧
    Clock.seconds 1 + Clock.seconds 5 < Clock.limit ∧
    a.decision ⟨.user, 1, 5⟩ = some (.denied (Clock.seconds 4) true) ∧
    ((s₀.moveAll [.dispatch pingCall ⟨0, 0⟩]).process pingCall ⟨Clock.seconds 1, 0⟩).1 = .rejected := by
  obtain ⟨s₀, hs, hfacts⟩ : ∃ s₀,
      startWith (configOf "!") ⟨0, ""⟩ (factory (configOf "!")) [layered] = .ok s₀ ∧
      ((s₀.moveAll [.dispatch pingCall ⟨0, 0⟩]).asked (.dispatch pingCall ⟨Clock.seconds 1, 0⟩)).head?.map
          (fun a => (a.rate?, a.decision ⟨.user, 1, 5⟩))
        = some (some ⟨.user, 1, 5⟩, some (.denied (Clock.seconds 4) true)) :=
    exists_of_toOption_map (by rw [startWith_eq]; decide +kernel)
  obtain ⟨a, hhead, hasked⟩ := Option.map_eq_some_iff.mp hfacts
  obtain ⟨hr, hd⟩ := Prod.mk.inj hasked
  have ha := List.mem_of_head? hhead
  have hreach : Clock.seconds 1 + Clock.seconds 5 < Clock.limit := by decide
  obtain ⟨-, -, -, hdecides⟩ := throttles_decide (sparing_factory _) sparing_layered hs (by decide) ha hr
  rcases hdecides hreach with ⟨remaining, hallowed, -⟩ | ⟨retryAfter, first, -, hrejected⟩
  · cases hd.symm.trans hallowed
  · exact ⟨s₀, a, hs, ha, hr, hreach, hd, hrejected⟩

/-- A command with a throttle whose window is longer than the clock can count. -/
def endless : Descriptor × Builtin.Body :=
  (.declare "ping" .utility [] "" [] ["throttle:user,1,18446744073709551615"],
    Script.body [.say .info "pong" none])

/-- **Windows that no clock can hold are accepted.** The second call of the command is beyond the limit. It is not
    rejected, but fails: there is no decision, and the gate panics. -/
theorem endless_window_panics :
    let s₀ := (startWith (configOf "!") ⟨0, ""⟩ (factory (configOf "!")) [endless]).toOption
    let s₁ := s₀.map fun s => s.moveAll [.dispatch pingCall ⟨0, 0⟩]
    GateSpec.parse "throttle:user,1,18446744073709551615" = .ok (.throttle .user 1 18446744073709551615) ∧
    s₀.map (fun s => (s.process pingCall ⟨0, 0⟩).1) = some .completed ∧
    s₁.map (fun s => (s.asked (.dispatch pingCall ⟨1, 0⟩)).map fun a =>
      a.decision ⟨.user, 1, 18446744073709551615⟩) = some [none] ∧
    s₁.map (fun s => (s.process pingCall ⟨1, 0⟩).1) = some .failed := by
  rw [startWith_eq]
  decide +kernel

end Session

end Gatehouse
