import Gatehouse.Gate.Builtin

/-!
# `Gatehouse.Proofs.Gate.Verdicts` — when the built-in gates let a call through

A gate that only looks at the context either lets the call through and leaves the world alone, or halts it
and queues one message that says why (`Gate.verdict`). All built-in gates but the throttle are of this form;
the one that asks for capabilities of the bot has to ask the platform first, and halts without a word if it
does not answer.
-/

namespace Gatehouse.Gate

variable {c : Context} {w w' : World}

/-- The decision of a gate that lets a call through if `p`, and otherwise tells the caller why not. -/
def verdict (p : Prop) [Decidable p] (c : Context) (text : String) (secs : Nat) (w : World) :
    Except Panic Flow × World :=
  if p then (.ok .proceed, w) else (.ok .halt, w.push (c.posting .error text (some secs)))

/-- A gate that lets a call through has left the world alone. -/
theorem verdict_eq_proceed_iff {p : Prop} [Decidable p] {text : String} {secs : Nat} :
    verdict p c text secs w = (.ok .proceed, w') ↔ p ∧ w' = w := by
  unfold verdict
  by_cases h : p
  · rw [if_pos h, Prod.mk.injEq]
    exact ⟨fun he => ⟨h, he.2.symm⟩, fun he => ⟨rfl, he.2.symm⟩⟩
  · rw [if_neg h]
    exact ⟨nofun, fun he => absurd he.1 h⟩

theorem verdict_congr {p q : Prop} [Decidable p] [Decidable q] (h : p ↔ q) (c : Context) (text : String)
    (secs : Nat) (w : World) : verdict p c text secs w = verdict q c text secs w := by
  unfold verdict
  by_cases hp : p
  · rw [if_pos hp, if_pos (h.mp hp)]
  · rw [if_neg hp, if_neg fun hq => hp (h.mpr hq)]

/-! ## The gates -/

theorem permission_check (level : Permission) :
    (permission level).check c w = verdict (level ≤ c.level) c
      (c.text "errors.missingPermissionLevel" [c.text level.key []]) c.services.feedback.error w := by
  show (if level ≤ c.level then _ else _ : Act Panic Flow) w = _
  unfold verdict
  split <;> rfl

theorem weigh_apply (key : String) (held wanted : Capabilities) :
    (weigh c key held wanted : Act Panic Flow) w = verdict ((held.missing wanted).isEmpty = true) c
      (c.text key [capabilityList (held.missing wanted)]) c.services.feedback.error w := by
  show (if (held.missing wanted).isEmpty = true then _ else _ : Act Panic Flow) w = _
  unfold verdict
  split <;> rfl

/-- What a member may do in the channel of a message. Who is no member may do nothing. -/
def heldByCaller (c : Context) : Capabilities :=
  (c.message.member.map Member.capabilities).getD ∅

theorem requireUser_check (wanted : Capabilities) :
    (requireUser wanted).check c w = verdict
      (c.message.isGuildMessage = false ∨ c.isBotAdmin = true ∨
        ((heldByCaller c).missing wanted).isEmpty = true)
      c (c.text "errors.missingUserCapability" [capabilityList ((heldByCaller c).missing wanted)])
      c.services.feedback.error w := by
  show (if (!c.message.isGuildMessage || c.isBotAdmin) = true then _ else _ : Act Panic Flow) w = _
  cases c.message.isGuildMessage with
  | false =>
      rw [verdict, if_pos (Or.inl rfl)]
      rfl
  | true =>
      cases c.isBotAdmin with
      | true =>
          rw [verdict, if_pos (Or.inr (Or.inl rfl))]
          rfl
      | false => exact (weigh_apply _ _ _).trans (verdict_congr (by simp [heldByCaller]) _ _ _ _)

/-- In a direct message the gate does not even ask the platform. -/
theorem requireBot_check_direct (wanted : Capabilities) (h : c.message.isGuildMessage = false) :
    (requireBot wanted).check c w = (.ok .proceed, w) := by
  show (if (!c.message.isGuildMessage) = true then _ else _ : Act Panic Flow) w = _
  rw [h]
  rfl

/-- In a guild it decides by the answer of the platform. -/
theorem requireBot_check_answered (wanted : Capabilities) (h : c.message.isGuildMessage = true)
    {held : Capabilities} (hquery : w.query c.channel = (.ok held, w')) :
    (requireBot wanted).check c w = verdict ((held.missing wanted).isEmpty = true) c
      (c.text "errors.missingBotCapability" [capabilityList (held.missing wanted)])
      c.services.feedback.error w' := by
  show (if (!c.message.isGuildMessage) = true then _ else _ : Act Panic Flow) w = _
  rw [h]
  show (Act.query c.channel >>= _) w = _
  rw [Stateful.bind_of_ok (Act.query_apply c.channel w), hquery]
  exact weigh_apply _ _ _

/-- Without an answer it halts the call without a word. -/
theorem requireBot_check_unanswered (wanted : Capabilities) (h : c.message.isGuildMessage = true)
    {e : PlatformError} (hquery : w.query c.channel = (.error e, w')) :
    (requireBot wanted).check c w = (.ok .halt, w') := by
  show (if (!c.message.isGuildMessage) = true then _ else _ : Act Panic Flow) w = _
  rw [h]
  show (Act.query c.channel >>= _) w = _
  rw [Stateful.bind_of_ok (Act.query_apply c.channel w), hquery]
  rfl

theorem officialGuild_check (official : List GuildId) :
    (officialGuild official).check c w = verdict
      (fromUnofficialGuild official c = false ∨ c.isBotAdmin = true) c
      (c.text "errors.notOfficialGuild" []) c.services.feedback.restriction w := by
  show (if (fromUnofficialGuild official c && !c.isBotAdmin) = true then _ else _ : Act Panic Flow) w = _
  unfold verdict
  cases fromUnofficialGuild official c <;> cases c.isBotAdmin <;> rfl

theorem guildOnly_check :
    guildOnly.check c w = verdict (c.message.isGuildMessage = true) c
      (c.text "errors.guildOnly" []) c.services.feedback.restriction w := by
  show (if c.message.isGuildMessage = true then _ else _ : Act Panic Flow) w = _
  unfold verdict
  split <;> rfl

theorem verified_check :
    verified.check c w = verdict (c.isBotAdmin = true ∨ c.isVerified = true) c
      (c.text "errors.notVerified" []) c.services.feedback.restriction w := by
  show (if (c.isBotAdmin || c.isVerified) = true then _ else _ : Act Panic Flow) w = _
  unfold verdict
  cases c.isBotAdmin <;> cases c.isVerified <;> rfl

/-- What a throttle makes of a call that counts in the bucket of `key`. -/
def countIn (c : Context) (key : Throttle.Key) : Act Panic Flow := do
  let decision ← Act.acquire key c.moment.clock
  throttleVerdict c decision

/-- The call is taken into the bucket first, whatever is decided about it. -/
theorem countIn_apply (key : Throttle.Key) :
    countIn c key w = throttleVerdict c (w.throttle.acquire key c.moment.clock).1
      { w with throttle := (w.throttle.acquire key c.moment.clock).2 } :=
  Stateful.bind_of_ok rfl

theorem throttle_check (scope : Throttle.Scope) (limit window : Nat) :
    (throttle scope limit window).check c w = countIn c (throttleKey c scope limit window) w := rfl

end Gatehouse.Gate
