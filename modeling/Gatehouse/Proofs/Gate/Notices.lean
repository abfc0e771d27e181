import Gatehouse.Proofs.Gate.Askings
import Gatehouse.Proofs.Gate.Verdicts

/-!
# `Gatehouse.Proofs.Gate.Notices` — what gates tell callers

A built-in gate that lets a call through queues nothing, and one that halts it queues one notice that says why
(`Gate.IsBuiltin.notifies`). Only a throttle can halt a call without a word, where its bucket has denied a call of the
window before (`Rate.Spent`).
-/

namespace Gatehouse

/-- The posting is an error to the channel that disappears after some time. -/
structure Posting.IsNotice (p : Posting) (channel : ChannelId) : Prop where
  channel : p.channel = channel
  tone : p.notice.tone = .error
  deleteAfter : p.deleteAfter.isSome = true

theorem Context.isNotice_posting (c : Context) (text : String) (secs : Nat) :
    (c.posting .error text (some secs)).IsNotice c.channel :=
  ⟨rfl, rfl, rfl⟩

/-- The bucket of the rate has denied a call in the window that a call made now belongs to. -/
def Rate.Spent (r : Rate) (c : Context) (w : World) : Prop :=
  (w.throttle.bucketAt (r.key c) c.moment.clock).notified = true

/-- The gate is a throttle that finds its bucket marked so. -/
def Gate.Asking.Marked (a : Gate.Asking) : Prop :=
  ∃ r, a.rate? = some r ∧ r.Spent a.context a.world

namespace Gate

/-- The gates that come with the bot. A throttle is given with its rate. -/
inductive IsBuiltin : Option Rate → Gate → Prop where
  | permission (level : Permission) : IsBuiltin none (.permission level)
  | require (target : RequireTarget) (wanted : Capabilities) : IsBuiltin none (.require target wanted)
  | throttle (r : Rate) : IsBuiltin (some r) r.gate
  | officialGuild (official : List GuildId) : IsBuiltin none (.officialGuild official)
  | guildOnly : IsBuiltin none .guildOnly
  | verified : IsBuiltin none .verified

/-- What a gate of the given rate, if it has one, queues with its decision. -/
inductive Notifies (r? : Option Rate) (c : Context) (w : World) : Except Panic Flow × World → Prop where
  | proceed {w'} : w'.outbox = w.outbox → Notifies r? c w (.ok .proceed, w')
  /-- It tells the caller why the call ends here. -/
  | told {p w'} : p.IsNotice c.channel → (∀ r, r? = some r → ¬ r.Spent c w) → w'.outbox = w.outbox.push p →
      Notifies r? c w (.ok .halt, w')
  /-- It has told about the window before. -/
  | silent {r w'} : r? = some r → r.Spent c w → w'.outbox = w.outbox → Notifies r? c w (.ok .halt, w')
  | panic {p w'} : w'.outbox = w.outbox → Notifies r? c w (.error p, w')

variable {c : Context} {w w' : World} {g : Gate} {r? : Option Rate}

theorem Notifies.outbox_of_proceed {answer : Except Panic Flow × World} (h : Notifies r? c w answer)
    (hflow : answer.1 = .ok .proceed) : answer.2.outbox = w.outbox := by
  cases h with
  | proceed hsame => exact hsame
  | told _ _ _ => cases hflow
  | silent _ _ _ => cases hflow
  | panic _ => cases hflow

theorem Notifies.outbox_of_halt {a : Asking} (h : Notifies a.rate? a.context a.world (.ok .halt, w')) :
    a.Marked ∧ w'.outbox = a.world.outbox ∨
      ¬ a.Marked ∧ ∃ p : Posting, p.IsNotice a.context.channel ∧ w'.outbox = a.world.outbox.push p := by
  cases h with
  | told hnotice hfresh hpush => exact .inr ⟨fun ⟨r, hr, hspent⟩ => hfresh r hr hspent, _, hnotice, hpush⟩
  | silent hr hspent hsame => exact .inl ⟨⟨_, hr, hspent⟩, hsame⟩

theorem Notifies.outbox_of_panic {p : Panic} (h : Notifies r? c w (.error p, w')) : w'.outbox = w.outbox := by
  cases h with
  | panic hsame => exact hsame

/-- A gate that only looks at the context tells why it halts a call. -/
theorem notifies_verdict (p : Prop) [Decidable p] (text : String) (secs : Nat) :
    Notifies none c w (verdict p c text secs w) := by
  unfold verdict
  split
  · exact .proceed rfl
  · exact .told (c.isNotice_posting text secs) nofun rfl

/-- A call that is denied is the first one of its window if the bucket is not marked. -/
theorem first_of_denied {t : Throttle} {key : Throttle.Key} {now retryAfter : Nat} {first : Bool}
    (h : (t.acquire key now).1 = some (.denied retryAfter first)) : first = !(t.bucketAt key now).notified := by
  unfold Throttle.acquire at h
  dsimp only at h
  split at h
  · cases h
  · obtain ⟨ending, -, hdenied⟩ := Option.map_eq_some_iff.mp h
    exact (Throttle.Decision.denied.inj hdenied).2.symm

/-- A throttle tells about the first call of a window that it denies. -/
theorem notifies_throttle (r : Rate) : Notifies (some r) c w (r.gate.check c w) := by
  rw [Rate.gate, throttle_check, countIn_apply]
  show Notifies _ c w (throttleVerdict c (w.throttle.acquire (r.key c) c.moment.clock).1 _)
  cases hdecision : (w.throttle.acquire (r.key c) c.moment.clock).1 with
  | none => exact .panic rfl
  | some decision =>
      cases decision with
      | allowed remaining => exact .proceed rfl
      | denied retryAfter first =>
          have hfirst := first_of_denied hdecision
          cases first with
          | true =>
              refine .told (c.isNotice_posting _ _) (fun r' hr' hspent => ?_) rfl
              cases hr'
              rw [Rate.Spent] at hspent
              rw [hspent] at hfirst
              cases hfirst
          | false =>
              refine .silent rfl ?_ rfl
              rw [Rate.Spent]
              simpa using hfirst.symm

/-- A built-in gate is a throttle or, if the platform answers, only looks at the context. -/
theorem IsBuiltin.eq_gate_or_verdict (h : g.IsBuiltin r?) (hanswers : w.queriesLeft = none) :
    (∃ r, r? = some r ∧ g = r.gate) ∨
      r? = none ∧ ∃ (p : Prop) (_ : Decidable p) (text : String) (secs : Nat), g.check c w = verdict p c text secs w := by
  cases h with
  | permission level => exact .inr ⟨rfl, _, inferInstance, _, _, permission_check level⟩
  | require target wanted =>
      cases target with
      | user => exact .inr ⟨rfl, _, inferInstance, _, _, requireUser_check wanted⟩
      | bot =>
          cases hguild : c.message.isGuildMessage with
          | false => exact .inr ⟨rfl, True, inferInstance, "", 0, requireBot_check_direct wanted hguild⟩
          | true =>
              have hquery : w.query c.channel = (.ok (w.console.capabilities c.channel), w) := by
                rw [World.query, hanswers]
              exact .inr ⟨rfl, _, inferInstance, _, _, requireBot_check_answered wanted hguild hquery⟩
  | throttle r => exact .inl ⟨r, rfl, rfl⟩
  | officialGuild official => exact .inr ⟨rfl, _, inferInstance, _, _, officialGuild_check official⟩
  | guildOnly => exact .inr ⟨rfl, _, inferInstance, _, _, guildOnly_check⟩
  | verified => exact .inr ⟨rfl, _, inferInstance, _, _, verified_check⟩

/-- **What a built-in gate queues**, if the platform answers. -/
theorem IsBuiltin.notifies (h : g.IsBuiltin r?) (hanswers : w.queriesLeft = none) : Notifies r? c w (g.check c w) := by
  rcases h.eq_gate_or_verdict (c := c) hanswers with ⟨r, rfl, rfl⟩ | ⟨rfl, p, _, text, secs, hcheck⟩
  · exact notifies_throttle r
  · rw [hcheck]
    exact notifies_verdict p text secs

/-- After it the platform still answers. -/
theorem IsBuiltin.queriesLeft_check (h : g.IsBuiltin r?) (hanswers : w.queriesLeft = none) :
    (g.check c w).2.queriesLeft = none := by
  rcases h.eq_gate_or_verdict (c := c) hanswers with ⟨r, -, rfl⟩ | ⟨-, p, _, text, secs, hcheck⟩
  · rw [Rate.gate, throttle_check, countIn_apply]
    show (throttleVerdict c (w.throttle.acquire (r.key c) c.moment.clock).1 _).2.queriesLeft = none
    rcases (w.throttle.acquire (r.key c) c.moment.clock).1 with _ | _ | ⟨retryAfter, _ | _⟩
    all_goals exact hanswers
  · rw [hcheck, verdict]
    split
    all_goals exact hanswers

/-! ## Gates one after the other -/

variable {gates : List Gate} {place : Nat} {a : Asking}

/-- Each gate is a built-in one, a throttle exactly where the command declares one. -/
def AreBuiltin (d : Descriptor) (place : Nat) (gates : List Gate) : Prop :=
  ∀ x ∈ gates.zipIdx place, x.1.IsBuiltin (d.rate? x.2)

theorem AreBuiltin.isBuiltin (h : AreBuiltin c.command place gates) (ha : a ∈ askings c place gates w) :
    a.gate.IsBuiltin a.rate? := by
  obtain ⟨hcontext, hmem⟩ := mem_of_mem_askings ha
  have hgate := h _ hmem
  rwa [← hcontext] at hgate

/-- **Gates queue nothing before the last one that is asked.** The world that each is asked in has the same queue. -/
theorem AreBuiltin.untouched (h : AreBuiltin c.command place gates) (hanswers : w.queriesLeft = none)
    (ha : a ∈ askings c place gates w) : a.world.outbox = w.outbox ∧ a.world.queriesLeft = none := by
  induction gates generalizing place w with
  | nil => cases ha
  | cons g gates ih =>
      rw [AreBuiltin, List.zipIdx_cons, List.forall_mem_cons] at h
      have hnotifies := h.1.notifies (c := c) hanswers
      have hleft := h.1.queriesLeft_check (c := c) hanswers
      rw [askings] at ha
      rcases List.mem_cons.mp ha with rfl | ha
      · exact ⟨rfl, hanswers⟩
      · rcases hg : g.check c w with ⟨p | flow, w₁⟩
        · rw [hg] at ha
          cases ha
        · rw [hg] at ha hnotifies hleft
          cases flow with
          | halt => cases ha
          | proceed =>
              obtain ⟨houtbox, hanswers'⟩ := ih h.2 hleft ha
              cases hnotifies with
              | proceed hsame => exact ⟨houtbox.trans hsame, hanswers'⟩

/-- Gates that let the call through have queued nothing. -/
theorem AreBuiltin.outbox_of_passed (h : AreBuiltin c.command place gates) (hanswers : w.queriesLeft = none)
    (hpassed : runAll c gates w = (.ok none, w')) : w'.outbox = w.outbox := by
  induction gates generalizing place w with
  | nil =>
      cases hpassed
      rfl
  | cons g gates ih =>
      rw [AreBuiltin, List.zipIdx_cons, List.forall_mem_cons] at h
      have hnotifies := h.1.notifies (c := c) hanswers
      have hleft := h.1.queriesLeft_check (c := c) hanswers
      obtain ⟨w₁, hg, hrest⟩ := runAll_cons_eq_none_iff.mp hpassed
      rw [hg] at hnotifies hleft
      cases hnotifies with
      | proceed hsame => exact (ih h.2 hleft hrest).trans hsame

end Gate

end Gatehouse
