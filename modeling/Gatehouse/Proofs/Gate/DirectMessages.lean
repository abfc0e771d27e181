import Gatehouse.Message.Wire
import Gatehouse.Proofs.Gate.Verdicts

/-!
# `Gatehouse.Proofs.Gate.DirectMessages` — what counts as a direct message

A message is a guild message if it comes with a guild and from a text channel (`Message.isGuildMessage`).
The gates that ask for capabilities or for a guild go by that. The gate for official guilds, the level of the
author and the limits by guild only look at the guild that comes with the message, and at the membership.

For messages that come without a guild all of them agree (`Gate.DirectTreatment`). A message from a direct
channel may come with a guild all the same; then the latter three go by that guild, and they agree with the
others for hardly any caller (`Gate.directTreatment_iff`, `Gate.treatment_of_not_guild_message`).
-/

namespace Gatehouse

/-- Without a guild nobody but bot administrators has privileges. -/
theorem Context.level_of_no_guild {c : Context} (h : c.message.guild = none) :
    c.level = if c.isBotAdmin then .botAdmin else .everyone := by
  rw [level, h]
  rfl

theorem Context.level_of_isBotAdmin {c : Context} (h : c.isBotAdmin = true) : c.level = .botAdmin := by
  unfold isBotAdmin at h
  simp only [level, Permission.resolve, if_pos h]

namespace Gate

variable {c : Context} {w : World}

/-! ## Gates that ask whether it is a guild message -/

theorem require_check_direct (h : c.message.isGuildMessage = false) (target : RequireTarget)
    (wanted : Capabilities) (w : World) : (require target wanted).check c w = (.ok .proceed, w) := by
  cases target with
  | user => exact (requireUser_check wanted).trans (verdict_eq_proceed_iff.mpr ⟨.inl h, rfl⟩)
  | bot => exact requireBot_check_direct wanted h

/-- What a caller is told where only guilds will do. -/
def guildOnlyNotice (c : Context) : Posting :=
  c.posting .error (c.text "errors.guildOnly" []) (some c.services.feedback.restriction)

/-- The gate for guilds halts exactly what is no guild message. -/
theorem guildOnly_check_eq_halt_iff :
    guildOnly.check c w = (.ok .halt, w.push (guildOnlyNotice c)) ↔ c.message.isGuildMessage = false := by
  rw [guildOnly_check, verdict, guildOnlyNotice]
  cases c.message.isGuildMessage with
  | false => exact iff_of_true rfl rfl
  | true =>
      refine iff_of_false (fun h => ?_) Bool.true_eq_false.mp
      cases h

/-! ## Gates that look at the guild -/

theorem fromUnofficialGuild_of_guild {guild : Guild} (h : c.message.guild = some guild)
    (official : List GuildId) : fromUnofficialGuild official c = !official.contains guild.id := by
  rw [fromUnofficialGuild, h]
  rfl

/-- The gate for official guilds lets a call through whichever guilds are official only if it comes without a
    guild, or from a bot administrator. -/
theorem officialGuild_check_eq_proceed_iff :
    (∀ official w, (officialGuild official).check c w = (.ok .proceed, w)) ↔
      c.message.guild = none ∨ c.isBotAdmin = true := by
  constructor
  · intro h
    -- No guild is on the empty list.
    obtain ⟨hplace | hadmin, -⟩ :=
      verdict_eq_proceed_iff.mp ((officialGuild_check []).symm.trans (h [] (.ofBot ⟨Id.ofNat 0, "", true⟩)))
    · left
      cases hguild : c.message.guild with
      | none => rfl
      | some guild => cases (fromUnofficialGuild_of_guild hguild []).symm.trans hplace
    · exact .inr hadmin
  · intro h official w
    refine (officialGuild_check official).trans (verdict_eq_proceed_iff.mpr ⟨h.imp_left fun hguild => ?_, rfl⟩)
    rw [fromUnofficialGuild, hguild]
    rfl

theorem throttleSubject_of_no_guild (h : c.message.guild = none) :
    throttleSubject c .guild = c.channel.val := by
  rw [throttleSubject, h]
  rfl

theorem throttleSubject_of_guild {guild : Guild} (h : c.message.guild = some guild) :
    throttleSubject c .guild = guild.id.val := by
  rw [throttleSubject, h]
  rfl

/-- A first call is let in, and its bucket is the only one there is. -/
theorem countIn_of_first {key : Throttle.Key} (hlimit : 0 < key.limit) (bot : User) :
    ∃ b, countIn c key (.ofBot bot) =
      (.ok .proceed, { World.ofBot bot with throttle := ⟨Table.empty.insert key b⟩ }) := by
  have hnew : (Throttle.empty.bucketAt key c.moment.clock).count = 0 := by
    unfold Throttle.bucketAt Throttle.Bucket.renewed
    split <;> rfl
  rw [countIn_apply]
  show ∃ b, throttleVerdict c (Throttle.empty.acquire key c.moment.clock).1 _ = _
  rw [show (World.ofBot bot).throttle = Throttle.empty from rfl, Throttle.acquire, if_pos (hnew ▸ hlimit)]
  exact ⟨_, rfl⟩

/-- Calls that come to the same count in the same bucket. -/
theorem key_eq_of_countIn_eq {key key' : Throttle.Key} (hlimit : 0 < key.limit) (hlimit' : 0 < key'.limit)
    (h : ∀ w, countIn c key w = countIn c key' w) : key = key' := by
  obtain ⟨b, hb⟩ := countIn_of_first (c := c) hlimit ⟨Id.ofNat 1, "", true⟩
  obtain ⟨b', hb'⟩ := countIn_of_first (c := c) hlimit' ⟨Id.ofNat 1, "", true⟩
  have hworld := congrArg Prod.snd (hb.symm.trans ((h _).trans hb'))
  have htable : (Table.empty.insert key b).get? key = (Table.empty.insert key' b').get? key :=
    congrArg (fun w : World => w.throttle.buckets.get? key) hworld
  rw [Table.get?_insert_self, Table.get?_insert] at htable
  by_cases hkey : key = key'
  · exact hkey
  · rw [if_neg hkey] at htable
    cases htable

/-! ## All of them together -/

/-- The bucket that a call in a direct message counts in where there is a limit by guild. -/
def directKey (c : Context) (limit window : Nat) : Throttle.Key :=
  ⟨.guild, c.channel.val, c.command.name, limit, Clock.seconds window⟩

/-- What is made of a direct message by everything that tells direct messages from those of guilds. -/
structure DirectTreatment (c : Context) : Prop where
  require : ∀ target wanted w, (Gate.require target wanted).check c w = (.ok .proceed, w)
  guildOnly : ∀ w, Gate.guildOnly.check c w = (.ok .halt, w.push (guildOnlyNotice c))
  officialGuild : ∀ official w, (Gate.officialGuild official).check c w = (.ok .proceed, w)
  level : c.level = if c.isBotAdmin then .botAdmin else .everyone
  throttle : ∀ limit window w,
    (Gate.throttle .guild limit window).check c w = countIn c (directKey c limit window) w

/-- A message is treated as a direct message throughout exactly if it is no guild message and comes without a
    guild, or with one that makes no difference: the author is a bot administrator, and the id of the guild is
    that of the channel. -/
theorem directTreatment_iff :
    DirectTreatment c ↔ c.message.isGuildMessage = false ∧
      ∀ guild, c.message.guild = some guild → c.isBotAdmin = true ∧ guild.id.val = c.channel.val := by
  constructor
  · intro h
    have hdirect := guildOnly_check_eq_halt_iff.mp (h.guildOnly (.ofBot ⟨Id.ofNat 1, "", true⟩))
    refine ⟨hdirect, fun guild hguild => ⟨?_, ?_⟩⟩
    · rcases officialGuild_check_eq_proceed_iff.mp h.officialGuild with hnone | hadmin
      · cases hguild.symm.trans hnone
      · exact hadmin
    · have hkey : throttleKey c .guild 1 1 = directKey c 1 1 :=
        key_eq_of_countIn_eq Nat.one_pos Nat.one_pos (h.throttle 1 1)
      exact (throttleSubject_of_guild hguild).symm.trans (congrArg Throttle.Key.subject hkey)
  · rintro ⟨hdirect, hguild⟩
    have hsubject : throttleSubject c .guild = c.channel.val := by
      cases hg : c.message.guild with
      | none => exact throttleSubject_of_no_guild hg
      | some guild => exact (throttleSubject_of_guild hg).trans (hguild guild hg).2
    have hplace : c.message.guild = none ∨ c.isBotAdmin = true := by
      cases hg : c.message.guild with
      | none => exact .inl rfl
      | some guild => exact .inr (hguild guild hg).1
    refine ⟨require_check_direct hdirect, fun w => guildOnly_check_eq_halt_iff.mpr hdirect,
      officialGuild_check_eq_proceed_iff.mpr hplace, ?_, fun limit window w => ?_⟩
    · rcases hplace with hnone | hadmin
      · exact Context.level_of_no_guild hnone
      · rw [Context.level_of_isBotAdmin hadmin, hadmin]
        rfl
    · rw [throttle_check, throttleKey, hsubject]
      rfl

/-- **What is made of messages that are no guild messages.** The gates for capabilities and for guilds treat
    them all as direct messages. Without a guild everything else does so too; where there is a guild, the gate
    for official guilds, the level of the author and the limits by guild go by that guild. -/
theorem treatment_of_not_guild_message (h : c.message.isGuildMessage = false) :
    (∀ target wanted w, (require target wanted).check c w = (.ok .proceed, w)) ∧
    (∀ w, guildOnly.check c w = (.ok .halt, w.push (guildOnlyNotice c))) ∧
    (c.message.guild = none → DirectTreatment c) ∧
    ∀ guild, c.message.guild = some guild →
      (∀ official w, (officialGuild official).check c w = verdict (guild.id ∈ official ∨ c.isBotAdmin = true) c
        (c.text "errors.notOfficialGuild" []) c.services.feedback.restriction w) ∧
      c.level = Permission.resolve c.services.admins c.record.guild (some guild) c.message.member
        c.message.author ∧
      (∀ limit window w, (throttle .guild limit window).check c w
        = countIn c ⟨.guild, guild.id.val, c.command.name, limit, Clock.seconds window⟩ w) ∧
      (DirectTreatment c ↔ c.isBotAdmin = true ∧ guild.id.val = c.channel.val) := by
  refine ⟨require_check_direct h, fun w => guildOnly_check_eq_halt_iff.mpr h, fun hnone => ?_,
    fun guild hguild => ⟨fun official w => ?_, ?_, fun limit window w => ?_, ?_⟩⟩
  · refine directTreatment_iff.mpr ⟨h, fun guild hguild => ?_⟩
    cases hnone.symm.trans hguild
  · refine (officialGuild_check official).trans (verdict_congr (or_congr_left ?_) _ _ _ _)
    rw [fromUnofficialGuild_of_guild hguild, Bool.not_eq_false', List.contains_iff_mem]
  · rw [Context.level, hguild]
  · rw [throttle_check, throttleKey, throttleSubject_of_guild hguild]
  · rw [directTreatment_iff]
    constructor
    · exact fun ⟨_, hall⟩ => hall guild hguild
    · intro hsame
      refine ⟨h, fun guild' hguild' => ?_⟩
      cases hguild.symm.trans hguild'
      exact hsame

/-! ## A guild that comes with a direct message -/

/-- The owner of a guild writes to the bot. -/
def ownerMessage (guild : Option Guild) : Message :=
  { Message.bare (Id.ofNat 2) ⟨Id.ofNat 5, "alice", false⟩ ⟨Id.ofNat 9, "alice", .direct⟩ "!ping" with
    member := some ⟨⟨Id.ofNat 5, "alice", false⟩, none, [], ∅⟩
    guild := guild }

/-- A guild of hers. -/
def ownGuild : Guild :=
  ⟨Id.ofNat 2, "club", Id.ofNat 5, []⟩

/-- What the gates look at then. -/
def ownerContext (guild : Option Guild) : Context :=
  .bare (ownerMessage guild) (.declare "ping" .utility [] "" [] [])

theorem treatment_of_not_guild_message_owner :
    DirectTreatment (ownerContext none) ∧
    (ownerContext (some ownGuild)).message.isGuildMessage = false ∧
    ¬ DirectTreatment (ownerContext (some ownGuild)) := by
  obtain ⟨-, -, hnone, -⟩ := treatment_of_not_guild_message (c := ownerContext none) rfl
  obtain ⟨-, -, -, hsome⟩ := treatment_of_not_guild_message (c := ownerContext (some ownGuild)) rfl
  obtain ⟨-, -, -, htreatment⟩ := hsome ownGuild rfl
  exact ⟨hnone rfl, rfl, fun h => absurd (htreatment.mp h).1 Bool.false_ne_true⟩

/-- **A guild that comes with a direct message counts.** Such a message can be received. The gate for official
    guilds halts it, its author ranks as an administrator, and a limit by guild counts against the guild. -/
theorem guild_counts_in_direct_channel :
    Message.decode? (ownerMessage (some ownGuild)).encode = some (ownerMessage (some ownGuild)) ∧
    (ownerMessage (some ownGuild)).isGuildMessage = false ∧
    (ownerContext (some ownGuild)).isBotAdmin = false ∧
    ((officialGuild [Id.ofNat 1]).check (ownerContext (some ownGuild)) (.ofBot ⟨Id.ofNat 100, "bot", true⟩)).1
      = .ok .halt ∧
    (ownerContext (some ownGuild)).level = .administrator ∧
    throttleSubject (ownerContext (some ownGuild)) .guild = 2 ∧
    (ownerContext (some ownGuild)).channel.val = 9 := by
  refine ⟨?_, rfl, rfl, ?_, rfl, rfl, rfl⟩
  · decide +kernel
  · rw [officialGuild_check, verdict, if_neg (by decide)]

end Gate

end Gatehouse
