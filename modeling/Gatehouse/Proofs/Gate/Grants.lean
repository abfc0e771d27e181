import Gatehouse.Gate.Factory
import Gatehouse.Proofs.Gate.Verdicts

/-!
# `Gatehouse.Proofs.Gate.Grants` — granting more never locks anyone out

One situation grants at least as much as another if nothing that counts in somebody's favor is taken away:
bot administrators, roles and capabilities of the member, the lists in the settings of the guild, official
guilds, capabilities of the bot, a linked account (`Context.Grants`, `World.Grants`). Then the level of the
author is no lower (`Permission.resolve_mono`), every gate that let the call through still does
(`Gate.Kind.check_mono`), and so does every stack of such gates (`Gate.runAll_grants`). Throttles are no such
gates: what they decide depends on earlier calls.
-/

namespace Gatehouse

/-! ## Levels -/

/-- A member with no fewer roles and capabilities. -/
structure Member.Grants (m₁ m₂ : Member) : Prop where
  user : m₁.user = m₂.user
  roles : m₁.roles ⊆ m₂.roles
  capabilities : m₁.capabilities ⊆ m₂.capabilities

/-- Settings with no fewer roles and users that have privileges. -/
structure GuildSettings.Grants (s₁ s₂ : GuildSettings) : Prop where
  adminRoles : s₁.adminRoles ⊆ s₂.adminRoles
  adminUsers : s₁.adminUsers ⊆ s₂.adminUsers
  moderatorRoles : s₁.moderatorRoles ⊆ s₂.moderatorRoles

variable {m₁ m₂ : Member} {s₁ s₂ : GuildSettings}

theorem Member.Grants.hasAnyRole (h : m₁.Grants m₂) {roles₁ roles₂ : List RoleId}
    (hroles : roles₁ ⊆ roles₂) (hany : m₁.hasAnyRole roles₁ = true) : m₂.hasAnyRole roles₂ = true := by
  unfold Member.hasAnyRole at hany ⊢
  rw [List.any_eq_true] at hany ⊢
  obtain ⟨r, hr, hmem⟩ := hany
  refine ⟨r, h.roles hr, ?_⟩
  rw [List.contains_iff_mem] at hmem ⊢
  exact hroles hmem

namespace Permission

theorem le_refl (p : Permission) : p ≤ p :=
  Nat.le_refl p.rank

theorem le_trans {p q r : Permission} (hpq : p ≤ q) (hqr : q ≤ r) : p ≤ r :=
  Nat.le_trans hpq hqr

theorem everyone_le (p : Permission) : everyone ≤ p :=
  Nat.zero_le p.rank

theorem le_botAdmin (p : Permission) : p ≤ botAdmin := by
  cases p <;> decide

theorem isAdministrator_mono (hm : m₁.Grants m₂) (hs : s₁.Grants s₂) {guild : Guild}
    (h : isAdministrator s₁ guild m₁ = true) : isAdministrator s₂ guild m₂ = true := by
  simp only [isAdministrator, Bool.or_eq_true, decide_eq_true_eq, List.contains_iff_mem] at h ⊢
  rcases h with ((howner | hcapability) | hrole) | huser
  · exact .inl (.inl (.inl (hm.user ▸ howner)))
  · exact .inl (.inl (.inr (hm.capabilities _ hcapability)))
  · exact .inl (.inr (hm.hasAnyRole hs.adminRoles hrole))
  · exact .inr (hm.user ▸ hs.adminUsers huser)

theorem isModerator_mono (hm : m₁.Grants m₂) (hs : s₁.Grants s₂) (h : isModerator s₁ m₁ = true) :
    isModerator s₂ m₂ = true := by
  simp only [isModerator, Bool.or_eq_true] at h ⊢
  rcases h with hrole | hcapability
  · exact .inl (hm.hasAnyRole hs.moderatorRoles hrole)
  · exact .inr (hm.capabilities _ hcapability)

/-- Grounds are tested from the highest to the lowest. A ground more does not lower the level. -/
theorem tested_mono : ∀ {admin₁ admin₂ mod₁ mod₂ : Bool}, (admin₁ = true → admin₂ = true) →
    (mod₁ = true → mod₂ = true) →
    (if admin₁ then administrator else if mod₁ then moderator else everyone)
      ≤ (if admin₂ then administrator else if mod₂ then moderator else everyone) := by
  decide

/-- **The level of an author grows with what is granted.** -/
theorem resolve_mono {admins₁ admins₂ : List UserId} {settings₁ settings₂ : Option GuildSettings}
    {member₁ member₂ : Option Member} (hadmins : admins₁ ⊆ admins₂)
    (hs : (settings₁.getD .empty).Grants (settings₂.getD .empty))
    (hm : ∀ m₁ ∈ member₁, ∃ m₂ ∈ member₂, m₁.Grants m₂) (guild : Option Guild) (author : User) :
    resolve admins₁ settings₁ guild member₁ author ≤ resolve admins₂ settings₂ guild member₂ author := by
  unfold resolve
  by_cases hadmin₂ : admins₂.contains author.id = true
  · rw [if_pos hadmin₂]
    exact le_botAdmin _
  · have hadmin₁ : ¬ admins₁.contains author.id = true := by
      intro h
      rw [List.contains_iff_mem] at h hadmin₂
      exact hadmin₂ (hadmins h)
    rw [if_neg hadmin₁, if_neg hadmin₂]
    -- All other grounds need a guild and a member of it.
    cases guild with
    | none => exact everyone_le _
    | some guild =>
        cases member₁ with
        | none => exact everyone_le _
        | some m₁ =>
            obtain ⟨m₂, rfl, hgrants⟩ := hm m₁ rfl
            exact tested_mono (isAdministrator_mono hgrants hs) (isModerator_mono hgrants hs)

end Permission

/-! ## Situations -/

/-- The settings of the guild that a message comes from. Missing settings are those without choices. -/
def Context.settings (c : Context) : GuildSettings :=
  c.record.guild.getD .empty

/-- A message without what the membership of its author comes with. -/
def Message.withoutMember (m : Message) : Message :=
  { m with member := none }

/-- Two contexts for one message, of which the second grants no less than the first. -/
structure Context.Grants (c₁ c₂ : Context) : Prop where
  /-- They are for the same message, up to what the membership of the author comes with. -/
  message : c₁.message.withoutMember = c₂.message.withoutMember
  member : ∀ m₁ ∈ c₁.message.member, ∃ m₂ ∈ c₂.message.member, m₁.Grants m₂
  admins : c₁.services.admins ⊆ c₂.services.admins
  settings : c₁.settings.Grants c₂.settings
  verified : c₁.isVerified = true → c₂.isVerified = true

/-- Two worlds in which the platform answers the same questions, and in the second grants the bot no less in a
    channel. -/
structure World.Grants (channel : ChannelId) (w₁ w₂ : World) : Prop where
  queries : w₁.queriesLeft = w₂.queriesLeft
  capabilities : w₁.console.capabilities channel ⊆ w₂.console.capabilities channel

variable {c₁ c₂ : Context} {w₁ w₂ w₁' : World} {official₁ official₂ : List GuildId}

namespace Context.Grants

theorem author (h : c₁.Grants c₂) : c₁.message.author = c₂.message.author := by
  have hmessage := congrArg Message.author h.message
  exact hmessage

theorem guild (h : c₁.Grants c₂) : c₁.message.guild = c₂.message.guild := by
  have hmessage := congrArg Message.guild h.message
  exact hmessage

theorem channel (h : c₁.Grants c₂) : c₁.message.channel = c₂.message.channel := by
  have hmessage := congrArg Message.channel h.message
  exact hmessage

theorem isGuildMessage (h : c₁.Grants c₂) : c₁.message.isGuildMessage = c₂.message.isGuildMessage := by
  unfold Message.isGuildMessage
  rw [h.guild, h.channel]

theorem isBotAdmin (h : c₁.Grants c₂) (hadmin : c₁.isBotAdmin = true) : c₂.isBotAdmin = true := by
  unfold Context.isBotAdmin at hadmin ⊢
  rw [List.contains_iff_mem] at hadmin ⊢
  exact h.author ▸ h.admins hadmin

theorem level (h : c₁.Grants c₂) : c₁.level ≤ c₂.level := by
  unfold Context.level
  rw [← h.guild, ← h.author]
  exact Permission.resolve_mono h.admins h.settings h.member _ _

/-- What the caller may do in the channel grows. -/
theorem heldByCaller (h : c₁.Grants c₂) : Gate.heldByCaller c₁ ⊆ Gate.heldByCaller c₂ := by
  unfold Gate.heldByCaller
  cases hm : c₁.message.member with
  | none =>
      -- Who is no member holds nothing.
      intro capability hheld
      cases (Capabilities.contains_empty capability).symm.trans hheld
  | some m₁ =>
      obtain ⟨m₂, hm₂, hgrants⟩ := h.member m₁ hm
      rw [Option.mem_def.mp hm₂]
      exact hgrants.capabilities

end Context.Grants

theorem Capabilities.isEmpty_missing_mono {s t wanted : Capabilities} (h : s ⊆ t)
    (hs : (s.missing wanted).isEmpty = true) : (t.missing wanted).isEmpty = true := by
  rw [Capabilities.isEmpty_missing_iff] at hs ⊢
  exact fun c hc => Capabilities.allows_mono h (hs c hc)

/-- If the platform answers in the one world, it answers in the other, and the bot may do no less. -/
theorem World.Grants.query {channel : ChannelId} {held₁ : Capabilities} (h : World.Grants channel w₁ w₂)
    (hquery : w₁.query channel = (.ok held₁, w₁')) :
    ∃ held₂ w₂', w₂.query channel = (.ok held₂, w₂') ∧ held₁ ⊆ held₂ ∧ World.Grants channel w₁' w₂' := by
  unfold World.query at hquery ⊢
  -- The answers are unlimited, used up, or one of those that are left.
  rw [← h.queries]
  rcases hleft : w₁.queriesLeft with _ | _ | n
  · simp only [hleft] at hquery
    cases hquery
    exact ⟨_, _, rfl, h.capabilities, h⟩
  · simp only [hleft] at hquery
    cases hquery
  · simp only [hleft] at hquery
    cases hquery
    exact ⟨_, _, rfl, h.capabilities, ⟨rfl, h.capabilities⟩⟩

/-! ## Gates -/

namespace Gate

/-- The gates that ask for something that can be granted. -/
inductive Kind where
  | permission (level : Permission)
  | require (target : RequireTarget) (wanted : Capabilities)
  | officialGuild
  | guildOnly
  | verified

/-- The gate of a kind, where the given guilds are official. -/
def Kind.gate (official : List GuildId) : Kind → Gate
  | .permission level => Gate.permission level
  | .require target wanted => Gate.require target wanted
  | .officialGuild => Gate.officialGuild official
  | .guildOnly => Gate.guildOnly
  | .verified => Gate.verified

/-- The declaration of a kind. -/
def Kind.spec : Kind → GateSpec
  | .permission level => .permission level
  | .require target wanted => .require target wanted
  | .officialGuild => .officialGuild
  | .guildOnly => .guildOnly
  | .verified => .custom "verified" []

/-- These are the gates that commands declare. -/
theorem ofSpec_spec (official : List GuildId) (command text : String) (kind : Kind) :
    (GateFactory.ofGuilds official).withVerified.ofSpec command text kind.spec
      = .ok (kind.gate official) := by
  cases kind with
  | verified =>
      -- The gate was registered under its name in lowercase.
      have hlookup : (GateFactory.ofGuilds official).withVerified.custom.get? "verified"
          = some (GateFactory.withoutArguments "verified" Gate.verified) := by
        show (Table.empty.insert (Text.asciiLowercased "verified") _).get? "verified" = _
        rw [show Text.asciiLowercased "verified" = "verified" from by decide]
        exact Table.get?_insert_self _ _ _
      simp only [GateFactory.ofSpec, Kind.spec, hlookup]
      rfl
  | permission _ | require _ _ | officialGuild | guildOnly => rfl

/-- A guild that is official stays official. -/
theorem fromUnofficialGuild_mono (hofficial : official₁ ⊆ official₂) (hc : c₁.Grants c₂)
    (h : fromUnofficialGuild official₁ c₁ = false) : fromUnofficialGuild official₂ c₂ = false := by
  unfold fromUnofficialGuild at h ⊢
  rw [← hc.guild]
  cases hguild : c₁.message.guild with
  | none => rfl
  | some guild =>
      rw [hguild] at h
      simp only [Option.any_some, Bool.not_eq_false', List.contains_iff_mem] at h ⊢
      exact hofficial h

/-- The bot may do no less, so it is let through as before. -/
theorem requireBot_mono (wanted : Capabilities) (hc : c₁.Grants c₂) (hw : World.Grants c₁.channel w₁ w₂)
    (h : (requireBot wanted).check c₁ w₁ = (.ok .proceed, w₁')) :
    ∃ w₂', (requireBot wanted).check c₂ w₂ = (.ok .proceed, w₂') ∧ World.Grants c₁.channel w₁' w₂' := by
  have hchannel : c₁.channel = c₂.channel := congrArg Channel.id hc.channel
  cases hguild : c₁.message.isGuildMessage with
  | false =>
      rw [requireBot_check_direct wanted hguild] at h
      cases h
      exact ⟨w₂, requireBot_check_direct wanted (hc.isGuildMessage ▸ hguild), hw⟩
  | true =>
      have hguild₂ : c₂.message.isGuildMessage = true := hc.isGuildMessage ▸ hguild
      rcases hquery : w₁.query c₁.channel with ⟨e | held₁, v₁⟩
      · rw [requireBot_check_unanswered wanted hguild hquery] at h
        cases h
      · -- The platform answers in both worlds, and the second answer names no less.
        rw [requireBot_check_answered wanted hguild hquery] at h
        obtain ⟨hheld, rfl⟩ := verdict_eq_proceed_iff.mp h
        obtain ⟨held₂, v₂, hquery₂, hsub, hv⟩ := hw.query hquery
        rw [hchannel] at hquery₂
        refine ⟨v₂, (requireBot_check_answered wanted hguild₂ hquery₂).trans ?_, hv⟩
        exact verdict_eq_proceed_iff.mpr ⟨Capabilities.isEmpty_missing_mono hsub hheld, rfl⟩

/-- **A gate that let a call through still does** when more is granted. -/
theorem Kind.check_mono (kind : Kind) (hofficial : official₁ ⊆ official₂) (hc : c₁.Grants c₂)
    (hw : World.Grants c₁.channel w₁ w₂) (h : (kind.gate official₁).check c₁ w₁ = (.ok .proceed, w₁')) :
    ∃ w₂', (kind.gate official₂).check c₂ w₂ = (.ok .proceed, w₂') ∧ World.Grants c₁.channel w₁' w₂' := by
  cases kind with
  | permission level =>
      obtain ⟨hlevel, rfl⟩ := verdict_eq_proceed_iff.mp ((permission_check level).symm.trans h)
      have hlevel₂ := Permission.le_trans hlevel hc.level
      exact ⟨w₂, (permission_check level).trans (verdict_eq_proceed_iff.mpr ⟨hlevel₂, rfl⟩), hw⟩
  | require target wanted =>
      cases target with
      | user =>
          obtain ⟨hgrounds, rfl⟩ := verdict_eq_proceed_iff.mp ((requireUser_check wanted).symm.trans h)
          refine ⟨w₂, (requireUser_check wanted).trans (verdict_eq_proceed_iff.mpr ⟨?_, rfl⟩), hw⟩
          rcases hgrounds with hdirect | hadmin | hheld
          · exact .inl (hc.isGuildMessage ▸ hdirect)
          · exact .inr (.inl (hc.isBotAdmin hadmin))
          · exact .inr (.inr (Capabilities.isEmpty_missing_mono hc.heldByCaller hheld))
      | bot => exact requireBot_mono wanted hc hw h
  | officialGuild =>
      obtain ⟨hgrounds, rfl⟩ := verdict_eq_proceed_iff.mp ((officialGuild_check official₁).symm.trans h)
      refine ⟨w₂, (officialGuild_check official₂).trans (verdict_eq_proceed_iff.mpr ⟨?_, rfl⟩), hw⟩
      rcases hgrounds with hplace | hadmin
      · exact .inl (fromUnofficialGuild_mono hofficial hc hplace)
      · exact .inr (hc.isBotAdmin hadmin)
  | guildOnly =>
      obtain ⟨hguild, rfl⟩ := verdict_eq_proceed_iff.mp (guildOnly_check.symm.trans h)
      have hguild₂ := hc.isGuildMessage ▸ hguild
      exact ⟨w₂, guildOnly_check.trans (verdict_eq_proceed_iff.mpr ⟨hguild₂, rfl⟩), hw⟩
  | verified =>
      obtain ⟨hgrounds, rfl⟩ := verdict_eq_proceed_iff.mp (verified_check.symm.trans h)
      have hgrounds₂ := hgrounds.imp hc.isBotAdmin hc.verified
      exact ⟨w₂, verified_check.trans (verdict_eq_proceed_iff.mpr ⟨hgrounds₂, rfl⟩), hw⟩

/-! ## Stacks -/

/-- **Granting more never locks anyone out.** The level of the author is no lower, and a stack of gates that
    let the call through still does. -/
theorem runAll_grants (kinds : List Kind) (hofficial : official₁ ⊆ official₂) (hc : c₁.Grants c₂)
    (hw : World.Grants c₁.channel w₁ w₂) :
    c₁.level ≤ c₂.level ∧
    ∀ w₁', runAll c₁ (kinds.map (Kind.gate official₁)) w₁ = (.ok none, w₁') →
      ∃ w₂', runAll c₂ (kinds.map (Kind.gate official₂)) w₂ = (.ok none, w₂') := by
  refine ⟨hc.level, ?_⟩
  -- On the stack. The worlds go on to be related, as the gates that pass only use up answers.
  induction kinds generalizing w₁ w₂ with
  | nil => exact fun _ _ => ⟨w₂, rfl⟩
  | cons kind kinds ih =>
      intro w₁' h
      obtain ⟨v₁, hfirst, hrest⟩ := runAll_cons_eq_none_iff.mp h
      obtain ⟨v₂, hfirst₂, hv⟩ := kind.check_mono hofficial hc hw hfirst
      obtain ⟨w₂', hrest₂⟩ := ih hv w₁' hrest
      exact ⟨w₂', runAll_cons_eq_none_iff.mpr ⟨v₂, hfirst₂, hrest₂⟩⟩

/-! ## A member who becomes a moderator -/

/-- A member of a guild calls a command. -/
def sampleContext (roles : List RoleId) (settings : Option GuildSettings) : Context :=
  let alice : User := ⟨Id.ofNat 2, "alice", false⟩
  let message : Message :=
    { Message.bare (Id.ofNat 1) alice ⟨Id.ofNat 3, "general", .text⟩ "!ping" with
      member := some ⟨alice, none, roles, .ofList [.sendMessages]⟩
      guild := some ⟨Id.ofNat 4, "club", Id.ofNat 5, []⟩ }
  { Context.bare message (.declare "ping" .utility [] "" [] []) with
    record := ⟨settings, none, some ⟨Id.ofNat 2, true, none⟩⟩ }

/-- Settings in which one role moderates. -/
def sampleSettings : GuildSettings :=
  { GuildSettings.empty with moderatorRoles := [Id.ofNat 6] }

/-- A gate of each kind. -/
def sampleKinds : List Kind :=
  [.permission .everyone, .require .user (.ofList [.sendMessages]), .require .bot (.ofList [.embedLinks]),
    .officialGuild, .guildOnly, .verified]

theorem runAll_grants_moderator :
    (sampleContext [] none).level ≤ (sampleContext [Id.ofNat 6] (some sampleSettings)).level ∧
    ∃ w, runAll (sampleContext [Id.ofNat 6] (some sampleSettings))
      (sampleKinds.map (Kind.gate [Id.ofNat 4, Id.ofNat 7])) (.ofBot ⟨Id.ofNat 9, "bot", true⟩)
        = (.ok none, w) := by
  have hc : (sampleContext [] none).Grants (sampleContext [Id.ofNat 6] (some sampleSettings)) := by
    refine ⟨rfl, ?_, List.Subset.refl _, ⟨?_, ?_, ?_⟩, id⟩
    · rintro m₁ ⟨rfl⟩
      exact ⟨_, rfl, rfl, List.nil_subset _, fun _ => id⟩
    · exact List.nil_subset _
    · exact List.nil_subset _
    · exact List.nil_subset _
  have hw : World.Grants (sampleContext [] none).channel (.ofBot ⟨Id.ofNat 9, "bot", true⟩)
      (.ofBot ⟨Id.ofNat 9, "bot", true⟩) := ⟨rfl, fun _ => id⟩
  have hofficial : [Id.ofNat 4] ⊆ ([Id.ofNat 4, Id.ofNat 7] : List GuildId) := by decide
  obtain ⟨hlevel, hpass⟩ := runAll_grants sampleKinds hofficial hc hw
  exact ⟨hlevel, hpass _ rfl⟩

end Gate

end Gatehouse
