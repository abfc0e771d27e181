import Gatehouse.Proofs.Arguments.Cuts
import Gatehouse.Proofs.Config.Records
import Gatehouse.Proofs.Locale.Sources
import Mathlib.Data.Finset.Card

/-!
# `Gatehouse.Proofs.Config.Starting` — configurations that a bot can be started with

What is asked of a configuration is said without the checks (`Config.Startable`). The checks find no problem exactly
if all of it holds, and they find one for each seed of a guild that has a seed already
(`Config.countP_isDuplicateGuild`).

A startable configuration is good for the parts that rely on it (`Config.Serves`): there are texts in every language
that is chosen, the store answers with the choices of the guild, commands are introduced by something, and aliases
stand for something (`Config.isSound_iff_startable_and_serves`).
-/

namespace Gatehouse

/-- The text is more than white space. -/
def Text.HasInk (s : String) : Prop :=
  ∃ c ∈ s.toList, isBlank c = false

theorem Text.hasInk_iff {s : String} : HasInk s ↔ isBlankOnly s = false := by
  rw [HasInk, isBlankOnly, List.all_eq_false]
  simp only [Bool.not_eq_true]

namespace Config

variable {config : Config}

/-- What a bot needs to be started. -/
structure Startable (config : Config) : Prop where
  botUser : config.bot.userId.val ≠ 0
  lead : Text.HasInk config.bot.lead
  locale : Languages.Has config.bot.locale
  shard : config.bot.shard.id < config.bot.shard.total
  sweepInterval : 1 ≤ config.sweepInterval
  guilds : config.guilds.Pairwise fun seed other => seed.id ≠ other.id
  guildLead : ∀ seed ∈ config.guilds, ∀ lead, seed.settings.lead = some lead → Text.HasInk lead
  guildLocale : ∀ seed ∈ config.guilds, ∀ code, seed.settings.locale = some code → Languages.Has code
  aliases : ∀ seed ∈ config.guilds, ∀ trigger target,
    seed.settings.aliases.get? trigger = some target → Text.HasInk target

/-! ## Parts without problems -/

theorem botProblems_eq_nil_iff {bot : BotConfig} :
    botProblems bot = [] ↔ bot.userId.val ≠ 0 ∧ Text.HasInk bot.lead ∧ Languages.Has bot.locale := by
  rw [botProblems, List.append_eq_nil_iff, List.append_eq_nil_iff, when_eq_nil_iff, when_eq_nil_iff,
    when_eq_nil_iff, ← Text.hasInk_iff, Bool.not_eq_false', ← Languages.has_iff, decide_eq_false_iff_not,
    ← Id.val_inj, and_assoc]
  rfl

theorem shardProblems_eq_nil_iff {shard : Shard} : shardProblems shard = [] ↔ shard.id < shard.total := by
  rw [shardProblems, UInt32.lt_iff_toNat_lt]
  split
  · next htotal =>
      rw [htotal]
      exact iff_of_false (List.cons_ne_nil _ _) (Nat.not_lt_zero _)
  · rw [when_eq_nil_iff, decide_eq_false_iff_not, UInt32.le_iff_toNat_le, Nat.not_le]

theorem aliasProblems_eq_nil_iff {guild : GuildId} {aliases : Table String String} :
    aliasProblems guild aliases = [] ↔ ∀ trigger target, aliases.get? trigger = some target → Text.HasInk target := by
  have hempty : aliasProblems guild aliases = [] ↔ aliases.entries.filter (fun e => Text.isBlankOnly e.2) = [] := by
    rw [aliasProblems, ← List.length_eq_zero_iff, List.length_mergeSort, List.length_eq_zero_iff,
      List.map_eq_nil_iff, Table.keys, List.map_eq_nil_iff]
    rfl
  rw [hempty, List.filter_eq_nil_iff]
  simp only [Table.get?_eq_some_iff, Text.hasInk_iff, Prod.forall, Bool.not_eq_true]

theorem settingsProblems_eq_nil_iff {guild : GuildId} {s : GuildSettings} :
    settingsProblems guild s = [] ↔
      (∀ lead, s.lead = some lead → Text.HasInk lead) ∧ (∀ code, s.locale = some code → Languages.Has code) ∧
      ∀ trigger target, s.aliases.get? trigger = some target → Text.HasInk target := by
  rw [settingsProblems, List.append_eq_nil_iff, List.append_eq_nil_iff, aliasProblems_eq_nil_iff, and_assoc]
  refine and_congr ?_ (and_congr_left fun _ => ?_)
  · cases s.lead with
    | none => simp
    | some lead => simp [Text.hasInk_iff]
  · cases s.locale with
    | none => simp
    | some code => simp [Languages.has_iff]

/-- **A configuration is sound exactly if a bot can be started with it.** -/
theorem isSound_iff_startable : config.isSound = true ↔ config.Startable := by
  rw [isSound_iff, botProblems_eq_nil_iff, shardProblems_eq_nil_iff, List.Nodup, List.pairwise_map,
    ← Nat.one_le_iff_ne_zero]
  simp only [settingsProblems_eq_nil_iff]
  constructor
  · rintro ⟨⟨hbot, hlead, hlocale⟩, hshard, hsweep, hguilds, hsettings⟩
    exact ⟨hbot, hlead, hlocale, hshard, hsweep, hguilds, fun seed hseed => (hsettings seed hseed).1,
      fun seed hseed => (hsettings seed hseed).2.1, fun seed hseed => (hsettings seed hseed).2.2⟩
  · rintro ⟨hbot, hlead, hlocale, hshard, hsweep, hguilds, hguildLead, hguildLocale, haliases⟩
    exact ⟨⟨hbot, hlead, hlocale⟩, hshard, hsweep, hguilds,
      fun seed hseed => ⟨hguildLead seed hseed, hguildLocale seed hseed, haliases seed hseed⟩⟩

/-! ## Guilds with more than one seed -/

/-- Whether the problem is a seed of a guild that has one already. -/
def Problem.isDuplicateGuild : Problem → Bool
  | .duplicateGuild _ => true
  | _ => false

theorem countP_when (b : Bool) (p : Problem) :
    (when b p).countP Problem.isDuplicateGuild = (b && p.isDuplicateGuild).toNat := by
  cases b with
  | false => rfl
  | true => cases hp : p.isDuplicateGuild <;> simp [when, hp]

theorem countP_when_of_other {p : Problem} (h : p.isDuplicateGuild = false) (b : Bool) :
    (when b p).countP Problem.isDuplicateGuild = 0 := by
  rw [countP_when, h, Bool.and_false, Bool.toNat_false]

theorem countP_settingsProblems (guild : GuildId) (s : GuildSettings) :
    (settingsProblems guild s).countP Problem.isDuplicateGuild = 0 := by
  have haliases : (aliasProblems guild s.aliases).countP Problem.isDuplicateGuild = 0 := by
    refine List.countP_eq_zero.mpr fun p hp => ?_
    obtain ⟨trigger, -, rfl⟩ := List.mem_map.mp (List.mem_mergeSort.mp hp)
    exact Bool.false_ne_true
  rw [settingsProblems, List.countP_append, List.countP_append, haliases, Nat.add_zero]
  cases s.lead with
  | none =>
      cases s.locale with
      | none => rfl
      | some code => exact (Nat.zero_add _).trans (countP_when_of_other rfl _)
  | some lead =>
      cases s.locale with
      | none => exact countP_when_of_other rfl _
      | some code => exact congrArg₂ (· + ·) (countP_when_of_other rfl _) (countP_when_of_other rfl _)

/-- Of further seeds, all are told but the first of each guild that is not among the `seen`. -/
theorem countP_guildProblems (seen : List GuildId) (seeds : List GuildSeed) :
    (guildProblems seen seeds).countP Problem.isDuplicateGuild
      + ((seeds.map GuildSeed.id).toFinset \ seen.toFinset).card = seeds.length := by
  induction seeds generalizing seen with
  | nil => simp [guildProblems]
  | cons seed seeds ih =>
      have hrest := ih (seed.id :: seen)
      rw [List.toFinset_cons] at hrest
      rw [guildProblems, List.countP_append, List.countP_append, countP_settingsProblems, List.map_cons,
        List.toFinset_cons, List.length_cons]
      by_cases hseen : seed.id ∈ seen
      · have hmem : seed.id ∈ seen.toFinset := List.mem_toFinset.mpr hseen
        rw [Finset.insert_eq_of_mem hmem] at hrest
        rw [Finset.insert_sdiff_of_mem _ hmem, List.contains_iff_mem.mpr hseen]
        have hone : (when true (.duplicateGuild seed.id)).countP Problem.isDuplicateGuild = 1 := countP_when _ _
        omega
      · have hmem : seed.id ∉ seen.toFinset := fun h => hseen (List.mem_toFinset.mp h)
        have hnone : seen.contains seed.id = false := by simpa using hseen
        have hcard : (insert seed.id (seeds.map GuildSeed.id).toFinset \ seen.toFinset).card
            = ((seeds.map GuildSeed.id).toFinset \ insert seed.id seen.toFinset).card + 1 := by
          rw [Finset.insert_sdiff_of_notMem _ hmem, Finset.sdiff_insert,
            ← Finset.card_insert_of_notMem (Finset.notMem_erase seed.id _)]
          congr 1
          grind
        rw [hcard, hnone]
        have hzero : (when false (.duplicateGuild seed.id)).countP Problem.isDuplicateGuild = 0 := countP_when _ _
        omega

/-- **One problem is found for each seed of a guild that has one already**: as many as there are more seeds than
    guilds. -/
theorem countP_isDuplicateGuild (config : Config) :
    config.problems.countP Problem.isDuplicateGuild + (config.guilds.map GuildSeed.id).toFinset.card
      = config.guilds.length := by
  have hbot : (botProblems config.bot).countP Problem.isDuplicateGuild = 0 := by
    rw [botProblems, List.countP_append, List.countP_append, countP_when_of_other rfl, countP_when_of_other rfl,
      countP_when_of_other rfl]
  have hshard : (shardProblems config.bot.shard).countP Problem.isDuplicateGuild = 0 := by
    rw [shardProblems]
    split
    · rfl
    · exact countP_when_of_other rfl _
  have hsweep : (when (config.sweepInterval = 0) .zeroSweepInterval).countP Problem.isDuplicateGuild = 0 :=
    countP_when_of_other rfl _
  have hguilds := countP_guildProblems [] config.guilds
  rw [List.toFinset_nil, Finset.sdiff_empty] at hguilds
  rw [problems, List.countP_append, List.countP_append, List.countP_append, hbot, hshard, hsweep]
  omega

/-! ## Parts that rely on a configuration -/

/-- What the parts of a bot that was started rely on. -/
structure Serves (config : Config) (languages : Languages) : Prop where
  /-- The built-in languages can be had with the default one. -/
  builtin : Languages.builtin config.bot.locale = .ok languages
  /-- The texts of a guild are in the language that it chose, or in the default one. -/
  resolve : ∀ seed ∈ config.guilds,
    (languages.resolve seed.settings.locale).code = seed.settings.locale.getD config.bot.locale
  /-- They are what the document of this language says. -/
  document : ∀ seed ∈ config.guilds, ∃ source,
    (seed.settings.locale.getD config.bot.locale, source) ∈ Languages.sources ∧
      Catalog.read? (seed.settings.locale.getD config.bot.locale) source
        = some (languages.resolve seed.settings.locale)
  /-- A guild has one seed, and the store answers with what that says. -/
  settings : ∀ seed ∈ config.guilds, (∀ other ∈ config.guilds, other.id = seed.id → other = seed) ∧
    ∀ user, ∃ record settings, (Store.ofConfig config).fetch (some seed.id) user = .ok record ∧
      record.guild = some settings ∧ settings.lead = seed.settings.lead ∧ settings.locale = seed.settings.locale ∧
      settings.moderatorRoles = seed.settings.moderatorRoles ∧ settings.adminRoles = seed.settings.adminRoles ∧
      settings.adminUsers = seed.settings.adminUsers
  /-- Something introduces commands, in guilds and outside of them. -/
  lead : ∀ guild user, ∃ record, (Store.ofConfig config).fetch guild user = .ok record ∧
    Text.HasInk (effectiveLead record.guild config.bot.lead)
  /-- Every alias of a seed stands for something. -/
  seeded : ∀ seed ∈ config.guilds, ∀ trigger target,
    seed.settings.aliases.get? trigger = some target → Arguments.split target ≠ []
  /-- So does every alias that is looked up. -/
  aliases : ∀ guild user record settings trigger target, (Store.ofConfig config).fetch guild user = .ok record →
    record.guild = some settings → settings.aliases.get? trigger = some target → Arguments.split target ≠ []

/-- The languages are read, and those that guilds chose are among them. -/
theorem Startable.exists_builtin (h : config.Startable) :
    ∃ languages, Languages.builtin config.bot.locale = .ok languages ∧ ∀ seed ∈ config.guilds, ∃ source,
      (seed.settings.locale.getD config.bot.locale, source) ∈ Languages.sources ∧
        Catalog.read? (seed.settings.locale.getD config.bot.locale) source
          = some (languages.resolve seed.settings.locale) := by
  obtain ⟨languages, hbuiltin, hfallback, hlanguages⟩ := Languages.exists_builtin_of_has h.locale
  refine ⟨languages, hbuiltin, fun seed hseed => ?_⟩
  cases hlocale : seed.settings.locale with
  | none => exact hfallback
  | some code => exact hlanguages code (h.guildLocale seed hseed code hlocale)

theorem Startable.nodup (h : config.Startable) : (config.guilds.map GuildSeed.id).Nodup :=
  List.pairwise_map.mpr h.guilds

theorem Startable.seed?_eq (h : config.Startable) {seed : GuildSeed} (hseed : seed ∈ config.guilds) :
    config.seed? seed.id = some seed :=
  seed?_of_mem h.nodup hseed

/-- The store answers with the one seed of a guild. -/
theorem Startable.guild_lookup (h : config.Startable) (guild : Option GuildId) (user : UserId) :
    ((Store.ofConfig config).lookup guild user).guild
      = (guild.bind config.seed?).map fun seed => seed.settings.normalized := by
  cases guild with
  | none => rfl
  | some guild => exact Store.get?_guilds_ofConfig h.nodup guild

theorem Startable.split_alias (h : config.Startable) {seed : GuildSeed} (hseed : seed ∈ config.guilds)
    {trigger target : String} (htarget : seed.settings.aliases.get? trigger = some target) :
    Arguments.split target ≠ [] := by
  intro hsplit
  have hblank := Text.hasInk_iff.mp (h.aliases seed hseed trigger target htarget)
  rw [Arguments.split_eq_nil_iff.mp hsplit] at hblank
  cases hblank

theorem serves_of_startable (h : config.Startable) : ∃ languages, config.Serves languages := by
  have hsound := isSound_iff_startable.mpr h
  have hup := Store.down_ofConfig config
  obtain ⟨languages, hbuiltin, hdocument⟩ := h.exists_builtin
  refine ⟨languages, hbuiltin, ?resolve, hdocument, ?settings, ?lead, fun _ hseed _ _ => h.split_alias hseed,
    ?aliases⟩
  case resolve =>
    intro seed hseed
    obtain ⟨source, -, hread⟩ := hdocument seed hseed
    exact Catalog.code_of_read? hread
  case settings =>
    intro seed hseed
    refine ⟨fun other hother hid => ?_, fun user => ?_⟩
    · have hsame := h.seed?_eq hother
      rw [hid, h.seed?_eq hseed] at hsame
      exact (Option.some.inj hsame).symm
    · refine ⟨_, seed.settings.normalized, Store.fetch_of_up hup _ _, ?_, rfl, rfl, rfl, rfl, rfl⟩
      rw [h.guild_lookup, Option.bind_some, h.seed?_eq hseed]
      rfl
  case lead =>
    intro guild user
    refine ⟨_, Store.fetch_of_up hup _ _, ?_⟩
    rw [Store.effectiveLead_lookup hsound]
    exact Text.hasInk_iff.mpr (leadIn_not_blank hsound guild)
  case aliases =>
    intro guild user record settings trigger target hfetch hrecord htarget
    rw [Store.fetch_of_up hup, Except.ok.injEq] at hfetch
    rw [← hfetch, h.guild_lookup] at hrecord
    obtain ⟨seed, hseed, rfl⟩ := Option.map_eq_some_iff.mp hrecord
    obtain ⟨id, -, hseed⟩ := Option.bind_eq_some_iff.mp hseed
    obtain ⟨trigger', htarget⟩ := GuildSettings.exists_of_get?_aliases_normalized htarget
    exact h.split_alias (List.mem_of_find?_eq_some hseed) htarget

/-- **The checks accept what a bot can be started with**, and nothing else; they tell every seed of a guild that has
    one already; and what they accept serves all that relies on it. -/
theorem isSound_iff_startable_and_serves (config : Config) :
    (config.isSound = true ↔ config.Startable) ∧
    config.problems.countP Problem.isDuplicateGuild + (config.guilds.map GuildSeed.id).toFinset.card
      = config.guilds.length ∧
    (config.isSound = true → ∃ languages, config.Serves languages) :=
  ⟨isSound_iff_startable, countP_isDuplicateGuild config,
    fun h => serves_of_startable (isSound_iff_startable.mp h)⟩

theorem isSound_iff_startable_and_serves_twoGuilds :
    twoGuilds.isSound = true ∧ ∃ languages, twoGuilds.Serves languages := by
  have hsound : twoGuilds.isSound = true := by decide +kernel
  exact ⟨hsound, (isSound_iff_startable_and_serves twoGuilds).2.2 hsound⟩

end Config

end Gatehouse
