import Gatehouse.Config.Problem

/-!
# `Gatehouse.Proofs.Config.Soundness` — what a sound configuration is

A configuration is sound if each of its parts is, and the ids of its guilds are distinct
(`Config.isSound_iff`). What introduces commands, anywhere, is then more than white space
(`Config.leadIn_not_blank`).
-/

namespace Gatehouse.Config

variable {config : Config}

/-! ## Parts without problems -/

@[simp] theorem when_eq_nil_iff {b : Bool} {p : Problem} : when b p = [] ↔ b = false := by
  cases b <;> simp [when]

/-- Guilds are without problems if they are told apart by their ids and none has a problem of its own. -/
theorem guildProblems_eq_nil_iff {seen : List GuildId} {seeds : List GuildSeed} :
    guildProblems seen seeds = [] ↔
      (seeds.map GuildSeed.id).Nodup ∧ (∀ seed ∈ seeds, seed.id ∉ seen) ∧
      ∀ seed ∈ seeds, settingsProblems seed.id seed.settings = [] := by
  induction seeds generalizing seen with
  | nil => simp [guildProblems]
  | cons seed seeds ih =>
      rw [guildProblems, List.append_eq_nil_iff, List.append_eq_nil_iff, when_eq_nil_iff, ih, List.map_cons,
        List.nodup_cons, List.forall_mem_cons, List.forall_mem_cons]
      simp only [List.contains_eq_mem, decide_eq_false_iff_not, List.mem_map, not_exists, not_and, List.mem_cons,
        not_or]
      constructor
      · rintro ⟨⟨hseed, hown⟩, hnodup, hseen, hrest⟩
        exact ⟨⟨fun other hother => (hseen other hother).1, hnodup⟩,
          ⟨hseed, fun other hother => (hseen other hother).2⟩, hown, hrest⟩
      · rintro ⟨⟨hother, hnodup⟩, ⟨hseed, hseen⟩, hown, hrest⟩
        exact ⟨⟨hseed, hown⟩, hnodup, fun other hmem => ⟨hother other hmem, hseen other hmem⟩, hrest⟩

/-- **A configuration is sound** if each part is, and the guilds are told apart by their ids. -/
theorem isSound_iff : config.isSound = true ↔
    botProblems config.bot = [] ∧ shardProblems config.bot.shard = [] ∧ config.sweepInterval ≠ 0 ∧
    (config.guilds.map GuildSeed.id).Nodup ∧
    ∀ seed ∈ config.guilds, settingsProblems seed.id seed.settings = [] := by
  rw [isSound, List.isEmpty_iff, problems, List.append_eq_nil_iff, List.append_eq_nil_iff,
    List.append_eq_nil_iff, when_eq_nil_iff, guildProblems_eq_nil_iff]
  simp [and_assoc]

/-! ## What introduces commands -/

theorem lead_not_blank (h : config.isSound = true) : Text.isBlankOnly config.bot.lead = false := by
  have hbot := (isSound_iff.mp h).1
  rw [botProblems, List.append_eq_nil_iff, List.append_eq_nil_iff, when_eq_nil_iff, when_eq_nil_iff] at hbot
  exact hbot.1.2

theorem guildLead_not_blank (h : config.isSound = true) {seed : GuildSeed} (hseed : seed ∈ config.guilds)
    {lead : String} (hlead : seed.settings.lead = some lead) : Text.isBlankOnly lead = false := by
  have hsettings := (isSound_iff.mp h).2.2.2.2 seed hseed
  rw [settingsProblems, List.append_eq_nil_iff, List.append_eq_nil_iff, hlead] at hsettings
  exact when_eq_nil_iff.mp hsettings.1.1

/-- What the configuration says about a guild. -/
def seed? (config : Config) (guild : GuildId) : Option GuildSeed :=
  config.guilds.find? fun seed => seed.id = guild

/-- Where guilds are told apart by their ids, a seed is what the configuration says about its guild. -/
theorem seed?_of_mem (h : (config.guilds.map GuildSeed.id).Nodup) {seed : GuildSeed} (hseed : seed ∈ config.guilds) :
    config.seed? seed.id = some seed := by
  obtain ⟨front, rest, hguilds⟩ := List.append_of_mem hseed
  rw [seed?, List.find?_eq_some_iff_append]
  refine ⟨decide_eq_true rfl, front, rest, hguilds, fun other hother => ?_⟩
  rw [hguilds, List.map_append, List.nodup_append] at h
  have hne := h.2.2 _ (List.mem_map_of_mem hother) _ List.mem_cons_self
  simpa using hne

/-- What introduces commands in a guild, or outside of guilds, according to the configuration. -/
def leadIn (config : Config) (guild : Option GuildId) : String :=
  ((guild.bind config.seed?).bind fun seed => seed.settings.lead).getD config.bot.lead

/-- **In a sound configuration, what introduces commands is more than white space**, everywhere. -/
theorem leadIn_not_blank (h : config.isSound = true) (guild : Option GuildId) :
    Text.isBlankOnly (config.leadIn guild) = false := by
  rw [leadIn]
  cases hlead : (guild.bind config.seed?).bind fun seed => seed.settings.lead with
  | none => exact lead_not_blank h
  | some lead =>
      obtain ⟨seed, hseed, hlead⟩ := Option.bind_eq_some_iff.mp hlead
      obtain ⟨id, -, hseed⟩ := Option.bind_eq_some_iff.mp hseed
      exact guildLead_not_blank h (List.mem_of_find?_eq_some hseed) hlead

end Gatehouse.Config
