import Gatehouse.Dispatch.Address
import Gatehouse.Proofs.Config.Soundness

/-!
# `Gatehouse.Proofs.Config.Seeding` — the store of a configuration

Where guilds are told apart by their ids, the store knows of every guild what its one seed says
(`Store.get?_guilds_ofConfig`). So what introduces commands in a guild is what the configuration says
(`Store.effectiveLead_lookup`).
-/

namespace Gatehouse.Store

/-- Profiles and verifications have nothing to do with settings. -/
theorem plantPlayers_guilds (players : List PlayerSeed) (guild : GuildId) (s : Store) :
    (players.foldl (fun s p => (s.insertPlayer (p.profile guild)).insertVerification p.verification) s).guilds
      = s.guilds := by
  induction players generalizing s with
  | nil => rfl
  | cons p players ih => exact ih _

theorem plant_guilds (s : Store) (seed : GuildSeed) :
    (s.plant seed).guilds = s.guilds.insert seed.id seed.settings.normalized :=
  plantPlayers_guilds _ _ _

/-- After seeds with distinct ids, the settings of a guild are those of its seed, if it has one. -/
theorem get?_guilds_plantAll {seeds : List GuildSeed} (h : (seeds.map GuildSeed.id).Nodup) (s : Store)
    (guild : GuildId) :
    (seeds.foldl plant s).guilds.get? guild
      = ((seeds.find? fun seed => seed.id = guild).map fun seed => seed.settings.normalized).or
          (s.guilds.get? guild) := by
  induction seeds generalizing s with
  | nil => rfl
  | cons seed seeds ih =>
      rw [List.map_cons, List.nodup_cons] at h
      rw [List.foldl_cons, ih h.2, plant_guilds]
      by_cases hid : seed.id = guild
      · subst hid
        -- No seed after this one has its id.
        have hrest : seeds.find? (fun other => other.id = seed.id) = none := by
          rw [List.find?_eq_none]
          intro other hother hsame
          exact h.1 (List.mem_map.mpr ⟨other, hother, of_decide_eq_true hsame⟩)
        rw [hrest, Table.get?_insert_self, List.find?_cons_of_pos (by simp)]
        rfl
      · rw [Table.get?_insert_of_ne _ _ (Ne.symm hid), List.find?_cons_of_neg (by simpa using hid)]

/-- **The settings of a guild are those of its seed.** -/
theorem get?_guilds_ofConfig {config : Config} (h : (config.guilds.map GuildSeed.id).Nodup) (guild : GuildId) :
    (ofConfig config).guilds.get? guild = (config.seed? guild).map fun seed => seed.settings.normalized := by
  rw [ofConfig, get?_guilds_plantAll h, Config.seed?]
  exact Option.or_none

/-- The store of a configuration can be reached. -/
theorem down_ofConfig (config : Config) : (ofConfig config).down = false := by
  have hplayers (players : List PlayerSeed) (guild : GuildId) (s : Store) :
      (players.foldl (fun s p => (s.insertPlayer (p.profile guild)).insertVerification p.verification) s).down
        = s.down := by
    induction players generalizing s with
    | nil => rfl
    | cons p players ih => exact ih _
  have hseeds (seeds : List GuildSeed) (s : Store) : (seeds.foldl plant s).down = s.down := by
    induction seeds generalizing s with
    | nil => rfl
    | cons seed seeds ih => exact (ih _).trans (hplayers _ _ _)
  exact hseeds _ _

/-- **What introduces commands is what a sound configuration says.** -/
theorem effectiveLead_lookup {config : Config} (h : config.isSound = true) (guild : Option GuildId) (user : UserId) :
    effectiveLead ((ofConfig config).lookup guild user).guild config.bot.lead = config.leadIn guild := by
  have hlead : ((ofConfig config).lookup guild user).guild.bind GuildSettings.lead
      = (guild.bind config.seed?).bind fun seed => seed.settings.lead := by
    cases guild with
    | none => rfl
    | some guild =>
        show ((ofConfig config).guilds.get? guild).bind _ = (config.seed? guild).bind _
        rw [get?_guilds_ofConfig (Config.isSound_iff.mp h).2.2.2.1]
        cases config.seed? guild <;> rfl
  rw [effectiveLead, Config.leadIn, hlead]
  cases hown : (guild.bind config.seed?).bind fun seed => seed.settings.lead with
  | none => rfl
  | some lead =>
      have hblank := Config.leadIn_not_blank h guild
      rw [Config.leadIn, hown, Option.getD_some] at hblank
      -- A choice of nothing at all would not count, but is not sound.
      have hempty : lead.isEmpty = false := by
        rw [Bool.eq_false_iff]
        intro hempty
        rw [String.isEmpty_iff.mp hempty] at hblank
        exact absurd hblank (by decide)
      simp [hempty]

end Gatehouse.Store
