import Gatehouse.Proofs.Config.Seeding

/-!
# `Gatehouse.Proofs.Config.Records` — what is on record of seeded users

Seeds are put on record one after the other, in tables with different keys: settings by guild, profiles by guild
and user, verifications by user alone. An entry is replaced by later ones with its key, and only by those
(`Table.get?_insertAll`). Where the ids of guilds are distinct, the settings of a guild are those of its seed, a
profile can only be replaced from within the seed, and a verification by any seed of the same user
(`Store.fetch_ofConfig`).
-/

namespace Gatehouse

/-! ## Entries put in one after the other -/

namespace Table

variable {α κ ν : Type} [DecidableEq κ]

/-- The map after entries were put in one after the other. -/
def insertAll (key : α → κ) (value : α → ν) (t : Table κ ν) (xs : List α) : Table κ ν :=
  xs.foldl (fun t x => t.insert (key x) (value x)) t

theorem insertAll_append (key : α → κ) (value : α → ν) (t : Table κ ν) (xs ys : List α) :
    t.insertAll key value (xs ++ ys) = (t.insertAll key value xs).insertAll key value ys :=
  List.foldl_append

/-- The value of a key is the one that is there, or that of a later entry with the key. -/
theorem get?_insertAll_of_get? {key : α → κ} {value : α → ν} {t : Table κ ν} {x : α}
    (h : t.get? (key x) = some (value x)) (after : List α) :
    ∃ y ∈ x :: after, key y = key x ∧ (t.insertAll key value after).get? (key x) = some (value y) := by
  induction after generalizing t x with
  | nil => exact ⟨x, List.mem_singleton_self x, rfl, h⟩
  | cons y after ih =>
      by_cases hkey : key y = key x
      · -- From here on it is this entry that can be replaced.
        have hown : (t.insert (key y) (value y)).get? (key y) = some (value y) := get?_insert_self t _ _
        obtain ⟨z, hz, hzkey, hget⟩ := ih hown
        rw [hkey] at hzkey hget
        exact ⟨z, List.mem_cons_of_mem x hz, hzkey, by rwa [← hkey] at hget ⊢⟩
      · have hkept : (t.insert (key y) (value y)).get? (key x) = some (value x) := by
          rw [get?_insert_of_ne _ _ (Ne.symm hkey)]
          exact h
        obtain ⟨z, hz, hzkey, hget⟩ := ih hkept
        refine ⟨z, ?_, hzkey, hget⟩
        rcases List.mem_cons.mp hz with rfl | hz
        · exact List.mem_cons_self
        · exact List.mem_cons_of_mem x (List.mem_cons_of_mem y hz)

/-- **What is put in stays, up to later entries with its key.** -/
theorem get?_insertAll (key : α → κ) (value : α → ν) (t : Table κ ν) (before : List α) (x : α)
    (after : List α) :
    ∃ y ∈ x :: after, key y = key x ∧
      (t.insertAll key value (before ++ x :: after)).get? (key x) = some (value y) := by
  rw [insertAll_append]
  exact get?_insertAll_of_get? (get?_insert_self _ _ _) after

/-- What is found was put in, or was there before. -/
theorem exists_of_get?_insertAll {key : α → κ} {value : α → ν} {t : Table κ ν} {xs : List α} {k : κ} {v : ν}
    (h : (t.insertAll key value xs).get? k = some v) :
    (∃ x ∈ xs, key x = k ∧ value x = v) ∨ t.get? k = some v := by
  induction xs generalizing t with
  | nil => exact .inr h
  | cons x xs ih =>
      rcases ih h with ⟨y, hy, hfound⟩ | hput
      · exact .inl ⟨y, List.mem_cons_of_mem x hy, hfound⟩
      · rw [get?_insert] at hput
        split at hput
        · next hkey => exact .inl ⟨x, List.mem_cons_self, hkey.symm, Option.some.inj hput⟩
        · exact .inr hput

end Table

/-! ## Aliases -/

theorem GuildSettings.aliases_normalized (s : GuildSettings) : s.normalized.aliases
    = Table.insertAll (fun e => Text.lowercased e.1) Prod.snd Table.empty s.aliases.entries := by
  show (s.aliases.entries.map _).foldl _ _ = _
  rw [List.foldl_map]
  rfl

/-- What is found stands for what an alias of the settings stands for. -/
theorem GuildSettings.exists_of_get?_aliases_normalized {s : GuildSettings} {trigger target : String}
    (h : s.normalized.aliases.get? trigger = some target) : ∃ trigger', s.aliases.get? trigger' = some target := by
  rw [aliases_normalized] at h
  rcases Table.exists_of_get?_insertAll h with ⟨⟨trigger', target'⟩, hmem, -, rfl⟩ | hnone
  · exact ⟨trigger', (s.aliases.get?_eq_some_iff _ _).mpr hmem⟩
  · cases hnone

/-- An alias is found in lowercase, with its own target or that of another alias that is the same in lowercase. -/
theorem GuildSettings.get?_aliases_normalized (s : GuildSettings) {trigger target : String}
    (h : s.aliases.get? trigger = some target) :
    ∃ trigger' target', s.aliases.get? trigger' = some target' ∧
      Text.lowercased trigger' = Text.lowercased trigger ∧
      s.normalized.aliases.get? (Text.lowercased trigger) = some target' := by
  obtain ⟨before, after, hentries⟩ := List.append_of_mem ((s.aliases.get?_eq_some_iff trigger target).mp h)
  obtain ⟨⟨trigger', target'⟩, hmem, hkey, hget⟩ :=
    Table.get?_insertAll (fun e : String × String => Text.lowercased e.1) Prod.snd Table.empty before
      (trigger, target) after
  refine ⟨trigger', target', ?_, hkey, ?_⟩
  · rw [s.aliases.get?_eq_some_iff, hentries]
    exact List.mem_append_right before hmem
  · rw [s.aliases_normalized, hentries]
    exact hget

/-! ## The tables of a configuration -/

/-- What profiles are filed under. -/
def PlayerProfile.key (p : PlayerProfile) : GuildId × UserId :=
  (p.guild, p.user)

/-- The profiles of a seed. -/
def GuildSeed.profiles (seed : GuildSeed) : List PlayerProfile :=
  seed.players.map fun p => p.profile seed.id

namespace Store

theorem plant_players (s : Store) (seed : GuildSeed) :
    (s.plant seed).players = s.players.insertAll PlayerProfile.key id seed.profiles := by
  rw [GuildSeed.profiles, Table.insertAll, List.foldl_map]
  exact (List.foldl_hom Store.players (fun _ _ => rfl)).symm

theorem plant_verifications (s : Store) (seed : GuildSeed) :
    (s.plant seed).verifications
      = s.verifications.insertAll PlayerSeed.user PlayerSeed.verification seed.players :=
  (List.foldl_hom Store.verifications (fun _ _ => rfl)).symm

/-- Profiles are filed seed by seed. -/
theorem players_ofConfig (config : Config) :
    (ofConfig config).players
      = Table.insertAll PlayerProfile.key id Table.empty (config.guilds.flatMap GuildSeed.profiles) := by
  rw [Table.insertAll, List.foldl_flatMap]
  exact (List.foldl_hom Store.players (fun s seed => (s.plant_players seed).symm)).symm

/-- Verifications are filed seed by seed, whatever the guild. -/
theorem verifications_ofConfig (config : Config) :
    (ofConfig config).verifications
      = Table.insertAll PlayerSeed.user PlayerSeed.verification Table.empty
          (config.guilds.flatMap GuildSeed.players) := by
  rw [Table.insertAll, List.foldl_flatMap]
  exact (List.foldl_hom Store.verifications (fun s seed => (s.plant_verifications seed).symm)).symm

section Seeded

variable {config : Config} {front rest : List GuildSeed} {seed : GuildSeed} {before after : List PlayerSeed}
  {p : PlayerSeed} (hguilds : config.guilds = front ++ seed :: rest) (hplayers : seed.players = before ++ p :: after)

include hguilds hplayers

/-- **A profile can only be replaced from within its seed**, if guilds are told apart by their ids. -/
theorem get?_players_ofConfig (h : (config.guilds.map GuildSeed.id).Nodup) :
    ∃ q ∈ p :: after, q.user = p.user ∧
      (ofConfig config).players.get? (seed.id, p.user) = some (q.profile seed.id) := by
  have hprofiles : config.guilds.flatMap GuildSeed.profiles
      = (front.flatMap GuildSeed.profiles ++ before.map (·.profile seed.id)) ++ p.profile seed.id ::
          (after.map (·.profile seed.id) ++ rest.flatMap GuildSeed.profiles) := by
    rw [hguilds, List.flatMap_append, List.flatMap_cons, GuildSeed.profiles, hplayers]
    simp only [List.map_append, List.map_cons, List.append_assoc, List.cons_append]
  have hdistinct : ∀ other ∈ rest, other.id ≠ seed.id := by
    intro other hother hsame
    rw [hguilds, List.map_append, List.map_cons] at h
    have hrest := (List.nodup_cons.mp (List.nodup_append.mp h).2.1).1
    exact hrest (List.mem_map.mpr ⟨other, hother, hsame⟩)
  obtain ⟨profile, hmem, hkey, hget⟩ := Table.get?_insertAll PlayerProfile.key id Table.empty
    (front.flatMap GuildSeed.profiles ++ before.map (·.profile seed.id)) (p.profile seed.id)
    (after.map (·.profile seed.id) ++ rest.flatMap GuildSeed.profiles)
  rw [← hprofiles, ← players_ofConfig] at hget
  obtain ⟨hguild, huser⟩ := Prod.mk.inj hkey
  rw [← List.cons_append, List.mem_append] at hmem
  rcases hmem with hmem | hmem
  · obtain ⟨q, hq, rfl⟩ : ∃ q ∈ p :: after, q.profile seed.id = profile := List.mem_map.mp hmem
    exact ⟨q, hq, huser, hget⟩
  · -- What comes from another seed is filed under another guild.
    obtain ⟨other, hother, hmem⟩ := List.mem_flatMap.mp hmem
    obtain ⟨q, -, rfl⟩ := List.mem_map.mp hmem
    exact absurd hguild (hdistinct other hother)

/-- **A verification can be replaced by any later seed of the user**, whatever the guild. -/
theorem get?_verifications_ofConfig :
    ∃ q ∈ p :: (after ++ rest.flatMap GuildSeed.players), q.user = p.user ∧
      (ofConfig config).verifications.get? p.user = some q.verification := by
  have hall : config.guilds.flatMap GuildSeed.players
      = (front.flatMap GuildSeed.players ++ before) ++ p :: (after ++ rest.flatMap GuildSeed.players) := by
    rw [hguilds, List.flatMap_append, List.flatMap_cons, hplayers]
    simp only [List.append_assoc, List.cons_append]
  rw [verifications_ofConfig, hall]
  exact Table.get?_insertAll PlayerSeed.user PlayerSeed.verification Table.empty _ p _

end Seeded

end Store

/-! ## What is answered about a seeded user -/

/-- The alias `trigger` of a guild is found in lowercase among `aliases`, with its own target or that of another
    alias of the guild with the same lowercase form; so with its own, if no such alias has another. -/
structure GuildSettings.AliasFound (s : GuildSettings) (aliases : Table String String) (trigger target : String) :
    Prop where
  found : ∃ trigger' target', s.aliases.get? trigger' = some target' ∧
    Text.lowercased trigger' = Text.lowercased trigger ∧
    aliases.get? (Text.lowercased trigger) = some target'
  own : (∀ trigger' target', s.aliases.get? trigger' = some target' →
      Text.lowercased trigger' = Text.lowercased trigger → target' = target) →
    aliases.get? (Text.lowercased trigger) = some target

/-- The record of the user of `p`, listed in `seed`, within the guild of `seed`. The user may be listed again
    later, in this seed (`after`) and in those that follow (`rest`). -/
structure CallerRecord.Reflects (record : CallerRecord) (seed : GuildSeed) (p : PlayerSeed)
    (after : List PlayerSeed) (rest : List GuildSeed) : Prop where
  /-- The choices of the guild are those of its seed, and every alias is found. -/
  settings : ∃ settings, record.guild = some settings ∧
    settings.lead = seed.settings.lead ∧ settings.locale = seed.settings.locale ∧
    settings.moderatorRoles = seed.settings.moderatorRoles ∧ settings.adminRoles = seed.settings.adminRoles ∧
    settings.adminUsers = seed.settings.adminUsers ∧
    ∀ trigger target, seed.settings.aliases.get? trigger = some target →
      seed.settings.AliasFound settings.aliases trigger target
  /-- The profile is as `p` says, or a later listing in the same seed. -/
  player : ∃ q ∈ p :: after, q.user = p.user ∧ record.player = some (q.profile seed.id)
  own_player : (∀ q ∈ after, q.user = p.user → q.experience = p.experience) →
    record.player = some (p.profile seed.id)
  /-- The verification is as `p` says, or a later listing in any seed. -/
  verification : ∃ q ∈ p :: (after ++ rest.flatMap GuildSeed.players),
    q.user = p.user ∧ record.verification = some q.verification
  own_verification : (∀ q ∈ after ++ rest.flatMap GuildSeed.players, q.user = p.user →
      q.verified = p.verified ∧ q.linkedAccount = p.linkedAccount) →
    record.verification = some p.verification

/-- **Seeds are on record, up to later ones of the same user.** The store of a sound configuration answers about
    every seeded user in the guild of the seed. -/
theorem Store.fetch_ofConfig {config : Config} (h : config.isSound = true)
    {front rest : List GuildSeed} {seed : GuildSeed} (hguilds : config.guilds = front ++ seed :: rest)
    {before after : List PlayerSeed} {p : PlayerSeed} (hplayers : seed.players = before ++ p :: after) :
    ∃ record, (ofConfig config).fetch (some seed.id) p.user = .ok record ∧
      record.Reflects seed p after rest := by
  have hnodup := (Config.isSound_iff.mp h).2.2.2.1
  have hplayer := get?_players_ofConfig hguilds hplayers hnodup
  have hverification := get?_verifications_ofConfig hguilds hplayers
  refine ⟨_, Store.fetch_of_up (down_ofConfig config) _ _, ?settings, hplayer, ?own_player, hverification,
    ?own_verification⟩
  case settings =>
    have hseed : seed ∈ config.guilds := by
      rw [hguilds]
      exact List.mem_append_right front List.mem_cons_self
    have hguild : (ofConfig config).guilds.get? seed.id = some seed.settings.normalized := by
      rw [get?_guilds_ofConfig hnodup, Config.seed?_of_mem hnodup hseed]
      rfl
    refine ⟨seed.settings.normalized, hguild, rfl, rfl, rfl, rfl, rfl, ?_⟩
    intro trigger target htarget
    have hfound := seed.settings.get?_aliases_normalized htarget
    refine ⟨hfound, fun hown => ?_⟩
    obtain ⟨trigger', target', htarget', hlower, hget⟩ := hfound
    rw [← hown trigger' target' htarget' hlower]
    exact hget
  case own_player =>
    intro hown
    obtain ⟨q, hq, huser, hget⟩ := hplayer
    rcases List.mem_cons.mp hq with rfl | hq
    · exact hget
    · have hprofile : q.profile seed.id = p.profile seed.id := by
        rw [PlayerSeed.profile, PlayerSeed.profile, huser, hown q hq huser]
      rw [← hprofile]
      exact hget
  case own_verification =>
    intro hown
    obtain ⟨q, hq, huser, hget⟩ := hverification
    rcases List.mem_cons.mp hq with rfl | hq
    · exact hget
    · obtain ⟨hverified, hlinked⟩ := hown q hq huser
      have hsame : q.verification = p.verification := by
        rw [PlayerSeed.verification, PlayerSeed.verification, huser, hverified, hlinked]
      rw [← hsame]
      exact hget

/-- A guild in which the user 2 is verified and the user 3 is listed twice. -/
def firstGuild : GuildSeed where
  id := Id.ofNat 1
  settings := { GuildSettings.empty with
    lead := some "?", aliases := Table.ofList [("Hi", "repeat hello"), ("hI", "repeat bye")] }
  players := [⟨Id.ofNat 2, 40, true, some "roblox:77"⟩, ⟨Id.ofNat 3, 5, false, none⟩, ⟨Id.ofNat 3, 9, false, none⟩]

/-- A guild in which the user 2 is not verified. -/
def secondGuild : GuildSeed where
  id := Id.ofNat 7
  settings := GuildSettings.empty
  players := [⟨Id.ofNat 2, 1, false, none⟩]

/-- A configuration with both guilds. -/
def twoGuilds : Config where
  bot := ⟨"gatebot", Id.ofNat 100, "!", "en_US", ⟨0, 1⟩, none⟩
  feedback := .standard
  sweepInterval := 60
  cacheLifetime := 300
  permissions := ⟨[], []⟩
  logging := ⟨"info", .pretty⟩
  guilds := [firstGuild, secondGuild]

theorem Store.fetch_ofConfig_twoGuilds : twoGuilds.isSound = true ∧
    ∃ record, (ofConfig twoGuilds).fetch (some (Id.ofNat 1)) (Id.ofNat 3) = .ok record ∧
      record.Reflects firstGuild ⟨Id.ofNat 3, 5, false, none⟩ [⟨Id.ofNat 3, 9, false, none⟩] [secondGuild] := by
  have hsound : twoGuilds.isSound = true := by decide +kernel
  have hguilds : twoGuilds.guilds = [] ++ firstGuild :: [secondGuild] := rfl
  have hplayers : firstGuild.players = [⟨Id.ofNat 2, 40, true, some "roblox:77"⟩] ++
      ⟨Id.ofNat 3, 5, false, none⟩ :: [⟨Id.ofNat 3, 9, false, none⟩] := rfl
  exact ⟨hsound, Store.fetch_ofConfig hsound hguilds hplayers⟩

/-- **Seeds can be displaced.** The user 2 is verified according to the first guild, but within that guild the
    answer is what the second guild says. Of the user 3 it is the later listing that counts. Two aliases that
    differ in case only are looked up as one, so one of the targets is lost. -/
theorem seeds_displaced : twoGuilds.isSound = true ∧ firstGuild ∈ twoGuilds.guilds ∧
    ⟨Id.ofNat 2, 40, true, some "roblox:77"⟩ ∈ firstGuild.players ∧
    (∃ record, (Store.ofConfig twoGuilds).fetch (some firstGuild.id) (Id.ofNat 2) = .ok record ∧
      record.verification = some ⟨Id.ofNat 2, false, none⟩) ∧
    ⟨Id.ofNat 3, 5, false, none⟩ ∈ firstGuild.players ∧
    (∃ record, (Store.ofConfig twoGuilds).fetch (some firstGuild.id) (Id.ofNat 3) = .ok record ∧
      record.player = some ⟨Id.ofNat 3, firstGuild.id, 9⟩) ∧
    firstGuild.settings.aliases.get? "Hi" = some "repeat hello" ∧
    firstGuild.settings.aliases.get? "hI" = some "repeat bye" ∧
    Text.lowercased "Hi" = Text.lowercased "hI" := by
  have hup := Store.down_ofConfig twoGuilds
  refine ⟨?_, List.mem_cons_self, ?_, ⟨_, Store.fetch_of_up hup _ _, ?_⟩, ?_, ⟨_, Store.fetch_of_up hup _ _, ?_⟩,
    ?_, ?_, ?_⟩
  all_goals decide +kernel

end Gatehouse
