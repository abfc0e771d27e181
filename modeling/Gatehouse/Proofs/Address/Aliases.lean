import Gatehouse.Dispatch.Basic

/-!
# `Gatehouse.Proofs.Address.Aliases` — an alias stands for its text

A guild can give commands further names. Calling an alias is the same as writing its text out, with what
follows it: the same command gets the same arguments (`Registry.aliases_substitute`). This takes that the text
of the alias closes its quotes; an open quote would swallow what follows. A trigger of a command is never taken
for an alias, and the text of an alias is not looked up among the aliases again.
-/

namespace Gatehouse

/-- The call that a text with at least one argument makes. -/
theorem Invocation.ofAddress?_of_find? {r : Registry} {settings : Option GuildSettings} {a : Address}
    {word : String} {arguments fixed : List String} {c : Command}
    (hsplit : Arguments.split a.rest = word :: arguments) (hfind : r.find? settings word = some (c, fixed)) :
    Invocation.ofAddress? r settings a
      = some (c, ⟨c.descriptor, a.lead, a.mentionable, fixed, arguments, afterWord a.rest⟩) := by
  simp only [ofAddress?, hsplit, hfind, Option.map_some]

namespace Bot

/-- A text calls `c` with the given arguments. -/
def CallsWith (bot : Bot) (settings : Option GuildSettings) (a : Address) (c : Command)
    (arguments : List String) : Prop :=
  ∃ invocation, Invocation.ofAddress? bot.registry settings a = some (c, invocation) ∧
    ∀ m record catalog moment, (bot.contextOf m record invocation catalog moment).arguments = arguments

variable {bot : Bot} {settings : GuildSettings} {target first : String} {fixed : List String} {c : Command}

/-- The text of an alias, written out. -/
theorem calls_target (hclosed : target.toList.count '"' % 2 = 0)
    (htarget : Arguments.split target = first :: fixed) (hfirst : bot.registry.resolve? first = some c)
    (rest lead : String) (mentionable : Bool) :
    bot.CallsWith (some settings) ⟨target ++ " " ++ rest, mentionable, lead⟩ c
      (fixed ++ Arguments.split rest) := by
  have hsplit : Arguments.split (target ++ " " ++ rest) = first :: (fixed ++ Arguments.split rest) := by
    rw [Arguments.split_append hclosed, htarget, List.cons_append]
  have hfind := Registry.find?_of_trigger hfirst (some settings)
  exact ⟨_, Invocation.ofAddress?_of_find? hsplit hfind, fun _ _ _ _ => rfl⟩

/-- The alias itself. Its fixed arguments come first. -/
theorem calls_alias {word : String} (hword : Arguments.IsWord word) (hfree : bot.registry.resolve? word = none)
    (hentry : settings.aliases.get? (Text.lowercased word) = some target)
    (htarget : Arguments.split target = first :: fixed) (hfirst : bot.registry.resolve? first = some c)
    (rest lead : String) (mentionable : Bool) :
    bot.CallsWith (some settings) ⟨word ++ " " ++ rest, mentionable, lead⟩ c
      (fixed ++ Arguments.split rest) := by
  have hfind : bot.registry.find? (some settings) word = some (c, fixed) := by
    rw [Registry.find?_of_alias hfree hentry htarget, hfirst]
    rfl
  exact ⟨_, Invocation.ofAddress?_of_find? (hword.split_append rest) hfind, fun _ _ _ _ => rfl⟩

/-- What an alias of a guild is good for, and what it can do no harm to. -/
structure AliasesSubstitute (bot : Bot) (settings : GuildSettings) : Prop where
  /-- Any spelling of an alias calls what its text calls, whatever follows. -/
  substitution : ∀ {name target first : String} {fixed : List String} {c : Command},
    settings.aliases.get? name = some target → target.toList.count '"' % 2 = 0 →
    Arguments.split target = first :: fixed → bot.registry.resolve? first = some c →
    bot.registry.resolve? name = none →
    ∀ word, Arguments.IsWord word → Text.lowercased word = name → ∀ rest lead mentionable,
      bot.CallsWith (some settings) ⟨word ++ " " ++ rest, mentionable, lead⟩ c (fixed ++ Arguments.split rest) ∧
      bot.CallsWith (some settings) ⟨target ++ " " ++ rest, mentionable, lead⟩ c (fixed ++ Arguments.split rest)
  /-- A trigger stands for its command, as if there were no aliases. -/
  triggers_first : ∀ word c, bot.registry.resolve? word = some c →
    bot.registry.find? (some settings) word = some (c, [])
  /-- What is no trigger stands for what a trigger at the start of the text of an alias stands for, or nothing. -/
  one_step : ∀ word c fixed, bot.registry.resolve? word = none →
    (bot.registry.find? (some settings) word = some (c, fixed) ↔
      ∃ target first, settings.aliases.get? (Text.lowercased word) = some target ∧
        Arguments.split target = first :: fixed ∧ bot.registry.resolve? first = some c)

/-- **Alias expansion is textual substitution**, in every guild and whatever commands there are. -/
theorem aliases_substitute (bot : Bot) (settings : GuildSettings) : bot.AliasesSubstitute settings where
  substitution hentry hclosed htarget hfirst hfree word hword hspelling rest lead mentionable := by
    -- Lookups fold case, so the spelling is as free as the alias is.
    have hword_free : bot.registry.resolve? word = none := by
      rw [← Registry.resolve?_lowercased, hspelling, hfree]
    have hword_entry := hspelling ▸ hentry
    exact ⟨calls_alias hword hword_free hword_entry htarget hfirst rest lead mentionable,
      calls_target hclosed htarget hfirst rest lead mentionable⟩
  triggers_first _ _ h := Registry.find?_of_trigger h _
  one_step word c fixed hfree := by
    rw [Registry.find?_eq_some_iff]
    constructor
    · rintro (⟨h, -⟩ | ⟨-, s, target, first, hs, hentry, htarget, hfirst⟩)
      · cases hfree.symm.trans h
      · cases hs
        exact ⟨target, first, hentry, htarget, hfirst⟩
    · rintro ⟨target, first, hentry, htarget, hfirst⟩
      exact .inr ⟨hfree, settings, target, first, rfl, hentry, htarget, hfirst⟩

/-! ## An alias with a fixed argument -/

/-- A command that does nothing. -/
def say : Command :=
  ⟨.declare "say" .utility [] "" [] [], [], fun _ => pure ()⟩

def sayingBot : Bot :=
  ⟨default, Registry.empty.add say⟩

/-- Settings with an alias for a greeting. -/
def greetingSettings : GuildSettings :=
  { GuildSettings.empty with aliases := Table.empty.insert "hi" "say \"good day\"" }

theorem aliases_substitute_greeting :
    sayingBot.CallsWith (some greetingSettings) ⟨"Hi bob", false, "!"⟩ say ["good day", "bob"] ∧
    sayingBot.CallsWith (some greetingSettings) ⟨"say \"good day\" bob", false, "!"⟩ say ["good day", "bob"] ∧
    sayingBot.registry.find? (some greetingSettings) "SAY" = some (say, []) := by
  have hsubstitute := sayingBot.aliases_substitute greetingSettings
  have hsay (word : String) (h : Text.lowercased word = "say") : sayingBot.registry.resolve? word = some say := by
    rw [Registry.resolve?, h]
    rfl
  have hfree : sayingBot.registry.resolve? "hi" = none := by
    rw [← Option.isNone_iff_eq_none]
    decide +kernel
  have hword : Arguments.IsWord "Hi" := ⟨by decide, by simp [Text.isBlank, Text.blankRanges], by decide⟩
  have hentry : greetingSettings.aliases.get? "hi" = some "say \"good day\"" := rfl
  obtain ⟨hname, htarget⟩ := hsubstitute.substitution hentry (by decide) rfl
    (hsay "say" (by decide +kernel)) hfree "Hi" hword (by decide +kernel) "bob" "!" false
  exact ⟨hname, htarget, hsubstitute.triggers_first "SAY" say (hsay "SAY" (by decide +kernel))⟩

end Bot

end Gatehouse
