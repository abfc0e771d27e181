import Gatehouse.Proofs.Address.Aliases
import Gatehouse.Proofs.Arguments.Cuts

/-!
# `Gatehouse.Proofs.Address.Remainders` — the text after the trigger and the arguments

A call keeps what the user wrote in two forms: as arguments, and as the text after the trigger. The text is cut at
the first white space and the arguments are cut outside of quotes, so the two forms agree exactly if the trigger
has no white space in it (`Invocation.remainder_agrees`). Then the raw content of a call is the text of the fixed
arguments and the text of the others.

The triggers of commands have no white space, but an alias can be any text. One with white space has to be written
between quotes, and then the text after the trigger begins within the trigger
(`Invocation.remainder_keeps_end_of_alias`).
-/

namespace Gatehouse

namespace Arguments

/-- Arguments have no quotes left. -/
theorem quote_not_mem_of_mem_split {s arg : String} (h : arg ∈ split s) : '"' ∉ arg.toList := by
  obtain ⟨runs, -, hsplit⟩ := splitChars_eq s.toList
  rw [split, hsplit, List.map_map] at h
  obtain ⟨r, -, rfl⟩ := List.mem_map.mp h
  simp [word]

/-- Neither has a text that is put together from them. -/
theorem count_quote_intercalate {args : List String} (h : ∀ arg ∈ args, '"' ∉ arg.toList) :
    (String.intercalate " " args).toList.count '"' = 0 := by
  induction args with
  | nil => rfl
  | cons arg args ih =>
      have harg : arg.toList.count '"' = 0 := List.count_eq_zero.mpr (h arg List.mem_cons_self)
      have hargs := ih fun arg' hmem => h arg' (List.mem_cons_of_mem _ hmem)
      cases args with
      | nil => exact harg
      | cons arg' args =>
          rw [String.intercalate_cons_cons, String.toList_append, String.toList_append, List.count_append,
            List.count_append, harg, hargs]
          rfl

/-- **The text after the first word** of a text that closes its quotes has the arguments after the first one
    exactly if that one has no white space in it. -/
theorem split_afterWord_iff {rest word : String} {args : List String} (hclosed : rest.toList.count '"' % 2 = 0)
    (hsplit : split rest = word :: args) :
    split (afterWord rest) = args ↔ ∀ c ∈ word.toList, Text.isBlank c = false := by
  -- White space before the first word makes no difference to the arguments.
  obtain ⟨before, heq, hbefore, hstart⟩ := Text.exists_eq_trimStart rest.toList
  have hcount : (Text.trimStart rest.toList).count '"' % 2 = 0 := by
    rw [heq, List.count_append, count_quote_of_blank hbefore, Nat.zero_add] at hclosed
    exact hclosed
  have htrim : splitChars rest.toList = splitChars (Text.trimStart rest.toList) := by
    conv => lhs; rw [heq, splitChars_append_of_blank hbefore]
  rw [split] at hsplit
  obtain ⟨w, args', hchars, rfl, rfl⟩ := List.map_eq_cons_iff.mp hsplit
  have hafter : (afterWord rest).toList
      = ((Text.splitBlank? (Text.trimStart rest.toList)).map fun parts => Text.trim parts.2).getD [] := by
    unfold afterWord
    cases Text.splitBlank? (Text.trimStart rest.toList) with
    | none => rfl
    | some parts => exact String.toList_ofList
  rw [split, hafter, List.map_inj_right fun _ _ h => String.ofList_inj.mp h, String.toList_ofList]
  exact splitChars_after_iff hstart hcount (htrim.symm.trans hchars)

end Arguments

/-- The raw content of a call has the arguments in the text of the fixed ones and those in the text after the
    trigger. -/
theorem Context.split_contentRaw {c : Context} (h : ∀ arg ∈ c.invocation.aliasArguments, '"' ∉ arg.toList) :
    Arguments.split c.contentRaw
      = Arguments.split (String.intercalate " " c.invocation.aliasArguments)
          ++ Arguments.split c.invocation.remainder := by
  have hempty : Arguments.split "" = [] := rfl
  have hclosed : (String.intercalate " " c.invocation.aliasArguments).toList.count '"' % 2 = 0 := by
    rw [Arguments.count_quote_intercalate h]
  simp only [contentRaw, String.isEmpty_iff]
  split
  · next hfixed => rw [hfixed, hempty, List.nil_append]
  · split
    · next hremainder => rw [hremainder, hempty, List.append_nil]
    · exact Arguments.split_append hclosed _

/-- The fixed arguments of an alias have no quotes. -/
theorem Registry.quote_not_mem_of_find? {r : Registry} {settings : Option GuildSettings} {word : String}
    {c : Command} {fixed : List String} (h : r.find? settings word = some (c, fixed)) :
    ∀ arg ∈ fixed, '"' ∉ arg.toList := by
  rcases Registry.find?_eq_some_iff.mp h with ⟨-, rfl⟩ | ⟨-, s, target, first, -, -, htarget, -⟩
  · exact nofun
  · intro arg harg
    have hmem : arg ∈ Arguments.split target := htarget ▸ List.mem_cons_of_mem first harg
    exact Arguments.quote_not_mem_of_mem_split hmem

namespace Invocation

variable {r : Registry} {settings : Option GuildSettings} {a : Address} {c : Command} {invocation : Invocation}

/-- A call comes from a text whose first argument stands for the command. -/
theorem ofAddress?_eq_some_iff :
    ofAddress? r settings a = some (c, invocation) ↔
      ∃ word arguments fixed, Arguments.split a.rest = word :: arguments ∧
        r.find? settings word = some (c, fixed) ∧
        invocation = ⟨c.descriptor, a.lead, a.mentionable, fixed, arguments, afterWord a.rest⟩ := by
  constructor
  · intro h
    cases hsplit : Arguments.split a.rest with
    | nil => simp [ofAddress?, hsplit] at h
    | cons word arguments =>
        simp only [ofAddress?, hsplit, Option.map_eq_some_iff] at h
        obtain ⟨⟨found, fixed⟩, hfind, heq⟩ := h
        obtain ⟨rfl, rfl⟩ := Prod.mk.inj heq
        exact ⟨word, arguments, fixed, rfl, hfind, rfl⟩
  · rintro ⟨word, arguments, fixed, hsplit, hfind, rfl⟩
    exact ofAddress?_of_find? hsplit hfind

/-- **The text after the trigger and the arguments.** A text that closes its quotes calls a command by its first
    argument, a trigger or an alias. The text after the trigger has the arguments of the user exactly if there is
    no white space in that first argument. If there is none, the raw content of the call has the arguments in the
    text of the fixed ones and then those of the user, and no others. -/
theorem remainder_agrees (hclosed : a.rest.toList.count '"' % 2 = 0)
    (hcall : ofAddress? r settings a = some (c, invocation)) :
    ∃ word, Arguments.split a.rest = word :: invocation.userArguments ∧
      r.find? settings word = some (c, invocation.aliasArguments) ∧
      (Arguments.split invocation.remainder = invocation.userArguments ↔
        ∀ ch ∈ word.toList, Text.isBlank ch = false) ∧
      ((∀ ch ∈ word.toList, Text.isBlank ch = false) → ∀ context : Context, context.invocation = invocation →
        Arguments.split context.contentRaw
          = Arguments.split (String.intercalate " " invocation.aliasArguments) ++ invocation.userArguments) := by
  obtain ⟨word, arguments, fixed, hsplit, hfind, rfl⟩ := ofAddress?_eq_some_iff.mp hcall
  have hagree := Arguments.split_afterWord_iff hclosed hsplit
  refine ⟨word, hsplit, hfind, hagree, ?_⟩
  intro hsolid context hcontext
  have hquotes : ∀ arg ∈ context.invocation.aliasArguments, '"' ∉ arg.toList := by
    rw [hcontext]
    exact Registry.quote_not_mem_of_find? hfind
  rw [Context.split_contentRaw hquotes, hcontext]
  exact congrArg _ (hagree.mpr hsolid)

/-- What an alias that is no trigger stands for, where there is one command. -/
theorem find?_sayingBot {settings : GuildSettings} {word : String} (target : String) {fixed : List String}
    (hfree : (Bot.sayingBot.registry.resolve? word).isNone = true)
    (halias : settings.aliases.get? (Text.lowercased word) = some target)
    (htarget : Arguments.split target = "say" :: fixed) :
    Bot.sayingBot.registry.find? (some settings) word = some (Bot.say, fixed) := by
  have hlower : Text.lowercased "say" = "say" := by decide +kernel
  have hsay : Bot.sayingBot.registry.resolve? "say" = some Bot.say := by
    rw [Registry.resolve?, hlower]
    rfl
  rw [Registry.find?_of_alias (Option.isNone_iff_eq_none.mp hfree) halias htarget, hsay]
  rfl

/-- An alias with an argument before what the user wrote. -/
theorem remainder_agrees_greeting :
    let a : Address := ⟨" \"Hi\" bob \"the builder\"", false, "!"⟩
    ∃ invocation, a.rest.toList.count '"' % 2 = 0 ∧
      ofAddress? Bot.sayingBot.registry (some Bot.greetingSettings) a = some (Bot.say, invocation) ∧
      invocation.aliasArguments = ["good day"] ∧
      Arguments.split invocation.remainder = ["bob", "the builder"] := by
  intro a
  have hsplit : Arguments.split a.rest = "Hi" :: ["bob", "the builder"] := by decide +kernel
  have hfind : Bot.sayingBot.registry.find? (some Bot.greetingSettings) "Hi" = some (Bot.say, ["good day"]) :=
    find?_sayingBot "say \"good day\"" (by decide +kernel) (by decide +kernel) (by decide +kernel)
  have hclosed : a.rest.toList.count '"' % 2 = 0 := by decide
  have hcall := ofAddress?_of_find? hsplit hfind
  obtain ⟨word, hword, -, hagree, -⟩ := remainder_agrees hclosed hcall
  obtain ⟨rfl, -⟩ := List.cons.inj (hsplit.symm.trans hword)
  have hsolid : ∀ ch ∈ "Hi".toList, Text.isBlank ch = false := by simp [Text.isBlank, Text.blankRanges]
  exact ⟨_, hclosed, hcall, rfl, hagree.mpr hsolid⟩

/-! ## An alias with white space in it -/

/-- Settings with an alias of two words. -/
def twoWordSettings : GuildSettings :=
  { GuildSettings.empty with aliases := Table.empty.insert "good day" "say" }

/-- **White space in an alias** is within the quotes that it is called with. The text after the trigger begins
    there, so the raw content has the end of the alias in it, and its one argument is not the one of the user. -/
theorem remainder_keeps_end_of_alias :
    let a : Address := ⟨"\"good day\" bob", false, "!"⟩
    ∃ invocation, a.rest.toList.count '"' % 2 = 0 ∧
      ofAddress? Bot.sayingBot.registry (some twoWordSettings) a = some (Bot.say, invocation) ∧
      invocation.userArguments = ["bob"] ∧ Arguments.split invocation.remainder = ["day bob"] ∧
      ∀ context : Context, context.invocation = invocation → context.contentRaw = "day\" bob" := by
  intro a
  have hsplit : Arguments.split a.rest = "good day" :: ["bob"] := by decide +kernel
  have hfind : Bot.sayingBot.registry.find? (some twoWordSettings) "good day" = some (Bot.say, []) :=
    find?_sayingBot "say" (by decide +kernel) (by decide +kernel) (by decide +kernel)
  refine ⟨_, by decide, ofAddress?_of_find? hsplit hfind, rfl, by decide +kernel, ?_⟩
  intro context hcontext
  rw [Context.contentRaw, hcontext]
  decide +kernel

end Invocation

end Gatehouse
