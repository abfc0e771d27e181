import Gatehouse.Arguments
import Gatehouse.Command.Registry
import Gatehouse.Mention

/-!
# `Gatehouse.Dispatch.Address` — how a message addresses the bot

A message addresses the bot if it begins with what introduces commands, or with a mention of the bot as its
first word. The rest names a command, by a trigger of the command or by an alias of the guild, and gives
arguments.

## Contents
- `Address`, `Address.ofContent?`.
- `effectiveLead`: what introduces commands for a message.
- `Registry.find?`: the command of a trigger or an alias (`Registry.find?_eq_some_iff`).
- `afterWord`: the text after the first word.
- `Invocation.ofAddress?`: the call that an addressed text makes.
-/

namespace Gatehouse

/-- How a message addresses the bot. -/
structure Address where
  /-- The text that follows. -/
  rest : String
  /-- Whether the bot was addressed by a mention. -/
  mentionable : Bool
  /-- The text that addresses the bot. -/
  lead : String
  deriving DecidableEq, Repr

/-- How a text addresses the bot, if it does. White space at its start does not count. -/
def Address.ofContent? (content lead : String) (bot : UserId) : Option Address :=
  let cs := Text.trimStart content.toList
  match Text.dropLead? lead.toList cs with
  | some rest => some ⟨String.ofList rest, false, lead⟩
  | none =>
      let (first, rest) := (Text.splitBlank? cs).getD (cs, [])
      if Mention.parseChars? first = some bot then
        some ⟨String.ofList rest, true, String.ofList first ++ " "⟩
      else none

/-- What introduces commands where the given settings apply. An empty choice is none. -/
def effectiveLead (settings : Option GuildSettings) (default : String) : String :=
  match settings.bind GuildSettings.lead with
  | some lead => if lead.isEmpty then default else lead
  | none => default

/-- The command that a word stands for, with the fixed arguments of an alias. A trigger comes before an
    alias, and an alias leads to a trigger. -/
def Registry.find? (r : Registry) (settings : Option GuildSettings) (word : String) :
    Option (Command × List String) :=
  let trigger := Text.lowercased word
  match r.resolve? trigger with
  | some c => some (c, [])
  | none => do
      let target ← (← settings).aliases.get? trigger
      match Arguments.split target with
      | [] => none
      | first :: fixed => (r.resolve? first).map fun c => (c, fixed)

namespace Registry

variable {r : Registry} {word : String} {c : Command}

/-- Settings make no difference to what a trigger stands for. -/
theorem find?_of_trigger (h : r.resolve? word = some c) (settings : Option GuildSettings) :
    r.find? settings word = some (c, []) := by
  rw [← resolve?_lowercased] at h
  simp only [find?, h]

/-- What else a word stands for is up to the alias of that name, and what that leads to is up to the first word
    of its text. -/
theorem find?_of_alias (h : r.resolve? word = none) {settings : GuildSettings} {target first : String}
    {fixed : List String} (halias : settings.aliases.get? (Text.lowercased word) = some target)
    (htarget : Arguments.split target = first :: fixed) :
    r.find? (some settings) word = (r.resolve? first).map fun c => (c, fixed) := by
  rw [← resolve?_lowercased] at h
  simp only [find?, h, Option.bind_eq_bind, Option.bind_some, halias, htarget]

/-- A word stands for a command if it is a trigger of it, or an alias whose text begins with one. -/
theorem find?_eq_some_iff {settings : Option GuildSettings} {fixed : List String} :
    r.find? settings word = some (c, fixed) ↔
      (r.resolve? word = some c ∧ fixed = []) ∨
      (r.resolve? word = none ∧ ∃ s target first, settings = some s ∧
        s.aliases.get? (Text.lowercased word) = some target ∧ Arguments.split target = first :: fixed ∧
        r.resolve? first = some c) := by
  cases hword : r.resolve? word with
  | some found => simp [find?_of_trigger hword, eq_comm]
  | none =>
      constructor
      · intro h
        have hlower := (r.resolve?_lowercased word).trans hword
        simp only [find?, hlower, Option.bind_eq_bind, Option.bind_eq_some_iff] at h
        obtain ⟨s, hs, target, htarget, h⟩ := h
        split at h
        · cases h
        · next first rest hsplit =>
            obtain ⟨found, hfound, heq⟩ := Option.map_eq_some_iff.mp h
            cases heq
            exact .inr ⟨rfl, s, target, first, hs, htarget, hsplit, hfound⟩
      · rintro (⟨h, -⟩ | ⟨-, s, target, first, rfl, htarget, hsplit, hfirst⟩)
        · cases h
        · rw [find?_of_alias hword htarget hsplit, hfirst]
          rfl

end Registry

/-- The text after the first word, without white space around it. -/
def afterWord (rest : String) : String :=
  match Text.splitBlank? (Text.trimStart rest.toList) with
  | some (_, after) => String.ofList (Text.trim after)
  | none => ""

/-- The call that an addressed text makes, with its command, if it names one. -/
def Invocation.ofAddress? (r : Registry) (settings : Option GuildSettings) (a : Address) :
    Option (Command × Invocation) :=
  match Arguments.split a.rest with
  | [] => none
  | word :: userArguments =>
      (r.find? settings word).map fun (c, aliasArguments) =>
        (c, ⟨c.descriptor, a.lead, a.mentionable, aliasArguments, userArguments, afterWord a.rest⟩)

end Gatehouse
