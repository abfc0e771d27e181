import Gatehouse.Proofs.Command.Registration

/-!
# `Gatehouse.Proofs.Command.Triggers` — whether a trigger leads to its command

A command is kept under the ASCII lowercase of its name and aliases, and looked up by the full lowercase of
what was typed. So a name or an alias finds the command that was declared with it exactly if its full
lowercase is among the triggers that are kept (`Registry.WellFormed.resolve?_eq_some_iff`). Where both
foldings agree, as on ASCII, every name and alias finds its command, and no two commands answer to one
lookup (`Registry.Built.declared_trigger`).

They do not agree on letters beyond ASCII, and nothing checks that. `Registry.accents_can_get_lost` shows a
command that its own name does not find, and two commands of which one answers to the name of the other.
-/

namespace Gatehouse

/-- A command was declared with a name or an alias, in the spelling that was declared. -/
def Command.DeclaredWith (c : Command) (spelling : String) : Prop :=
  ∃ name category aliases description usage gates,
    c.descriptor = .declare name category aliases description usage gates ∧ spelling ∈ name :: aliases

/-- What a command was declared with is kept in lowercase as far as ASCII goes. -/
theorem Command.DeclaredWith.mem_triggers {c : Command} {spelling : String} (h : c.DeclaredWith spelling) :
    Text.asciiLowercased spelling ∈ c.descriptor.triggers := by
  obtain ⟨name, category, aliases, description, usage, gates, hdescriptor, hmem⟩ := h
  rw [hdescriptor]
  exact List.mem_map_of_mem hmem

namespace Registry

variable {r : Registry} {c c' : Command} {spelling : String}

/-- A lookup finds the command that has the lowercase of what was typed among its triggers. -/
theorem WellFormed.resolve?_eq_some_iff (h : r.WellFormed) :
    r.resolve? spelling = some c ↔ c ∈ r.commands ∧ Text.lowercased spelling ∈ c.descriptor.triggers :=
  h.index (Text.lowercased spelling) c

/-- A spelling on which both foldings agree finds the command that was declared with it. -/
theorem WellFormed.resolve?_declared (h : r.WellFormed) (hc : c ∈ r.commands)
    (hdeclared : c.DeclaredWith spelling)
    (hfold : Text.lowercased spelling = Text.asciiLowercased spelling) :
    r.resolve? spelling = some c := by
  rw [h.resolve?_eq_some_iff, hfold]
  exact ⟨hc, hdeclared.mem_triggers⟩

/-- **Triggers lead to their commands where the foldings agree.** A name or alias that a registered command was
    declared with finds the command exactly if its full lowercase is one of the triggers that are kept. That
    is so if both foldings agree on it; and then no other registered command was declared with a spelling
    of that kind that a lookup takes for the same. -/
theorem Built.declared_trigger (h : r.Built) (hc : c ∈ r.commands) (hdeclared : c.DeclaredWith spelling) :
    (r.resolve? spelling = some c ↔ Text.lowercased spelling ∈ c.descriptor.triggers) ∧
    (Text.lowercased spelling = Text.asciiLowercased spelling →
      r.resolve? spelling = some c ∧
      ∀ c' ∈ r.commands, ∀ spelling', c'.DeclaredWith spelling' →
        Text.lowercased spelling' = Text.asciiLowercased spelling' →
        Text.lowercased spelling' = Text.lowercased spelling → c' = c) := by
  have hwf := h.wellFormed
  refine ⟨?_, fun hfold => ⟨hwf.resolve?_declared hc hdeclared hfold, ?_⟩⟩
  · rw [hwf.resolve?_eq_some_iff]
    exact and_iff_right hc
  · intro c' hc' spelling' hdeclared' hfold' hsame
    have hfound : r.resolve? spelling = some c := hwf.resolve?_declared hc hdeclared hfold
    have hfound' : r.resolve? spelling' = some c' := hwf.resolve?_declared hc' hdeclared' hfold'
    -- A lookup depends on the lowercase only, so both spellings find one command.
    have hlookup : r.resolve? spelling' = r.resolve? spelling := congrArg r.index.get? hsame
    rw [hfound, hfound'] at hlookup
    exact Option.some.inj hlookup

/-! ## Commands with and without an accent -/

/-- A command without gates that does nothing. -/
def plain (name : String) (aliases : List String) : Command :=
  ⟨.declare name .utility aliases "" [] [], [], fun _ => return⟩

theorem plain_declaredWith {name : String} {aliases : List String} {spelling : String}
    (h : spelling ∈ name :: aliases) : (plain name aliases).DeclaredWith spelling :=
  ⟨name, .utility, aliases, "", [], [], rfl, h⟩

/-- A registry with one command and an alias in capitals. -/
def channelRegistry : Registry :=
  Registry.empty.add (plain "channelid" ["CID"])

theorem channelRegistry_built : channelRegistry.Built := by
  have hregister : Registry.empty.register (.ofGuilds []) (plain "channelid" ["CID"]).descriptor
      (plain "channelid" ["CID"]).body = .ok channelRegistry := by
    rfl
  exact .register .empty hregister

theorem declared_trigger_channelRegistry : channelRegistry.Built ∧
    (plain "channelid" ["CID"]).DeclaredWith "CID" ∧
    channelRegistry.resolve? "CID" = some (plain "channelid" ["CID"]) := by
  have hdeclared : (plain "channelid" ["CID"]).DeclaredWith "CID" := plain_declaredWith (by decide)
  have hascii : ("CID".toList.all fun c => c.toNat < 128) = true := by decide
  have hfold : Text.lowercased "CID" = Text.asciiLowercased "CID" :=
    Text.lowercased_eq_asciiLowercased fun c hc => of_decide_eq_true (List.all_eq_true.mp hascii c hc)
  have htrigger := channelRegistry_built.declared_trigger List.mem_cons_self hdeclared
  exact ⟨channelRegistry_built, hdeclared, (htrigger.2 hfold).1⟩

/-- A registry with one command whose name is a capital letter beyond ASCII. -/
def accentRegistry : Registry :=
  Registry.empty.add (plain "É" [])

/-- The registry with one more command, whose name is the small letter. -/
def accentsRegistry : Registry :=
  accentRegistry.add (plain "é" [])

theorem accentRegistry_built : accentRegistry.Built := by
  have hregister : Registry.empty.register (.ofGuilds []) (plain "É" []).descriptor (plain "É" []).body
      = .ok accentRegistry := by
    rfl
  exact .register .empty hregister

theorem accentsRegistry_built : accentsRegistry.Built := by
  have hregister : accentRegistry.register (.ofGuilds []) (plain "é" []).descriptor (plain "é" []).body
      = .ok accentsRegistry := by
    rfl
  exact .register accentRegistry_built hregister

/-- **A command can be out of reach.** Registered alone, a command named `É` is not found by its name. With a
    second one named `é`, which can be registered too, the name of the first finds the second. -/
theorem accents_can_get_lost :
    (accentRegistry.Built ∧ plain "É" [] ∈ accentRegistry.commands ∧ (plain "É" []).DeclaredWith "É" ∧
      accentRegistry.resolve? "É" = none) ∧
    (accentsRegistry.Built ∧ plain "É" [] ∈ accentsRegistry.commands ∧
      plain "é" [] ∈ accentsRegistry.commands ∧
      (accentsRegistry.resolve? "É").map Command.name = some "é") := by
  refine ⟨⟨accentRegistry_built, List.mem_cons_self, plain_declaredWith List.mem_cons_self, ?_⟩,
    accentsRegistry_built, List.mem_cons_self, List.mem_cons_of_mem _ List.mem_cons_self, ?_⟩
  · rw [← Option.isNone_iff_eq_none]
    decide +kernel
  · decide +kernel

end Registry

end Gatehouse
