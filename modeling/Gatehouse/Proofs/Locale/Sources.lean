import Gatehouse.Locale.Languages

/-!
# `Gatehouse.Proofs.Locale.Sources` — what the documents of the languages say

The documents that come with the bot are well formed, and they read to the catalogs `Catalog.english` and
`Catalog.dutch` (`Catalog.read?_english`, `Catalog.read?_dutch`). So reading them never fails, and the built-in
languages are these two (`Languages.builtin_eq`). A code finds the catalog that the document of the code reads to
(`Languages.get?_builtinTable_iff`), the codes that are called available are those with such a document
(`Languages.has_iff`), and any of them will do as the default (`Languages.exists_builtin_of_has`).
-/

namespace Gatehouse

namespace Catalog

/-- The catalog with the given texts. -/
def ofTexts (code : String) (texts : List (String × String)) : Catalog :=
  ⟨code, Table.ofList texts⟩

/-- The English texts, in the order of their keys. -/
def english : Catalog := ofTexts "en_US" [
  ("administration.purge.deleted",
    "Deleted **\x7b0\x7d** message(s)."),
  ("administration.purge.invalidAmount",
    "The amount must be a number between 1 and \x7b0\x7d."),
  ("errors.externalPermission",
    "Error: \x7b0\x7d"),
  ("errors.guildOnly",
    "This command can only be used in a server."),
  ("errors.invalidArguments",
    "\x7b0\x7d\nUsage: `\x7b1\x7d`"),
  ("errors.missingBotCapability",
    "I'm missing the following permissions to run this command: \x7b0\x7d"),
  ("errors.missingEmbedLinks",
    "I don't have permission to send embed messages in this channel! Please give me the `Embed Links` permission to use my commands here."),
  ("errors.missingPermissionLevel",
    "You need at least the **\x7b0\x7d** permission level to use this command."),
  ("errors.missingUserCapability",
    "You're missing the following permissions to use this command: \x7b0\x7d"),
  ("errors.notOfficialGuild",
    "This command can only be used in official guilds."),
  ("errors.notVerified",
    "You need to link your account before you can use this command."),
  ("errors.tooManyAttempts",
    "Too many attempts! You can use this command again in \x7b0\x7d second(s)."),
  ("errors.unexpected",
    "Something went wrong while running `\x7b0\x7d`. The failure has been logged."),
  ("fun.profile.message",
    "**\x7b0\x7d** has **\x7b1\x7d** experience. Linked account: `\x7b2\x7d`."),
  ("fun.repeat.missing",
    "Tell me what to repeat."),
  ("permissionLevels.administrator",
    "Administrator"),
  ("permissionLevels.botAdmin",
    "Bot Administrator"),
  ("permissionLevels.default",
    "Default"),
  ("permissionLevels.moderator",
    "Moderator"),
  ("system.stats.empty",
    "No commands have been used yet."),
  ("system.stats.entry",
    "`\x7b0\x7d`: \x7b1\x7d"),
  ("system.stats.header",
    "Command usage since startup:"),
  ("utility.channelid.message",
    "The id of <#\x7b0\x7d> is `\x7b0\x7d`."),
  ("utility.help.gates",
    "Requirements:\n\x7b0\x7d"),
  ("utility.help.header",
    "**\x7b0\x7d** (\x7b1\x7d): \x7b2\x7d"),
  ("utility.help.overview",
    "Available commands: \x7b0\x7d\nUse `\x7b1\x7dhelp <command>` for details."),
  ("utility.help.triggers",
    "Triggers: \x7b0\x7d"),
  ("utility.help.unknown",
    "There is no command called `\x7b0\x7d`."),
  ("utility.help.usage",
    "Usage: \x7b0\x7d"),
  ("utility.uptime.message",
    "I have been online for **\x7b0\x7d**, since \x7b1\x7d."),
  ("utility.userid.message",
    "The id of **\x7b0\x7d** is `\x7b1\x7d`.")
]

/-- The Dutch texts, in the order of their keys. -/
def dutch : Catalog := ofTexts "nl_NL" [
  ("errors.guildOnly",
    "Dit commando kan alleen in een server gebruikt worden."),
  ("errors.missingEmbedLinks",
    "Ik mag in dit kanaal geen embeds sturen! Geef me de `Embed Links` permissie om mijn commando's hier te gebruiken."),
  ("errors.missingPermissionLevel",
    "Je hebt minimaal het **\x7b0\x7d** permissieniveau nodig voor dit commando."),
  ("errors.tooManyAttempts",
    "Te veel pogingen! Je kunt dit commando over \x7b0\x7d seconde(n) weer gebruiken."),
  ("permissionLevels.administrator",
    "Beheerder"),
  ("permissionLevels.botAdmin",
    "Botbeheerder"),
  ("permissionLevels.default",
    "Standaard"),
  ("permissionLevels.moderator",
    "Moderator"),
  ("utility.uptime.message",
    "Ik ben al **\x7b0\x7d** online, sinds \x7b1\x7d.")
]

/-! ## The documents are read -/

/-- Reading a document begins with its characters. -/
theorem read?_of_toList {code source : String} {cs : List Char} (h : source.toList = cs) :
    read? code source
      = (((Toml.lines? [] [] (Toml.joinLineEnds (Toml.withoutMark cs))).map Toml.finishEntries).bind
          Toml.revealEntries?).map (ofTree code) := by
  rw [read?, Toml.read?, h]

-- The characters of a literal are taken from it as they stand. To compute them by decoding it would take long.

set_option maxRecDepth 20000 in
/-- **The English document** reads to the English catalog. -/
theorem read?_english : read? "en_US" englishSource = some english := by
  have hchars : englishSource.toList = _ := String.toList_ofList
  rw [read?_of_toList hchars]
  decide +kernel

set_option maxRecDepth 20000 in
/-- **The Dutch document** reads to the Dutch catalog. -/
theorem read?_dutch : read? "nl_NL" dutchSource = some dutch := by
  have hchars : dutchSource.toList = _ := String.toList_ofList
  rw [read?_of_toList hchars]
  decide +kernel

theorem code_of_read? {code source : String} {c : Catalog} (h : read? code source = some c) : c.code = code := by
  obtain ⟨entries, -, rfl⟩ := Option.map_eq_some_iff.mp h
  rfl

end Catalog

/-! ## The built-in languages -/

namespace Languages

/-- The built-in catalogs. -/
def builtinCatalogs : List Catalog :=
  [Catalog.english, Catalog.dutch]

/-- The built-in catalogs by their codes. -/
def builtinTable : Table String Catalog :=
  Table.ofList (builtinCatalogs.map fun c => (c.code, c))

theorem readSource_of_read? {code source : String} {c : Catalog} (h : Catalog.read? code source = some c) :
    readSource (code, source) = .ok (code, c) := by
  simp only [readSource, h]

/-- **Reading the documents of the built-in languages** gives the built-in catalogs. -/
theorem builtin_eq (code : String) : builtin code = ofCatalogs builtinTable code := by
  have hread : sources.mapM readSource = .ok (builtinCatalogs.map fun c => (c.code, c)) := by
    rw [sources, List.mapM_cons, List.mapM_cons, List.mapM_nil, readSource_of_read? Catalog.read?_english,
      readSource_of_read? Catalog.read?_dutch]
    rfl
  rw [builtin, ofSources, hread]
  rfl

/-- There is a well-formed document of the language. -/
def Has (code : String) : Prop :=
  ∃ source c, (code, source) ∈ sources ∧ Catalog.read? code source = some c

variable {code : String}

/-- What a document of a built-in language reads to. -/
theorem mem_sources_iff {c : Catalog} :
    (∃ source, (code, source) ∈ sources ∧ Catalog.read? code source = some c) ↔
      (code = "en_US" ∧ c = Catalog.english) ∨ (code = "nl_NL" ∧ c = Catalog.dutch) := by
  constructor
  · rintro ⟨source, hsource, hread⟩
    simp only [sources, List.mem_cons, Prod.mk.injEq, List.not_mem_nil, or_false] at hsource
    rcases hsource with ⟨rfl, rfl⟩ | ⟨rfl, rfl⟩
    · exact .inl ⟨rfl, Option.some.inj (hread.symm.trans Catalog.read?_english)⟩
    · exact .inr ⟨rfl, Option.some.inj (hread.symm.trans Catalog.read?_dutch)⟩
  · rintro (⟨rfl, rfl⟩ | ⟨rfl, rfl⟩)
    · exact ⟨_, List.mem_cons_self, Catalog.read?_english⟩
    · exact ⟨_, List.mem_cons_of_mem _ List.mem_cons_self, Catalog.read?_dutch⟩

/-- **A code finds what its document reads to**, among the built-in catalogs. -/
theorem get?_builtinTable_iff {c : Catalog} :
    builtinTable.get? code = some c ↔ ∃ source, (code, source) ∈ sources ∧ Catalog.read? code source = some c := by
  have hentries : builtinTable.entries = [("nl_NL", Catalog.dutch), ("en_US", Catalog.english)] := rfl
  rw [mem_sources_iff, Table.get?_eq_some_iff, hentries]
  simp only [List.mem_cons, Prod.mk.injEq, List.not_mem_nil, or_false]
  exact or_comm

/-- **The available codes are those of the languages with a document.** -/
theorem has_iff : Has code ↔ available.contains code = true := by
  have hcode : Has code ↔ code = "en_US" ∨ code = "nl_NL" := by
    rw [Has, exists_comm]
    simp only [mem_sources_iff]
    constructor
    · rintro ⟨c, hc | hc⟩
      · exact .inl hc.1
      · exact .inr hc.1
    · rintro (hcode | hcode)
      · exact ⟨_, .inl ⟨hcode, rfl⟩⟩
      · exact ⟨_, .inr ⟨hcode, rfl⟩⟩
  rw [hcode, List.contains_iff_mem, available, List.mem_cons, List.mem_singleton]

/-- **The built-in languages can be had with any of them as the default one**, and each of them is found by its
    code. -/
theorem exists_builtin_of_has (h : Has code) :
    ∃ l, builtin code = .ok l ∧
      (∃ source, (code, source) ∈ sources ∧ Catalog.read? code source = some (l.resolve none)) ∧
      ∀ other, Has other →
        ∃ source, (other, source) ∈ sources ∧ Catalog.read? other source = some (l.resolve (some other)) := by
  obtain ⟨source, fallback, hsource, hread⟩ := h
  have hfallback := get?_builtinTable_iff.mpr ⟨source, hsource, hread⟩
  refine ⟨⟨fallback, builtinTable⟩, ?_, ⟨source, hsource, hread⟩, ?_⟩
  · rw [builtin_eq, ofCatalogs, hfallback]
  · rintro other ⟨source, c, hsource, hread⟩
    have hget := get?_builtinTable_iff.mpr ⟨source, hsource, hread⟩
    refine ⟨source, hsource, ?_⟩
    rw [resolve, Option.bind_some, hget]
    exact hread

end Languages

end Gatehouse
