/-!
# `Gatehouse.Locale.Dutch` — the Dutch texts

## Contents
- `Catalog.dutchSource`: the document of the catalog `nl_NL`.
-/

namespace Gatehouse.Catalog

/-- The document with the Dutch texts, which are a part of all. -/
def dutchSource : String :=
  "# Language bundle: Dutch (Netherlands). Partial; missing keys fall back to en_US.

[permissionLevels]
default = \"Standaard\"
moderator = \"Moderator\"
administrator = \"Beheerder\"
botAdmin = \"Botbeheerder\"

[errors]
missingEmbedLinks = \"Ik mag in dit kanaal geen embeds sturen! Geef me de `Embed Links` permissie om mijn commando's hier te gebruiken.\"
missingPermissionLevel = \"Je hebt minimaal het **\x7b0\x7d** permissieniveau nodig voor dit commando.\"
tooManyAttempts = \"Te veel pogingen! Je kunt dit commando over \x7b0\x7d seconde(n) weer gebruiken.\"
guildOnly = \"Dit commando kan alleen in een server gebruikt worden.\"

[utility.uptime]
message = \"Ik ben al **\x7b0\x7d** online, sinds \x7b1\x7d.\"
"

end Gatehouse.Catalog
