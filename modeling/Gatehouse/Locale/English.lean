/-!
# `Gatehouse.Locale.English` — the English texts

## Contents
- `Catalog.englishSource`: the document of the catalog `en_US`.
-/

namespace Gatehouse.Catalog

/-- The document with the English texts, which are complete. -/
def englishSource : String :=
  "# Language bundle: English (United States). Default and fallback locale.
# Keys are flattened to dotted paths; `\x7b0\x7d`, `\x7b1\x7d` are positional arguments.

[permissionLevels]
default = \"Default\"
moderator = \"Moderator\"
administrator = \"Administrator\"
botAdmin = \"Bot Administrator\"

[errors]
missingEmbedLinks = \"I don't have permission to send embed messages in this channel! Please give me the `Embed Links` permission to use my commands here.\"
missingPermissionLevel = \"You need at least the **\x7b0\x7d** permission level to use this command.\"
missingBotCapability = \"I'm missing the following permissions to run this command: \x7b0\x7d\"
missingUserCapability = \"You're missing the following permissions to use this command: \x7b0\x7d\"
tooManyAttempts = \"Too many attempts! You can use this command again in \x7b0\x7d second(s).\"
notOfficialGuild = \"This command can only be used in official guilds.\"
guildOnly = \"This command can only be used in a server.\"
notVerified = \"You need to link your account before you can use this command.\"
externalPermission = \"Error: \x7b0\x7d\"
invalidArguments = \"\x7b0\x7d\\nUsage: `\x7b1\x7d`\"
unexpected = \"Something went wrong while running `\x7b0\x7d`. The failure has been logged.\"

[utility.uptime]
message = \"I have been online for **\x7b0\x7d**, since \x7b1\x7d.\"

[utility.channelid]
message = \"The id of <#\x7b0\x7d> is `\x7b0\x7d`.\"

[utility.userid]
message = \"The id of **\x7b0\x7d** is `\x7b1\x7d`.\"

[utility.help]
overview = \"Available commands: \x7b0\x7d\\nUse `\x7b1\x7dhelp <command>` for details.\"
header = \"**\x7b0\x7d** (\x7b1\x7d): \x7b2\x7d\"
triggers = \"Triggers: \x7b0\x7d\"
usage = \"Usage: \x7b0\x7d\"
gates = \"Requirements:\\n\x7b0\x7d\"
unknown = \"There is no command called `\x7b0\x7d`.\"

[fun.repeat]
missing = \"Tell me what to repeat.\"

[fun.profile]
message = \"**\x7b0\x7d** has **\x7b1\x7d** experience. Linked account: `\x7b2\x7d`.\"

[administration.purge]
invalidAmount = \"The amount must be a number between 1 and \x7b0\x7d.\"
deleted = \"Deleted **\x7b0\x7d** message(s).\"

[system.stats]
header = \"Command usage since startup:\"
entry = \"`\x7b0\x7d`: \x7b1\x7d\"
empty = \"No commands have been used yet.\"
"

end Gatehouse.Catalog
