import Gatehouse.Text.Blank
import Gatehouse.Text.Lowercase

/-!
# `Gatehouse.Capability.Basic` — what an account may do in a channel

A capability has a dotted name of the form `group.permission`. Names are read without regard to ASCII case
and surrounding white space.

## Contents
- `Capability`, `Capability.all`: the capabilities in their fixed order.
- `Capability.name`, `Capability.index`.
- `Capability.parse`, `Capability.Unknown`.
-/

namespace Gatehouse

/-- A single platform capability. -/
inductive Capability where
  /-- Grants every other capability. -/
  | administrator
  | manageServer
  | manageRoles
  | manageChannels
  | kickMembers
  | banMembers
  | manageNicknames
  | readMessages
  | sendMessages
  | embedLinks
  | attachFiles
  | readMessageHistory
  | manageMessages
  | addReactions
  | mentionEveryone
  | useExternalEmojis
  | voiceConnect
  | voiceSpeak
  deriving DecidableEq, Repr

namespace Capability

/-- Every capability, in the order in which sets are listed. -/
def all : List Capability := [
  .administrator, .manageServer, .manageRoles, .manageChannels, .kickMembers, .banMembers,
  .manageNicknames, .readMessages, .sendMessages, .embedLinks, .attachFiles, .readMessageHistory,
  .manageMessages, .addReactions, .mentionEveryone, .useExternalEmojis, .voiceConnect, .voiceSpeak
]

/-- The dotted name. -/
def name : Capability → String
  | .administrator => "general.administrator"
  | .manageServer => "general.manage_server"
  | .manageRoles => "general.manage_roles"
  | .manageChannels => "general.manage_channels"
  | .kickMembers => "general.kick_members"
  | .banMembers => "general.ban_members"
  | .manageNicknames => "general.manage_nicknames"
  | .readMessages => "text.read_messages"
  | .sendMessages => "text.send_messages"
  | .embedLinks => "text.embed_links"
  | .attachFiles => "text.attach_files"
  | .readMessageHistory => "text.read_message_history"
  | .manageMessages => "text.manage_messages"
  | .addReactions => "text.add_reactions"
  | .mentionEveryone => "text.mention_everyone"
  | .useExternalEmojis => "text.use_external_emojis"
  | .voiceConnect => "voice.connect"
  | .voiceSpeak => "voice.speak"

/-- The position of a capability in `all`. -/
def index (c : Capability) : Nat :=
  all.idxOf c

/-- Every capability is listed. -/
theorem mem_all (c : Capability) : c ∈ all := by
  cases c <;> decide

/-- Positions are below the number of capabilities. -/
theorem index_lt (c : Capability) : c.index < 18 := by
  cases c <;> decide

/-- Different capabilities have different positions. -/
theorem index_inj {c d : Capability} (h : c.index = d.index) : c = d := by
  have : all[c.index]? = all[d.index]? := by rw [h]
  revert this
  cases c <;> cases d <;> decide

/-- A name that no capability has. -/
structure Unknown where
  name : String
  deriving DecidableEq, Repr

/-- What is said about an unknown name. -/
def Unknown.message (e : Unknown) : String :=
  "unknown capability: " ++ e.name

/-- The capability of a name. The error holds the name as it was written, without the white space around
    it. -/
def parse (s : String) : Except Unknown Capability :=
  let needle := String.ofList (Text.asciiLowercase (Text.trim s.toList))
  match all.find? (·.name = needle) with
  | some c => .ok c
  | none => .error ⟨Text.trimmed s⟩

end Capability

end Gatehouse
