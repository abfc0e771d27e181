/-!
# `Gatehouse.Dispatch.Outcome` — what becomes of a message

## Contents
- `Outcome`, `Outcome.name`, `Outcome.isHandled`.
-/

namespace Gatehouse

/-- What becomes of a message. -/
inductive Outcome where
  /-- The author is a bot. -/
  | botAuthor
  /-- The settings that apply could not be had. -/
  | storeUnavailable
  /-- The message does not address the bot. -/
  | notCandidate
  /-- The bot cannot answer in the channel. -/
  | missingCapabilities
  | unknownCommand
  /-- A gate halted the call. -/
  | rejected
  /-- The command ran to its end. -/
  | completed
  | invalidArguments
  /-- The platform refused something that the command wanted to do. -/
  | externalPermission
  /-- The command or a gate failed in another way. -/
  | failed
  deriving DecidableEq, Repr

namespace Outcome

/-- The name of an outcome. -/
def name : Outcome → String
  | .botAuthor => "bot_author"
  | .storeUnavailable => "store_unavailable"
  | .notCandidate => "not_candidate"
  | .missingCapabilities => "missing_capabilities"
  | .unknownCommand => "unknown_command"
  | .rejected => "rejected"
  | .completed => "completed"
  | .invalidArguments => "invalid_arguments"
  | .externalPermission => "external_permission"
  | .failed => "failed"

/-- Whether a command did what it was called for. -/
def isHandled : Outcome → Bool
  | .completed => true
  | _ => false

end Outcome

end Gatehouse
