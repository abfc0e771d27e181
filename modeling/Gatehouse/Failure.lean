import Gatehouse.Capability.Basic
import Gatehouse.Id

/-!
# `Gatehouse.Failure` — what can go wrong while a command runs

The platform can refuse an action, a command can refuse its arguments or fail for a reason of its own, and
gates and commands can stop with a panic. Each of these is reported to the caller in one of three ways.

## Contents
- `PlatformError`, `CommandError`, `Panic`: what can go wrong, with messages and codes.
- `Interrupt`: everything that ends the run of a command before its end.
- `Failure`: how it is reported; `Failure.ofInterrupt`.
-/

namespace Gatehouse

/-- An action that the platform refused. -/
inductive PlatformError where
  /-- The bot lacks a capability. -/
  | missingCapability (needed : Capability)
  /-- There is no such message, or it was deleted. -/
  | unknownMessage (id : MessageId)
  | unavailable (reason : String)
  deriving DecidableEq, Repr

namespace PlatformError

/-- What is said about a refused action. -/
def message : PlatformError → String
  | .missingCapability c => "missing capability " ++ c.name
  | .unknownMessage id => "unknown message " ++ id.text
  | .unavailable reason => "platform unavailable: " ++ reason

/-- The label of a refused action. -/
def code : PlatformError → String
  | .missingCapability _ => "missing_capability"
  | .unknownMessage _ => "unknown_message"
  | .unavailable _ => "platform_unavailable"

end PlatformError

/-- The error that a command ends with. -/
inductive CommandError where
  | platform (error : PlatformError)
  /-- The caller gave arguments that the command cannot use. -/
  | invalidArguments (reason : String)
  /-- Any other reason, with what was being done when it arose, innermost first. -/
  | internal (reason : String) (contexts : List String)
  deriving DecidableEq, Repr

namespace CommandError

/-- What is said about an error. Of an internal one only the outermost context is shown. -/
def message : CommandError → String
  | .platform e => "platform error: " ++ e.message
  | .invalidArguments reason => "invalid arguments: " ++ reason
  | .internal reason contexts => "internal error: " ++ contexts.getLast?.getD reason

/-- The label of an error. -/
def code : CommandError → String
  | .platform e => e.code
  | .invalidArguments _ => "invalid_arguments"
  | .internal _ _ => "internal_error"

end CommandError

/-- What a panic carries. -/
inductive Panic where
  | text (reason : String)
  | other
  deriving DecidableEq, Repr

/-- What is said about a panic. -/
def Panic.message : Panic → String
  | .text reason => reason
  | .other => "non-string panic payload"

/-- Everything that ends the run of a command before its end. -/
inductive Interrupt where
  | error (error : CommandError)
  | panic (panic : Panic)
  deriving DecidableEq, Repr

/-- How a failed run is reported. -/
inductive Failure where
  /-- The platform refused an action because the bot lacks a capability. -/
  | insufficientPermission (error : PlatformError)
  | invalidArguments (reason : String)
  /-- Anything else, under a label. -/
  | unexpected (label detail : String)
  deriving DecidableEq, Repr

namespace Failure

/-- How the error of a command is reported. -/
def ofError : CommandError → Failure
  | .platform (.missingCapability c) => .insufficientPermission (.missingCapability c)
  | .invalidArguments reason => .invalidArguments reason
  | e => .unexpected e.code e.message

/-- How a panic is reported. -/
def ofPanic (p : Panic) : Failure :=
  .unexpected "panic" p.message

/-- How an interrupted run is reported. -/
def ofInterrupt : Interrupt → Failure
  | .error e => ofError e
  | .panic p => ofPanic p

/-- The label of a failure. -/
def label : Failure → String
  | .insufficientPermission _ => "insufficient_external_permission"
  | .invalidArguments _ => "invalid_arguments"
  | .unexpected label _ => label

/-- What is said about a failure. -/
def detail : Failure → String
  | .insufficientPermission e => e.message
  | .invalidArguments reason => reason
  | .unexpected _ detail => detail

end Failure

end Gatehouse
