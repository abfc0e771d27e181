import Gatehouse.Capability.Set
import Gatehouse.Numeral
import Gatehouse.Permission
import Gatehouse.Throttle

/-!
# `Gatehouse.Gate.Spec` — gates as they are declared

A gate is declared by its name, and, after a colon, arguments between commas:

    permission:moderator
    require:user,text.manage_messages
    throttle:channel,1,5
    official-guild
    guild-only

A name that is none of these stands for a custom gate. White space around the whole, the name and each
argument does not count, blank arguments are passed over, and the name is read without regard to ASCII case.

## Contents
- `GateSpec`, `GateSpec.Error`, `GateSpec.Error.message`.
- `GateSpec.parse`.
-/

namespace Gatehouse

/-- Whose capabilities a gate asks for. -/
inductive RequireTarget where
  /-- The member who calls the command. -/
  | user
  /-- The bot itself. -/
  | bot
  deriving DecidableEq, Repr

/-- The declaration of a gate. -/
inductive GateSpec where
  | permission (level : Permission)
  | require (target : RequireTarget) (capabilities : Capabilities)
  /-- At most `limit` calls in `window` seconds. -/
  | throttle (scope : Throttle.Scope) (limit window : Nat)
  | officialGuild
  | guildOnly
  | custom (name : String) (arguments : List String)
  deriving DecidableEq, Repr

namespace GateSpec

/-- Why a declaration is no good. -/
inductive Error where
  | empty
  | missingArguments (gate : String)
  | unexpectedArguments (gate : String)
  | argumentCount (gate : String) (expected found : Nat)
  | invalidPermissionLevel (text : String)
  | invalidRequireTarget (text : String)
  | capability (error : Capability.Unknown)
  | invalidThrottleScope (text : String)
  | invalidNumber (text : String)
  deriving DecidableEq, Repr

/-- What is said about a bad declaration. -/
def Error.message : Error → String
  | .empty => "empty gate specification"
  | .missingArguments gate => "gate `" ++ gate ++ "` requires arguments"
  | .unexpectedArguments gate => "gate `" ++ gate ++ "` takes no arguments"
  | .argumentCount gate expected found =>
      "gate `" ++ gate ++ "` expects " ++ toString expected ++ " argument(s), got " ++ toString found
  | .invalidPermissionLevel text => "unknown permission level `" ++ text ++ "`"
  | .invalidRequireTarget text => "require target must be `user` or `bot`, got `" ++ text ++ "`"
  | .capability e => e.message
  | .invalidThrottleScope text => "unknown throttle scope `" ++ text ++ "`"
  | .invalidNumber text => "expected a positive number, got `" ++ text ++ "`"

/-! ## Parts -/

/-- The level that an argument names. -/
def parseLevel (s : String) : Except Error Permission :=
  (Permission.parse s).mapError fun e => .invalidPermissionLevel e.name

/-- The target that an argument names, without regard to ASCII case and surrounding white space. -/
def parseTarget (s : String) : Except Error RequireTarget :=
  match String.ofList (Text.asciiLowercase (Text.trim s.toList)) with
  | "user" => .ok .user
  | "bot" => .ok .bot
  | _ => .error (.invalidRequireTarget (Text.trimmed s))

/-- The scope that an argument names. -/
def parseScope (s : String) : Except Error Throttle.Scope :=
  (Throttle.Scope.parse s).mapError fun e => .invalidThrottleScope e.name

/-- The capabilities that arguments name. -/
def parseCapabilities (names : List String) : Except Error Capabilities :=
  (Capabilities.ofNames names).mapError .capability

/-- The positive number up to `bound` that an argument stands for. -/
def parsePositive (bound : Nat) (s : String) : Except Error Nat :=
  match Numeral.read? bound s.toList with
  | some (n + 1) => .ok (n + 1)
  | _ => .error (.invalidNumber s)

/-- The arguments in the text after the colon. -/
def argumentsOf (cs : List Char) : List String :=
  (((Text.fields ',' cs).map Text.trim).filter fun a => !a.isEmpty).map String.ofList

/-- The name and the arguments of a declaration. -/
def split (s : String) : String × List String :=
  let cs := Text.trim s.toList
  match Text.splitAt? ':' cs with
  | some (name, rest) => (String.ofList (Text.asciiLowercase (Text.trim name)), argumentsOf rest)
  | none => (String.ofList (Text.asciiLowercase cs), [])

/-! ## Declarations -/

/-- A gate that takes no arguments. -/
def ofNoArguments (name : String) (spec : GateSpec) : List String → Except Error GateSpec
  | [] => .ok spec
  | _ :: _ => .error (.unexpectedArguments name)

/-- `permission` takes a level. -/
def permissionOf : List String → Except Error GateSpec
  | [] => .error (.missingArguments "permission")
  | [level] => (parseLevel level).map .permission
  | args => .error (.argumentCount "permission" 1 args.length)

/-- `require` takes a target and at least one capability. -/
def requireOf : List String → Except Error GateSpec
  | target :: c :: cs => do
      let target ← parseTarget target
      let capabilities ← parseCapabilities (c :: cs)
      return .require target capabilities
  | _ => .error (.missingArguments "require")

/-- `throttle` takes a scope, a limit and a number of seconds. -/
def throttleOf : List String → Except Error GateSpec
  | [] => .error (.missingArguments "throttle")
  | [scope, limit, window] => do
      let scope ← parseScope scope
      let limit ← parsePositive Numeral.maxWord limit
      let window ← parsePositive Numeral.maxId window
      return .throttle scope limit window
  | args => .error (.argumentCount "throttle" 3 args.length)

/-- The gate of a name and arguments. -/
def ofParts (name : String) (args : List String) : Except Error GateSpec :=
  match name with
  | "" => .error .empty
  | "permission" => permissionOf args
  | "require" => requireOf args
  | "throttle" => throttleOf args
  | "official-guild" => ofNoArguments "official-guild" .officialGuild args
  | "guild-only" => ofNoArguments "guild-only" .guildOnly args
  | name => .ok (.custom name args)

/-- The gate that a text declares. -/
def parse (s : String) : Except Error GateSpec :=
  let parts := split s
  ofParts parts.1 parts.2

end GateSpec

end Gatehouse
