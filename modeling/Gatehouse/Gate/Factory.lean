import Gatehouse.Gate.Builtin

/-!
# `Gatehouse.Gate.Factory` — gates from their declarations

## Contents
- `GateFactory`: the custom gates that can be declared, and what gates are built from.
- `GateFactory.Error`, `GateFactory.Error.message`.
- `GateFactory.build`: the gate of a declaration; `GateFactory.buildAll`.
- `GateFactory.withVerified`: the custom gate that comes with the bot.
-/

namespace Gatehouse

/-- Builds a custom gate from the arguments of its declaration. -/
abbrev GateBuilder := List String → Except GateSpec.Error Gate

/-- What gates are built from. -/
structure GateFactory where
  officialGuilds : List GuildId
  /-- The custom gates, by their names in lowercase. -/
  custom : Table String GateBuilder

namespace GateFactory

/-- A factory without custom gates. -/
def ofGuilds (officialGuilds : List GuildId) : GateFactory :=
  ⟨officialGuilds, Table.empty⟩

/-- The factory with one more custom gate. -/
def register (f : GateFactory) (name : String) (builder : GateBuilder) : GateFactory :=
  { f with custom := f.custom.insert (Text.asciiLowercased name) builder }

/-- A gate that takes no arguments. -/
def withoutArguments (name : String) (gate : Gate) : GateBuilder
  | [] => .ok gate
  | _ :: _ => .error (.unexpectedArguments name)

/-- The factory with the custom gate that asks for a linked account. -/
def withVerified (f : GateFactory) : GateFactory :=
  f.register "verified" (withoutArguments "verified" Gate.verified)

/-- Why a declaration gives no gate. -/
inductive Error where
  | invalid (command spec : String) (cause : GateSpec.Error)
  | unknown (command gate : String)
  deriving DecidableEq, Repr

/-- What is said about a declaration that gives no gate. -/
def Error.message : Error → String
  | .invalid command spec cause =>
      "command `" ++ command ++ "` declares invalid gate `" ++ spec ++ "`: " ++ cause.message
  | .unknown command gate => "command `" ++ command ++ "` declares unknown gate `" ++ gate ++ "`"

/-- The gate that `command` declares with the text `spec`, once that is read. -/
def ofSpec (f : GateFactory) (command spec : String) : GateSpec → Except Error Gate
  | .permission level => .ok (Gate.permission level)
  | .require target capabilities => .ok (Gate.require target capabilities)
  | .throttle scope limit window => .ok (Gate.throttle scope limit window)
  | .officialGuild => .ok (Gate.officialGuild f.officialGuilds)
  | .guildOnly => .ok Gate.guildOnly
  | .custom name args =>
      match f.custom.get? name with
      | some builder => (builder args).mapError (.invalid command spec)
      | none => .error (.unknown command name)

/-- The gate that `command` declares with the text `spec`. -/
def build (f : GateFactory) (command spec : String) : Except Error Gate :=
  match GateSpec.parse spec with
  | .ok parsed => f.ofSpec command spec parsed
  | .error cause => .error (.invalid command spec cause)

/-- The gates that `command` declares, in order. The first bad declaration is the error. -/
def buildAll (f : GateFactory) (command : String) (specs : List String) : Except Error (List Gate) :=
  specs.mapM (f.build command)

end GateFactory

end Gatehouse
