import Gatehouse.Config.Basic
import Gatehouse.FileTree
import Gatehouse.Message.Wire
import Gatehouse.Toml.Reader

/-!
# `Gatehouse.Config.Reader` — reading a configuration

A configuration is a record of records in one of two formats. A setting that is left out has a default; one
that is unknown is passed over; one of the wrong kind makes the whole configuration unreadable.

## Contents
- `Config.Format`: the formats, and how records and alternatives are read in them.
- `Config.decode?` and one reader for each part.
- `Config.ofToml`: a TOML value with the kinds that settings can tell apart.
- `Config.read?`, `Config.load`, `Config.loadPath`, `Config.Unreadable`: configurations from documents and
  files.
-/

namespace Gatehouse

open Json (required? defaulting? optional?)

/-! ## Formats -/

/-- The formats of configurations. -/
inductive Config.Format where
  | toml
  | json
  deriving DecidableEq, Repr

namespace Config.Format

/-- The fields of a record. In TOML a record that is written as a list may have surplus elements. -/
def fields? (format : Format) (layout : Json.Layout) (j : Json) : Option (List (String × Json)) :=
  match format, j with
  | .toml, .arr items => layout.fields? (.arr (items.take layout.names.length))
  | _, j => layout.fields? j

/-- The name of an alternative. In TOML the object form holds an empty list or table, there being no null. -/
def alternative? (format : Format) (j : Json) : Option String :=
  match format, j with
  | .toml, .obj [(name, .arr [])] => some name
  | .toml, .obj [(name, .obj [])] => some name
  | _, j => j.alternative?

end Config.Format

/-! ## Parts -/

/-- A number of seconds, or another count. -/
def decodeCount? (j : Json) : Option Nat :=
  j.nat? Numeral.maxId

/-- A number of 16 bits, which says where an endpoint listens. -/
def decodePort? (j : Json) : Option Nat :=
  j.nat? 65535

/-- A table of texts. Of two entries with one key the later counts. -/
def decodeTexts? : Json → Option (Table String String)
  | .obj members => do
      let entries ← members.mapM fun m => (Json.str? m.2).map fun s => (m.1, s)
      return Table.ofList entries
  | _ => none

/-- The fields of the bot part. -/
def BotConfig.layout : Json.Layout :=
  ⟨["name", "bot_user_id", "default_prefix", "default_locale", "shard_id", "shard_total", "metrics_port"], 7⟩

def BotConfig.decode? (format : Config.Format) (j : Json) : Option BotConfig := do
  let f ← format.fields? BotConfig.layout j
  return {
    name := ← defaulting? f "name" Json.str? "gatebot"
    userId := ← required? f "bot_user_id" decodeId?
    lead := ← defaulting? f "default_prefix" Json.str? "!"
    locale := ← defaulting? f "default_locale" Json.str? "en_US"
    shard := ⟨← defaulting? f "shard_id" decodeWord? 0, ← defaulting? f "shard_total" decodeWord? 1⟩
    metricsPort := ← optional? f "metrics_port" decodePort? }

/-- The fields of the feedback part. -/
def FeedbackConfig.layout : Json.Layout :=
  ⟨["capability_warning_secs", "error_secs", "restriction_secs", "throttle_secs"], 0⟩

def FeedbackConfig.decode? (format : Config.Format) (j : Json) : Option FeedbackConfig := do
  let f ← format.fields? FeedbackConfig.layout j
  let d := FeedbackConfig.standard
  return {
    capabilityWarning := ← defaulting? f "capability_warning_secs" decodeCount? d.capabilityWarning
    error := ← defaulting? f "error_secs" decodeCount? d.error
    restriction := ← defaulting? f "restriction_secs" decodeCount? d.restriction
    throttle := ← defaulting? f "throttle_secs" decodeCount? d.throttle }

/-- A part with one count in it. -/
def decodeSingle? (format : Config.Format) (name : String) (default : Nat) (j : Json) : Option Nat := do
  let f ← format.fields? ⟨[name], 0⟩ j
  defaulting? f name decodeCount? default

/-- The seconds between sweeps that the throttle part gives. -/
def decodeSweepInterval? (format : Config.Format) (j : Json) : Option Nat :=
  decodeSingle? format "sweep_interval_secs" 60 j

/-- The lifetime of settings that the cache part gives. -/
def decodeCacheLifetime? (format : Config.Format) (j : Json) : Option Nat :=
  decodeSingle? format "bundle_ttl_secs" 300 j

/-- The fields of the permissions part. -/
def PermissionsConfig.layout : Json.Layout := ⟨["bot_admins", "official_guilds"], 0⟩

def PermissionsConfig.decode? (format : Config.Format) (j : Json) : Option PermissionsConfig := do
  let f ← format.fields? PermissionsConfig.layout j
  return {
    botAdmins := ← defaulting? f "bot_admins" (Json.listOf? decodeId?) []
    officialGuilds := ← defaulting? f "official_guilds" (Json.listOf? decodeId?) [] }

def LogFormat.ofName? : String → Option LogFormat
  | "pretty" => some .pretty
  | "json" => some .json
  | _ => none

def LogFormat.decode? (format : Config.Format) (j : Json) : Option LogFormat :=
  (format.alternative? j).bind LogFormat.ofName?

/-- The fields of the logging part. -/
def LoggingConfig.layout : Json.Layout := ⟨["level", "format"], 0⟩

def LoggingConfig.decode? (format : Config.Format) (j : Json) : Option LoggingConfig := do
  let f ← format.fields? LoggingConfig.layout j
  return {
    level := ← defaulting? f "level" Json.str? "info"
    format := ← defaulting? f "format" (LogFormat.decode? format) .pretty }

/-- The fields of a seeded user. -/
def PlayerSeed.layout : Json.Layout := ⟨["user", "experience", "verified", "linked_account"], 4⟩

def PlayerSeed.decode? (format : Config.Format) (j : Json) : Option PlayerSeed := do
  let f ← format.fields? PlayerSeed.layout j
  return {
    user := ← required? f "user" decodeId?
    experience := ← defaulting? f "experience" decodeCount? 0
    verified := ← defaulting? f "verified" Json.bool? false
    linkedAccount := ← optional? f "linked_account" Json.str? }

/-- The fields of a seeded guild. -/
def GuildSeed.layout : Json.Layout :=
  ⟨["id", "prefix", "locale", "moderator_roles", "admin_roles", "admin_users", "aliases", "players"], 3⟩

def GuildSeed.decode? (format : Config.Format) (j : Json) : Option GuildSeed := do
  let f ← format.fields? GuildSeed.layout j
  return {
    id := ← required? f "id" decodeId?
    settings := {
      lead := ← optional? f "prefix" Json.str?
      locale := ← optional? f "locale" Json.str?
      moderatorRoles := ← defaulting? f "moderator_roles" (Json.listOf? decodeId?) []
      adminRoles := ← defaulting? f "admin_roles" (Json.listOf? decodeId?) []
      adminUsers := ← defaulting? f "admin_users" (Json.listOf? decodeId?) []
      aliases := ← defaulting? f "aliases" decodeTexts? ∅ }
    players := ← defaulting? f "players" (Json.listOf? (PlayerSeed.decode? format)) [] }

namespace Config

/-- The parts of a configuration. -/
def layout : Json.Layout :=
  ⟨["bot", "feedback", "throttle", "cache", "permissions", "logging", "guilds"], 1⟩

/-- A configuration from its written form. -/
def decode? (format : Format) (j : Json) : Option Config := do
  let f ← format.fields? layout j
  return {
    bot := ← required? f "bot" (BotConfig.decode? format)
    feedback := ← defaulting? f "feedback" (FeedbackConfig.decode? format) FeedbackConfig.standard
    sweepInterval := ← defaulting? f "throttle" (decodeSweepInterval? format) 60
    cacheLifetime := ← defaulting? f "cache" (decodeCacheLifetime? format) 300
    permissions := ← defaulting? f "permissions" (PermissionsConfig.decode? format) ⟨[], []⟩
    logging := ← defaulting? f "logging" (LoggingConfig.decode? format) ⟨"info", .pretty⟩
    guilds := ← defaulting? f "guilds" (Json.listOf? (GuildSeed.decode? format)) [] }

/-! ## Documents -/

mutual

/-- A TOML value with the kinds that settings can tell apart. No setting is a number with a fraction, so all
    of these are alike; dates and times are objects with one text in them. -/
def ofToml : Toml → Json
  | .string s => .str s
  | .integer i => .int i
  | .float _ => .real 0 0
  | .boolean b => .bool b
  | .datetime t => .obj [(Toml.datetimeMember, .str t)]
  | .array items => .arr (ofTomlItems items)
  | .table entries => .obj (ofTomlEntries entries)

/-- The elements of a list. -/
def ofTomlItems : List Toml → List Json
  | [] => []
  | item :: items => ofToml item :: ofTomlItems items

/-- The entries of a table. -/
def ofTomlEntries : List (String × Toml) → List (String × Json)
  | [] => []
  | (key, v) :: entries => (key, ofToml v) :: ofTomlEntries entries

end

/-- The configuration that a document holds. -/
def read? (source : String) : Option Config :=
  (Toml.read? source).bind fun entries => decode? .toml (ofToml (.table entries))

/-- Why there is no configuration. -/
inductive Unreadable where
  /-- The file could not be read, for the given reason. -/
  | file (reason : String)
  /-- The document is malformed or does not describe a configuration. -/
  | document
  deriving DecidableEq, Repr

/-- The reason why bytes are no text. -/
def notText : String := "stream did not contain valid UTF-8"

/-- The configuration that the bytes of a file hold. -/
def load (bytes : ByteArray) : Except Unreadable Config :=
  match String.fromUTF8? bytes with
  | none => .error (.file notText)
  | some source =>
      match read? source with
      | some config => .ok config
      | none => .error .document

/-- The configuration in the file that a path leads to. -/
def loadPath (here : FileTree.Trail) (path : String) : Except Unreadable Config :=
  match FileTree.read here path with
  | .ok bytes => load bytes
  | .error fault => .error (.file fault.message)

end Config

end Gatehouse
