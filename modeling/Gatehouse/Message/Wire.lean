import Gatehouse.Json.Record
import Gatehouse.Message.Basic

/-!
# `Gatehouse.Message.Wire` — messages as JSON values

Every object has an `encode` and a `decode?`. Decoding refuses a value of the wrong kind, a missing field
without a default and a number that does not fit; fields with a default may be left out, and only optional
ones may be null. Encoding writes every field.

## Contents
- `decodeId?`, `encodeId` and one pair for each kind of object up to `Message` and `Notice`.
-/

namespace Gatehouse

open Json (required? defaulting? optional?)

/-! ## Ids, words and capability sets -/

/-- An id from a whole number of 64 bits. -/
def decodeId? {kind : Id.Kind} (j : Json) : Option (Id kind) :=
  (j.nat? Numeral.maxId).map Id.ofNat

/-- An id as a number. -/
def encodeId {kind : Id.Kind} (id : Id kind) : Json :=
  .nat id.toNat

/-- A whole number of 32 bits. -/
def decodeWord? (j : Json) : Option UInt32 :=
  (j.nat? Numeral.maxWord).map UInt32.ofNat

/-- A capability set from a list of names. -/
def Capabilities.decode? (j : Json) : Option Capabilities := do
  let names ← j.listOf? Json.str?
  (Capabilities.ofNames names).toOption

/-- A capability set as the list of its names. -/
def Capabilities.encode (s : Capabilities) : Json :=
  .arr (s.names.map .str)

/-! ## Entities -/

/-- The fields of a user. -/
def User.layout : Json.Layout := ⟨["id", "name", "bot"], 2⟩

def User.decode? (j : Json) : Option User := do
  let f ← User.layout.fields? j
  return {
    id := ← required? f "id" decodeId?
    name := ← required? f "name" Json.str?
    bot := ← defaulting? f "bot" Json.bool? false }

def User.encode (u : User) : Json :=
  .obj [("id", encodeId u.id), ("name", .str u.name), ("bot", .bool u.bot)]

/-- The fields of a role. -/
def Role.layout : Json.Layout := ⟨["id", "name"], 2⟩

def Role.decode? (j : Json) : Option Role := do
  let f ← Role.layout.fields? j
  return {
    id := ← required? f "id" decodeId?
    name := ← required? f "name" Json.str? }

def Role.encode (r : Role) : Json :=
  .obj [("id", encodeId r.id), ("name", .str r.name)]

/-- The fields of a guild. -/
def Guild.layout : Json.Layout := ⟨["id", "name", "owner_id", "roles"], 3⟩

def Guild.decode? (j : Json) : Option Guild := do
  let f ← Guild.layout.fields? j
  return {
    id := ← required? f "id" decodeId?
    name := ← required? f "name" Json.str?
    owner := ← required? f "owner_id" decodeId?
    roles := ← defaulting? f "roles" (Json.listOf? Role.decode?) [] }

def Guild.encode (g : Guild) : Json :=
  .obj [
    ("id", encodeId g.id),
    ("name", .str g.name),
    ("owner_id", encodeId g.owner),
    ("roles", .arr (g.roles.map Role.encode))]

/-- The fields of a member. -/
def Member.layout : Json.Layout := ⟨["user", "nickname", "roles", "capabilities"], 1⟩

def Member.decode? (j : Json) : Option Member := do
  let f ← Member.layout.fields? j
  return {
    user := ← required? f "user" User.decode?
    nickname := ← optional? f "nickname" Json.str?
    roles := ← defaulting? f "roles" (Json.listOf? decodeId?) []
    capabilities := ← defaulting? f "capabilities" Capabilities.decode? ∅ }

def Member.encode (m : Member) : Json :=
  .obj [
    ("user", m.user.encode),
    ("nickname", Json.ofOption .str m.nickname),
    ("roles", .arr (m.roles.map encodeId)),
    ("capabilities", m.capabilities.encode)]

/-- The name of a channel kind. -/
def ChannelKind.name : ChannelKind → String
  | .text => "text"
  | .direct => "private"

/-- The channel kind of a name. -/
def ChannelKind.ofName? : String → Option ChannelKind
  | "text" => some .text
  | "private" => some .direct
  | _ => none

def ChannelKind.decode? (j : Json) : Option ChannelKind :=
  j.alternative?.bind ChannelKind.ofName?

/-- The fields of a channel. -/
def Channel.layout : Json.Layout := ⟨["id", "name", "kind"], 3⟩

def Channel.decode? (j : Json) : Option Channel := do
  let f ← Channel.layout.fields? j
  return {
    id := ← required? f "id" decodeId?
    name := ← defaulting? f "name" Json.str? ""
    kind := ← required? f "kind" ChannelKind.decode? }

def Channel.encode (c : Channel) : Json :=
  .obj [("id", encodeId c.id), ("name", .str c.name), ("kind", .str c.kind.name)]

/-! ## Messages -/

/-- The fields of a shard. -/
def Shard.layout : Json.Layout := ⟨["id", "total"], 2⟩

def Shard.decode? (j : Json) : Option Shard := do
  let f ← Shard.layout.fields? j
  return {
    id := ← required? f "id" decodeWord?
    total := ← required? f "total" decodeWord? }

def Shard.encode (s : Shard) : Json :=
  .obj [("id", .nat s.id.toNat), ("total", .nat s.total.toNat)]

/-- The fields of a message. -/
def Message.layout : Json.Layout :=
  ⟨["id", "content", "author", "member", "guild", "channel", "mentions", "mentions_everyone", "shard"], 6⟩

def Message.decode? (j : Json) : Option Message := do
  let f ← Message.layout.fields? j
  return {
    id := ← required? f "id" decodeId?
    content := ← required? f "content" Json.str?
    author := ← required? f "author" User.decode?
    member := ← optional? f "member" Member.decode?
    guild := ← optional? f "guild" Guild.decode?
    channel := ← required? f "channel" Channel.decode?
    mentions := ← defaulting? f "mentions" (Json.listOf? User.decode?) []
    mentionsEveryone := ← defaulting? f "mentions_everyone" Json.bool? false
    shard := ← defaulting? f "shard" Shard.decode? ⟨0, 0⟩ }

def Message.encode (m : Message) : Json :=
  .obj [
    ("id", encodeId m.id),
    ("content", .str m.content),
    ("author", m.author.encode),
    ("member", Json.ofOption Member.encode m.member),
    ("guild", Json.ofOption Guild.encode m.guild),
    ("channel", m.channel.encode),
    ("mentions", .arr (m.mentions.map User.encode)),
    ("mentions_everyone", .bool m.mentionsEveryone),
    ("shard", m.shard.encode)]

def Tone.decode? (j : Json) : Option Tone :=
  j.alternative?.bind Tone.ofName?

/-- The fields of a notice. -/
def Notice.layout : Json.Layout := ⟨["content", "tone"], 1⟩

def Notice.decode? (j : Json) : Option Notice := do
  let f ← Notice.layout.fields? j
  return {
    content := ← required? f "content" Json.str?
    tone := ← defaulting? f "tone" Tone.decode? .plain }

def Notice.encode (n : Notice) : Json :=
  .obj [("content", .str n.content), ("tone", .str n.tone.name)]

end Gatehouse
