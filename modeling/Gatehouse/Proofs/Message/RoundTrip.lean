import Gatehouse.Message.Wire
import Gatehouse.Proofs.Capability.Names

/-!
# `Gatehouse.Proofs.Message.RoundTrip` — messages are read as they are written

Every part of a message is read back as it was written, from ids to whole messages (`Message.decode?_encode`,
`Notice.decode?_encode`). A value that others wrote need not be the one that is written for its message: fields may
be missing, and capabilities may be named in any order and spelling and several times. Written again, the names of
the capabilities are in order, and each stands once (`Message.wire_round_trip`).
-/

namespace Gatehouse

open Json (required? defaulting? optional?)

/-! ## Ids, words and names -/

@[simp] theorem decodeId?_encodeId {kind : Id.Kind} (id : Id kind) : decodeId? (encodeId id) = some id := by
  rw [decodeId?, encodeId, Json.nat?_nat id.toNat_le, Option.map_some, Id.ofNat_toNat]

@[simp] theorem decodeWord?_nat (n : UInt32) : decodeWord? (.nat n.toNat) = some n := by
  have hbound : n.toNat ≤ Numeral.maxWord := by
    have hlt := n.toNat_lt
    simp only [Numeral.maxWord]
    omega
  rw [decodeWord?, Json.nat?_nat hbound, Option.map_some, UInt32.ofNat_toNat]

@[simp] theorem ChannelKind.decode?_name (k : ChannelKind) : decode? (.str k.name) = some k := by
  cases k <;> rfl

@[simp] theorem Tone.decode?_name (t : Tone) : decode? (.str t.name) = some t := by
  cases t <;> rfl

/-- **A capability set is read back from the names of its members.** -/
@[simp] theorem Capabilities.decode?_encode (s : Capabilities) : decode? s.encode = some s := by
  have hnames : s.encode.listOf? Json.str? = some s.names := Json.listOf?_map Json.str?_str s.names
  simp only [decode?, hnames, Option.bind_eq_bind, Option.bind_some, ofNames_names]
  rfl

/-! ## Entities -/

@[simp] theorem User.decode?_encode (u : User) : decode? u.encode = some u := by
  have hfields : User.layout.fields? u.encode = some _ := Json.Layout.fields?_obj rfl (by decide)
  simp [decode?, hfields, required?, defaulting?, List.lookup_cons]

@[simp] theorem Role.decode?_encode (r : Role) : decode? r.encode = some r := by
  have hfields : Role.layout.fields? r.encode = some _ := Json.Layout.fields?_obj rfl (by decide)
  simp [decode?, hfields, required?, List.lookup_cons]

@[simp] theorem Guild.decode?_encode (g : Guild) : decode? g.encode = some g := by
  have hfields : Guild.layout.fields? g.encode = some _ := Json.Layout.fields?_obj rfl (by decide)
  have hroles := Json.listOf?_map Role.decode?_encode g.roles
  simp [decode?, hfields, required?, defaulting?, List.lookup_cons, hroles]

@[simp] theorem Member.decode?_encode (m : Member) : decode? m.encode = some m := by
  have hfields : Member.layout.fields? m.encode = some _ := Json.Layout.fields?_obj rfl (by decide)
  have hnickname := Json.nullable?_ofOption Json.str?_str (fun _ => nofun) m.nickname
  have hroles := Json.listOf?_map decodeId?_encodeId m.roles
  simp [decode?, hfields, required?, defaulting?, Json.optional?_eq, List.lookup_cons, hnickname, hroles]

@[simp] theorem Channel.decode?_encode (c : Channel) : decode? c.encode = some c := by
  have hfields : Channel.layout.fields? c.encode = some _ := Json.Layout.fields?_obj rfl (by decide)
  simp [decode?, hfields, required?, defaulting?, List.lookup_cons]

@[simp] theorem Shard.decode?_encode (s : Shard) : decode? s.encode = some s := by
  have hfields : Shard.layout.fields? s.encode = some _ := Json.Layout.fields?_obj rfl (by decide)
  simp [decode?, hfields, required?, List.lookup_cons]

/-! ## Messages -/

/-- **A message is read back as it was written.** -/
theorem Message.decode?_encode (m : Message) : decode? m.encode = some m := by
  have hfields : Message.layout.fields? m.encode = some _ := Json.Layout.fields?_obj rfl (by decide)
  have hmember := Json.nullable?_ofOption Member.decode?_encode (fun _ => nofun) m.member
  have hguild := Json.nullable?_ofOption Guild.decode?_encode (fun _ => nofun) m.guild
  have hmentions := Json.listOf?_map User.decode?_encode m.mentions
  simp only [decode?, hfields, Option.pure_def, Option.bind_eq_bind, Option.bind_some]
  -- The fields are found by their names, and each is read back by itself.
  simp only [required?, defaulting?, Json.optional?_eq, List.lookup_cons, String.reduceBEq, Option.bind_some,
    decodeId?_encodeId, Json.str?_str, Json.bool?_bool, User.decode?_encode, Channel.decode?_encode,
    Shard.decode?_encode, hmember, hguild, hmentions]

/-- What may be left out of a message is not there if it is left out. -/
theorem Message.decode?_bare (id : MessageId) (author : User) (channel : Channel) (content : String) :
    decode? (.obj [("id", encodeId id), ("content", .str content), ("author", author.encode),
      ("channel", channel.encode)]) = some (bare id author channel content) := by
  have hfields (i j k l : Json) :
      Message.layout.fields? (.obj [("id", i), ("content", j), ("author", k), ("channel", l)])
        = some [("id", i), ("content", j), ("author", k), ("channel", l)] := rfl
  simp [decode?, hfields, required?, defaulting?, Json.optional?_eq, List.lookup_cons, bare]

/-- **A notice is read back as it was written.** -/
theorem Notice.decode?_encode (n : Notice) : decode? n.encode = some n := by
  have hfields : Notice.layout.fields? n.encode = some _ := Json.Layout.fields?_obj rfl (by decide)
  simp [decode?, hfields, required?, defaulting?, List.lookup_cons]

/-! ## Capabilities that others named -/

/-- The names of the capabilities of the member, if a message gives them. -/
def Message.capabilityNames? (j : Json) : Option (List String) := do
  let member ← Message.layout.field? j "member"
  let capabilities ← Member.layout.field? member "capabilities"
  capabilities.listOf? Json.str?

/-- The members of a set that was read are the capabilities that are named. -/
theorem Capabilities.contains_of_decode? {j : Json} {s : Capabilities} {names : List String}
    (h : decode? j = some s) (hnames : j.listOf? Json.str? = some names) (c : Capability) :
    s.contains c = true ↔ ∃ name ∈ names, c.IsSpelled name := by
  simp only [decode?, hnames, Option.bind_eq_bind, Option.bind_some] at h
  exact contains_of_ofNames (toOption_eq_some_iff.mp h) c

/-- Where a member gives capabilities, these are read. -/
theorem Member.capabilities_of_decode? {j capabilities : Json} {m : Member} (h : decode? j = some m)
    (hfield : Member.layout.field? j "capabilities" = some capabilities) :
    Capabilities.decode? capabilities = some m.capabilities := by
  simp only [Json.Layout.field?, Option.bind_eq_some_iff] at hfield
  obtain ⟨fields, hfields, hlookup⟩ := hfield
  simp only [decode?, hfields, Option.bind_eq_bind, Option.bind_some, Option.bind_eq_some_iff] at h
  obtain ⟨user, -, nickname, -, roles, -, read, hread, hm⟩ := h
  obtain rfl := Option.some.inj hm
  rwa [defaulting?, hlookup] at hread

/-- Where a message gives a member that is not null, it is read. -/
theorem Message.member_of_decode? {j member : Json} {m : Message} (h : decode? j = some m)
    (hfield : Message.layout.field? j "member" = some member) (hnull : member ≠ .null) :
    ∃ read, m.member = some read ∧ Member.decode? member = some read := by
  simp only [Json.Layout.field?, Option.bind_eq_some_iff] at hfield
  obtain ⟨fields, hfields, hlookup⟩ := hfield
  simp only [decode?, hfields, Option.bind_eq_bind, Option.bind_some, Option.bind_eq_some_iff] at h
  obtain ⟨id, -, content, -, author, -, read?, hread, guild, -, channel, -, mentions, -, everyone, -, shard, -,
    hm⟩ := h
  obtain rfl := Option.some.inj hm
  rw [Json.optional?_eq, hlookup] at hread
  obtain ⟨read, hmember, rfl⟩ := Json.nullable?_eq_some hread hnull
  exact ⟨read, rfl, hmember⟩

/-- The names that are written for a message are those of the members of the set. -/
theorem Message.capabilityNames?_encode {m : Message} {member : Member} (h : m.member = some member) :
    capabilityNames? m.encode = some member.capabilities.names := by
  have hfields : Message.layout.fields? m.encode = some _ := Json.Layout.fields?_obj rfl (by decide)
  have hfields' : Member.layout.fields? member.encode = some _ := Json.Layout.fields?_obj rfl (by decide)
  have hnames := Json.listOf?_map Json.str?_str member.capabilities.names
  simp [capabilityNames?, Json.Layout.field?, hfields, hfields', List.lookup_cons, h, Json.ofOption,
    Capabilities.encode, hnames]

/-- **Capabilities are written in order, each once**, however they were named. -/
theorem Message.capabilityNames?_of_decode? {j : Json} {m : Message} {names : List String}
    (h : decode? j = some m) (hnames : capabilityNames? j = some names) :
    ∃ listed : List Capability, listed.Sublist Capability.all ∧
      (∀ c, c ∈ listed ↔ ∃ name ∈ names, c.IsSpelled name) ∧
      capabilityNames? m.encode = some (listed.map Capability.name) := by
  simp only [capabilityNames?, Option.bind_eq_bind, Option.bind_eq_some_iff] at hnames
  obtain ⟨member, hmember, capabilities, hcapabilities, hlist⟩ := hnames
  have hnull : member ≠ .null := by
    rintro rfl
    cases hcapabilities
  obtain ⟨read, hread, hdecode⟩ := member_of_decode? h hmember hnull
  have hset := Member.capabilities_of_decode? hdecode hcapabilities
  refine ⟨read.capabilities.toList, List.filter_sublist, fun c => ?_, capabilityNames?_encode hread⟩
  rw [Capabilities.mem_toList]
  exact Capabilities.contains_of_decode? hset hlist c

/-! ## There and back -/

/-- **Messages go to the wire and back unchanged.** Every message is read back as it was written, and so is every
    notice. Of a value that others wrote, the message that is read from it is written and read back as the same
    message; if the value names capabilities of the member, in whatever order and spelling and however often, what
    is written names exactly these, in their fixed order and each once. -/
theorem Message.wire_round_trip :
    (∀ m : Message, Message.decode? m.encode = some m) ∧
    (∀ j m, Message.decode? j = some m → Message.decode? m.encode = some m ∧
      ∀ names, Message.capabilityNames? j = some names →
        ∃ listed : List Capability, listed.Sublist Capability.all ∧
          (∀ c, c ∈ listed ↔ ∃ name ∈ names, c.IsSpelled name) ∧
          Message.capabilityNames? m.encode = some (listed.map Capability.name)) ∧
    (∀ n : Notice, Notice.decode? n.encode = some n) ∧
    (∀ j n, Notice.decode? j = some n → Notice.decode? n.encode = some n) := by
  refine ⟨Message.decode?_encode, ?_, Notice.decode?_encode, fun _ n _ => Notice.decode?_encode n⟩
  intro j m h
  exact ⟨Message.decode?_encode m, fun names hnames => Message.capabilityNames?_of_decode? h hnames⟩

/-- A message as somebody else might write it: most fields are missing, and a capability is named twice. -/
def foreignMessage : Json :=
  .obj [
    ("content", .str "hi"),
    ("id", .nat 7),
    ("author", .obj [("name", .str "ann"), ("id", .nat 5)]),
    ("member", .obj [
      ("user", .arr [.nat 5, .str "ann"]),
      ("capabilities", .arr [.str " text.SEND_messages", .str "general.administrator", .str "text.send_messages"])]),
    ("channel", .obj [("id", .nat 9), ("kind", .str "text")])]

/-- The message that is read from it. -/
def readMessage : Message :=
  { Message.bare ⟨7⟩ ⟨⟨5⟩, "ann", false⟩ ⟨⟨9⟩, "", .text⟩ "hi" with
    member := some ⟨⟨⟨5⟩, "ann", false⟩, none, [], .ofList [.administrator, .sendMessages]⟩ }

theorem Message.wire_round_trip_foreignMessage :
    Message.decode? foreignMessage = some readMessage ∧ Message.decode? readMessage.encode = some readMessage ∧
    ∃ listed : List Capability, listed.Sublist Capability.all ∧
      (∀ c, c ∈ listed ↔ ∃ name ∈ [" text.SEND_messages", "general.administrator", "text.send_messages"],
        c.IsSpelled name) ∧
      Message.capabilityNames? readMessage.encode = some (listed.map Capability.name) := by
  have hread : Message.decode? foreignMessage = some readMessage := by decide +kernel
  obtain ⟨hback, hnames⟩ := Message.wire_round_trip.2.1 foreignMessage readMessage hread
  exact ⟨hread, hback, hnames _ (by decide +kernel)⟩

example : Message.capabilityNames? readMessage.encode = some ["general.administrator", "text.send_messages"] := by
  decide +kernel

end Gatehouse
