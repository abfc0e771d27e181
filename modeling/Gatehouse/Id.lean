import Gatehouse.Numeral
import Gatehouse.Text.Blank
import Gatehouse.Text.Quoted

/-!
# `Gatehouse.Id` — ids of platform objects

Guilds, channels, users, roles and messages are addressed by 64-bit numbers. The kind of object is part of
the type, so the id of a channel cannot stand where the id of a guild is expected.

## Contents
- `Id`, `GuildId`, `ChannelId`, `UserId`, `RoleId`, `MessageId`.
- `Id.text`: the decimal text of an id.
- `Id.parse`, `Id.Invalid`: reading one, and what went wrong.
-/

namespace Gatehouse

/-- The kinds of objects that have ids. -/
inductive Id.Kind where
  | guild
  | channel
  | user
  | role
  | message
  deriving DecidableEq, Repr

/-- The id of an object of one kind. -/
structure Id (kind : Id.Kind) where
  val : UInt64
  deriving DecidableEq, Repr

abbrev GuildId := Id .guild
abbrev ChannelId := Id .channel
abbrev UserId := Id .user
abbrev RoleId := Id .role
abbrev MessageId := Id .message

namespace Id

variable {kind : Id.Kind}

instance : Inhabited (Id kind) := ⟨⟨0⟩⟩

/-- The id with the given number, which is taken modulo `2 ^ 64`. -/
def ofNat (n : Nat) : Id kind :=
  ⟨UInt64.ofNat n⟩

/-- The number of an id. -/
def toNat (id : Id kind) : Nat :=
  id.val.toNat

theorem val_inj {id id' : Id kind} : id.val = id'.val ↔ id = id' := by
  cases id
  cases id'
  simp

/-- The number of an id has 64 bits. -/
theorem toNat_le (id : Id kind) : id.toNat ≤ Numeral.maxId := by
  have hlt := id.val.toNat_lt
  simp only [toNat, Numeral.maxId]
  omega

@[simp] theorem ofNat_toNat (id : Id kind) : ofNat id.toNat = id := by
  rw [ofNat, toNat, UInt64.ofNat_toNat]

/-- A number of 64 bits is the number of its id. -/
theorem toNat_ofNat {n : Nat} (h : n < UInt64.size) : (ofNat n : Id kind).toNat = n :=
  UInt64.toNat_ofNat_of_lt' h

/-- The next number belongs to the next id. -/
theorem ofNat_succ (n : Nat) : (ofNat (n + 1) : Id kind) = ⟨(ofNat n : Id kind).val + 1⟩ :=
  congrArg Id.mk (UInt64.ofNat_add n 1)

/-- The decimal text of an id. -/
def text (id : Id kind) : String :=
  toString id.toNat

/-- A text that was expected to be an id and is none. -/
structure Invalid where
  text : String
  deriving DecidableEq, Repr

/-- What is said about a text that is no id. -/
def Invalid.message (e : Invalid) : String :=
  "invalid id: " ++ Text.quoted e.text

/-- The id that a numeral stands for. White space around it is ignored; the error holds the whole text. -/
def parse (s : String) : Except Invalid (Id kind) :=
  match Numeral.read? Numeral.maxId (Text.trim s.toList) with
  | some n => .ok (ofNat n)
  | none => .error ⟨s⟩

end Id

end Gatehouse
