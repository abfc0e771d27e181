import Gatehouse.Clock
import Gatehouse.Table
import Gatehouse.Text.Blank
import Gatehouse.Text.Lowercase

/-!
# `Gatehouse.Throttle` — limits on how often a command may be called

A throttle counts calls in fixed windows. A window opens with the first call that is let into it and lasts
a given time; the first call after it opens the next one. Calls beyond the limit are denied and do not
count, so hammering a command does not prolong the wait. Each combination of what is counted against,
command, limit and window has a bucket of its own.

## Contents
- `Throttle.Scope`, `Throttle.Scope.parse`: what calls are counted against.
- `Throttle.Key`, `Throttle.Bucket`, `Throttle.Decision`.
- `Throttle.acquire`: one call.
- `Throttle.sweep`: dropping the buckets whose window is over.
-/

namespace Gatehouse

namespace Throttle

/-- What calls are counted against. -/
inductive Scope where
  | user
  | channel
  | guild
  | global
  deriving DecidableEq, Repr

/-- The name of a scope. -/
def Scope.name : Scope → String
  | .user => "user"
  | .channel => "channel"
  | .guild => "guild"
  | .global => "global"

/-- A name that no scope has. -/
structure UnknownScope where
  name : String
  deriving DecidableEq, Repr

/-- The scope of a name, without regard to ASCII case and surrounding white space. The error holds the name
    as it was looked up. -/
def Scope.parse (s : String) : Except UnknownScope Scope :=
  match String.ofList (Text.asciiLowercase (Text.trim s.toList)) with
  | "user" => .ok .user
  | "channel" => .ok .channel
  | "guild" => .ok .guild
  | "global" => .ok .global
  | other => .error ⟨other⟩

/-- What has a bucket of its own. -/
structure Key where
  scope : Scope
  /-- The id of the user, channel or guild that calls are counted against. -/
  subject : UInt64
  command : String
  limit : Nat
  /-- The length of a window. -/
  window : Nat
  deriving DecidableEq, Repr

/-- The count of one key in its current window. -/
structure Bucket where
  count : Nat
  start : Nat
  window : Nat
  /-- Whether a call of this window was denied already. -/
  notified : Bool
  deriving DecidableEq, Repr

/-- Whether the window of a bucket is over. -/
def Bucket.expired (b : Bucket) (now : Nat) : Bool :=
  b.window ≤ Clock.elapsed now b.start

/-- A bucket whose window opens now. -/
def Bucket.fresh (key : Key) (now : Nat) : Bucket :=
  ⟨0, now, key.window, false⟩

/-- The bucket with a new window if its window is over. -/
def Bucket.renewed (b : Bucket) (now : Nat) : Bucket :=
  if b.expired now then { b with count := 0, start := now, notified := false } else b

/-- What becomes of a call. -/
inductive Decision where
  /-- It may proceed, and so many more may in this window. -/
  | allowed (remaining : Nat)
  /-- It may not. The window is over after the given time; `first` marks the first denial of the window. -/
  | denied (retryAfter : Nat) (first : Bool)
  deriving DecidableEq, Repr

end Throttle

/-- The buckets of every throttle. -/
structure Throttle where
  buckets : Table Throttle.Key Throttle.Bucket

namespace Throttle

/-- No call has been made yet. -/
def empty : Throttle :=
  ⟨Table.empty⟩

instance : EmptyCollection Throttle := ⟨empty⟩

instance : Inhabited Throttle := ⟨empty⟩

/-- The bucket that a call meets: the stored one or a new one, with a new window if the old one is over. -/
def bucketAt (t : Throttle) (key : Key) (now : Nat) : Bucket :=
  ((t.buckets.get? key).getD (Bucket.fresh key now)).renewed now

/-- One call. There is no decision if the clock cannot hold the end of the window of a denied call; the
    denial is on record nevertheless. -/
def acquire (t : Throttle) (key : Key) (now : Nat) : Option Decision × Throttle :=
  let b := t.bucketAt key now
  if b.count < key.limit then
    (some (.allowed (key.limit - (b.count + 1))),
      ⟨t.buckets.insert key { b with count := b.count + 1 }⟩)
  else
    ((Clock.after? b.start b.window).map fun ending => .denied (Clock.elapsed ending now) (!b.notified),
      ⟨t.buckets.insert key { b with notified := true }⟩)

/-- The buckets whose window is not over. -/
def sweep (t : Throttle) (now : Nat) : Throttle :=
  ⟨t.buckets.filter fun _ b => !b.expired now⟩

/-- The number of buckets. -/
def size (t : Throttle) : Nat :=
  t.buckets.size

end Throttle

end Gatehouse
