import Gatehouse.Clock
import Gatehouse.Console

/-!
# `Gatehouse.Outbox` — messages on their way out

What gates and commands have to say is queued and posted later, in order. A message may be meant to
disappear; once it is posted its deletion waits for a timer.

## Contents
- `Posting`: a queued message.
- `Deletion`: a deletion that waits for its time.
- `Outbox`, `push`, `close`.
- `deliver`: posting what is queued.
- `expire`: deleting what is due.
-/

namespace Gatehouse

/-- A queued message. -/
structure Posting where
  channel : ChannelId
  notice : Notice
  /-- After how many seconds it is deleted, if ever. -/
  deleteAfter : Option Nat
  deriving DecidableEq, Repr

/-- A deletion that waits for its time. -/
structure Deletion where
  channel : ChannelId
  message : MessageId
  due : Nat
  deriving DecidableEq, Repr

/-- Messages on their way out. -/
structure Outbox where
  /-- What is queued, oldest first. -/
  queue : List Posting
  /-- Whether nobody takes messages out any more. -/
  closed : Bool
  /-- The deletions that wait, in the order they were asked for. -/
  deletions : List Deletion
  deriving DecidableEq, Repr

namespace Outbox

/-- Nothing is on its way. -/
def empty : Outbox :=
  ⟨[], false, []⟩

instance : EmptyCollection Outbox := ⟨empty⟩

instance : Inhabited Outbox := ⟨empty⟩

/-- Queue a message; a closed outbox drops it. -/
def push (o : Outbox) (p : Posting) : Outbox :=
  if o.closed then o else { o with queue := o.queue ++ [p] }

/-- The outbox with nobody taking messages out any more. -/
def close (o : Outbox) : Outbox :=
  { o with closed := true }

/-- Post one message, and the deletion that then has to wait. A message that the platform refuses is
    dropped. -/
def post (now : Nat) (p : Posting) (c : Console) : Option Deletion × Console :=
  match c.send p.channel p.notice with
  | (.error _, c) => (none, c)
  | (.ok message, c) =>
      (p.deleteAfter.map fun secs => ⟨p.channel, message, Clock.deadline now (Clock.seconds secs)⟩, c)

/-- Post messages one after the other. -/
def postAll (now : Nat) : List Posting → Console → List Deletion × Console
  | [], c => ([], c)
  | p :: ps, c =>
      let (deletion, c) := post now p c
      let (deletions, c) := postAll now ps c
      (deletion.toList ++ deletions, c)

/-- Post everything that is queued. -/
def deliver (o : Outbox) (now : Nat) (c : Console) : Outbox × Console :=
  let (deletions, c) := postAll now o.queue c
  ({ o with queue := [], deletions := o.deletions ++ deletions }, c)

/-- Delete messages one after the other. What cannot be deleted stays. -/
def deleteAll : List Deletion → Console → Console
  | [], c => c
  | d :: ds, c => deleteAll ds (c.delete d.channel d.message).2

/-- Delete everything that is due, the earliest first. -/
def expire (o : Outbox) (now : Nat) (c : Console) : Outbox × Console :=
  let due := o.deletions.filter fun d => decide (d.due ≤ now)
  ({ o with deletions := o.deletions.filter fun d => !decide (d.due ≤ now) },
    deleteAll (due.mergeSort fun a b => decide (a.due ≤ b.due)) c)

end Outbox

end Gatehouse
