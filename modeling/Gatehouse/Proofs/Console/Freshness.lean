import Gatehouse.Proofs.Console.Failures
import Mathlib.Data.List.Nodup

/-!
# `Gatehouse.Proofs.Console.Freshness` — whose message an id means

The messages of a channel get their ids from two sources. Those of others bring theirs along, and the bot numbers
its own from `Console.firstId` on, whether they can be written or not, so what it posts has ascending ids
(`Console.posts_ascend`). While no id that is brought along is one of these numbers (`Console.Separate`), an id
means one message: the histories of the channels do not repeat themselves, and a deletion of something that the
bot posted takes out nothing else (`Console.posts_fresh`).

The console does not see to that. If the message of somebody else has a number that the bot gives out later, then
the id means both (`Console.number_given_twice`).
-/

namespace Gatehouse

/-- The message that was posted, with its channel. -/
def Action.post? : Action → Option (ChannelId × MessageId)
  | .send channel message _ => some (channel, message)
  | .delete _ _ => none

namespace Console

/-! ## Two sources of ids -/

/-- The id that a request brings along. -/
def Request.arrival? : Request → Option MessageId
  | .observe e => some e.message.id
  | .send _ _ => none
  | .delete _ _ => none
  | .sink _ => none

/-- Whether a request asks for a message. -/
def Request.isSend : Request → Bool
  | .send _ _ => true
  | .observe _ => false
  | .delete _ _ => false
  | .sink _ => false

/-- The ids that requests bring along. -/
def inbound (requests : List Request) : List MessageId :=
  requests.filterMap Request.arrival?

/-- How many messages are asked for. -/
def sends (requests : List Request) : Nat :=
  requests.countP Request.isSend

/-- What a request gets posted: at most one message. -/
def postsOf (c : Console) (r : Request) : List (ChannelId × MessageId) :=
  (c.done r).filterMap Action.post?

/-- What requests get posted. -/
def posts (c : Console) (requests : List Request) : List (ChannelId × MessageId) :=
  (c.doneAll requests).filterMap Action.post?

theorem posts_cons (c : Console) (r : Request) (requests : List Request) :
    c.posts (r :: requests) = c.postsOf r ++ (c.perform r).posts requests := by
  rw [posts, doneAll, List.filterMap_append, postsOf, posts]

theorem inbound_cons (r : Request) (requests : List Request) :
    inbound (r :: requests) = r.arrival?.toList ++ inbound requests := by
  rw [inbound, List.filterMap_cons]
  cases r.arrival? <;> rfl

/-! ## Numbering -/

/-- **How messages are numbered.** Only a request for a message uses up an id, and if something is posted, then
    under this id. -/
theorem postsOf_cases (c : Console) (r : Request) :
    (c.postsOf r = [] ∧ (c.perform r).nextId = c.nextId) ∨
    (r.isSend = true ∧ (c.perform r).nextId = ⟨c.nextId.val + 1⟩ ∧
      (c.postsOf r = [] ∨ ∃ channel, c.postsOf r = [(channel, c.nextId)])) := by
  cases r with
  | observe e => exact .inl ⟨rfl, rfl⟩
  | sink s => exact .inl ⟨rfl, rfl⟩
  | send channel notice =>
      rcases c.send_cases channel notice with ⟨needed, -, hsend⟩ | ⟨reason, -, -, hsend⟩ | ⟨-, -, hsend⟩
      · simp [postsOf, done, perform, hsend]
      · simp [postsOf, done, perform, hsend, Request.isSend, skipId, put]
      · simp [postsOf, done, perform, hsend, Request.isSend, Action.post?, posted, setChannel, skipId, put]
  | delete channel message =>
      rcases c.delete_cases channel message with
        ⟨e, -, hdelete⟩ | ⟨reason, c', -, hdelete, hforgot⟩ | ⟨c', -, hdelete, hforgot⟩
      · simp [postsOf, done, perform, hdelete]
      · simp [postsOf, done, perform, hdelete, hforgot.nextId]
      · simp [postsOf, done, perform, hdelete, hforgot.nextId, Action.post?]

/-- The bot is always the same. -/
theorem bot_perform (c : Console) (r : Request) : (c.perform r).bot = c.bot := by
  cases r with
  | observe e => rfl
  | sink s => rfl
  | send channel notice =>
      rcases c.send_cases channel notice with ⟨needed, -, hsend⟩ | ⟨reason, -, -, hsend⟩ | ⟨-, -, hsend⟩
      · simp only [perform, hsend]
      · simp only [perform, hsend, skipId, put]
      · simp only [perform, hsend, posted, setChannel, skipId, put]
  | delete channel message =>
      rcases c.delete_cases channel message with
        ⟨e, -, hdelete⟩ | ⟨reason, c', -, hdelete, hforgot⟩ | ⟨c', -, hdelete, hforgot⟩
      · simp only [perform, hdelete]
      · simp only [perform, hdelete, hforgot.bot]
      · simp only [perform, hdelete, hforgot.bot]

/-- **The ids of what is posted ascend**, from the number of the console on, and there are no more of them than
    messages that were asked for. -/
theorem posts_ascend {c : Console} {n : Nat} (hnext : c.nextId = Id.ofNat n) {requests : List Request}
    (hroom : n + sends requests ≤ UInt64.size) :
    (∀ p ∈ c.posts requests, n ≤ p.2.toNat ∧ p.2.toNat < n + sends requests) ∧
    (c.posts requests).Pairwise fun p q => p.2.toNat < q.2.toNat := by
  -- On the requests. What is posted later is numbered from the next number on.
  induction requests generalizing c n with
  | nil => exact ⟨nofun, .nil⟩
  | cons r requests ih =>
      rw [posts_cons]
      rcases c.postsOf_cases r with ⟨hnone, hsame⟩ | ⟨hsend, hused, hposts⟩
      · have hle : sends requests ≤ sends (r :: requests) := by
          rw [sends, sends, List.countP_cons]
          omega
        obtain ⟨hrange, hascend⟩ := ih (hsame.trans hnext) (by omega)
        rw [hnone, List.nil_append]
        refine ⟨fun p hp => ?_, hascend⟩
        have := hrange p hp
        omega
      · have hsends : sends (r :: requests) = sends requests + 1 := by
          rw [sends, sends, List.countP_cons, if_pos hsend]
        have hnext' : (c.perform r).nextId = Id.ofNat (n + 1) := by
          rw [hused, hnext, Id.ofNat_succ]
        obtain ⟨hrange, hascend⟩ := ih hnext' (by omega)
        rcases hposts with hnone | ⟨channel, hpost⟩
        · rw [hnone, List.nil_append]
          refine ⟨fun p hp => ?_, hascend⟩
          have := hrange p hp
          omega
        · have hnumber : c.nextId.toNat = n := by
            rw [hnext, Id.toNat_ofNat (by omega)]
          rw [hpost, List.singleton_append]
          refine ⟨List.forall_mem_cons.mpr ⟨?_, fun p hp => ?_⟩, List.pairwise_cons.mpr ⟨fun p hp => ?_, hascend⟩⟩
          · show n ≤ c.nextId.toNat ∧ c.nextId.toNat < n + sends (r :: requests)
            omega
          · have := hrange p hp
            omega
          · show c.nextId.toNat < p.2.toNat
            have := hrange p hp
            omega

/-! ## What is recorded -/

/-- What a request records for a channel. -/
def entries (c : Console) (id : ChannelId) : Request → List (MessageId × UserId)
  | .observe e => if e.isIn id then [e.entry] else []
  | r => ((c.postsOf r).filter fun p => p.1 = id).map fun p => (p.2, c.bot.id)

/-- The ids that requests bring along or give out. -/
def ids (c : Console) (requests : List Request) : List MessageId :=
  inbound requests ++ (c.posts requests).map Prod.snd

/-- What is recorded was brought along, or posted there by the bot. -/
theorem mem_entries {c : Console} {id : ChannelId} {r : Request} {entry : MessageId × UserId}
    (h : entry ∈ c.entries id r) :
    entry.1 ∈ r.arrival?.toList ∨ (id, entry.1) ∈ c.postsOf r ∧ entry.2 = c.bot.id := by
  have hposted (h : entry ∈ ((c.postsOf r).filter fun p => p.1 = id).map fun p => (p.2, c.bot.id)) :
      (id, entry.1) ∈ c.postsOf r ∧ entry.2 = c.bot.id := by
    obtain ⟨p, hp, rfl⟩ := List.mem_map.mp h
    obtain ⟨hposted, hid⟩ := List.mem_filter.mp hp
    obtain rfl : p.1 = id := of_decide_eq_true hid
    exact ⟨hposted, rfl⟩
  cases r with
  | observe e =>
      left
      simp only [entries] at h
      split at h
      · rw [List.mem_singleton.mp h]
        exact List.mem_singleton_self e.message.id
      · cases h
  | send channel notice => exact .inr (hposted h)
  | delete channel message => exact .inr (hposted h)
  | sink s => exact .inr (hposted h)

/-- The ids of what is recorded are among those that were brought along or given out, each once. -/
theorem entries_ids_sublist (c : Console) (id : ChannelId) (r : Request) :
    ((c.entries id r).map Prod.fst).Sublist (r.arrival?.toList ++ (c.postsOf r).map Prod.snd) := by
  have hposted : ((((c.postsOf r).filter fun p => p.1 = id).map fun p => (p.2, c.bot.id)).map Prod.fst).Sublist
      ((c.postsOf r).map Prod.snd) := by
    rw [List.map_map]
    exact List.filter_sublist.map _
  cases r with
  | observe e =>
      simp only [entries]
      split
      · exact .refl _
      · exact List.nil_sublist _
  | send channel notice => exact hposted
  | delete channel message => exact hposted
  | sink s => exact hposted

end Console

namespace Ledger

/-- **What a ledger records of a request.** -/
theorem recorded_after (l : Ledger) (id : ChannelId) (c : Console) (r : Console.Request) :
    (l.after id c r).recorded = l.recorded ++ c.entries id r := by
  cases r with
  | observe e =>
      simp only [after, Console.entries]
      split
      · rfl
      · exact (List.append_nil _).symm
  | sink s => exact (List.append_nil _).symm
  | send channel notice =>
      rcases c.send_cases channel notice with ⟨needed, -, hsend⟩ | ⟨reason, -, -, hsend⟩ | ⟨-, -, hsend⟩
      · simp [after, Console.entries, Console.postsOf, Console.done, hsend]
      · simp [after, Console.entries, Console.postsOf, Console.done, hsend]
      · by_cases hid : channel = id
        · subst hid
          simp [after, Console.entries, Console.postsOf, Console.done, Action.post?, hsend, record]
        · simp [after, Console.entries, Console.postsOf, Console.done, Action.post?, hsend, hid]
  | delete channel message =>
      have hnone : c.entries id (.delete channel message) = [] := by
        rcases c.delete_cases channel message with ⟨e, -, hdelete⟩ | ⟨reason, c', -, hdelete, -⟩ | ⟨c', -, hdelete, -⟩ <;>
          simp [Console.entries, Console.postsOf, Console.done, Action.post?, hdelete]
      rw [hnone, List.append_nil]
      simp only [after]
      split
      · rfl
      · exact l.recorded_remove _ _

variable {l : Ledger} {c : Console} {id : ChannelId} {requests : List Console.Request}

/-- **Everything recorded was brought along, or posted there by the bot.** -/
theorem mem_recorded_ofRun {entry : MessageId × UserId} (h : entry ∈ (ofRun id requests c l).recorded) :
    entry ∈ l.recorded ∨ entry.1 ∈ Console.inbound requests ∨
      (id, entry.1) ∈ c.posts requests ∧ entry.2 = c.bot.id := by
  induction requests generalizing c l with
  | nil => exact .inl h
  | cons r requests ih =>
      rw [Console.inbound_cons, Console.posts_cons, List.mem_append, List.mem_append]
      rcases ih h with hbefore | hin | ⟨hpost, hbot⟩
      · rw [recorded_after, List.mem_append] at hbefore
        rcases hbefore with hbefore | hnew
        · exact .inl hbefore
        · rcases Console.mem_entries hnew with hin | ⟨hpost, hbot⟩
          · exact .inr (.inl (.inl hin))
          · exact .inr (.inr ⟨.inl hpost, hbot⟩)
      · exact .inr (.inl (.inr hin))
      · exact .inr (.inr ⟨.inr hpost, hbot.trans (congrArg User.id (c.bot_perform r))⟩)

/-- What is recorded has different ids, if what was recorded before and what is brought along or given out have. -/
theorem nodup_recorded_ofRun (h : (l.recorded.map Prod.fst ++ c.ids requests).Nodup) :
    ((ofRun id requests c l).recorded.map Prod.fst).Nodup := by
  induction requests generalizing c l with
  | nil => exact (List.nodup_append.mp h).1
  | cons r requests ih =>
      refine ih ?_
      -- The ids that the request brings along or gives out come to those that are recorded, or are lost.
      have hsub : ((l.after id c r).recorded.map Prod.fst ++ (c.perform r).ids requests).Sublist
          (l.recorded.map Prod.fst ++ ((r.arrival?.toList ++ (c.postsOf r).map Prod.snd)
            ++ (c.perform r).ids requests)) := by
        rw [recorded_after, List.map_append, List.append_assoc]
        exact ((c.entries_ids_sublist id r).append (.refl _)).append_left _
      have hperm : (r.arrival?.toList ++ (c.postsOf r).map Prod.snd ++ (c.perform r).ids requests).Perm
          (c.ids (r :: requests)) := by
        rw [Console.ids, Console.ids, Console.inbound_cons, Console.posts_cons, List.map_append, List.append_assoc,
          List.append_assoc]
        exact (List.perm_append_comm_assoc _ _ _).append_left _
      exact ((hperm.append_left _).nodup_iff.mpr h).sublist hsub

/-- What is held was recorded, in this order. -/
theorem Splits.sublist {evicted held : List ((MessageId × UserId) × Nat)} {history : List (MessageId × UserId)}
    (h : l.Splits evicted held history) : history.Sublist l.recorded := by
  have hheld : held.Sublist l.standing := h.standing ▸ List.sublist_append_right evicted held
  have hrecorded : (held.map Prod.fst).Sublist (l.recorded.zipIdx.map Prod.fst) :=
    (hheld.trans List.filter_sublist).map Prod.fst
  rwa [h.held, List.zipIdx_map_fst] at hrecorded

end Ledger

namespace Console

/-! ## Whose message an id means -/

/-- A deletion takes out nothing but entries of its message in its channel. -/
theorem eq_of_deleted {c : Console} {channel id : ChannelId} {message : MessageId} {entry : MessageId × UserId}
    (hmem : entry ∈ (c.channel id).history)
    (hgone : entry ∉ ((c.delete channel message).2.channel id).history) : id = channel ∧ entry.1 = message := by
  rcases c.delete_cases channel message with
    ⟨e, -, hdelete⟩ | ⟨reason, c', -, hdelete, hforgot⟩ | ⟨c', -, hdelete, hforgot⟩
  · rw [hdelete] at hgone
    exact absurd hmem hgone
  · rw [hdelete] at hgone
    exact hforgot.eq_of_gone hmem hgone
  · rw [hdelete] at hgone
    exact hforgot.eq_of_gone hmem hgone

/-- The ids that are brought along are different from each other and from the numbers that the bot may give out. -/
structure Separate (requests : List Request) : Prop where
  distinct : (inbound requests).Nodup
  apart : ∀ m ∈ inbound requests, m.toNat < firstId.toNat ∨ firstId.toNat + sends requests ≤ m.toNat

instance (requests : List Request) : Decidable (Separate requests) :=
  decidable_of_iff
    ((inbound requests).Nodup ∧
      ∀ m ∈ inbound requests, m.toNat < firstId.toNat ∨ firstId.toNat + sends requests ≤ m.toNat)
    ⟨fun ⟨distinct, apart⟩ => ⟨distinct, apart⟩, fun h => ⟨h.distinct, h.apart⟩⟩

section Separate

variable {bot : User} {requests : List Request}

/-- What the bot posts is numbered from the first id on, while there are numbers left. -/
theorem posts_ofBot_ascend (bot : User) (hroom : firstId.toNat + sends requests ≤ UInt64.size) :
    (∀ p ∈ (ofBot bot).posts requests, firstId.toNat ≤ p.2.toNat ∧ p.2.toNat < firstId.toNat + sends requests) ∧
    ((ofBot bot).posts requests).Pairwise fun p q => p.2.toNat < q.2.toNat :=
  posts_ascend firstId.ofNat_toNat.symm hroom

/-- What the bot posts has different ids. -/
theorem nodup_posts (bot : User) (hroom : firstId.toNat + sends requests ≤ UInt64.size) :
    (((ofBot bot).posts requests).map Prod.snd).Nodup := by
  refine List.pairwise_map.mpr ((posts_ofBot_ascend bot hroom).2.imp fun hlt heq => ?_)
  rw [heq] at hlt
  exact Nat.lt_irrefl _ hlt

/-- Nothing that the bot posts has an id that is brought along. -/
theorem Separate.not_mem_inbound (h : Separate requests) (hroom : firstId.toNat + sends requests ≤ UInt64.size)
    {p : ChannelId × MessageId} (hp : p ∈ (ofBot bot).posts requests) : p.2 ∉ inbound requests := by
  intro hin
  have hrange := (posts_ofBot_ascend bot hroom).1 p hp
  have hapart := h.apart p.2 hin
  omega

/-- The ids that are brought along or given out are different. -/
theorem Separate.nodup_ids (h : Separate requests) (hroom : firstId.toNat + sends requests ≤ UInt64.size) :
    ((ofBot bot).ids requests).Nodup := by
  refine List.nodup_append.mpr ⟨h.distinct, nodup_posts bot hroom, ?_⟩
  rintro m hin _ hm rfl
  obtain ⟨p, hp, rfl⟩ := List.mem_map.mp hm
  exact h.not_mem_inbound hroom hp hin

/-- What a channel knows was recorded for it, in this order. -/
theorem history_sublist (bot : User) (requests : List Request) (id : ChannelId) :
    (((ofBot bot).performAll requests).channel id).history.Sublist
      (Ledger.ofRun id requests (ofBot bot) .empty).recorded := by
  have hempty : Ledger.empty.Splits [] [] ((ofBot bot).channel id).history := .empty
  obtain ⟨evicted, held, hsplits⟩ := hempty.ofRun requests
  exact hsplits.sublist

/-- What is known under the id of a message of the bot is that message. -/
theorem Separate.eq_of_posted (h : Separate requests) (hroom : firstId.toNat + sends requests ≤ UInt64.size)
    {p : ChannelId × MessageId} (hp : p ∈ (ofBot bot).posts requests) {id : ChannelId}
    {entry : MessageId × UserId} (hmem : entry ∈ (((ofBot bot).performAll requests).channel id).history)
    (hid : entry.1 = p.2) : id = p.1 ∧ entry = (p.2, bot.id) := by
  rcases Ledger.mem_recorded_ofRun ((history_sublist bot requests id).subset hmem) with
    hbefore | hin | ⟨hpost, hbot⟩
  · cases hbefore
  · rw [hid] at hin
    exact absurd hin (h.not_mem_inbound hroom hp)
  · have hsame := List.inj_on_of_nodup_map (nodup_posts bot hroom) hpost hp hid
    exact ⟨congrArg Prod.fst hsame, Prod.ext hid hbot⟩

/-- **An id means one message.** As long as there are numbers left, the ids of what the bot posts ascend. If what
    is brought along keeps away from them, then nothing that the bot posted has the id of another message, no
    channel knows two messages of one id, and a deletion of something that the bot posted takes out that very
    message or nothing. -/
theorem posts_fresh (bot : User) (hroom : firstId.toNat + sends requests ≤ UInt64.size) :
    let c := (ofBot bot).performAll requests
    let posts := (ofBot bot).posts requests
    (posts.Pairwise fun p q => p.2.toNat < q.2.toNat) ∧
    (Separate requests →
      (∀ p ∈ posts, p.2 ∉ inbound requests) ∧
      (∀ id, ((c.channel id).history.map Prod.fst).Nodup) ∧
      (∀ p ∈ posts, ∀ channel id, ∀ entry ∈ (c.channel id).history,
        entry ∉ ((c.delete channel p.2).2.channel id).history →
          channel = p.1 ∧ id = p.1 ∧ entry = (p.2, bot.id))) := by
  refine ⟨(posts_ofBot_ascend bot hroom).2, fun h => ⟨fun p => h.not_mem_inbound hroom, fun id => ?_, ?_⟩⟩
  · have hrecorded : ((Ledger.ofRun id requests (ofBot bot) .empty).recorded.map Prod.fst).Nodup :=
      Ledger.nodup_recorded_ofRun (h.nodup_ids hroom)
    exact hrecorded.sublist ((history_sublist bot requests id).map Prod.fst)
  · intro p hp channel id entry hmem hgone
    obtain ⟨rfl, hid⟩ := eq_of_deleted hmem hgone
    obtain ⟨hchannel, hentry⟩ := h.eq_of_posted hroom hp hmem hid
    exact ⟨hchannel, hchannel, hentry⟩

end Separate

/-- The bot of a console. -/
def keeper : User :=
  ⟨Id.ofNat 100, "bot", true⟩

/-- Messages of visitors and of the bot in two channels, one of which is lost. -/
def busyRun : List Request :=
  [.observe (visit 5 1 2), .send (Id.ofNat 5) ⟨"hello", .plain⟩, .sink .closed, .send (Id.ofNat 5) ⟨"lost", .plain⟩,
    .sink .working, .observe (visit 5 (1 <<< 63) 3), .send (Id.ofNat 6) ⟨"pong", .error⟩]

theorem posts_fresh_busyRun :
    let c := (ofBot keeper).performAll busyRun
    firstId.toNat + sends busyRun ≤ UInt64.size ∧ Separate busyRun ∧
    (ofBot keeper).posts busyRun
      = [(Id.ofNat 5, firstId), (Id.ofNat 6, Id.ofNat (firstId.toNat + 2))] ∧
    ((c.channel (Id.ofNat 5)).history.map Prod.fst).Nodup ∧
    (c.channel (Id.ofNat 5)).history
      = [(Id.ofNat 1, Id.ofNat 2), (firstId, Id.ofNat 100), (Id.ofNat (1 <<< 63), Id.ofNat 3)] ∧
    ((c.delete (Id.ofNat 5) firstId).2.channel (Id.ofNat 5)).history
      = [(Id.ofNat 1, Id.ofNat 2), (Id.ofNat (1 <<< 63), Id.ofNat 3)] := by
  have hroom : firstId.toNat + sends busyRun ≤ UInt64.size := by decide
  have hseparate : Separate busyRun := by decide
  obtain ⟨-, hfresh⟩ := posts_fresh keeper hroom
  obtain ⟨-, hnodup, -⟩ := hfresh hseparate
  exact ⟨hroom, hseparate, by decide, hnodup (Id.ofNat 5), by decide, by decide⟩

/-- **A number can be given out twice.** A visitor's message has the number that the bot gives out first. The next
    message of the bot gets the same id, the channel knows two messages of this id, and a deletion of what the
    bot posted takes out the message of the visitor. -/
theorem number_given_twice :
    let requests : List Request := [.observe (visit 5 firstId.toNat 2)]
    let c := (ofBot keeper).performAll requests
    let (answer, c') := c.send (Id.ofNat 5) ⟨"pong", .plain⟩
    (inbound requests).Nodup ∧ answer = .ok firstId ∧ firstId ∈ inbound requests ∧
    ¬ ((c'.channel (Id.ofNat 5)).history.map Prod.fst).Nodup ∧
    (c'.channel (Id.ofNat 5)).history
      = [(firstId, Id.ofNat 2), (firstId, Id.ofNat 100)] ∧
    ((c'.delete (Id.ofNat 5) firstId).2.channel (Id.ofNat 5)).history
      = [(firstId, Id.ofNat 100)] := by
  exact ⟨by decide, rfl, by decide, by decide, by decide, by decide⟩

end Console

end Gatehouse
