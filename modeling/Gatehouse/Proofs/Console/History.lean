import Gatehouse.Proofs.Console.Channels

/-!
# `Gatehouse.Proofs.Console.History` — the history of a channel is exact up to eviction

A console takes note of events, posts messages and deletes messages, in any order (`Console.Request`). Beside it
runs a ledger of one channel: everything that was ever recorded for it, and the places of what deletions took out
(`Ledger`). The same message can be recorded more than once, so it is the place that tells entries apart.

What stands in the ledger is what was evicted, followed by what the console holds. It holds at most as many
entries as the depth of the history, an entry is evicted only when that many were recorded after it, and the
latest messages are read off from the end (`Console.history_exact`).
-/

namespace Gatehouse

/-! ## Requests -/

namespace Console

/-- What is asked of a console, or happens to what it writes to. -/
inductive Request where
  | observe (e : Event)
  | send (channel : ChannelId) (notice : Notice)
  | delete (channel : ChannelId) (message : MessageId)
  /-- Attempts to write go another way from now on. -/
  | sink (sink : Sink)

/-- Whether a request is about a channel. -/
def Request.isAbout : Request → ChannelId → Bool
  | .observe e, id => e.isIn id
  | .send channel _, id => channel = id
  | .delete channel _, id => channel = id
  | .sink _, _ => false

/-- The console after a request. -/
def perform (c : Console) : Request → Console
  | .observe e => c.observe e
  | .send channel notice => (c.send channel notice).2
  | .delete channel message => (c.delete channel message).2
  | .sink sink => { c with sink }

/-- The console after requests, one after the other. -/
def performAll (c : Console) (requests : List Request) : Console :=
  requests.foldl perform c

/-- A deletion changes nothing in other channels. -/
theorem channel_delete_of_ne (c : Console) {id id' : ChannelId} (m : MessageId) (h : id' ≠ id) :
    (c.delete id m).2.channel id' = c.channel id' := by
  rcases c.delete_without id m with ⟨e, hdelete⟩ | ⟨e, c', told, hdelete, hwithout⟩ | ⟨c', hdelete, hwithout⟩
  · rw [hdelete]
  · rw [hdelete]
    exact hwithout.others id' h
  · rw [hdelete]
    exact hwithout.others id' h

/-- **Requests about other channels do not matter.** -/
theorem channel_perform_of_not_isAbout (c : Console) {r : Request} {id : ChannelId} (h : r.isAbout id = false) :
    (c.perform r).channel id = c.channel id := by
  cases r with
  | observe e => exact c.channel_observe_of_not_isIn h
  | send channel notice => exact c.channel_send_of_ne notice (Ne.symm (of_decide_eq_false h))
  | delete channel m => exact c.channel_delete_of_ne m (Ne.symm (of_decide_eq_false h))
  | sink s => rfl

/-- The latest messages of a channel, newest first. -/
theorem history_of_allowed (c : Console) (id : ChannelId) (limit : Nat)
    (h : (c.capabilities id).allows .readMessageHistory = true) :
    c.history id limit = .ok ((((c.channel id).history.drop
      ((c.channel id).history.length - min limit (c.channel id).history.length)).reverse).map Prod.fst) := by
  have hallowed : ¬ (!(c.capabilities id).allows .readMessageHistory) = true := by
    rw [h]
    exact Bool.false_ne_true
  show (if !(c.capabilities id).allows .readMessageHistory then _ else _) = _
  rw [if_neg hallowed, List.take_reverse]
  congr 4
  omega

end Console

/-! ## Channels, entry by entry -/

namespace ChannelState

/-- A message that is remembered while there is room comes to what is known. -/
theorem history_remember_of_lt (s : ChannelState) (message : MessageId) (author : UserId)
    (h : s.history.length < depth) :
    (s.remember message author).history = s.history ++ [(message, author)] := by
  have hroom : s.history.length + 1 - depth = 0 := by omega
  rw [remember, hroom, List.drop_zero]

/-- If there is no room, the oldest message is forgotten for it. -/
theorem history_remember_of_eq (s : ChannelState) (message : MessageId) (author : UserId)
    (h : s.history.length = depth) :
    (s.remember message author).history = s.history.tail ++ [(message, author)] := by
  have hroom : s.history.length + 1 - depth = 1 := by omega
  rw [remember, hroom, List.drop_one]

end ChannelState

/-! ## The ledger of a channel -/

/-- Everything that was ever recorded for a channel, and what deletions took out of it. -/
structure Ledger where
  /-- The messages with their authors, oldest first. -/
  recorded : List (MessageId × UserId)
  /-- The places of what was taken out. -/
  removed : List Nat
  removed_lt : ∀ i ∈ removed, i < recorded.length

namespace Ledger

/-- Nothing was recorded yet. -/
def empty : Ledger :=
  ⟨[], [], nofun⟩

/-- What was recorded and not taken out, oldest first, each entry with its place. -/
def standing (l : Ledger) : List ((MessageId × UserId) × Nat) :=
  l.recorded.zipIdx.filter fun e => e.2 ∉ l.removed

/-- What was recorded after the entry at a place. -/
def since (l : Ledger) (i : Nat) : List (MessageId × UserId) :=
  l.recorded.drop (i + 1)

/-- The ledger with one more entry. -/
def record (l : Ledger) (entry : MessageId × UserId) : Ledger where
  recorded := l.recorded ++ [entry]
  removed := l.removed
  removed_lt i hi := by
    have := l.removed_lt i hi
    rw [List.length_append]
    omega

theorem lt_of_mem_standing {l : Ledger} {e : (MessageId × UserId) × Nat} (h : e ∈ l.standing) :
    e.2 < l.recorded.length := by
  have hmem := (List.mem_filter.mp h).1
  have := List.snd_lt_add_of_mem_zipIdx hmem
  omega

/-- The oldest entry of a message among the `held` last ones that stand. -/
def oldest? (l : Ledger) (held : Nat) (message : MessageId) : Option ((MessageId × UserId) × Nat) :=
  (l.standing.drop (l.standing.length - held)).find? fun e => e.1.1 = message

theorem mem_of_oldest? {l : Ledger} {held : Nat} {message : MessageId} {e : (MessageId × UserId) × Nat}
    (h : l.oldest? held message = some e) : e ∈ l.standing :=
  List.mem_of_mem_drop (List.mem_of_find?_eq_some h)

/-- The ledger without the oldest entry of a message among the `held` last ones that stand. -/
def remove (l : Ledger) (held : Nat) (message : MessageId) : Ledger :=
  match h : l.oldest? held message with
  | some e =>
      { recorded := l.recorded
        removed := e.2 :: l.removed
        removed_lt := by
          intro i hi
          rcases List.mem_cons.mp hi with rfl | hi
          · exact lt_of_mem_standing (mem_of_oldest? h)
          · exact l.removed_lt i hi }
  | none => l

/-- The ledger of the channel `id` after a request to a console. Events and messages that were posted are
    recorded. A deletion that changed the channel took out the oldest entry of the message that the console
    held. -/
def after (l : Ledger) (id : ChannelId) (c : Console) : Console.Request → Ledger
  | .observe e => if e.isIn id then l.record e.entry else l
  | .send channel notice =>
      match (c.send channel notice).1 with
      | .ok message => if channel = id then l.record (message, c.bot.id) else l
      | .error _ => l
  | .delete channel message =>
      if (c.delete channel message).2.channel id = c.channel id then l
      else l.remove (c.channel id).history.length message
  | .sink _ => l

/-- The ledger of a channel after requests to a console, one after the other. -/
def ofRun (id : ChannelId) : List Console.Request → Console → Ledger → Ledger
  | [], _, l => l
  | r :: requests, c, l => ofRun id requests (c.perform r) (l.after id c r)

/-! ## The places of the entries -/

/-- A new entry stands last, at the next place. -/
theorem standing_record (l : Ledger) (entry : MessageId × UserId) :
    (l.record entry).standing = l.standing ++ [(entry, l.recorded.length)] := by
  have hnew : l.recorded.length ∉ l.removed := fun h => Nat.lt_irrefl _ (l.removed_lt _ h)
  show (l.recorded ++ [entry]).zipIdx.filter (fun e => e.2 ∉ l.removed) = _
  rw [List.zipIdx_append, List.filter_append, Nat.zero_add, List.zipIdx_singleton,
    List.filter_cons_of_pos (by simpa using hnew)]
  rfl

/-- The places of what stands ascend. -/
theorem ascending (l : Ledger) : (l.standing.map Prod.snd).Pairwise (· < ·) := by
  have hsub : (l.standing.map Prod.snd).Sublist (l.recorded.zipIdx.map Prod.snd) :=
    List.filter_sublist.map _
  rw [List.zipIdx_map_snd] at hsub
  exact List.Pairwise.sublist hsub List.pairwise_lt_range'

/-- Ascending numbers below a bound leave room for each other. -/
theorem add_length_le_of_ascending {n x : Nat} {xs : List Nat} (h : (x :: xs).Pairwise (· < ·))
    (hlt : ∀ y ∈ x :: xs, y < n) : x + (x :: xs).length ≤ n := by
  induction xs generalizing x with
  | nil => exact hlt x List.mem_cons_self
  | cons y ys ih =>
      have hxy : x < y := List.rel_of_pairwise_cons h List.mem_cons_self
      have hrest := ih h.tail fun z hz => hlt z (List.mem_cons_of_mem x hz)
      rw [List.length_cons] at hrest ⊢
      rw [List.length_cons]
      omega

/-- After an entry that stands at least those were recorded that stand behind it. -/
theorem add_length_le (l : Ledger) {front rest : List ((MessageId × UserId) × Nat)}
    {e : (MessageId × UserId) × Nat} (h : l.standing = front ++ e :: rest) :
    e.2 + (e :: rest).length ≤ l.recorded.length := by
  have hascending : ((e :: rest).map Prod.snd).Pairwise (· < ·) := by
    have := l.ascending
    rw [h, List.map_append] at this
    exact (List.pairwise_append.mp this).2.1
  have hlt : ∀ i ∈ (e :: rest).map Prod.snd, i < l.recorded.length := by
    intro i hi
    obtain ⟨e', he', rfl⟩ := List.mem_map.mp hi
    refine lt_of_mem_standing ?_
    rw [h]
    exact List.mem_append_right front he'
  have := add_length_le_of_ascending hascending hlt
  rwa [← List.map_cons, List.length_map] at this

/-- Taking out the entry at a place leaves those before and behind it. -/
theorem filter_standing (l : Ledger) {front rest : List ((MessageId × UserId) × Nat)}
    {e : (MessageId × UserId) × Nat} (h : l.standing = front ++ e :: rest) :
    (l.standing.filter fun e' => e'.2 ≠ e.2) = front ++ rest := by
  have hascending := l.ascending
  rw [h, List.map_append, List.map_cons] at hascending
  obtain ⟨-, hrest, hfront⟩ := List.pairwise_append.mp hascending
  rw [h, List.filter_append, List.filter_cons_of_neg (by simp)]
  congr 1
  · refine List.filter_eq_self.mpr fun e' he' => decide_eq_true ?_
    exact Nat.ne_of_lt (hfront _ (List.mem_map_of_mem he') _ List.mem_cons_self)
  · refine List.filter_eq_self.mpr fun e' he' => decide_eq_true ?_
    exact Nat.ne_of_gt (List.rel_of_pairwise_cons hrest (List.mem_map_of_mem he'))

/-- What stands after a removal. -/
theorem standing_remove {l : Ledger} {held : Nat} {message : MessageId} {e : (MessageId × UserId) × Nat}
    (h : l.oldest? held message = some e) :
    (l.remove held message).standing = l.standing.filter fun e' => e'.2 ≠ e.2 := by
  unfold remove
  split
  next e' he' =>
    obtain rfl : e = e' := Option.some.inj (h.symm.trans he')
    simp only [standing, List.filter_filter, List.mem_cons, not_or, Bool.decide_and]
  next hnone =>
    rw [h] at hnone
    exact absurd hnone (Option.some_ne_none e)

/-- A removal records nothing. -/
theorem recorded_remove (l : Ledger) (held : Nat) (message : MessageId) :
    (l.remove held message).recorded = l.recorded := by
  unfold remove
  split <;> rfl

/-! ## Held and evicted -/

/-- What stands in the ledger is what was evicted, followed by what is held, and what is held is the history. -/
structure Splits (l : Ledger) (evicted held : List ((MessageId × UserId) × Nat))
    (history : List (MessageId × UserId)) : Prop where
  standing : l.standing = evicted ++ held
  held : held.map Prod.fst = history
  /-- The history does not outgrow its depth. -/
  bounded : history.length ≤ ChannelState.depth
  /-- An entry is evicted only when as many were recorded after it as the history is deep. -/
  outlived : ∀ e ∈ evicted, ChannelState.depth ≤ (l.since e.2).length

theorem Splits.empty : Ledger.empty.Splits [] [] [] where
  standing := rfl
  held := rfl
  bounded := Nat.zero_le _
  outlived := nofun

variable {l : Ledger} {evicted held : List ((MessageId × UserId) × Nat)} {s : ChannelState}

theorem Splits.length_held {history : List (MessageId × UserId)} (h : l.Splits evicted held history) :
    held.length = history.length := by
  rw [← h.held, List.length_map]

/-- An entry that was outlived stays so. -/
theorem depth_le_since_record (entry : MessageId × UserId) {i : Nat}
    (h : ChannelState.depth ≤ (l.since i).length) :
    ChannelState.depth ≤ ((l.record entry).since i).length := by
  simp only [since, record, List.length_drop, List.length_append, List.length_singleton] at h ⊢
  omega

/-- **One more message.** If there is no room for it, the oldest entry held is evicted: it was followed by all
    others that are held, and now by this one. -/
theorem Splits.record (h : l.Splits evicted held s.history) (message : MessageId) (author : UserId) :
    ∃ evicted' held', (l.record (message, author)).Splits evicted' held' (s.remember message author).history := by
  have hstanding : (l.record (message, author)).standing
      = evicted ++ held ++ [((message, author), l.recorded.length)] := by
    rw [standing_record, h.standing]
  rcases Nat.lt_or_eq_of_le h.bounded with hlt | heq
  · rw [s.history_remember_of_lt message author hlt]
    refine ⟨evicted, held ++ [((message, author), l.recorded.length)], ?_, ?_, ?_, ?_⟩
    · rw [hstanding, List.append_assoc]
    · rw [List.map_append, h.held]
      rfl
    · rw [List.length_append]
      exact hlt
    · exact fun e he => depth_le_since_record _ (h.outlived e he)
  · rw [s.history_remember_of_eq message author heq]
    cases held with
    | nil =>
        have := h.length_held
        rw [heq] at this
        contradiction
    | cons e rest =>
        have hlength := h.length_held
        rw [heq] at hlength
        refine ⟨evicted ++ [e], rest ++ [((message, author), l.recorded.length)], ?_, ?_, ?_, ?_⟩
        · rw [hstanding]
          simp only [List.append_assoc, List.cons_append, List.nil_append]
        · rw [← h.held, List.map_append]
          rfl
        · rw [List.length_append, List.length_tail, heq]
          exact Nat.le_refl _
        · intro e' he'
          rcases List.mem_append.mp he' with he' | he'
          · exact depth_le_since_record _ (h.outlived e' he')
          · obtain rfl := List.mem_singleton.mp he'
            have hplace := l.add_length_le h.standing
            rw [hlength] at hplace
            simp only [since, Ledger.record, List.length_drop, List.length_append, List.length_singleton]
            omega

/-- **One message less.** The oldest entry of the message that is held is taken out, and nothing else moves. -/
theorem Splits.remove (h : l.Splits evicted held s.history) {message : MessageId}
    (hchanged : s.forget message ≠ s) :
    ∃ held', (l.remove s.history.length message).Splits evicted held' (s.forget message).history := by
  have hheld : l.oldest? s.history.length message = held.find? fun e => e.1.1 = message := by
    rw [oldest?, h.standing, List.length_append, h.length_held, Nat.add_sub_cancel,
      List.drop_left]
  cases hfind : l.oldest? s.history.length message with
  | none =>
      -- Then there was nothing to forget.
      rw [hheld, List.find?_eq_none] at hfind
      refine absurd ?_ hchanged
      have hsame : (s.history.eraseP fun e => e.1 = message) = s.history := by
        refine List.eraseP_of_forall_not fun entry hentry => ?_
        rw [← h.held] at hentry
        obtain ⟨e, he, rfl⟩ := List.mem_map.mp hentry
        exact hfind e he
      rw [ChannelState.forget, hsame]
  | some e =>
      have hsome := hheld ▸ hfind
      obtain ⟨hmessage, front, rest, rfl, hfront⟩ := List.find?_eq_some_iff_append.mp hsome
      have hforget : (s.forget message).history = (front ++ rest).map Prod.fst := by
        have hother : ∀ entry ∈ front.map Prod.fst, ¬ (fun e => decide (e.1 = message)) entry = true := by
          intro entry hentry
          obtain ⟨e', he', rfl⟩ := List.mem_map.mp hentry
          simpa using hfront e' he'
        have herase : ((e :: rest).map Prod.fst).eraseP (fun e => e.1 = message) = rest.map Prod.fst :=
          List.eraseP_cons_of_pos hmessage
        show (s.history.eraseP fun e => e.1 = message) = _
        rw [← h.held, List.map_append, List.eraseP_append_right _ hother, herase, List.map_append]
      have hlength := h.length_held
      have hbounded := h.bounded
      refine ⟨front ++ rest, ?_, hforget.symm, ?_, ?_⟩
      · have hstanding : l.standing = (evicted ++ front) ++ e :: rest := by
          rw [h.standing, List.append_assoc]
        rw [standing_remove hfind, filter_standing l hstanding, List.append_assoc]
      · rw [hforget, List.length_map]
        simp only [List.length_append, List.length_cons] at hlength ⊢
        omega
      · intro e' he'
        rw [since, recorded_remove]
        exact h.outlived e' he'

/-! ## Requests -/

/-- Requests about other channels are not recorded. -/
theorem after_of_not_isAbout (l : Ledger) (c : Console) {r : Console.Request} {id : ChannelId}
    (h : r.isAbout id = false) : l.after id c r = l := by
  cases r with
  | observe e =>
      have hother : ¬ e.isIn id = true := Bool.eq_false_iff.mp h
      exact if_neg hother
  | send channel notice =>
      have hother : channel ≠ id := of_decide_eq_false h
      simp only [after]
      split
      · exact if_neg hother
      · rfl
  | delete channel message =>
      exact if_pos (c.channel_perform_of_not_isAbout h)
  | sink s => rfl

/-- **A request keeps console and ledger together.** -/
theorem Splits.after {c : Console} {id : ChannelId} (h : l.Splits evicted held (c.channel id).history)
    (r : Console.Request) :
    ∃ evicted' held', (l.after id c r).Splits evicted' held' ((c.perform r).channel id).history := by
  cases habout : r.isAbout id with
  | false =>
      rw [after_of_not_isAbout l c habout, c.channel_perform_of_not_isAbout habout]
      exact ⟨evicted, held, h⟩
  | true =>
      cases r with
      | observe e =>
          have hafter : l.after id c (.observe e) = l.record e.entry := if_pos habout
          obtain rfl : e.message.channel.id = id := of_decide_eq_true habout
          rw [hafter]
          simp only [Console.perform, Console.observe, Console.channel_setChannel_self]
          exact h.record e.message.id e.message.author.id
      | send channel notice =>
          obtain rfl : channel = id := of_decide_eq_true habout
          rcases c.send_cases channel notice with ⟨needed, -, hsend⟩ | ⟨reason, -, -, hsend⟩ | ⟨-, -, hsend⟩
          · simp only [Ledger.after, Console.perform, hsend]
            exact ⟨evicted, held, h⟩
          · simp only [Ledger.after, Console.perform, hsend]
            exact ⟨evicted, held, h⟩
          · simp only [Ledger.after, Console.perform, hsend, Console.posted,
              Console.channel_setChannel_self, if_true]
            exact h.record c.nextId c.bot.id
      | delete channel message =>
          obtain rfl : channel = id := of_decide_eq_true habout
          by_cases hsame : (c.delete channel message).2.channel channel = c.channel channel
          · have hafter : l.after channel c (.delete channel message) = l := if_pos hsame
            rw [hafter, Console.perform, hsame]
            exact ⟨evicted, held, h⟩
          · have hafter : l.after channel c (.delete channel message)
                = l.remove (c.channel channel).history.length message := if_neg hsame
            have hforget : (c.delete channel message).2.channel channel
                = (c.channel channel).forget message := by
              rcases c.delete_without channel message with
                ⟨e, hdelete⟩ | ⟨e, c', told, hdelete, hwithout⟩ | ⟨c', hdelete, hwithout⟩
              · rw [hdelete] at hsame
                exact absurd rfl hsame
              · rw [hdelete]
                exact hwithout.channel
              · rw [hdelete]
                exact hwithout.channel
            rw [hforget] at hsame
            rw [hafter, Console.perform, hforget]
            obtain ⟨held', hsplits⟩ := h.remove hsame
            exact ⟨evicted, held', hsplits⟩
      | sink s => contradiction

/-- Requests, one after the other, keep console and ledger together. -/
theorem Splits.ofRun {c : Console} {id : ChannelId} (h : l.Splits evicted held (c.channel id).history)
    (requests : List Console.Request) :
    ∃ evicted' held',
      (Ledger.ofRun id requests c l).Splits evicted' held' ((c.performAll requests).channel id).history := by
  induction requests generalizing c l evicted held with
  | nil => exact ⟨evicted, held, h⟩
  | cons r requests ih =>
      obtain ⟨evicted', held', hafter⟩ := h.after r
      exact ih hafter

end Ledger

/-! ## The history is exact -/

namespace Console

/-- **The history of a channel is exact up to eviction.** After any requests to a console, the history of a
    channel is a suffix of what was recorded for it and not deleted, no longer than its depth, and what is missing
    from it was followed by as many recorded entries. The latest messages are its last entries, newest first.
    Nothing that is asked about other channels matters. -/
theorem history_exact (bot : User) (requests : List Request) (id : ChannelId) :
    let c := (ofBot bot).performAll requests
    let l := Ledger.ofRun id requests (ofBot bot) Ledger.empty
    (∃ evicted held, l.Splits evicted held (c.channel id).history) ∧
    (∀ limit, (c.capabilities id).allows .readMessageHistory = true →
      c.history id limit = .ok ((((c.channel id).history.drop
        ((c.channel id).history.length - min limit (c.channel id).history.length)).reverse).map Prod.fst)) ∧
    (∀ r : Request, r.isAbout id = false → (c.perform r).channel id = c.channel id ∧ l.after id c r = l) := by
  intro c l
  refine ⟨?_, fun limit hallowed => c.history_of_allowed id limit hallowed, fun r hr => ?_⟩
  · exact Ledger.Splits.ofRun Ledger.Splits.empty requests
  · exact ⟨c.channel_perform_of_not_isAbout hr, l.after_of_not_isAbout c hr⟩

end Console

end Gatehouse
