import Gatehouse.Proofs.Console.Output
import Gatehouse.World

/-!
# `Gatehouse.Proofs.Console.Channels` — what the console knows after events and deletions

A channel is known by its latest messages. Of those, as many as the console remembers at least, the newest are
the ones that events brought last (`Console.take_history_observeAll`). Deleting messages takes some of them
out of the history and writes a line for each, one after the other up to the first that fails
(`Console.Without`, `Console.delete_without`). A message of the bot is refused, or cannot be written, or is written
and remembered (`Console.send_cases`). None of this changes what the bot may do (`Console.capabilities_send`,
`Console.capabilities_delete`).
-/

namespace Gatehouse

/-! ## Channels -/

namespace ChannelState

/-- A message that is remembered is the newest one, and those before it are known as before, up to the depth of
    the history. -/
theorem take_remember (s : ChannelState) (message : MessageId) (author : UserId) {limit : Nat}
    (h : limit ≤ depth) :
    (s.remember message author).history.reverse.take limit
      = ((message, author) :: s.history.reverse).take limit := by
  have hreverse : (s.remember message author).history.reverse
      = (message, author) :: s.history.reverse.take (s.history.length - (s.history.length + 1 - depth)) := by
    simp only [remember, List.reverse_append, List.reverse_singleton, List.singleton_append,
      List.reverse_drop]
  rw [hreverse]
  cases limit with
  | zero => rw [List.take_zero, List.take_zero]
  | succ k =>
      rw [List.take_succ_cons, List.take_succ_cons, List.take_take]
      -- Either all of what is taken is still there, or there is less than that anyway.
      rcases Nat.le_total k s.history.length with hle | hle
      · rw [Nat.min_eq_left (by omega)]
      · rw [List.take_of_length_le, List.take_of_length_le]
        · simpa using hle
        · simp only [List.length_reverse]
          omega

end ChannelState

/-- Whether an event is a message in a channel. -/
def Event.isIn (e : Event) (channel : ChannelId) : Bool :=
  e.message.channel.id = channel

/-- What is remembered of the message of an event. -/
def Event.entry (e : Event) : MessageId × UserId :=
  (e.message.id, e.message.author.id)

/-- What events bring to a channel, oldest first. -/
def ChannelId.arrivals (channel : ChannelId) (events : List Event) : List (MessageId × UserId) :=
  (events.filter fun e => e.isIn channel).map Event.entry

theorem ChannelId.arrivals_cons_of_isIn {channel : ChannelId} {e : Event} (h : e.isIn channel = true)
    (events : List Event) : arrivals channel (e :: events) = e.entry :: arrivals channel events := by
  simp [arrivals, h]

theorem ChannelId.arrivals_cons_of_not_isIn {channel : ChannelId} {e : Event} (h : e.isIn channel = false)
    (events : List Event) : arrivals channel (e :: events) = arrivals channel events := by
  simp [arrivals, h]

namespace Console

theorem channel_setChannel_self (c : Console) (id : ChannelId) (s : ChannelState) :
    (c.setChannel id s).channel id = s := by
  simp [channel, setChannel]

theorem channel_setChannel_of_ne (c : Console) {id id' : ChannelId} (s : ChannelState) (h : id' ≠ id) :
    (c.setChannel id s).channel id' = c.channel id' := by
  simp [channel, setChannel, Table.get?_insert_of_ne _ _ h]

/-! ## Events -/

/-- An event is the newest message of its channel. -/
theorem take_history_observe (c : Console) {e : Event} {id : ChannelId} (he : e.isIn id = true) {limit : Nat}
    (h : limit ≤ ChannelState.depth) :
    ((c.observe e).channel id).history.reverse.take limit
      = (e.entry :: (c.channel id).history.reverse).take limit := by
  obtain rfl : e.message.channel.id = id := of_decide_eq_true he
  simp only [observe, channel_setChannel_self]
  exact ChannelState.take_remember _ _ _ h

/-- An event in another channel does not matter. -/
theorem channel_observe_of_not_isIn (c : Console) {e : Event} {id : ChannelId} (he : e.isIn id = false) :
    (c.observe e).channel id = c.channel id :=
  channel_setChannel_of_ne c _ fun h => of_decide_eq_false he h.symm

/-- **What is known of a channel after events**: first the messages that they brought, the last one first, and
    then what was known before. -/
theorem take_history_observeAll (c : Console) (id : ChannelId) (events : List Event) {limit : Nat}
    (h : limit ≤ ChannelState.depth) :
    ((events.foldl observe c).channel id).history.reverse.take limit
      = ((ChannelId.arrivals id events).reverse ++ (c.channel id).history.reverse).take limit := by
  induction events generalizing c with
  | nil => rfl
  | cons e events ih =>
      rw [List.foldl_cons, ih]
      cases he : e.isIn id with
      | false => rw [channel_observe_of_not_isIn c he, ChannelId.arrivals_cons_of_not_isIn he]
      | true =>
          -- What is left to take after the later messages begins with this one.
          have hrest := c.take_history_observe he
            (Nat.le_trans (Nat.sub_le limit (ChannelId.arrivals id events).reverse.length) h)
          rw [ChannelId.arrivals_cons_of_isIn he, List.reverse_cons, List.append_assoc, List.take_append,
            hrest, ← List.take_append]
          rfl

/-- Events change nothing of the world but the console. -/
theorem observeAll_eq (w : World) (events : List Event) :
    events.foldl World.observe w = { w with console := events.foldl observe w.console } := by
  induction events generalizing w with
  | nil => rfl
  | cons e events ih => exact ih (w.observe e)

/-! ## Messages of the bot -/

/-- The console after an id was used up. -/
def skipId (c : Console) : Console :=
  { c with nextId := ⟨c.nextId.val + 1⟩ }

/-- The console after a message of the bot was written and remembered in its channel. -/
def posted (c : Console) (id : ChannelId) (notice : Notice) : Console :=
  (c.skipId.put (.line (.send id c.nextId notice))).setChannel id ((c.channel id).remember c.nextId c.bot.id)

/-- **What an attempt to write can do.** It fails, and part of the line may be out or all of it, or the line is out. -/
theorem write_cases (c : Console) (a : Action) :
    (∃ reason, c.sink.attempt.failure? = some reason ∧
      c.write a = (.error (.unavailable reason), c.put (c.sink.attempt.output a))) ∨
    (c.sink.attempt.failure? = none ∧ c.write a = (.ok (), c.put (.line a))) := by
  cases hfailure : c.sink.attempt.failure? with
  | some reason => exact .inl ⟨reason, rfl, by simp only [write, hfailure]⟩
  | none => exact .inr ⟨rfl, by simp only [write, hfailure, Attempt.output_of_success hfailure]⟩

/-- **What posting a message can do.** It is refused for want of a capability and changes nothing, or it cannot be
    written and only uses up an id, or it is written and remembered. -/
theorem send_cases (c : Console) (id : ChannelId) (notice : Notice) :
    (∃ needed, lacking? (c.capabilities id) notice.tone = some needed ∧
      c.send id notice = (.error (.missingCapability needed), c)) ∨
    (∃ reason, lacking? (c.capabilities id) notice.tone = none ∧ c.sink.attempt.failure? = some reason ∧
      c.send id notice = (.error (.unavailable reason),
        c.skipId.put (c.sink.attempt.output (.send id c.nextId notice)))) ∨
    (lacking? (c.capabilities id) notice.tone = none ∧ c.sink.attempt.failure? = none ∧
      c.send id notice = (.ok c.nextId, c.posted id notice)) := by
  unfold send
  cases lacking? (c.capabilities id) notice.tone with
  | some needed => exact .inl ⟨needed, rfl, rfl⟩
  | none =>
      right
      dsimp only
      rcases c.skipId.write_cases (.send id c.nextId notice) with ⟨reason, hfailure, hwrite⟩ | ⟨hsuccess, hwrite⟩
      · left
        refine ⟨reason, rfl, hfailure, ?_⟩
        rw [skipId] at hwrite ⊢
        rw [hwrite]
      · right
        refine ⟨rfl, hsuccess, ?_⟩
        rw [skipId] at hwrite
        rw [hwrite]
        rfl

/-- Nothing is lacking for a message if the bot may post, and may post embeds if it is one. -/
theorem lacking?_eq_none_iff {held : Capabilities} {tone : Tone} :
    lacking? held tone = none ↔
      held.allows .sendMessages = true ∧ (tone.isEmbed = true → held.allows .embedLinks = true) := by
  unfold lacking?
  cases held.allows .sendMessages <;> cases held.allows .embedLinks <;> cases tone.isEmbed <;> simp

/-- A message for which nothing is lacking is not refused for want of a capability. -/
theorem send_ne_missingCapability (c : Console) {id : ChannelId} {notice : Notice}
    (h : lacking? (c.capabilities id) notice.tone = none) (needed : Capability) :
    (c.send id notice).1 ≠ .error (.missingCapability needed) := by
  rcases c.send_cases id notice with ⟨needed', hlacking, -⟩ | ⟨reason, -, -, hsend⟩ | ⟨-, -, hsend⟩
  · rw [h] at hlacking
    cases hlacking
  · rw [hsend]
    exact nofun
  · rw [hsend]
    exact nofun

/-- Posting a message changes nothing in other channels. -/
theorem channel_send_of_ne (c : Console) {id id' : ChannelId} (notice : Notice) (h : id' ≠ id) :
    (c.send id notice).2.channel id' = c.channel id' := by
  rcases c.send_cases id notice with ⟨needed, -, hsend⟩ | ⟨reason, -, -, hsend⟩ | ⟨-, -, hsend⟩
  · rw [hsend]
  · rw [hsend]
    rfl
  · rw [hsend]
    exact channel_setChannel_of_ne _ _ h

/-! ## Deletions -/

/-- The console `c'` is `c` after the messages `gone` of a channel were forgotten one after the other and lines
    were written about the messages `told`. Nothing else is different in any channel. -/
structure Without (c c' : Console) (id : ChannelId) (gone told : List MessageId) : Prop where
  channel : c'.channel id = gone.foldl ChannelState.forget (c.channel id)
  others : ∀ id' ≠ id, c'.channel id' = c.channel id'
  written : c'.written = c.written ++ told.map (.delete id)
  /-- Nothing is told about a message that is not gone. -/
  told_gone : told <+: gone

theorem Without.refl (c : Console) (id : ChannelId) : c.Without c id [] [] where
  channel := rfl
  others _ _ := rfl
  written := (List.append_nil _).symm
  told_gone := List.nil_prefix

/-- Deletions that were told in full can be followed by others. -/
theorem Without.trans {c c₁ c₂ : Console} {id : ChannelId} {gone gone' told : List MessageId}
    (h : c.Without c₁ id gone gone) (h' : c₁.Without c₂ id gone' told) :
    c.Without c₂ id (gone ++ gone') (gone ++ told) where
  channel := by rw [h'.channel, h.channel, List.foldl_append]
  others id' hne := (h'.others id' hne).trans (h.others id' hne)
  written := by rw [h'.written, h.written, List.map_append, List.append_assoc]
  told_gone := (List.prefix_append_right_inj gone).mpr h'.told_gone

theorem Without.setChannel (c : Console) (id : ChannelId) (m : MessageId) :
    c.Without (c.setChannel id ((c.channel id).forget m)) id [m] [] where
  channel := channel_setChannel_self c id _
  others _ hne := channel_setChannel_of_ne c _ hne
  written := (List.append_nil _).symm
  told_gone := List.nil_prefix

/-- An attempt to write about what was forgotten changes nothing in any channel. -/
theorem Without.put {c c' : Console} {id : ChannelId} {gone : List MessageId} (h : c.Without c' id gone [])
    {o : Output} {told : List MessageId} (htold : o.action?.toList = told.map (.delete id)) (hgone : told <+: gone) :
    c.Without (c'.put o) id gone told where
  channel := h.channel
  others := h.others
  written := by rw [written_put, h.written, List.map_nil, List.append_nil, htold]
  told_gone := hgone

/-- **What a deletion can do.** It is refused and changes nothing, or the message is forgotten but the line cannot
    be written, at least not for sure, or it is forgotten and a line is written. -/
theorem delete_without (c : Console) (id : ChannelId) (m : MessageId) :
    (∃ e, c.delete id m = (.error e, c)) ∨
    (∃ e c' told, c.delete id m = (.error e, c') ∧ c.Without c' id [m] told) ∨
    (∃ c', c.delete id m = (.ok (), c') ∧ c.Without c' id [m] [m]) := by
  have hforget := Without.setChannel c id m
  simp only [delete]
  split
  · exact .inl ⟨_, rfl⟩
  · split
    · exact .inl ⟨_, rfl⟩
    · right
      rcases (c.setChannel id ((c.channel id).forget m)).write_cases (.delete id m) with
        ⟨reason, hfailure, hwrite⟩ | ⟨-, hwrite⟩
      · left
        rcases Attempt.output_cases hfailure (.delete id m) with ⟨-, hline⟩ | ⟨-, length, htorn⟩
        · rw [hline] at hwrite
          exact ⟨_, _, [m], hwrite, hforget.put rfl (List.prefix_refl _)⟩
        · rw [htorn] at hwrite
          exact ⟨_, _, [], hwrite, hforget.put rfl List.nil_prefix⟩
      · exact .inr ⟨_, hwrite, hforget.put rfl (List.prefix_refl _)⟩

/-! ## Capabilities -/

/-- Capabilities stay as they are where something else becomes known of a channel. -/
theorem capabilities_setChannel (c : Console) {id : ChannelId} {s : ChannelState}
    (h : s.capabilities = c.capabilities id) (id' : ChannelId) :
    (c.setChannel id s).capabilities id' = c.capabilities id' := by
  by_cases hid : id' = id
  · subst hid
    unfold capabilities
    rw [channel_setChannel_self]
    exact h
  · unfold capabilities
    rw [channel_setChannel_of_ne c s hid]

theorem capabilities_posted (c : Console) (id : ChannelId) (notice : Notice) (id' : ChannelId) :
    (c.posted id notice).capabilities id' = c.capabilities id' := by
  unfold posted
  rw [capabilities_setChannel]
  · unfold capabilities channel skipId put
    rfl
  · unfold capabilities channel skipId put ChannelState.remember
    rfl

/-- Posting a message changes nothing in what the bot may do. -/
theorem capabilities_send (c : Console) (id : ChannelId) (notice : Notice) (id' : ChannelId) :
    (c.send id notice).2.capabilities id' = c.capabilities id' := by
  rcases c.send_cases id notice with ⟨needed, -, hsend⟩ | ⟨reason, -, -, hsend⟩ | ⟨-, -, hsend⟩
  · rw [hsend]
  · rw [hsend]
    rfl
  · rw [hsend]
    exact c.capabilities_posted id notice id'

/-- Neither does a deletion. -/
theorem capabilities_delete (c : Console) (id : ChannelId) (m : MessageId) (id' : ChannelId) :
    (c.delete id m).2.capabilities id' = c.capabilities id' := by
  have hwithout {c' : Console} {told : List MessageId} (h : c.Without c' id [m] told) :
      c'.capabilities id' = c.capabilities id' := by
    by_cases hid : id' = id
    · subst hid
      unfold capabilities
      rw [h.channel]
      rfl
    · unfold capabilities
      rw [h.others id' hid]
  rcases c.delete_without id m with ⟨e, hdelete⟩ | ⟨e, c', told, hdelete, h⟩ | ⟨c', hdelete, h⟩
  · rw [hdelete]
  · rw [hdelete]
    exact hwithout h
  · rw [hdelete]
    exact hwithout h

end Console

end Gatehouse
