import Gatehouse.Proofs.Console.History

/-!
# `Gatehouse.Proofs.Console.Failures` — what actions that fail leave behind

An action that is refused changes nothing at all. One that cannot be written leaves no complete line, with one
exception: if only the flush failed, its line is out (`Console.Unwritten`).

As far as the channels go, posting a message is all or nothing: the line is written before the message is
remembered. A deletion goes the other way round. The message is forgotten before the line is written, so a deletion
that cannot be written leaves the channel without the message (`Console.Forgot`, `Console.lost_deletion_forgets`).
-/

namespace Gatehouse

namespace Console

/-! ## Actions that are not written -/

/-- Between the consoles `c` and `c'` no complete line was added, and every channel is as it was. -/
structure Untouched (c c' : Console) : Prop where
  written : c'.written = c.written
  channel : ∀ id, c'.channel id = c.channel id

/-- What the console `c` has become after an attempt to write an action that failed for a reason, as far as the sink
    goes. -/
structure Unwritten (c c' : Console) (a : Action) (reason : String) : Prop where
  reason : c.sink.attempt.failure? = some reason
  /-- If the line or its line feed failed, some of the first bytes of the line are out, and no complete line was
      added. -/
  cut : c.sink.attempt.line ≠ none ∨ c.sink.attempt.lineFeed ≠ none →
    (∃ front, front <+: a.bytes ∧ c'.bytes = c.bytes ++ front) ∧ c'.bytes.count 10 = c.bytes.count 10 ∧
      c'.written = c.written
  /-- If only the flush failed, the line was added. -/
  unflushed : c.sink.attempt.line = none → c.sink.attempt.lineFeed = none → c'.output = c.output ++ [.line a]

/-- **An attempt that fails** adds part of the line, or all of it if only the flush failed. -/
theorem unwritten_put {c : Console} {a : Action} {reason : String} (h : c.sink.attempt.failure? = some reason)
    (c' : Console) (houtput : c'.output = c.output) :
    c.Unwritten (c'.put (c.sink.attempt.output a)) a reason := by
  have hbytes : c'.bytes = c.bytes := congrArg (List.flatMap Output.bytes) houtput
  have hwritten : c'.written = c.written := congrArg (List.filterMap Output.action?) houtput
  rcases Attempt.output_cases h a with ⟨hflush, hline⟩ | ⟨hstep, length, htorn⟩
  · -- Only the flush failed.
    refine ⟨h, fun hstep => ?_, fun _ _ => ?_⟩
    · rw [hflush] at hstep
      simp at hstep
    · rw [hline, put, houtput]
  · have hsame : (c'.put (.torn a length)).written = c.written := by
      rw [written_put, hwritten]
      exact List.append_nil _
    refine ⟨h, fun _ => ⟨⟨a.bytes.take length, List.take_prefix _ _, ?_⟩, ?_, ?_⟩, fun hline hfeed => ?_⟩
    · rw [htorn, bytes_put, hbytes]
      rfl
    · rw [htorn, count_bytes, count_bytes, hsame]
    · rw [htorn, hsame]
    · exact absurd hstep (by simp [hline, hfeed])

/-! ## One entry less -/

/-- The console `c'` is `c` after one entry left the history of a channel: the oldest one of a message that the
    bot posted itself or may delete there. Nothing else is different, except for what was written. -/
structure Forgot (c c' : Console) (id : ChannelId) (message : MessageId) : Prop where
  entry : ∃ front author rest,
    (c.channel id).history = front ++ (message, author) :: rest ∧
    (c'.channel id).history = front ++ rest ∧
    (∀ e ∈ front, e.1 ≠ message) ∧
    (author = c.bot.id ∨ (c.capabilities id).allows .manageMessages = true)
  capabilities : ∀ id', c'.capabilities id' = c.capabilities id'
  others : ∀ id' ≠ id, c'.channel id' = c.channel id'
  bot : c'.bot = c.bot
  nextId : c'.nextId = c.nextId

variable {c : Console} {id : ChannelId} {message : MessageId} {author : UserId}

/-- Forgetting the message that was found takes out its entry. -/
theorem forgot_setChannel (hfound : (c.channel id).author? message = some author)
    (hmay : author = c.bot.id ∨ (c.capabilities id).allows .manageMessages = true) :
    c.Forgot (c.setChannel id ((c.channel id).forget message)) id message where
  entry := by
    obtain ⟨front, rest, hhistory, hfront⟩ := List.lookup_eq_some_iff.mp hfound
    have hother : ∀ e ∈ front, e.1 ≠ message := fun e he heq => by simpa [heq] using hfront e he
    have hfirst : (front ++ (message, author) :: rest).eraseP (fun e => e.1 = message) = front ++ rest := by
      rw [List.eraseP_append_right _ fun e he => by simpa using hother e he]
      exact congrArg (front ++ ·) (List.eraseP_cons_of_pos (decide_eq_true rfl))
    refine ⟨front, author, rest, hhistory, ?_, hother, hmay⟩
    rw [channel_setChannel_self, ← hfirst, ← hhistory]
    rfl
  capabilities := c.capabilities_setChannel rfl
  others _ hne := c.channel_setChannel_of_ne _ hne
  bot := rfl
  nextId := rfl

/-- An attempt to write about it changes nothing in any channel. -/
theorem Forgot.put {c' : Console} (h : c.Forgot c' id message) (o : Output) : c.Forgot (c'.put o) id message :=
  ⟨h.entry, h.capabilities, h.others, h.bot, h.nextId⟩

/-- What is gone after that is an entry of the message in this channel. -/
theorem Forgot.eq_of_gone {c' : Console} (h : c.Forgot c' id message) {id' : ChannelId} {entry : MessageId × UserId}
    (hmem : entry ∈ (c.channel id').history) (hgone : entry ∉ (c'.channel id').history) :
    id' = id ∧ entry.1 = message := by
  by_cases hid : id' = id
  · subst hid
    obtain ⟨front, author, rest, hbefore, hafter, -, -⟩ := h.entry
    rw [hbefore, List.mem_append, List.mem_cons] at hmem
    rw [hafter, List.mem_append, not_or] at hgone
    rcases hmem with hmem | rfl | hmem
    · exact absurd hmem hgone.1
    · exact ⟨rfl, rfl⟩
    · exact absurd hmem hgone.2
  · rw [h.others id' hid] at hgone
    exact absurd hmem hgone

/-- **What a deletion can do**, by its answer: it is refused and changes nothing, or it cannot be written or is
    written, and then the message is forgotten. -/
theorem delete_cases (c : Console) (id : ChannelId) (message : MessageId) :
    (∃ e, (∀ reason, e ≠ .unavailable reason) ∧ c.delete id message = (.error e, c)) ∨
    (∃ reason c', c.Unwritten c' (.delete id message) reason ∧
      c.delete id message = (.error (.unavailable reason), c') ∧ c.Forgot c' id message) ∨
    (∃ c', c'.output = c.output ++ [.line (.delete id message)] ∧ c.delete id message = (.ok (), c') ∧
      c.Forgot c' id message) := by
  cases hfound : (c.channel id).author? message with
  | none =>
      have hdelete : c.delete id message = (.error (.unknownMessage message), c) := by
        simp only [delete, hfound]
      exact .inl ⟨_, by simp, hdelete⟩
  | some author =>
      have hdelete : c.delete id message
          = if author ≠ c.bot.id ∧ !(c.capabilities id).allows .manageMessages then
              (.error (.missingCapability .manageMessages), c)
            else (c.setChannel id ((c.channel id).forget message)).write (.delete id message) := by
        simp only [delete, hfound]
        rfl
      by_cases hrefused : author ≠ c.bot.id ∧ !(c.capabilities id).allows .manageMessages
      · rw [if_pos hrefused] at hdelete
        exact .inl ⟨_, by simp, hdelete⟩
      · have hmay : author = c.bot.id ∨ (c.capabilities id).allows .manageMessages = true := by
          simpa [Decidable.or_iff_not_imp_left] using hrefused
        have hforgot := forgot_setChannel hfound hmay
        rw [if_neg hrefused] at hdelete
        right
        rcases (c.setChannel id ((c.channel id).forget message)).write_cases (.delete id message) with
          ⟨reason, (hfailure : c.sink.attempt.failure? = some reason), hwrite⟩ | ⟨-, hwrite⟩
        · exact .inl ⟨reason, _, unwritten_put hfailure (c.setChannel id _) rfl, hdelete.trans hwrite, hforgot.put _⟩
        · exact .inr ⟨_, rfl, hdelete.trans hwrite, hforgot.put _⟩

/-- **What actions leave behind**, whatever the sink does. A message that was refused changes nothing. One that cannot
    be written leaves every channel as it was and no complete line, unless only the flush failed. One that was posted
    is one line and one entry. A deletion that was refused changes nothing either. One that was written is one line
    and one entry less, and the bot might delete that message; one that cannot be written is an entry less all the
    same, and again no complete line unless only the flush failed. Complete lines are told by their line feeds. -/
theorem actions_leave (c : Console) (id : ChannelId) :
    (∀ notice, match c.send id notice with
      | (.error (.unavailable reason), c') =>
          c.Unwritten c' (.send id c.nextId notice) reason ∧ ∀ id', c'.channel id' = c.channel id'
      | (.error _, c') => c' = c
      | (.ok message, c') =>
          c'.output = c.output ++ [.line (.send id message notice)] ∧
          c'.channel id = (c.channel id).remember message c.bot.id ∧
          ∀ id' ≠ id, c'.channel id' = c.channel id') ∧
    (∀ message, match c.delete id message with
      | (.error (.unavailable reason), c') => c.Unwritten c' (.delete id message) reason ∧ c.Forgot c' id message
      | (.error _, c') => c' = c
      | (.ok (), c') => c'.output = c.output ++ [.line (.delete id message)] ∧ c.Forgot c' id message) ∧
    c.bytes.count 10 = c.written.length := by
  refine ⟨fun notice => ?_, fun message => ?_, c.count_bytes⟩
  · rcases c.send_cases id notice with ⟨needed, -, hsend⟩ | ⟨reason, -, hfailure, hsend⟩ | ⟨-, -, hsend⟩
    · simp only [hsend]
    · simp only [hsend]
      exact ⟨unwritten_put hfailure c.skipId rfl, fun _ => rfl⟩
    · simp only [hsend]
      exact ⟨rfl, channel_setChannel_self _ _ _, fun _ hne => channel_setChannel_of_ne _ _ hne⟩
  · rcases c.delete_cases id message with
      ⟨e, hrefused, hdelete⟩ | ⟨reason, c', hunwritten, hdelete, hforgot⟩ | ⟨c', houtput, hdelete, hforgot⟩
    · rw [hdelete]
      cases e with
      | missingCapability needed => rfl
      | unknownMessage m => rfl
      | unavailable reason => exact absurd rfl (hrefused reason)
    · rw [hdelete]
      exact ⟨hunwritten, hforgot⟩
    · rw [hdelete]
      exact ⟨houtput, hforgot⟩

/-- A message of a visitor in a channel. -/
def visit (channel message author : Nat) : Event :=
  ⟨.bare (Id.ofNat message) ⟨Id.ofNat author, "visitor", false⟩ ⟨Id.ofNat channel, "", .text⟩ "hello", none⟩

/-- **A deletion that is lost is remembered as done.** Nothing can be written, so the deletion of a message fails.
    The message is gone from the history all the same, and when everything can be written again the next
    deletion is told that there is no such message. -/
theorem lost_deletion_forgets :
    let c := (ofBot ⟨Id.ofNat 100, "bot", true⟩).performAll [.observe (visit 5 1 2), .sink .closed]
    let (answer, c') := c.delete (Id.ofNat 5) (Id.ofNat 1)
    answer = .error (.unavailable "sink closed") ∧ c'.bytes = [] ∧ c'.written = [] ∧
    c.history (Id.ofNat 5) 10 = .ok [Id.ofNat 1] ∧ c'.history (Id.ofNat 5) 10 = .ok [] ∧
    ((c'.perform (.sink .working)).delete (Id.ofNat 5) (Id.ofNat 1)).1 = .error (.unknownMessage (Id.ofNat 1)) ∧
    ¬ c.Untouched c' := by
  refine ⟨rfl, rfl, rfl, rfl, rfl, rfl, fun h => ?_⟩
  exact absurd (h.channel (Id.ofNat 5)) (by decide)

/-- A message whose line is out, although posting it failed. -/
example :
    let c := (ofBot ⟨Id.ofNat 100, "bot", true⟩).perform (.sink ⟨[⟨none, none, some "full"⟩], .success⟩)
    let (answer, c') := c.send (Id.ofNat 5) ⟨"hello", .plain⟩
    answer = .error (.unavailable "full") ∧ c'.written = [.send (Id.ofNat 5) firstId ⟨"hello", .plain⟩] ∧
    c'.history (Id.ofNat 5) 10 = .ok [] :=
  ⟨rfl, rfl, rfl⟩

/-! ## What is done -/

/-- The actions that a request gets done. -/
def done (c : Console) : Request → List Action
  | .send channel notice =>
      match (c.send channel notice).1 with
      | .ok message => [.send channel message notice]
      | .error _ => []
  | .delete channel message =>
      match (c.delete channel message).1 with
      | .ok () => [.delete channel message]
      | .error _ => []
  | .observe _ => []
  | .sink _ => []

/-- The actions that requests get done, one after the other. -/
def doneAll (c : Console) : List Request → List Action
  | [] => []
  | r :: requests => c.done r ++ (c.perform r).doneAll requests

end Console

end Gatehouse
