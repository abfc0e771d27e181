import Gatehouse.Command.Builtin
import Gatehouse.Proofs.Console.Channels

/-!
# `Gatehouse.Proofs.Command.Purge` — how much a purge deletes

A purge of `n` messages asks for the newest `n + 1` messages of the channel at the time its body runs, and takes
the call to be one of them. It deletes them one after the other up to the first that is refused, and reports how
many of them are not the call (`Builtin.purge_cases`).

Messages that come in between the call and the body are newer than the call. As long as they are no more than
`n`, the call is among what is asked for, so at most `n` other messages are deleted and reported. Only if there
are none is everything else that is deleted older than the call (`Builtin.purge_within`). Nothing
makes sure of that: `Builtin.purge_can_overtake` shows a purge of one message that deletes two, both of them
newer than the call.
-/

namespace Gatehouse

namespace Builtin

/-! ## Deleting one after the other -/

variable {channel : ChannelId} {m : MessageId} {messages : List MessageId} {w : World} {console : Console}
variable {e : PlatformError}

/-- After a deletion the others follow. -/
theorem deleteEach_cons_of_ok (h : w.console.delete channel m = (.ok (), console)) :
    deleteEach channel (m :: messages) w = deleteEach channel messages { w with console } := by
  show (Act.delete channel m >>= fun _ => deleteEach channel messages) w = _
  exact Stateful.bind_of_ok (Act.request_of_ok h)

/-- A deletion that fails is the last. -/
theorem deleteEach_cons_of_error (h : w.console.delete channel m = (.error e, console)) :
    deleteEach channel (m :: messages) w = (.error (.error (.platform e)), { w with console }) := by
  show (Act.delete channel m >>= fun _ => deleteEach channel messages) w = _
  exact Stateful.bind_of_error (Act.request_of_error h)

/-- **What deletions come to**: a part of the messages from the front is gone, and all of them if no deletion was
    refused. -/
theorem deleteEach_without (channel : ChannelId) (messages : List MessageId) (w : World) :
    ∃ result console gone told,
      deleteEach channel messages w = (result, { w with console }) ∧
      w.console.Without console channel gone told ∧ gone <+: messages ∧
      (result = .ok () → gone = messages ∧ told = messages) := by
  induction messages generalizing w with
  | nil => exact ⟨.ok (), w.console, [], [], rfl, .refl _ _, List.nil_prefix, fun _ => ⟨rfl, rfl⟩⟩
  | cons m messages ih =>
      rcases w.console.delete_without channel m with ⟨e, h⟩ | ⟨e, console, told, h, hgone⟩ | ⟨console, h, hgone⟩
      · -- The first deletion is refused.
        exact ⟨_, _, [], [], deleteEach_cons_of_error h, .refl _ _, List.nil_prefix, nofun⟩
      · -- The message is gone, but writing the line failed.
        exact ⟨_, _, [m], told, deleteEach_cons_of_error h, hgone, List.prefix_append [m] messages, nofun⟩
      · obtain ⟨result, console', gone, told, hrest, hwithout, hpre, hall⟩ := ih { w with console }
        refine ⟨result, console', m :: gone, m :: told, ?_, hgone.trans hwithout, ?_, ?_⟩
        · rw [deleteEach_cons_of_ok h, hrest]
        · exact (List.prefix_cons_inj m).mpr hpre
        · intro hok
          obtain ⟨rfl, rfl⟩ := hall hok
          exact ⟨rfl, rfl⟩

/-! ## A purge -/

/-- The messages that a purge of `n` asks for: the newest ones, and one more for the call. -/
def purgeTargets (c : Context) (n : Nat) (w : World) : List MessageId :=
  ((w.console.channel c.channel).history.reverse.take (n + 1)).map Prod.fst

/-- What is said after a purge. -/
def purgeReport (c : Context) (deleted : Nat) : Posting :=
  c.posting .success (c.commandText "deleted" [toString deleted]) (some c.services.feedback.error)

/-- What a purge does with the messages that it asked for. -/
def purgeAll (c : Context) (messages : List MessageId) : Act Interrupt Unit := do
  deleteEach c.channel messages
  .push (purgeReport c (messages.countP fun m => m ≠ c.message.id))

variable {c : Context} {n : Nat}

/-- A purge asks for messages and deletes them. -/
theorem purge_eq (hn : purgeAmount? c.arguments = some n) :
    purge c = Act.history c.channel (n + 1) >>= purgeAll c := by
  unfold purge
  rw [hn]
  rfl

/-- A purge in a channel whose history the bot can read. -/
theorem purge_of_readable (hn : purgeAmount? c.arguments = some n)
    (h : w.console.history c.channel (n + 1) = .ok messages) : purge c w = purgeAll c messages w := by
  have hread : Act.history c.channel (n + 1) w = (.ok messages, w) := Act.request_of_ok (by rw [h])
  rw [purge_eq hn, Stateful.bind_of_ok hread]

/-- A purge in a channel whose history the bot cannot read. -/
theorem purge_of_unreadable (hn : purgeAmount? c.arguments = some n)
    (h : w.console.history c.channel (n + 1) = .error e) :
    purge c w = (.error (.error (.platform e)), w) := by
  have hread : Act.history c.channel (n + 1) w = (.error (.error (.platform e)), w) :=
    Act.request_of_error (by rw [h])
  rw [purge_eq hn, Stateful.bind_of_error hread]

/-- **What a purge comes to.** It is cut short after some of what it asked for, or it deletes all of that and
    reports how many of the messages are not the call. -/
theorem purge_cases (hn : purgeAmount? c.arguments = some n) (w : World) :
    ∃ console gone told, w.console.Without console c.channel gone told ∧ gone <+: purgeTargets c n w ∧
      ((∃ i, purge c w = (.error i, { w with console })) ∨
        gone = purgeTargets c n w ∧ told = purgeTargets c n w ∧
          purge c w = (.ok (),
            { w with console }.push (purgeReport c (gone.countP fun m => m ≠ c.message.id)))) := by
  rcases hhistory : w.console.history c.channel (n + 1) with e | messages
  · exact ⟨w.console, [], [], .refl _ _, List.nil_prefix, .inl ⟨_, purge_of_unreadable hn hhistory⟩⟩
  · have htargets : messages = purgeTargets c n w := by
      simp only [Console.history] at hhistory
      split at hhistory
      · cases hhistory
      · exact (Except.ok.inj hhistory).symm
    rw [purge_of_readable hn hhistory, ← htargets]
    obtain ⟨result, console, gone, told, hdelete, hwithout, hpre, hall⟩ :=
      deleteEach_without c.channel messages w
    refine ⟨console, gone, told, hwithout, hpre, ?_⟩
    cases result with
    | error i => exact .inl ⟨i, Stateful.bind_of_error hdelete⟩
    | ok _ =>
        obtain ⟨rfl, rfl⟩ := hall rfl
        exact .inr ⟨rfl, rfl, Stateful.bind_of_ok hdelete⟩

/-! ## Messages between the call and the purge -/

theorem le_of_purgeAmount? {args : List String} (h : purgeAmount? args = some n) : n ≤ purgeLimit := by
  simp only [purgeAmount?, Option.bind_eq_bind, Option.bind_eq_some_iff] at h
  obtain ⟨_, -, k, -, h⟩ := h
  split at h
  · next hk =>
      obtain rfl := Option.some.inj h
      exact hk.2
  · cases h

/-- A purge asks for the messages after its call, the call, and those before it, the newest first. -/
theorem purgeTargets_observeAll (hn : n ≤ purgeLimit) {call : Event} (hcall : call.message = c.message)
    (later : List Event) (w : World) :
    purgeTargets c n ((call :: later).foldl World.observe w)
      = (((ChannelId.arrivals c.channel later).map Prod.fst).reverse
          ++ c.message.id :: ((w.console.channel c.channel).history.map Prod.fst).reverse).take (n + 1) := by
  have hdepth : n + 1 ≤ ChannelState.depth := Nat.le_trans (Nat.succ_le_succ hn) (by decide)
  have hin : call.isIn c.channel = true := decide_eq_true (congrArg (fun m => m.channel.id) hcall)
  have hentry : call.entry.1 = c.message.id := congrArg Message.id hcall
  rw [purgeTargets, Console.observeAll_eq]
  show ((((call :: later).foldl Console.observe w.console).channel c.channel).history.reverse.take _).map _ = _
  rw [Console.take_history_observeAll _ _ _ hdepth, ChannelId.arrivals_cons_of_isIn hin, List.reverse_cons,
    List.append_assoc, List.singleton_append, List.map_take, List.map_append, List.map_cons, hentry,
    List.map_reverse, List.map_reverse]

/-- Among `n + 1` messages that the call is one of, at most `n` are not the call. -/
theorem countP_ne_le {targets : List MessageId} {m : MessageId} (hm : m ∈ targets)
    (hlength : targets.length ≤ n + 1) : targets.countP (fun k => k ≠ m) ≤ n := by
  have hsplit := List.length_eq_countP_add_countP (fun k => k ≠ m) (l := targets)
  have hpos : 0 < targets.countP fun k => ¬(decide (k ≠ m) = true) :=
    List.countP_pos_iff.mpr ⟨m, hm, by simp⟩
  omega

/-- **A purge keeps to its amount unless messages overtake it.** A call is observed, and after it any events,
    before the body of the purge runs. What is gone then are some of the newest `n + 1` messages, and what is
    reported, if anything, is how many of these are not the call. If at most `n` messages came into the
    channel after the call, no more than `n` others are gone; if none did, all of them are older. -/
theorem purge_within (hn : purgeAmount? c.arguments = some n) {call : Event} (hcall : call.message = c.message)
    (later : List Event) (w : World) :
    ∃ console gone told,
      ((call :: later).foldl World.observe w).console.Without console c.channel gone told ∧
      gone <+: (((ChannelId.arrivals c.channel later).map Prod.fst).reverse
        ++ c.message.id :: ((w.console.channel c.channel).history.map Prod.fst).reverse).take (n + 1) ∧
      ((∃ i, purge c ((call :: later).foldl World.observe w)
          = (.error i, { (call :: later).foldl World.observe w with console })) ∨
        purge c ((call :: later).foldl World.observe w)
          = (.ok (), { (call :: later).foldl World.observe w with console }.push
              (purgeReport c (gone.countP fun m => m ≠ c.message.id)))) ∧
      ((ChannelId.arrivals c.channel later).length ≤ n → gone.countP (fun m => m ≠ c.message.id) ≤ n) ∧
      (ChannelId.arrivals c.channel later = [] →
        ∀ m ∈ gone, m = c.message.id ∨ m ∈ (w.console.channel c.channel).history.map Prod.fst) := by
  obtain ⟨console, gone, told, hwithout, hpre, hresult⟩ :=
    purge_cases hn ((call :: later).foldl World.observe w)
  rw [purgeTargets_observeAll (le_of_purgeAmount? hn) hcall] at hpre hresult
  refine ⟨console, gone, told, hwithout, hpre, ?_, fun hlater => ?_, fun hnone m hm => ?_⟩
  · exact hresult.imp_right fun h => h.2.2
  · refine Nat.le_trans (hpre.sublist.countP_le) (countP_ne_le ?_ (List.length_take_le _ _))
    -- The call comes after no more than `n` others.
    rw [List.take_append, List.mem_append]
    right
    obtain ⟨k, hk⟩ : ∃ k, n + 1 - ((ChannelId.arrivals c.channel later).map Prod.fst).reverse.length = k + 1 := by
      refine ⟨n - (ChannelId.arrivals c.channel later).length, ?_⟩
      simp only [List.length_reverse, List.length_map]
      omega
    rw [hk, List.take_succ_cons]
    exact List.mem_cons_self
  · have hmem := List.mem_of_mem_take (hpre.subset hm)
    rw [hnone] at hmem
    rcases List.mem_cons.mp hmem with rfl | hmem
    · exact .inl rfl
    · exact .inr (List.mem_reverse.mp hmem)

/-! ## A purge that is overtaken -/

/-- A message of a moderator in a channel. -/
def channelMessage (id : Nat) (content : String) : Message :=
  { Message.bare (Id.ofNat id) ⟨Id.ofNat 7, "alice", false⟩ ⟨Id.ofNat 20, "general", .text⟩ content with
    guild := some ⟨Id.ofNat 1, "home", Id.ofNat 7, []⟩ }

/-- Its arrival. -/
def arrival (id : Nat) (content : String) : Event :=
  ⟨channelMessage id content, none⟩

/-- What the purge of one message looks at. -/
def purgeContext : Context :=
  let purge := .declare "purge" .administration ["clear"] "" [] []
  { Context.bare (channelMessage 10 "!purge 1") purge with
    invocation := ⟨purge, "!", false, [], ["1"], "1"⟩ }

/-- A channel with one message in it. -/
def quietWorld : World :=
  (World.ofBot ⟨Id.ofNat 100, "gatebot", true⟩).observe (arrival 9 "hello")

theorem purge_within_quietWorld : purgeAmount? purgeContext.arguments = some 1 ∧
    (arrival 10 "!purge 1").message = purgeContext.message ∧
    ∃ console gone told,
      (([arrival 10 "!purge 1", arrival 11 "wait"].foldl World.observe quietWorld).console).Without console
        purgeContext.channel gone told ∧
      gone <+: [Id.ofNat 11, Id.ofNat 10] ∧ gone.countP (fun m => m ≠ Id.ofNat 10) ≤ 1 := by
  have hn : purgeAmount? purgeContext.arguments = some 1 := by decide
  have hcall : (arrival 10 "!purge 1").message = purgeContext.message := rfl
  obtain ⟨console, gone, told, hwithout, hgone, -, hcount, -⟩ :=
    purge_within hn hcall [arrival 11 "wait"] quietWorld
  exact ⟨hn, hcall, console, gone, told, hwithout, hgone, hcount (by decide)⟩

/-- **A purge can be overtaken.** Two messages come in between the call of a purge of one message and its body.
    Both of them are deleted and reported, and neither the call nor the message before it. -/
theorem purge_can_overtake :
    let w := [arrival 10 "!purge 1", arrival 11 "wait", arrival 12 "no"].foldl World.observe quietWorld
    purgeAmount? purgeContext.arguments = some 1 ∧ purgeContext.message = channelMessage 10 "!purge 1" ∧
    (purge purgeContext w).2.console.written
      = [.delete (Id.ofNat 20) (Id.ofNat 12), .delete (Id.ofNat 20) (Id.ofNat 11)] ∧
    (purge purgeContext w).2.outbox.queue = [purgeReport purgeContext 2] := by
  refine ⟨by decide, rfl, ?_, ?_⟩
  · decide +kernel
  · decide +kernel

end Builtin

end Gatehouse
