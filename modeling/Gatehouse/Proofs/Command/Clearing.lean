import Gatehouse.Proofs.Command.Purge

/-!
# `Gatehouse.Proofs.Command.Clearing` — what a purge leaves of a channel

Nothing stands in the way of a purge where the sink works, the bot may read the history and delete messages,
and no id is in the history twice. Such a purge comes to its end, and cuts its channel short: from the newest
message on, each one is looked for, found at the end of what is left, and taken out (`Builtin.deleteEach_newest`).
So a history that was `kept ++ newest` is `kept` in the end, there is a line for each of the `newest`, and one
report (`Builtin.purge_clears`). Arguments that name no amount change nothing at all.
-/

namespace Gatehouse

/-! ## The newest message of a channel -/

namespace ChannelState

variable {s : ChannelState} {kept : List (MessageId × UserId)} {e : MessageId × UserId}

/-- Where no id comes twice, the newest message is found as what it is. -/
theorem author?_newest (hhistory : s.history = kept ++ [e]) (hids : (s.history.map Prod.fst).Nodup) :
    s.author? e.1 = some e.2 := by
  rw [hhistory, List.map_append, List.map_singleton, List.nodup_append] at hids
  rw [author?, hhistory, List.lookup_eq_some_iff]
  refine ⟨kept, [], rfl, ?_⟩
  intro other hother
  have hne := hids.2.2 other.1 (List.mem_map_of_mem hother) e.1 List.mem_cons_self
  simpa using fun h => hne h.symm

/-- Forgetting the newest message leaves those before it. -/
theorem forget_newest (hhistory : s.history = kept ++ [e]) (hids : (s.history.map Prod.fst).Nodup) :
    s.forget e.1 = { s with history := kept } := by
  rw [hhistory, List.map_append, List.map_singleton, List.nodup_append] at hids
  have hother : ∀ other ∈ kept, ¬ decide (other.1 = e.1) = true := by
    intro other hmem
    have hne := hids.2.2 other.1 (List.mem_map_of_mem hmem) e.1 List.mem_cons_self
    simpa using hne
  have hgone : [e].eraseP (fun other => decide (other.1 = e.1)) = [] :=
    List.eraseP_cons_of_pos (decide_eq_true rfl)
  rw [forget, hhistory, List.eraseP_append_right _ hother, hgone, List.append_nil]

end ChannelState

namespace Console

/-- A known message is deleted where the sink works and the bot may delete messages. -/
theorem delete_of_allowed {c : Console} {id : ChannelId} {message : MessageId} {author : UserId}
    (hfound : (c.channel id).author? message = some author) (hworks : c.sink.Works)
    (hmanage : (c.capabilities id).allows .manageMessages = true) :
    c.delete id message = (.ok (),
      (c.setChannel id ((c.channel id).forget message)).put (.line (.delete id message))) := by
  have hmay : ¬ (author ≠ c.bot.id ∧ !(c.channel id).capabilities.allows .manageMessages) := by
    intro h
    have hheld : (c.channel id).capabilities.allows .manageMessages = true := hmanage
    simp [hheld] at h
  simp only [delete, hfound, if_neg hmay]
  rcases (c.setChannel id ((c.channel id).forget message)).write_cases (.delete id message) with
    ⟨reason, hfailure, -⟩ | ⟨-, hwrite⟩
  · rw [show (c.setChannel id ((c.channel id).forget message)).sink = c.sink from rfl, hworks.attempt] at hfailure
    cases hfailure
  · exact hwrite

/-- So is the newest message, where no id comes twice. That cuts it off the history and does no more to any
    channel. -/
theorem delete_newest {c : Console} {id : ChannelId} {kept : List (MessageId × UserId)} {e : MessageId × UserId}
    (hhistory : (c.channel id).history = kept ++ [e]) (hids : ((c.channel id).history.map Prod.fst).Nodup)
    (hworks : c.sink.Works) (hmanage : (c.capabilities id).allows .manageMessages = true) :
    ∃ c', c.delete id e.1 = (.ok (), c') ∧ c'.channel id = { c.channel id with history := kept } ∧
      (∀ id' ≠ id, c'.channel id' = c.channel id') ∧ c'.written = c.written ++ [.delete id e.1] ∧
      c'.sink.Works := by
  have hdelete := delete_of_allowed (ChannelState.author?_newest hhistory hids) hworks hmanage
  rw [ChannelState.forget_newest hhistory hids] at hdelete
  exact ⟨_, hdelete, c.channel_setChannel_self id _, fun _ hne => c.channel_setChannel_of_ne _ hne,
    written_put _ _, hworks.rest⟩

end Console

namespace Builtin

/-! ## Deleting the newest messages -/

/-- **Deleting from the newest message on**, where nothing stands in the way, comes to its end and leaves the
    messages before. -/
theorem deleteEach_newest {channel : ChannelId} {recent kept : List (MessageId × UserId)} {w : World}
    (hhistory : (w.console.channel channel).history = kept ++ recent.reverse)
    (hids : ((w.console.channel channel).history.map Prod.fst).Nodup) (hworks : w.console.sink.Works)
    (hmanage : (w.console.capabilities channel).allows .manageMessages = true) :
    ∃ console, deleteEach channel (recent.map Prod.fst) w = (.ok (), { w with console }) ∧
      console.channel channel = { w.console.channel channel with history := kept } ∧
      (∀ id ≠ channel, console.channel id = w.console.channel id) ∧
      console.written = w.console.written ++ recent.map fun e => .delete channel e.1 := by
  induction recent generalizing w with
  | nil =>
      rw [List.reverse_nil, List.append_nil] at hhistory
      refine ⟨w.console, rfl, ?_, fun _ _ => rfl, (List.append_nil _).symm⟩
      rw [← hhistory]
  | cons e recent ih =>
      -- The message to be deleted is the last one of the history.
      have hlast : (w.console.channel channel).history = (kept ++ recent.reverse) ++ [e] := by
        rw [hhistory, List.reverse_cons, List.append_assoc]
      obtain ⟨console, hdelete, hchannel, hothers, hwritten, hworks'⟩ :=
        Console.delete_newest hlast hids hworks hmanage
      have hids' : ((console.channel channel).history.map Prod.fst).Nodup := by
        rw [hlast, List.map_append, List.nodup_append] at hids
        rw [hchannel]
        exact hids.1
      have hmanage' : (console.capabilities channel).allows .manageMessages = true := by
        have hsame := w.console.capabilities_delete channel e.1 channel
        rw [hdelete] at hsame
        rw [show console.capabilities channel = w.console.capabilities channel from hsame]
        exact hmanage
      -- What is left is the same task one message further back.
      obtain ⟨console', hrest, hchannel', hothers', hwritten'⟩ :=
        @ih { w with console } (by rw [hchannel]) hids' hworks' hmanage'
      refine ⟨console', ?_, ?_, ?_, ?_⟩
      · rw [List.map_cons, deleteEach_cons_of_ok hdelete, hrest]
      · rw [hchannel', hchannel]
      · intro id hne
        exact (hothers' id hne).trans (hothers id hne)
      · rw [hwritten', hwritten, List.map_cons, List.append_assoc, List.singleton_append]

/-! ## The amount -/

/-- The first argument is a numeral for `n`, and `n` is neither zero nor above the limit. -/
def AsksFor (args : List String) (n : Nat) : Prop :=
  ∃ arg ∈ args.head?, Numeral.read? Numeral.maxId arg.toList = some n ∧ 1 ≤ n ∧ n ≤ purgeLimit

theorem purgeAmount?_eq_some_iff {args : List String} {n : Nat} :
    purgeAmount? args = some n ↔ AsksFor args n := by
  simp only [purgeAmount?, AsksFor, Option.bind_eq_bind, Option.bind_eq_some_iff, Option.mem_def]
  constructor
  · rintro ⟨arg, harg, k, hk, h⟩
    split at h
    · next hlimit =>
        obtain rfl := Option.some.inj h
        exact ⟨arg, harg, hk, hlimit⟩
    · cases h
  · rintro ⟨arg, harg, hn, hlimit⟩
    exact ⟨arg, harg, n, hn, if_pos hlimit⟩

/-- Arguments that name no amount are refused. -/
theorem purge_of_no_amount {c : Context} (h : purgeAmount? c.arguments = none) (w : World) :
    purge c w = (.error (.error (.invalidArguments (c.commandText "invalidAmount" [toString purgeLimit]))), w) := by
  unfold purge
  rw [h]
  rfl

/-! ## The purge -/

variable {c : Context} {w : World}

/-- A history whose newest `n + 1` messages are set apart is what a purge of `n` asks for. -/
theorem history_eq_kept_append (c : Context) (n : Nat) (w : World) :
    ∃ kept newest, (w.console.channel c.channel).history = kept ++ newest ∧
      newest.length = min (n + 1) (w.console.channel c.channel).history.length ∧
      purgeTargets c n w = newest.reverse.map Prod.fst := by
  refine ⟨(w.console.channel c.channel).history.take _,
    (w.console.channel c.channel).history.drop ((w.console.channel c.channel).history.length - (n + 1)),
    (List.take_append_drop _ _).symm, ?_, ?_⟩
  · rw [List.length_drop]
    omega
  · rw [purgeTargets, List.take_reverse]

/-- **What a purge leaves of its channel.** The sink works, the bot may read the history of the channel and
    delete messages in it, and no id is there twice. If the arguments ask for `n` messages, the purge comes to
    its end: the newest `n + 1` messages, or all if there are fewer, are gone from the channel, with a line for
    each, the newest first; other channels are as they were; and one report is queued, with the number of those
    messages that are not the call. Otherwise the arguments are refused and nothing happens. -/
theorem purge_clears (hworks : w.console.sink.Works)
    (hids : ((w.console.channel c.channel).history.map Prod.fst).Nodup)
    (hmanage : (w.console.capabilities c.channel).allows .manageMessages = true)
    (hread : (w.console.capabilities c.channel).allows .readMessageHistory = true) :
    (∀ n, AsksFor c.arguments n →
      ∃ (kept newest : List (MessageId × UserId)) (console : Console),
        (w.console.channel c.channel).history = kept ++ newest ∧
        newest.length = min (n + 1) (w.console.channel c.channel).history.length ∧
        purge c w = (.ok (),
          { w with console }.push (purgeReport c ((newest.map Prod.fst).countP fun m => m ≠ c.message.id))) ∧
        console.written = w.console.written ++ newest.reverse.map (fun e => .delete c.channel e.1) ∧
        console.channel c.channel = { w.console.channel c.channel with history := kept } ∧
        ∀ id ≠ c.channel, console.channel id = w.console.channel id) ∧
    ((∀ n, ¬ AsksFor c.arguments n) →
      purge c w = (.error (.error (.invalidArguments (c.commandText "invalidAmount" [toString purgeLimit]))), w)) := by
  constructor
  · intro n hasks
    have hn := purgeAmount?_eq_some_iff.mpr hasks
    obtain ⟨kept, newest, hhistory, hlength, htargets⟩ := history_eq_kept_append c n w
    have hmessages : w.console.history c.channel (n + 1) = .ok (purgeTargets c n w) := by
      have hheld : (w.console.channel c.channel).capabilities.allows .readMessageHistory = true := hread
      simp only [Console.history, hheld]
      rfl
    have hnewest : (w.console.channel c.channel).history = kept ++ newest.reverse.reverse := by
      rw [List.reverse_reverse]
      exact hhistory
    obtain ⟨console, hdelete, hchannel, hothers, hwritten⟩ := deleteEach_newest hnewest hids hworks hmanage
    have hcount : (newest.reverse.map Prod.fst).countP (fun m => m ≠ c.message.id)
        = (newest.map Prod.fst).countP fun m => m ≠ c.message.id := by
      rw [List.map_reverse, List.countP_reverse]
    refine ⟨kept, newest, console, hhistory, hlength, ?_, hwritten, hchannel, hothers⟩
    rw [purge_of_readable hn hmessages, htargets, purgeAll, Stateful.bind_of_ok hdelete, hcount]
    rfl
  · intro hnone
    have hamount : purgeAmount? c.arguments = none := by
      rw [Option.eq_none_iff_forall_ne_some]
      exact fun n hn => hnone n (purgeAmount?_eq_some_iff.mp hn)
    exact purge_of_no_amount hamount w

/-- A purge of one message among three, the call in the middle. -/
theorem purge_clears_quietWorld :
    let w := [arrival 10 "!purge 1", arrival 11 "wait"].foldl World.observe quietWorld
    w.console.sink.Works ∧ ((w.console.channel purgeContext.channel).history.map Prod.fst).Nodup ∧
    (w.console.capabilities purgeContext.channel).allows .manageMessages = true ∧
    (w.console.capabilities purgeContext.channel).allows .readMessageHistory = true ∧
    AsksFor purgeContext.arguments 1 ∧
    ∃ (kept newest : List (MessageId × UserId)) (console : Console),
      (w.console.channel purgeContext.channel).history = kept ++ newest ∧ newest.length = 2 ∧
      purge purgeContext w = (.ok (),
        { w with console }.push (purgeReport purgeContext ((newest.map Prod.fst).countP fun m => m ≠ Id.ofNat 10))) ∧
      console.channel purgeContext.channel = { w.console.channel purgeContext.channel with history := kept } := by
  intro w
  have hworks : w.console.sink.Works := ⟨rfl, List.forall_mem_nil _⟩
  have hids : ((w.console.channel purgeContext.channel).history.map Prod.fst).Nodup := by decide +kernel
  have hmanage : (w.console.capabilities purgeContext.channel).allows .manageMessages = true := by decide +kernel
  have hread : (w.console.capabilities purgeContext.channel).allows .readMessageHistory = true := by
    decide +kernel
  have hasks : AsksFor purgeContext.arguments 1 := purgeAmount?_eq_some_iff.mp (by decide)
  obtain ⟨kept, newest, console, hhistory, hlength, hpurge, -, hchannel, -⟩ :=
    (purge_clears hworks hids hmanage hread).1 1 hasks
  exact ⟨hworks, hids, hmanage, hread, hasks, kept, newest, console, hhistory, hlength, hpurge, hchannel⟩

end Builtin

end Gatehouse
