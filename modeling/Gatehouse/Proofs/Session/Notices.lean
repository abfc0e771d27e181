import Gatehouse.Proofs.Dispatch.Feedback
import Gatehouse.Proofs.Session.Overflow

/-!
# `Gatehouse.Proofs.Session.Notices` — one piece of feedback for each call, and one notice for each window

A throttle tells the first caller that it denies in a window and no other. What it goes by is a mark in its bucket.
In a session the mark stands for what it should: a call that is denied finds the bucket marked exactly if a call of
the same window was denied before, whoever made it (`Recorded.marked_of_repeats`, `Recorded.repeats_of_marked`). So
each call of a command with built-in gates gives one piece of feedback, and in each window of a bucket at most one
notice is queued (`Session.one_feedback_per_call`).

The proof follows the window of a bucket through all gates that are asked (`Throttle.Key.frame`). Each call that is
counted in the bucket belongs to a later window than the ones before, or is a later call of the same window
(`Throttle.Key.precedes_enter_frame`).
-/

namespace Gatehouse

namespace Throttle

/-! ## Windows in order -/

/-- The window is over when the other one opens, or has had fewer calls when it is the same. -/
def Frame.Precedes (f f' : Frame) : Prop :=
  f.start < f'.start ∨ f.start = f'.start ∧ f.calls < f'.calls

theorem Frame.Precedes.trans {f f' f'' : Frame} (h : f.Precedes f') (h' : f'.Precedes f'') : f.Precedes f'' := by
  simp only [Precedes] at *
  omega

theorem Frame.Precedes.calls_lt {f f' : Frame} (h : f.Precedes f') (hstart : f.start = f'.start) :
    f.calls < f'.calls := by
  simp only [Precedes] at h
  omega

namespace Key

variable {key : Key} {f : Frame} {now : Nat}

theorem precedes_enter (hwindow : 0 < key.window) (f : Frame) (now : Nat) :
    f.Precedes (key.enter now (some f)) := by
  rcases Nat.lt_or_ge now (f.start + key.window) with hopen | hover
  · rw [enter_of_lt hopen]
    exact .inr ⟨rfl, Nat.lt_succ_self _⟩
  · rw [enter_of_le hover]
    exact .inl (Nat.lt_of_lt_of_le (Nat.lt_add_of_pos_right hwindow) hover)

/-- Only the first call of a window has no other before it. -/
theorem eq_some_of_enter {f? : Option Frame} (h : 1 < (key.enter now f?).calls) :
    ∃ f, f? = some f ∧ key.enter now f? = ⟨f.start, f.calls + 1⟩ := by
  cases f? with
  | none => exact absurd h (Nat.lt_irrefl 1)
  | some f =>
      rcases Nat.lt_or_ge now (f.start + key.window) with hopen | hover
      · exact ⟨f, rfl, enter_of_lt hopen⟩
      · rw [enter_of_le hover] at h
        exact absurd h (Nat.lt_irrefl 1)

end Key

end Throttle

namespace Gate.Asking

/-! ## Throttles that are asked -/

/-- The bucket that the gate counts in, if it is a throttle. -/
def key? (a : Asking) : Option Throttle.Key :=
  a.rate?.map fun r => r.key a.context

/-- The bucket that the gate counts in, and when the window opened that the call belongs to. -/
def window? (a : Asking) : Option (Throttle.Key × Nat) :=
  a.key?.map fun key => (key, (a.world.throttle.bucketAt key a.context.moment.clock).start)

/-- The call ends at the gate. -/
def Halts (a : Asking) : Prop :=
  (a.gate.check a.context a.world).1 = .ok .halt

/-- Whether the gate queues something. -/
def tells (a : Asking) : Bool :=
  (a.gate.check a.context a.world).2.outbox ≠ a.world.outbox

/-- A gate that was asked earlier has ended a call of the same window. -/
def Repeats (a : Asking) (earlier : List Asking) : Prop :=
  ∃ window, a.window? = some window ∧ ∃ a' ∈ earlier, a'.window? = some window ∧ a'.Halts

variable {a : Asking} {r : Rate}

theorem key?_eq_some (hr : a.rate? = some r) : a.key? = some (r.key a.context) := by
  rw [key?, hr, Option.map_some]

theorem op?_eq (a : Asking) :
    a.op? = a.key?.map fun key => Throttle.Op.acquire key a.context.moment.clock := by
  unfold op? key? op
  cases a.rate? <;> rfl

/-- A throttle halts a call that it denies. -/
theorem halts_iff (hgate : a.gate = r.gate) :
    a.Halts ↔ ∃ retryAfter first, a.decision r = some (.denied retryAfter first) := by
  unfold Halts decision
  rw [hgate]
  constructor
  · intro h
    rw [Rate.gate, throttle_check, countIn_apply] at h
    change (throttleVerdict a.context (a.world.throttle.acquire (r.key a.context) a.context.moment.clock).1 _).1
      = .ok .halt at h
    rcases hd : (a.world.throttle.acquire (r.key a.context) a.context.moment.clock).1 with
      _ | remaining | ⟨retryAfter, first⟩
    · rw [hd] at h
      cases h
    · rw [hd] at h
      cases h
    · exact ⟨retryAfter, first, rfl⟩
  · rintro ⟨retryAfter, first, hd⟩
    exact check_of_denied hd

variable {key : Throttle.Key}

theorem window_pos (hkey : a.key? = some key) : 0 < key.window := by
  obtain ⟨r, hr, rfl⟩ := Option.map_eq_some_iff.mp hkey
  have hrate := (Descriptor.rate?_pos hr).2
  show 0 < Clock.seconds r.window
  simp only [Clock.seconds]
  omega

/-- A window is one of the bucket that the gate counts in. -/
theorem key?_of_window? {window : Throttle.Key × Nat} (h : a.window? = some window) : a.key? = some window.1 := by
  obtain ⟨key, hkey, rfl⟩ := Option.map_eq_some_iff.mp h
  exact hkey

/-- A throttle that tells the caller something ends the call, and its bucket is not marked. -/
theorem halts_of_tells (hfits : a.gate.Fits a.context.command a.place) (hkey : a.key? = some key)
    (h : a.tells = true) : a.Halts ∧ ¬ a.Marked := by
  obtain ⟨r, hr, -⟩ := Option.map_eq_some_iff.mp hkey
  have hnotifies := notifies_throttle r (c := a.context) (w := a.world)
  rw [← hfits.eq_gate hr] at hnotifies
  have hchanged : (a.gate.check a.context a.world).2.outbox ≠ a.world.outbox := of_decide_eq_true h
  rw [Halts]
  generalize a.gate.check a.context a.world = answer at hnotifies hchanged
  cases hnotifies with
  | proceed hsame => exact absurd hsame hchanged
  | told _ hfresh _ =>
      refine ⟨rfl, ?_⟩
      rintro ⟨r', hr', hspent⟩
      cases hr.symm.trans hr'
      exact hfresh r rfl hspent
  | silent _ _ hsame => exact absurd hsame hchanged
  | panic hsame => exact absurd hsame hchanged

end Gate.Asking

/-! ## The window of a bucket -/

namespace Throttle.Key

variable {key : Key} {a : Gate.Asking} {front mid : List Gate.Asking} {f : Frame}

/-- The window of a bucket that is open after gates were asked. -/
def frame (key : Key) (asked : List Gate.Asking) : Option Frame :=
  key.frameAfter none (key.times (asked.filterMap Gate.Asking.op?))

/-- The window of the bucket that a call belongs to, with the calls up to this one. -/
def entered (key : Key) (front : List Gate.Asking) (a : Gate.Asking) : Frame :=
  key.enter a.context.moment.clock (key.frame front)

/-- Gates that count in the bucket open and enter its windows, and no others do. -/
theorem frame_concat (key : Key) (front : List Gate.Asking) (a : Gate.Asking) :
    key.frame (front ++ [a]) = if a.key? = some key then some (key.entered front a) else key.frame front := by
  unfold frame
  rw [List.filterMap_append, times_append, frameAfter, List.foldl_append]
  cases hkey : a.key? with
  | none => simp [a.op?_eq, hkey, times, frameAfter]
  | some key' =>
      by_cases hsame : key' = key
      · subst hsame
        simp [a.op?_eq, hkey, times, frameAfter, entered, frame]
      · simp [a.op?_eq, hkey, times, frameAfter, hsame]

/-- **A bucket moves on.** A call that is counted precedes all that are counted later. -/
theorem precedes_enter_frame (hwindow : 0 < key.window) (hkey : a.key? = some key) (front mid : List Gate.Asking)
    (now : Nat) : (key.entered front a).Precedes (key.enter now (key.frame (front ++ a :: mid))) := by
  -- On the gates in between, from the last one. One that counts in the bucket is preceded, and precedes the call.
  induction mid using List.reverseRecOn generalizing now with
  | nil =>
      rw [frame_concat, if_pos hkey]
      exact precedes_enter hwindow _ now
  | append_singleton mid b ih =>
      rw [← List.cons_append, ← List.append_assoc, frame_concat]
      by_cases hb : b.key? = some key
      · rw [if_pos hb]
        exact (ih b.context.moment.clock).trans (precedes_enter hwindow _ now)
      · rw [if_neg hb]
        exact ih now

/-- An open window was entered last by one of the gates that were asked. -/
theorem exists_entered_of_frame (h : key.frame front = some f) :
    ∃ front' a mid, front = front' ++ a :: mid ∧ a.key? = some key ∧ key.entered front' a = f := by
  induction front using List.reverseRecOn with
  | nil => cases h
  | append_singleton front b ih =>
      rw [frame_concat] at h
      by_cases hb : b.key? = some key
      · rw [if_pos hb, Option.some.injEq] at h
        exact ⟨front, b, [], rfl, hb, h⟩
      · rw [if_neg hb] at h
        obtain ⟨front', a, mid, rfl, ha, hf⟩ := ih h
        exact ⟨front', a, mid ++ [b], by simp, ha, hf⟩

end Throttle.Key

/-! ## Marks -/

namespace Recorded

variable {ops : List Throttle.Op} {asked front back : List Gate.Asking} {t : Throttle} {a : Gate.Asking}
  {key : Throttle.Key}

/-! The run begins without calls on record, time does not go backwards in it, and throttles are what commands
declare. -/

variable (h : Recorded ops asked ∅ t) (hsorted : (ops.map Throttle.Op.time).Pairwise (· ≤ ·))
  (hfits : ∀ a ∈ asked, a.gate.Fits a.context.command a.place)

include h hsorted hfits

/-- What a throttle that is asked does depends on how many calls its window has had. -/
theorem meets (hasked : asked = front ++ a :: back)
    (hkey : a.key? = some key) {f : Throttle.Frame} (hf : key.entered front a = f) :
    a.window? = some (key, f.start) ∧ (a.Marked ↔ key.limit < f.calls - 1) ∧
    (a.Halts ↔ key.limit < f.calls ∧ f.start + key.window < Clock.limit) := by
  have hmem : a ∈ asked := hasked ▸ List.mem_append_right front List.mem_cons_self
  obtain ⟨r, hr, rfl⟩ := Option.map_eq_some_iff.mp hkey
  have hagrees := h.agrees hsorted hasked hr
  have hbucket := hagrees.bucketAt
  have hdecision := hagrees.acquire.1
  change _ = (r.key a.context).decided ((r.key a.context).entered front a) _ at hdecision
  change _ = (r.key a.context).bucket ((r.key a.context).entered front a).start
    (((r.key a.context).entered front a).calls - 1) at hbucket
  rw [hf] at hbucket hdecision
  refine ⟨?window, ?marked, ?halts⟩
  case window =>
    rw [Gate.Asking.window?, hkey, Option.map_some, hbucket]
    rfl
  case marked =>
    have hspent : r.Spent a.context a.world ↔ (r.key a.context).limit < f.calls - 1 := by
      rw [Rate.Spent, hbucket, Throttle.Key.bucket, decide_eq_true_iff]
    rw [← hspent]
    refine ⟨?_, fun h => ⟨r, hr, h⟩⟩
    rintro ⟨r', hr', h⟩
    cases hr.symm.trans hr'
    exact h
  case halts =>
    rw [Gate.Asking.halts_iff ((hfits a hmem).eq_gate hr), Gate.Asking.decision, hdecision, Throttle.Key.decided,
      Throttle.Key.rulingIn, Throttle.Key.ruling]
    by_cases hfull : f.calls ≤ (r.key a.context).limit
    · simp [hfull, Nat.not_lt.mpr hfull]
    · by_cases hclock : f.start + (r.key a.context).window < Clock.limit
      · simp [hfull, hclock, Nat.lt_of_not_le hfull]
      · simp [hfull, hclock]

/-- If a call of the window was denied before, the bucket is marked. -/
theorem marked_of_repeats (hasked : asked = front ++ a :: back)
    (hrepeats : a.Repeats front) : a.Marked := by
  obtain ⟨⟨key, start⟩, hsame, a', ha', hsame', hhalts'⟩ := hrepeats
  have hkey := Gate.Asking.key?_of_window? hsame
  have hkey' := Gate.Asking.key?_of_window? hsame'
  obtain ⟨front', mid, rfl⟩ := List.append_of_mem ha'
  have hasked' : asked = front' ++ a' :: (mid ++ a :: back) := by simp [hasked]
  obtain ⟨hwindow, hmarked, -⟩ := h.meets hsorted hfits hasked hkey rfl
  obtain ⟨hwindow', -, hhalted'⟩ := h.meets hsorted hfits hasked' hkey' rfl
  -- The earlier call was beyond the limit, and this one is a later call of the window.
  have hstarts := (Prod.mk.inj (Option.some.inj ((hwindow'.symm.trans hsame').trans (hsame.symm.trans hwindow)))).2
  have hcalls := (Throttle.Key.precedes_enter_frame (Gate.Asking.window_pos hkey) hkey' front' mid
    a.context.moment.clock).calls_lt hstarts
  have hfull := (hhalted'.mp hhalts').1
  rw [hmarked]
  exact Nat.lt_of_lt_of_le hfull (Nat.le_sub_one_of_lt hcalls)

/-- If the bucket is marked and the call is denied, a call of the window was denied before. -/
theorem repeats_of_marked (hasked : asked = front ++ a :: back)
    (hhalts : a.Halts) (hmarked : a.Marked) : a.Repeats front := by
  obtain ⟨r, hr, -⟩ := id hmarked
  have hkey := Gate.Asking.key?_eq_some hr
  generalize r.key a.context = key at hkey
  obtain ⟨hwindow, hcounted, hhalted⟩ := h.meets hsorted hfits hasked hkey rfl
  have hmany := hcounted.mp hmarked
  have hreach := (hhalted.mp hhalts).2
  -- The call before this one in the window was beyond the limit as well.
  obtain ⟨f, hframe, hf⟩ := Throttle.Key.eq_some_of_enter (show 1 < (key.entered front a).calls by omega)
  change key.entered front a = _ at hf
  rw [hf] at hwindow hmany hreach
  obtain ⟨front', a', mid, rfl, hkey', hentered⟩ := Throttle.Key.exists_entered_of_frame hframe
  have hasked' : asked = front' ++ a' :: (mid ++ a :: back) := by simp [hasked]
  obtain ⟨hwindow', -, hhalted'⟩ := h.meets hsorted hfits hasked' hkey' hentered
  exact ⟨_, hwindow, a', by simp, hwindow', hhalted'.mpr ⟨hmany, hreach⟩⟩

/-- **A window is told of at most once**, whoever calls. -/
theorem countP_tells_le_one (window : Throttle.Key × Nat) :
    asked.countP (fun a => a.window? = some window ∧ a.tells) ≤ 1 := by
  suffices hfront : ∀ front back, asked = front ++ back →
      front.countP (fun a => a.window? = some window ∧ a.tells) ≤ 1 from
    hfront asked [] (List.append_nil asked).symm
  intro front
  -- On the gates that were asked so far. If the last one tells of the window, no other one has.
  induction front using List.reverseRecOn with
  | nil => exact fun _ _ => Nat.zero_le 1
  | append_singleton front a ih =>
      intro back hasked
      rw [List.append_assoc, List.singleton_append] at hasked
      rw [List.countP_append, List.countP_singleton]
      by_cases ha : a.window? = some window ∧ a.tells = true
      · suffices hnone : front.countP (fun a => a.window? = some window ∧ a.tells) = 0 by
          rw [hnone]
          split <;> decide
        refine List.countP_eq_zero.mpr fun a' ha' htells' => ?_
        obtain ⟨hwindow', htells'⟩ := of_decide_eq_true htells'
        have hfit := hfits a (hasked ▸ List.mem_append_right front List.mem_cons_self)
        have hfit' := hfits a' (hasked ▸ List.mem_append_left _ ha')
        have hfresh := (Gate.Asking.halts_of_tells hfit (Gate.Asking.key?_of_window? ha.1) ha.2).2
        have hhalts' := (Gate.Asking.halts_of_tells hfit' (Gate.Asking.key?_of_window? hwindow') htells').1
        exact hfresh (h.marked_of_repeats hsorted hfits hasked ⟨window, ha.1, a', ha', hwindow', hhalts'⟩)
      · simpa [ha] using ih (a :: back) hasked

end Recorded

/-! ## Gates that come with the bot -/

/-- The gate of a rate is none that leaves throttles alone. -/
theorem Rate.not_sparing_gate (r : Rate) (c : Context) (w : World) : ¬ r.gate.Sparing := by
  intro h
  have hsame := h c { w with throttle := ∅ }
  rw [r.throttle_gate, Throttle.acquire_of_bucketAt (Throttle.Agrees.empty _ _).bucketAt] at hsame
  have hget := congrArg (fun t : Throttle => t.buckets.get? (r.key c)) hsame
  have hnone : some _ = none := (Table.get?_insert_self _ _ _).symm.trans hget
  cases hnone

/-- Built-in gates that are what a command declares are throttles where it declares them. -/
theorem Gate.areBuiltin_of_fits {d : Descriptor} {gates : List Gate} (hfits : ∀ x ∈ gates.zipIdx, x.1.Fits d x.2)
    (hbuiltin : ∀ g ∈ gates, ∃ r?, g.IsBuiltin r?) (c : Context) (w : World) : AreBuiltin d 0 gates := by
  rintro ⟨g, place⟩ hmem
  have hfit : g.Fits d place := hfits _ hmem
  show g.IsBuiltin (d.rate? place)
  cases hrate : d.rate? place with
  | some r =>
      rw [hfit.eq_gate hrate]
      exact .throttle r
  | none =>
      have hsparing : g.Sparing := by rwa [Fits, hrate] at hfit
      obtain ⟨_ | r, hg⟩ := hbuiltin g (List.mem_of_getElem? (List.mem_zipIdx_iff_getElem?.mp hmem))
      · exact hg
      · cases hg
        exact absurd hsparing (r.not_sparing_gate c w)

/-- Where a command declares nothing but throttles, its gates are. -/
theorem Gate.isBuiltin_of_fits {d : Descriptor} {gates : List Gate} (hfits : ∀ x ∈ gates.zipIdx, x.1.Fits d x.2)
    (hrates : ∀ place < gates.length, ∃ r, d.rate? place = some r) {g : Gate} (hg : g ∈ gates) :
    ∃ r?, g.IsBuiltin r? := by
  obtain ⟨place, hplace, rfl⟩ := List.getElem_of_mem hg
  obtain ⟨r, hr⟩ := hrates place hplace
  have hfit : gates[place].Fits d place :=
    hfits (gates[place], place) (List.mem_zipIdx_iff_getElem?.mpr (List.getElem?_eq_getElem hplace))
  rw [hfit.eq_gate hr]
  exact ⟨_, .throttle r⟩

namespace Session

variable {config : Config} {start : Start} {gates : GateFactory} {commands : List (Descriptor × Builtin.Body)}
  {s₀ : Session}

/-- **One call, one piece of feedback.** Let a session go through moves with the clock not going backwards. Each
    message among them that calls a command with built-in gates leaves one piece of feedback in the queue, if the
    platform answers; only a throttle can end the call without a notice, and does so if a call of the same window
    was denied before. In each window of a bucket at most one notice is queued, whoever calls. -/
theorem one_feedback_per_call (hgates : gates.Sparing)
    (hcommands : ∀ d ∈ commands, Builtin.Body.Sparing d.2 ∧ Declaration.IsNamed ⟨d.1, d.2⟩)
    (hstart : startWith config start gates commands = .ok s₀) {moves : List Move}
    (htimes : (moves.filterMap Move.clock?).Pairwise (· ≤ ·)) :
    (∀ before m moment later, moves = before ++ .dispatch m moment :: later →
      ∀ bot s, s₀.moveAll before = ⟨bot, s⟩ →
      ∀ command c s₁, bot.route m moment s = (.ok (command, c), s₁) →
      (∀ g ∈ command.gates, ∃ r?, g.IsBuiltin r?) → s.world.queriesLeft = none →
      bot.Feedback m moment s command (bot.callContext command c s₁) s₁.world
        fun front a => a.Repeats (s₀.askings before ++ front)) ∧
    ∀ window, (s₀.askings moves).countP (fun a => a.window? = some window ∧ a.tells) ≤ 1 := by
  obtain ⟨hbot, hnew⟩ := sparing_of_startWith hgates hcommands hstart
  have hrecorded := recorded_moveAll hbot moves
  rw [hnew] at hrecorded
  have hsorted := sorted_throttleOps hbot htimes
  have hfits : ∀ a ∈ s₀.askings moves, a.gate.Fits a.context.command a.place :=
    fun a ha => (of_mem_askings hbot ha).2
  refine ⟨?feedback, hrecorded.countP_tells_le_one hsorted hfits⟩
  rintro before m moment later rfl bot s hs command c s₁ hroute hbuiltin hanswers
  have hsame : (s₀.moveAll before).bot = bot := congrArg Session.bot hs
  have hregistry : bot.registry.Sparing := by
    rw [← hsame, bot_moveAll]
    exact hbot
  obtain ⟨-, trigger, hresolve⟩ := Bot.command_of_route hroute
  have hcommand := hregistry.commands command (hregistry.resolve trigger command hresolve)
  have hare := Gate.areBuiltin_of_fits hcommand.gates hbuiltin (bot.callContext command c s₁) s₁.world
  refine (Bot.feedback_of_route hroute hare hanswers).congr_spent fun front a hasked hhalts => ?_
  have hall : s₀.askings (before ++ .dispatch m moment :: later)
      = (s₀.askings before ++ front) ++ a :: (s₀.moveAll (before ++ [.dispatch m moment])).askings later := by
    rw [← List.singleton_append, ← List.append_assoc, askings_append, askings_concat, hs]
    show _ ++ bot.askings m moment s ++ _ = _
    rw [Bot.askings, hroute]
    show _ ++ Gate.askings (bot.callContext command c s₁) 0 command.gates s₁.world ++ _ = _
    rw [hasked]
    simp
  exact ⟨hrecorded.repeats_of_marked hsorted hfits hall hhalts, hrecorded.marked_of_repeats hsorted hfits hall⟩

/-- The second and the third call do not get past the first throttle, in one window. -/
def insistentMoves : List Move :=
  [.dispatch pingCall ⟨0, 0⟩, .dispatch pingCall ⟨Clock.seconds 1, 0⟩, .dispatch pingCall ⟨Clock.seconds 2, 0⟩,
    .sweep (Clock.seconds 5), .dispatch pingCall ⟨Clock.seconds 5, 0⟩]

theorem one_feedback_per_call_layered : ∃ s₀ command c s₁,
    startWith (configOf "!") ⟨0, ""⟩ (factory (configOf "!")) [layered] = .ok s₀ ∧
    (insistentMoves.filterMap Move.clock?).Pairwise (· ≤ ·) ∧
    let s := s₀.moveAll (insistentMoves.take 2)
    s.bot.route pingCall ⟨Clock.seconds 2, 0⟩ s.state = (.ok (command, c), s₁) ∧
    s.bot.Feedback pingCall ⟨Clock.seconds 2, 0⟩ s.state command (s.bot.callContext command c s₁) s₁.world
      (fun front a => a.Repeats (s₀.askings (insistentMoves.take 2) ++ front)) ∧
    (s.process pingCall ⟨Clock.seconds 2, 0⟩).1 = .rejected ∧
    (s.process pingCall ⟨Clock.seconds 2, 0⟩).2.state.world.outbox = s.state.world.outbox ∧
    (s₀.askings insistentMoves).countP Gate.Asking.tells = 1 ∧
    ∀ window, (s₀.askings insistentMoves).countP (fun a => a.window? = some window ∧ a.tells) ≤ 1 := by
  obtain ⟨s₀, hs, hfacts⟩ : ∃ s₀,
      startWith (configOf "!") ⟨0, ""⟩ (factory (configOf "!")) [layered] = .ok s₀ ∧
      (fun s : Session =>
        ((s.bot.route pingCall ⟨Clock.seconds 2, 0⟩ s.state).1.toOption.map fun route =>
            (route.1.descriptor, route.1.gates.length),
          s.state.world.queriesLeft, (s.process pingCall ⟨Clock.seconds 2, 0⟩).1,
          (s.process pingCall ⟨Clock.seconds 2, 0⟩).2.state.world.outbox == s.state.world.outbox,
          (s₀.askings insistentMoves).countP Gate.Asking.tells)) (s₀.moveAll (insistentMoves.take 2))
        = (some (layered.1, 2), none, .rejected, true, 1) :=
    exists_of_toOption_map (by rw [startWith_eq]; decide +kernel)
  simp only [Prod.mk.injEq, Option.map_eq_some_iff, toOption_eq_some_iff, beq_iff_eq] at hfacts
  obtain ⟨⟨⟨command, c⟩, hfound, hdescriptor, hcount⟩, hanswers, hrejected, hsame, htold⟩ := hfacts
  rcases hroute : (s₀.moveAll (insistentMoves.take 2)).bot.route pingCall ⟨Clock.seconds 2, 0⟩
    (s₀.moveAll (insistentMoves.take 2)).state with ⟨_, s₁⟩
  rw [hroute] at hfound
  obtain rfl := hfound
  have htimes : (insistentMoves.filterMap Move.clock?).Pairwise (· ≤ ·) := by decide
  obtain ⟨hfeedback, honce⟩ := one_feedback_per_call (sparing_factory _) sparing_layered hs htimes
  refine ⟨s₀, command, c, s₁, hs, htimes, hroute, ?_, hrejected, hsame, htold, honce⟩
  obtain ⟨hbot, -⟩ := sparing_of_startWith (sparing_factory _) sparing_layered hs
  obtain ⟨-, trigger, hresolve⟩ := Bot.command_of_route hroute
  rw [bot_moveAll] at hresolve
  have hgates := (hbot.commands command (hbot.resolve trigger command hresolve)).gates
  -- Two throttles are all that the command declares.
  have hrates : ∀ place < command.gates.length, ∃ r, command.descriptor.rate? place = some r := by
    have hdeclared : ∀ place < 2, (layered.1.rate? place).isSome = true := by
      decide +kernel
    rw [hcount, hdescriptor]
    exact fun place hplace => Option.isSome_iff_exists.mp (hdeclared place hplace)
  exact hfeedback _ _ _ (insistentMoves.drop 3) rfl _ _ rfl command c s₁ hroute
    (fun g => Gate.isBuiltin_of_fits hgates hrates) hanswers

end Session

end Gatehouse
