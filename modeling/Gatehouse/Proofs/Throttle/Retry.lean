import Gatehouse.Proofs.Gate.Verdicts
import Gatehouse.Proofs.Throttle.Separation

/-!
# `Gatehouse.Proofs.Throttle.Retry` — when a denied call may be tried again

A denied call is told after which time its window is over. That time is exact (`retry_after_exact`): before it
every call of the key is denied, each with what is left of the time, and the first call after it is allowed
(`Key.ShutUntil`). The gate shows the time in whole seconds, rounded up, so whoever waits as long as they are
told is not too early.

The proof follows the window that the calls of the key have opened (`Agrees.after`). A denied call leaves a full
one behind (`Agrees.shutUntil`).
-/

namespace Gatehouse.Throttle

variable {t : Throttle} {key : Key} {f? : Option Frame} {lo now : Nat}

/-! ## A full window -/

/-- Calls of the key before the end of the window stay in it. -/
theorem Key.frameAfter_of_lt {f : Frame} {times : List Nat}
    (h : ∀ now ∈ times, now < f.start + key.window) :
    key.frameAfter (some f) times = some ⟨f.start, f.calls + times.length⟩ := by
  induction times generalizing f with
  | nil => rfl
  | cons now times ih =>
      show key.frameAfter (some (key.enter now (some f))) times = _
      rw [Key.enter_of_lt (h now List.mem_cons_self), ih]
      · rw [List.length_cons, Nat.add_assoc, Nat.add_comm 1]
      · exact fun now' hmem => h now' (List.mem_cons_of_mem _ hmem)

/-- A call is before the end of the window that it belongs to. -/
theorem Key.lt_enter (hwindow : 0 < key.window) :
    now < (key.enter now f?).start + key.window := by
  cases f? with
  | none => exact Nat.lt_add_of_pos_right hwindow
  | some f =>
      rcases Nat.lt_or_ge now (f.start + key.window) with hopen | hover
      · rw [Key.enter_of_lt hopen]
        exact hopen
      · rw [Key.enter_of_le hover]
        exact Nat.lt_add_of_pos_right hwindow

/-- In the rest of a run, the calls of a key before the time `ending` are denied, each with what is left until
    then, and the first one after it opens a window. -/
structure Key.ShutUntil (key : Key) (ending : Nat) (t : Throttle) (later : List Op) : Prop where
  denied : ∀ mid now rest, later = mid ++ Op.acquire key now :: rest → now < ending →
    ((after mid t).acquire key now).1 = some (.denied (ending - now) false)
  reopened : ∀ mid now rest, later = mid ++ Op.acquire key now :: rest →
    (∀ now' ∈ key.times mid, now' < ending) → ending ≤ now →
    ((after mid t).acquire key now).1 = some (.allowed (key.limit - 1))

/-- The part of a run before one of its steps. -/
theorem Admissible.before {ops later : List Op} {op : Op} (h : Admissible (ops ++ op :: later)) :
    Admissible ops ∧ ∀ op' ∈ ops, op'.time ≤ op.time := by
  obtain ⟨hsorted, hhi⟩ := time_le_of_sorted h.sorted
  exact ⟨⟨hsorted, fun key now hmem => h.clock key now (List.mem_append_left _ hmem)⟩, hhi⟩

/-- The part of a run after one of its steps. -/
theorem Admissible.later {before ops : List Op} {op : Op} (h : Admissible (before ++ op :: ops)) :
    Admissible ops ∧ ∀ op' ∈ ops, op.time ≤ op'.time := by
  have hsorted := h.sorted
  rw [List.map_append, List.pairwise_append, List.map_cons, List.pairwise_cons] at hsorted
  refine ⟨⟨hsorted.2.1.2, fun key now hmem => h.clock key now (by simp [hmem])⟩, ?_⟩
  exact fun op' hmem => hsorted.2.1.1 _ (List.mem_map_of_mem hmem)

/-- **A key whose window is full is shut until the window is over.** -/
theorem Agrees.shutUntil {f : Frame} {later : List Op} (h : Agrees t key lo (some f))
    (hfull : key.limit < f.calls) (hlimit : 0 < key.limit) (hlater : Admissible later)
    (hlo : ∀ op ∈ later, lo ≤ op.time) : key.ShutUntil (f.start + key.window) t later := by
  -- Any call meets the window that the run up to it leaves; what differs is whether it is still the full one.
  have hmeets : ∀ mid now rest, later = mid ++ Op.acquire key now :: rest →
      ((Throttle.after mid t).acquire key now).1
        = some (key.rulingIn (key.enter now (key.frameAfter (some f) (key.times mid))) now) := by
    rintro mid now rest rfl
    obtain ⟨hmid, hhi⟩ := hlater.before
    have hle : lo ≤ now := hlo (.acquire key now) (by simp)
    have hafter := h.after hmid.sorted (fun op hmem => hlo op (List.mem_append_left _ hmem)) hhi hle
    exact (hafter.acquire_self (hlater.clock key now (by simp))).1
  constructor
  · intro mid now rest he hopen
    have hearly : ∀ now' ∈ key.times mid, now' < f.start + key.window := by
      subst he
      intro now' hmem
      exact Nat.lt_of_le_of_lt (hlater.before.2 _ (Key.mem_times.mp hmem)) hopen
    rw [hmeets mid now rest he, Key.frameAfter_of_lt hearly]
    simp only [Key.enter, if_pos hopen]
    have hover : ¬ f.calls + (key.times mid).length + 1 ≤ key.limit := by omega
    have hlast : ¬ f.calls + (key.times mid).length = key.limit := by omega
    simp [Key.rulingIn, Key.ruling, hover, hlast]
  · intro mid now rest he hearly hover
    rw [hmeets mid now rest he, Key.frameAfter_of_lt hearly]
    simp only [Key.enter, if_neg (Nat.not_lt.mpr hover)]
    have hfits : 1 ≤ key.limit := hlimit
    simp [Key.rulingIn, Key.ruling, hfits]

/-! ## Denied calls -/

/-- Only a call beyond the limit is denied, and it is told the time until the end of its window. -/
theorem Key.rulingIn_eq_denied {f : Frame} {retryAfter : Nat} {first : Bool}
    (h : key.rulingIn f now = .denied retryAfter first) :
    key.limit < f.calls ∧ retryAfter = f.start + key.window - now := by
  unfold Key.rulingIn Key.ruling at h
  split at h
  case isTrue => cases h
  case isFalse hover =>
    injection h with hretry _
    exact ⟨Nat.not_le.mp hover, hretry.symm⟩

/-- A denied call leaves the key shut for as long as it is told. -/
theorem shutUntil_of_denied {before later : List Op} {retryAfter : Nat} {first : Bool}
    (hops : Admissible (before ++ Op.acquire key now :: later)) (hlimit : 0 < key.limit)
    (hwindow : 0 < key.window)
    (hdenied : ((after before ∅).acquire key now).1 = some (.denied retryAfter first)) :
    (0 < retryAfter ∧ retryAfter ≤ key.window) ∧
    key.ShutUntil (now + retryAfter) (after (before ++ [Op.acquire key now]) ∅) later := by
  obtain ⟨hbefore, hhi⟩ := hops.before
  obtain ⟨hlater, hlo⟩ := hops.later
  have hagrees : Agrees (after before ∅) key now (key.frameAfter none (key.times before)) :=
    agrees_after_empty hbefore.sorted hhi key
  obtain ⟨hdecision, hfull⟩ := hagrees.acquire_self (hops.clock key now (by simp))
  rw [hdenied, Option.some.injEq] at hdecision
  have hstart := hagrees.enter.1
  have hopen : now < (key.enter now (key.frameAfter none (key.times before))).start + key.window :=
    Key.lt_enter hwindow
  generalize key.enter now (key.frameAfter none (key.times before)) = f at *
  -- The call is beyond the limit of a window, and is told the time until its end.
  obtain ⟨hover, rfl⟩ := Key.rulingIn_eq_denied hdecision.symm
  have hending : now + (f.start + key.window - now) = f.start + key.window := by omega
  refine ⟨by omega, ?_⟩
  rw [hending, after_append]
  exact hfull.shutUntil hover hlimit hlater hlo

/-- What a gate shows of a denial: the time in whole seconds, rounded up. -/
theorem throttleVerdict_denied (c : Context) (w : World) {retryAfter : Nat} (h : 0 < retryAfter) :
    Gate.throttleVerdict c (some (.denied retryAfter true)) w
      = (.ok .halt, w.push (c.posting .error
          (c.text "errors.tooManyAttempts" [toString (Clock.wholeSeconds retryAfter)])
          (some c.services.feedback.throttle))) := by
  have hpos : ¬ Clock.wholeSeconds retryAfter ≤ 0 := by
    rw [Clock.wholeSeconds_le_iff]
    simp only [Clock.seconds]
    omega
  -- A positive time is at least one second when it is rounded up, so it is shown as it is.
  have hmax : max (Clock.wholeSeconds retryAfter) 1 = Clock.wholeSeconds retryAfter := by omega
  show Gate.reject c (c.text "errors.tooManyAttempts" [toString (max (Clock.wholeSeconds retryAfter) 1)])
    c.services.feedback.throttle w = _
  rw [hmax]
  rfl

/-- **The time that a denied call is told is exact.** In a run in which time does not go backwards, let a call
    of a key be denied with the time `retryAfter`. That time is positive and not longer than the window, and
    the key is shut until it is over. A gate that tells of the denial shows the least number of seconds that
    is not shorter, so the first call after the time is allowed if it waits for as long as the gate shows. -/
theorem retry_after_exact {before later : List Op} {retryAfter : Nat} {first : Bool}
    (hops : Admissible (before ++ Op.acquire key now :: later)) (hlimit : 0 < key.limit)
    (hwindow : 0 < key.window)
    (hdenied : ((after before ∅).acquire key now).1 = some (.denied retryAfter first)) :
    (0 < retryAfter ∧ retryAfter ≤ key.window) ∧
    key.ShutUntil (now + retryAfter) (after (before ++ [Op.acquire key now]) ∅) later ∧
    ∀ c w scope limit window, Gate.throttleKey c scope limit window = key → c.moment.clock = now →
      w.throttle = after before ∅ → first = true →
      ∃ shown, (Gate.throttle scope limit window).check c w
          = (.ok .halt, { w with throttle := after (before ++ [Op.acquire key now]) ∅ }.push
              (c.posting .error (c.text "errors.tooManyAttempts" [toString shown])
                (some c.services.feedback.throttle))) ∧
        (∀ n, shown ≤ n ↔ retryAfter ≤ Clock.seconds n) ∧
        ∀ mid now' rest, later = mid ++ Op.acquire key now' :: rest →
          (∀ earlier ∈ key.times mid, earlier < now + retryAfter) → now + Clock.seconds shown ≤ now' →
          ((after (before ++ [Op.acquire key now] ++ mid) ∅).acquire key now').1
            = some (.allowed (key.limit - 1)) := by
  obtain ⟨hretry, hshut⟩ := shutUntil_of_denied hops hlimit hwindow hdenied
  refine ⟨hretry, hshut, ?_⟩
  rintro c w scope limit window hkey hnow hw rfl
  refine ⟨Clock.wholeSeconds retryAfter, ?_, fun n => Clock.wholeSeconds_le_iff, ?_⟩
  · rw [Gate.throttle_check, Gate.countIn_apply, hkey, hnow, hw, hdenied,
      throttleVerdict_denied c _ hretry.1, after_append]
    rfl
  · intro mid now' rest he hearly hwait
    have hround : retryAfter ≤ Clock.seconds (Clock.wholeSeconds retryAfter) :=
      Clock.wholeSeconds_le_iff.mp (Nat.le_refl _)
    rw [after_append]
    exact hshut.reopened mid now' rest he hearly (by omega)

/-- Two calls in ten seconds. -/
def twoInTenSeconds : Key :=
  ⟨.user, 1, "ping", 2, Clock.seconds 10⟩

/-- Calls in the middle of a second, and one as soon as ten seconds are over, which a sweep comes before. -/
def impatientRun : List Op :=
  [.acquire twoInTenSeconds 0, .acquire twoInTenSeconds 1500000000, .acquire twoInTenSeconds 5500000000,
    .acquire ⟨.user, 2, "ping", 2, Clock.seconds 10⟩ 5500000000, .acquire twoInTenSeconds 9000000000,
    .sweep 10000000000, .acquire twoInTenSeconds 10000000000]

/-- Their third call, as the gate sees it. -/
def impatientContext : Context :=
  { Context.bare (.bare (Id.ofNat 3) ⟨Id.ofNat 1, "ada", false⟩ ⟨Id.ofNat 9, "", .direct⟩ "!ping")
      (.declare "ping" .utility [] "" [] []) with
    moment := ⟨5500000000, 0⟩ }

theorem retry_after_exact_impatientRun : Admissible impatientRun ∧
    ((after (impatientRun.take 2) ∅).acquire twoInTenSeconds 5500000000).1 = some (.denied 4500000000 true) ∧
    twoInTenSeconds.ShutUntil 10000000000 (after (impatientRun.take 3) ∅) (impatientRun.drop 3) ∧
    ∃ shown w', (Gate.throttle .user 2 10).check impatientContext
        { World.ofBot ⟨Id.ofNat 100, "bot", true⟩ with throttle := after (impatientRun.take 2) ∅ }
          = (.ok .halt, w') ∧ ∀ n, shown ≤ n ↔ 4500000000 ≤ Clock.seconds n := by
  have hops : Admissible
      (impatientRun.take 2 ++ Op.acquire twoInTenSeconds 5500000000 :: impatientRun.drop 3) := by
    refine ⟨by decide, ?_⟩
    intro key now hmem
    simp only [impatientRun, List.take_succ_cons, List.take_zero, List.drop_succ_cons, List.drop_zero,
      List.cons_append, List.nil_append, List.mem_cons, Op.acquire.injEq, reduceCtorEq, false_or,
      List.not_mem_nil, or_false] at hmem
    rcases hmem with ⟨rfl, rfl⟩ | ⟨rfl, rfl⟩ | ⟨rfl, rfl⟩ | ⟨rfl, rfl⟩ | ⟨rfl, rfl⟩ | ⟨rfl, rfl⟩ <;>
      decide
  have hdenied : ((after (impatientRun.take 2) ∅).acquire twoInTenSeconds 5500000000).1
      = some (.denied 4500000000 true) := by decide
  obtain ⟨-, hshut, hshown⟩ := retry_after_exact hops (by decide) (by decide) hdenied
  obtain ⟨shown, hcheck, hleast, -⟩ := hshown impatientContext
    { World.ofBot ⟨Id.ofNat 100, "bot", true⟩ with throttle := after (impatientRun.take 2) ∅ } .user 2 10
    rfl rfl rfl rfl
  exact ⟨hops, hdenied, hshut, shown, _, hcheck, hleast⟩

end Gatehouse.Throttle
