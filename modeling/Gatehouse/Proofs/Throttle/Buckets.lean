import Gatehouse.Proofs.Throttle.Separation
import Mathlib.Data.List.Induction

/-!
# `Gatehouse.Proofs.Throttle.Buckets` — what a bucket keeps, whatever the clock shows

A clock that is set back upsets windows, but not the buckets. After any run, also one in which time goes backwards,
every bucket has the window of its key, does not count more calls than the limit, is marked only when it is full,
and opened at a call of its key (`Bucket.Sound`, `sound_after`). So the number of calls that are left is exact
(`remaining_of_allowed`). As long as a bucket is neither reset nor dropped (`Key.steady`), it lets calls through up to
the limit and tells of one denial at most, since all of it is added to what the bucket holds (`Key.add_run_le`).
-/

namespace Gatehouse.Throttle

variable {t : Throttle} {key : Key} {ops : List Op} {op : Op} {now : Nat} {b : Bucket}

/-! ## Buckets -/

/-- What every bucket of a key keeps, where the calls of the key were made at the given times. -/
structure Bucket.Sound (key : Key) (times : List Nat) (b : Bucket) : Prop where
  window : b.window = key.window
  count_le : b.count ≤ key.limit
  full : b.notified = true → b.count = key.limit
  start_mem : b.start ∈ times

/-- More calls make no difference. -/
theorem Bucket.Sound.append {times : List Nat} (h : b.Sound key times) (later : List Nat) :
    b.Sound key (times ++ later) where
  window := h.window
  count_le := h.count_le
  full := h.full
  start_mem := List.mem_append_left later h.start_mem

/-- A bucket that opens with a call has counted none. -/
theorem Bucket.sound_fresh (key : Key) (times : List Nat) (now : Nat) :
    (Bucket.fresh key now).Sound key (times ++ [now]) where
  window := rfl
  count_le := Nat.zero_le _
  full := by simp [fresh]
  start_mem := List.mem_concat_self

/-- A bucket of the key that is renewed is one that opens now. -/
theorem Bucket.Sound.renewed_eq {times : List Nat} (h : b.Sound key times) (now : Nat) :
    b.renewed now = if b.expired now then Bucket.fresh key now else b := by
  unfold renewed fresh
  rw [h.window]

/-- All buckets of a throttle are sound after the given steps. -/
def Sound (ops : List Op) (t : Throttle) : Prop :=
  ∀ key b, t.buckets.get? key = some b → b.Sound key (key.times ops)

/-- The bucket that a call meets is sound, and it was there before or opens now. -/
theorem Sound.bucketAt (h : Sound ops t) (key : Key) (now : Nat) :
    (t.bucketAt key now).Sound key (key.times ops ++ [now]) := by
  unfold Throttle.bucketAt
  cases hget : t.buckets.get? key with
  | none =>
      rw [Option.getD_none, Bucket.renewed_fresh]
      exact Bucket.sound_fresh key _ now
  | some b =>
      rw [Option.getD_some, (h key b hget).renewed_eq]
      split
      · exact Bucket.sound_fresh key _ now
      · exact (h key b hget).append [now]

/-- **All that a call can do.** It is let through and counted, or it is denied and the bucket is marked. -/
theorem acquire_cases (t : Throttle) (key : Key) (now : Nat) :
    ((t.bucketAt key now).count < key.limit ∧
      t.acquire key now = (some (.allowed (key.limit - ((t.bucketAt key now).count + 1))),
        ⟨t.buckets.insert key { t.bucketAt key now with count := (t.bucketAt key now).count + 1 }⟩)) ∨
    (key.limit ≤ (t.bucketAt key now).count ∧
      t.acquire key now = ((Clock.after? (t.bucketAt key now).start (t.bucketAt key now).window).map
          fun ending => .denied (Clock.elapsed ending now) (!(t.bucketAt key now).notified),
        ⟨t.buckets.insert key { t.bucketAt key now with notified := true }⟩)) := by
  unfold acquire
  by_cases hroom : (t.bucketAt key now).count < key.limit
  · exact .inl ⟨hroom, if_pos hroom⟩
  · exact .inr ⟨Nat.not_lt.mp hroom, if_neg hroom⟩

/-- The bucket that a call leaves behind is sound. -/
theorem Sound.acquire (h : Sound ops t) (key : Key) (now : Nat) :
    Sound (ops ++ [.acquire key now]) (t.acquire key now).2 := by
  intro key' b hget
  have hmet := h.bucketAt key now
  by_cases hkey : key' = key
  · subst hkey
    have htimes : key'.times (ops ++ [.acquire key' now]) = key'.times ops ++ [now] := by
      rw [Key.times_append, Key.times, if_pos rfl, Key.times]
    rw [htimes]
    rcases acquire_cases t key' now with ⟨hroom, hacquire⟩ | ⟨hfull, hacquire⟩
    · rw [hacquire, Table.get?_insert_self, Option.some.injEq] at hget
      subst hget
      -- A bucket that has room is not marked.
      have hunmarked : (t.bucketAt key' now).notified ≠ true := fun hmark => by
        have := hmet.full hmark
        omega
      exact ⟨hmet.window, hroom, fun hmark => absurd hmark hunmarked, hmet.start_mem⟩
    · rw [hacquire, Table.get?_insert_self, Option.some.injEq] at hget
      subst hget
      exact ⟨hmet.window, hmet.count_le, fun _ => Nat.le_antisymm hmet.count_le hfull, hmet.start_mem⟩
  · rw [get?_acquire_of_ne t now hkey] at hget
    rw [Key.times_append]
    exact (h key' b hget).append _

/-- A sweep leaves the buckets that it does not drop as they are. -/
theorem Sound.sweep (h : Sound ops t) (now : Nat) : Sound (ops ++ [.sweep now]) (t.sweep now) := by
  intro key b hget
  have hfilter := Table.get?_filter t.buckets (fun _ b => !b.expired now) key
  rw [Key.times_append]
  exact (h key b (Option.filter_eq_some_iff.mp (hfilter.symm.trans hget)).1).append _

/-- **Every step keeps the buckets sound**, whatever its time. -/
theorem Sound.step (h : Sound ops t) (op : Op) : Sound (ops ++ [op]) (op.apply t) := by
  cases op with
  | acquire key now => exact h.acquire key now
  | sweep now => exact h.sweep now

/-- **After any run all buckets are sound.** -/
theorem sound_after (ops : List Op) : Sound ops (after ops ∅) := by
  induction ops using List.reverseRecOn with
  | nil =>
      intro key b hget
      cases hget
  | append_singleton ops op ih =>
      rw [after_append]
      exact ih.step op

/-- A call that is let through is told how many more the bucket has room for. -/
theorem remaining_of_allowed {remaining : Nat} (h : (t.acquire key now).1 = some (.allowed remaining)) :
    ∃ b, (t.acquire key now).2.buckets.get? key = some b ∧ 0 < b.count ∧ b.count + remaining = key.limit := by
  rcases acquire_cases t key now with ⟨hroom, hacquire⟩ | ⟨-, hacquire⟩
  · rw [hacquire] at h ⊢
    obtain rfl := Decision.allowed.inj (Option.some.inj h)
    refine ⟨_, Table.get?_insert_self _ _ _, Nat.succ_pos _, ?_⟩
    show (t.bucketAt key now).count + 1 + _ = key.limit
    omega
  · rw [hacquire] at h
    obtain ⟨ending, -, hdenied⟩ := Option.map_eq_some_iff.mp h
    cases hdenied

/-! ## While a bucket is neither reset nor dropped -/

/-- Whether a step resets the bucket of a key, or drops it. -/
def Op.renews (t : Throttle) (key : Key) : Op → Bool
  | .acquire key' now => decide (key' = key) && (t.buckets.get? key).any fun b => b.expired now
  | .sweep now => (t.buckets.get? key).any fun b => b.expired now

/-- Whether no step of a run resets or drops the bucket of a key. -/
def Key.steady (key : Key) : List Op → Throttle → Bool
  | [], _ => true
  | op :: ops, t => !op.renews t key && key.steady ops (op.apply t)

/-- Whether a call is told that it is the first one of the window to be denied. -/
def Decision.isFirst : Decision → Bool
  | .allowed _ => false
  | .denied _ first => first

namespace Key

/-- How many calls of a key a run lets through. -/
def admissions (key : Key) (ops : List Op) (t : Throttle) : Nat :=
  (key.decisions (run ops t)).countP fun d => d.any Decision.isAllowed

/-- How many calls of a key are told in a run that they are the first to be denied. -/
def notices (key : Key) (ops : List Op) (t : Throttle) : Nat :=
  (key.decisions (run ops t)).countP fun d => d.any Decision.isFirst

/-- How many calls the bucket of a key has counted. A key without a bucket has none. -/
def counted (key : Key) (t : Throttle) : Nat :=
  ((t.buckets.get? key).map Bucket.count).getD 0

/-- One if the bucket of a key is marked, otherwise zero. -/
def marks (key : Key) (t : Throttle) : Nat :=
  ((t.buckets.get? key).map fun b => b.notified.toNat).getD 0

theorem decisions_run_cons (key : Key) (op : Op) (ops : List Op) (t : Throttle) :
    key.decisions (run (op :: ops) t) = key.decisions (run [op] t) ++ key.decisions (run ops (op.apply t)) := by
  have hrun := run_append [op] ops t
  rw [List.singleton_append] at hrun
  rw [hrun, decisions, List.filter_append, List.map_append]
  rfl

theorem admissions_cons (key : Key) (op : Op) (ops : List Op) (t : Throttle) :
    key.admissions (op :: ops) t = key.admissions [op] t + key.admissions ops (op.apply t) := by
  unfold admissions
  rw [decisions_run_cons, List.countP_append]

theorem notices_cons (key : Key) (op : Op) (ops : List Op) (t : Throttle) :
    key.notices (op :: ops) t = key.notices [op] t + key.notices ops (op.apply t) := by
  unfold notices
  rw [decisions_run_cons, List.countP_append]

/-- A step that is no call of the key lets none of its calls through and denies none. -/
theorem decisions_run_of_not_call (h : ∀ now, op ≠ .acquire key now) (t : Throttle) :
    key.decisions (run [op] t) = [] := by
  cases op with
  | acquire key' now =>
      have hkey : key' ≠ key := fun he => h now (he ▸ rfl)
      exact decisions_cons_of_ne hkey _ _
  | sweep now => rfl

theorem decisions_run_call (key : Key) (now : Nat) (t : Throttle) :
    key.decisions (run [.acquire key now] t) = [(t.acquire key now).1] :=
  decisions_cons_self _ _ _

/-- A call is counted in the bucket that it meets if it is let through, and the bucket is marked if the call is told
    that it is the first to be denied, which no call is if the bucket was marked before. -/
theorem call_adds (key : Key) (now : Nat) (t : Throttle) :
    key.counted (t.acquire key now).2 = (t.bucketAt key now).count + key.admissions [.acquire key now] t ∧
    (t.bucketAt key now).notified.toNat + key.notices [.acquire key now] t ≤ key.marks (t.acquire key now).2 := by
  unfold admissions notices counted marks
  rw [decisions_run_call]
  rcases acquire_cases t key now with ⟨-, hacquire⟩ | ⟨-, hacquire⟩
  · rw [hacquire, Table.get?_insert_self]
    exact ⟨rfl, Nat.le_refl _⟩
  · rw [hacquire, Table.get?_insert_self]
    -- The call is told nothing if the clock cannot hold the end of the window.
    cases Clock.after? (t.bucketAt key now).start (t.bucketAt key now).window with
    | none => exact ⟨rfl, Bool.toNat_le _⟩
    | some ending =>
        refine ⟨rfl, ?_⟩
        cases hmark : (t.bucketAt key now).notified <;> simp [Decision.isFirst]

/-- What a step adds is in the bucket after it. -/
theorem step_le (key : Key) (op : Op) (t : Throttle) :
    key.admissions [op] t ≤ key.counted (op.apply t) ∧ key.notices [op] t ≤ key.marks (op.apply t) := by
  by_cases hcall : ∃ now, op = .acquire key now
  · obtain ⟨now, rfl⟩ := hcall
    obtain ⟨hcount, hmark⟩ := key.call_adds now t
    exact ⟨Nat.le_trans (Nat.le_add_left _ _) (Nat.le_of_eq hcount.symm), Nat.le_trans (Nat.le_add_left _ _) hmark⟩
  · unfold admissions notices
    rw [decisions_run_of_not_call (not_exists.mp hcall)]
    exact ⟨Nat.zero_le _, Nat.zero_le _⟩

/-- If a step does not reset or drop the bucket, it is added to what was there before. -/
theorem add_step_le (h : op.renews t key = false) :
    key.counted t + key.admissions [op] t ≤ key.counted (op.apply t) ∧
    key.marks t + key.notices [op] t ≤ key.marks (op.apply t) := by
  by_cases hcall : ∃ now, op = .acquire key now
  · obtain ⟨now, rfl⟩ := hcall
    have hmet : (t.bucketAt key now).count = key.counted t ∧ (t.bucketAt key now).notified.toNat = key.marks t := by
      unfold Throttle.bucketAt counted marks
      simp only [Op.renews, decide_true, Bool.true_and] at h
      cases hget : t.buckets.get? key with
      | none =>
          rw [Option.getD_none, Bucket.renewed_fresh]
          exact ⟨rfl, rfl⟩
      | some b =>
          rw [hget, Option.any_some] at h
          rw [Option.getD_some, Bucket.renewed, h]
          exact ⟨rfl, rfl⟩
    obtain ⟨hcount, hmark⟩ := key.call_adds now t
    rw [hmet.1] at hcount
    rw [hmet.2] at hmark
    exact ⟨Nat.le_of_eq hcount.symm, hmark⟩
  · have hkept : (op.apply t).buckets.get? key = t.buckets.get? key := by
      cases op with
      | acquire key' now => exact get?_acquire_of_ne t now fun he => hcall ⟨now, he ▸ rfl⟩
      | sweep now =>
          refine (Table.get?_filter t.buckets (fun _ b => !b.expired now) key).trans ?_
          cases hget : t.buckets.get? key with
          | none => rfl
          | some b =>
              rw [Op.renews, hget, Option.any_some] at h
              rw [Option.filter_some, h]
              rfl
    unfold admissions notices counted marks
    rw [decisions_run_of_not_call (not_exists.mp hcall), hkept]
    exact ⟨Nat.le_refl _, Nat.le_refl _⟩

/-- **In a steady run** everything is added to what the bucket held. -/
theorem add_run_le (h : key.steady ops t = true) :
    key.counted t + key.admissions ops t ≤ key.counted (after ops t) ∧
    key.marks t + key.notices ops t ≤ key.marks (after ops t) := by
  induction ops generalizing t with
  | nil => exact ⟨Nat.le_refl _, Nat.le_refl _⟩
  | cons op ops ih =>
      simp only [steady, Bool.and_eq_true, Bool.not_eq_true'] at h
      obtain ⟨hcount, hmark⟩ := add_step_le h.1
      obtain ⟨hcounts, hmarks⟩ := ih h.2
      rw [admissions_cons, notices_cons]
      show _ ≤ key.counted (after ops (op.apply t)) ∧ _ ≤ key.marks (after ops (op.apply t))
      omega

end Key

theorem Sound.counted_le (h : Sound ops t) (key : Key) : key.counted t ≤ key.limit := by
  unfold Key.counted
  cases hget : t.buckets.get? key with
  | none => exact Nat.zero_le _
  | some b => exact (h key b hget).count_le

theorem Key.marks_le (key : Key) (t : Throttle) : key.marks t ≤ 1 := by
  unfold marks
  cases t.buckets.get? key with
  | none => exact Nat.zero_le _
  | some b => exact Bool.toNat_le _

/-! ## Any clock -/

/-- What is promised of the bucket of a key after a run. -/
structure Key.Kept (key : Key) (ops : List Op) : Prop where
  /-- The bucket, if there is one, is sound. -/
  sound : ∀ b, (after ops ∅).buckets.get? key = some b → b.Sound key (key.times ops)
  /-- A call that is let through next is told exactly what is left of the limit then. -/
  remaining : ∀ now n, ((after ops ∅).acquire key now).1 = some (.allowed n) →
    ∃ b, ((after ops ∅).acquire key now).2.buckets.get? key = some b ∧ 0 < b.count ∧ b.count + n = key.limit
  /-- From the next step on, which can be one that resets or drops the bucket, and up to the next one after it that
      does, calls are let through up to the limit and one at most is told that it is the first to be denied. -/
  steady : ∀ op later, key.steady later (after (ops ++ [op]) ∅) = true →
    key.admissions (op :: later) (after ops ∅) ≤ key.limit ∧ key.notices (op :: later) (after ops ∅) ≤ 1

/-- **Buckets stay in order under any clock.** -/
theorem kept_under_any_clock (ops : List Op) (key : Key) : key.Kept ops := by
  constructor
  case sound => exact fun b hget => sound_after ops key b hget
  case remaining => exact fun now n hallowed => remaining_of_allowed hallowed
  case steady =>
    intro op later hsteady
    have hbound := (sound_after (ops ++ [op] ++ later)).counted_le key
    rw [after_append] at hbound
    have hmark := key.marks_le (after later (after (ops ++ [op]) ∅))
    obtain ⟨hcounts, hmarks⟩ := Key.add_run_le hsteady
    obtain ⟨hcount, hfirst⟩ := key.step_le op (after ops ∅)
    have hstep : op.apply (after ops ∅) = after (ops ++ [op]) ∅ := (after_append ops [op] ∅).symm
    rw [hstep] at hcount hfirst
    rw [Key.admissions_cons, Key.notices_cons, hstep]
    omega

/-- Calls in one window while the clock is set back, a sweep, and a call of somebody else at a much later time. -/
def setBackRun : List Op :=
  [.acquire twoInTen 20, .acquire twoInTen 5, .sweep 12, .acquire twoInTen 3, .acquire twoInTen 29,
    .acquire ⟨.user, 2, "ping", 2, 10⟩ 90]

theorem kept_under_any_clock_setBackRun :
    (after setBackRun ∅).buckets.get? twoInTen = some ⟨2, 20, 10, true⟩ ∧
    (⟨2, 20, 10, true⟩ : Bucket).Sound twoInTen [20, 5, 3, 29] ∧
    twoInTen.steady (setBackRun.drop 1) (after (setBackRun.take 1) ∅) = true ∧
    twoInTen.admissions setBackRun ∅ = 2 ∧ twoInTen.admissions setBackRun ∅ ≤ 2 ∧
    twoInTen.notices setBackRun ∅ = 1 ∧ twoInTen.notices setBackRun ∅ ≤ 1 ∧
    ∃ b, ((after (setBackRun.take 1) ∅).acquire twoInTen 5).2.buckets.get? twoInTen = some b ∧
      0 < b.count ∧ b.count + 0 = 2 := by
  have hbucket : (after setBackRun ∅).buckets.get? twoInTen = some ⟨2, 20, 10, true⟩ := by decide
  have hsteady : twoInTen.steady (setBackRun.drop 1) (after (setBackRun.take 1) ∅) = true := by decide
  have hbounds := (kept_under_any_clock [] twoInTen).steady (.acquire twoInTen 20) (setBackRun.drop 1) hsteady
  exact ⟨hbucket, (kept_under_any_clock setBackRun twoInTen).sound _ hbucket, hsteady, by decide, hbounds.1,
    by decide, hbounds.2, (kept_under_any_clock (setBackRun.take 1) twoInTen).remaining 5 0 (by decide)⟩

end Gatehouse.Throttle
