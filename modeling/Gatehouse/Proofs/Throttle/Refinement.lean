import Gatehouse.Proofs.Throttle.Windows

/-!
# `Gatehouse.Proofs.Throttle.Refinement` — a throttle decides by windows alone

A throttle keeps a bucket for each key, opens the next window of a bucket only when a call meets it, and drops
buckets when it is swept. None of that shows: over any run in which time does not go backwards, the decisions
about the calls of a key are the rulings of the windows of these calls (`run_refines_windows`).

The proof relates the bucket of a key to the window that its calls have opened (`Agrees`). A key without a
bucket has had no call, or its window is over; that is what a sweep relies on. A call of the key keeps the
relation and decides by the ruling (`Agrees.acquire_self`), a call of another key and a sweep keep it
(`Agrees.acquire_other`, `Agrees.sweep`).
-/

namespace Gatehouse.Throttle

/-! ## Runs -/

/-- What can happen to a throttle. -/
inductive Op where
  | acquire (key : Key) (now : Nat)
  | sweep (now : Nat)
  deriving DecidableEq, Repr

/-- When it happens. -/
def Op.time : Op → Nat
  | .acquire _ now => now
  | .sweep now => now

/-- The decisions of a run, with their keys, in order. -/
def run : List Op → Throttle → List (Key × Option Decision)
  | [], _ => []
  | .acquire key now :: ops, t => (key, (t.acquire key now).1) :: run ops (t.acquire key now).2
  | .sweep now :: ops, t => run ops (t.sweep now)

/-- The decisions about the calls of a key. -/
def Key.decisions (key : Key) (log : List (Key × Option Decision)) : List (Option Decision) :=
  (log.filter fun e => e.1 = key).map Prod.snd

/-- The times of the calls of a key. -/
def Key.times (key : Key) : List Op → List Nat
  | [] => []
  | .acquire key' now :: ops => if key' = key then now :: key.times ops else key.times ops
  | .sweep _ :: ops => key.times ops

theorem Key.decisions_cons_self (key : Key) (d : Option Decision) (log : List (Key × Option Decision)) :
    key.decisions ((key, d) :: log) = d :: key.decisions log := by
  simp [decisions]

theorem Key.decisions_cons_of_ne {key key' : Key} (h : key' ≠ key) (d : Option Decision)
    (log : List (Key × Option Decision)) : key.decisions ((key', d) :: log) = key.decisions log := by
  simp [decisions, h]

/-- Time does not go backwards, and the clock can hold the end of every window that opens. -/
structure Admissible (ops : List Op) : Prop where
  sorted : (ops.map Op.time).Pairwise (· ≤ ·)
  clock : ∀ key now, .acquire key now ∈ ops → now + key.window < Clock.limit

theorem Admissible.tail {op : Op} {ops : List Op} (h : Admissible (op :: ops)) : Admissible ops where
  sorted := (List.pairwise_cons.mp h.sorted).2
  clock key now hmem := h.clock key now (List.mem_cons_of_mem _ hmem)

/-! ## The bucket and the window -/

variable {t : Throttle} {key : Key} {f? : Option Frame} {lo now : Nat}

/-- The bucket of a key whose window opened at `start` and has had the given number of calls. -/
def Key.bucket (key : Key) (start calls : Nat) : Bucket :=
  ⟨min calls key.limit, start, key.window, key.limit < calls⟩

/-- The bucket of a key fits the window that its calls have opened, at a time that is not before `lo`. -/
def Agrees (t : Throttle) (key : Key) (lo : Nat) : Option Frame → Prop
  | none => t.buckets.get? key = none
  | some f =>
      f.start ≤ lo ∧
        (t.buckets.get? key = some (key.bucket f.start f.calls) ∨
          t.buckets.get? key = none ∧ f.start + key.window ≤ lo)

theorem Agrees.later (h : Agrees t key lo f?) (hle : lo ≤ now) : Agrees t key now f? := by
  cases f? with
  | none => exact h
  | some f =>
      obtain ⟨hstart, hbucket | ⟨hnone, hover⟩⟩ := h
      · exact ⟨Nat.le_trans hstart hle, .inl hbucket⟩
      · exact ⟨Nat.le_trans hstart hle, .inr ⟨hnone, Nat.le_trans hover hle⟩⟩

/-- Renewing a bucket that opens now changes nothing. -/
theorem Bucket.renewed_fresh (key : Key) (now : Nat) :
    (Bucket.fresh key now).renewed now = Bucket.fresh key now := by
  unfold Bucket.renewed Bucket.fresh
  split <;> rfl

/-- A bucket is over when the time is not before the end of its window. -/
theorem Bucket.expired_iff {b : Bucket} (h : b.start ≤ now) :
    b.expired now = true ↔ b.start + b.window ≤ now := by
  unfold Bucket.expired Clock.elapsed
  rw [decide_eq_true_iff]
  omega

theorem Key.bucket_zero (key : Key) (start : Nat) : key.bucket start 0 = Bucket.fresh key start := by
  simp [bucket, Bucket.fresh]

/-- The bucket that a call meets holds the earlier calls of the window that the call belongs to. -/
theorem Agrees.bucketAt (h : Agrees t key now f?) :
    t.bucketAt key now = key.bucket (key.enter now f?).start ((key.enter now f?).calls - 1) := by
  unfold Throttle.bucketAt
  cases f? with
  | none =>
      rw [h]
      exact (Bucket.renewed_fresh key now).trans (key.bucket_zero now).symm
  | some f =>
      obtain ⟨hstart, hbucket | ⟨hnone, hover⟩⟩ := h
      · rw [hbucket]
        show (key.bucket f.start f.calls).renewed now = _
        have hexpired := Bucket.expired_iff (b := key.bucket f.start f.calls) hstart
        rcases Nat.lt_or_ge now (f.start + key.window) with hopen | hover
        · rw [Key.enter_of_lt hopen]
          exact if_neg fun he => absurd (hexpired.mp he) (Nat.not_le.mpr hopen)
        · rw [Key.enter_of_le hover]
          exact (if_pos (hexpired.mpr hover)).trans (key.bucket_zero now).symm
      · rw [hnone, Key.enter_of_le hover]
        exact (Bucket.renewed_fresh key now).trans (key.bucket_zero now).symm

/-- A call belongs to a window that is open. -/
theorem Agrees.enter (h : Agrees t key now f?) :
    (key.enter now f?).start ≤ now ∧ 0 < (key.enter now f?).calls := by
  cases f? with
  | none => exact ⟨Nat.le_refl now, Nat.one_pos⟩
  | some f =>
      rcases Nat.lt_or_ge now (f.start + key.window) with hopen | hover
      · rw [Key.enter_of_lt hopen]
        exact ⟨h.1, Nat.succ_pos _⟩
      · rw [Key.enter_of_le hover]
        exact ⟨Nat.le_refl now, Nat.one_pos⟩

/-! ## One step -/

/-- What is decided about a call that is the latest in its window. Nothing is, if the call is beyond the limit
    and the clock cannot hold the end of the window. -/
def Key.decided (key : Key) (f : Frame) (now : Nat) : Option Decision :=
  if f.calls ≤ key.limit ∨ f.start + key.window < Clock.limit then some (key.rulingIn f now) else none

/-- A call is decided by its rank in the window, and the bucket counts it. -/
theorem acquire_of_bucketAt {start calls : Nat} (h : t.bucketAt key now = key.bucket start calls) :
    t.acquire key now = (key.decided ⟨start, calls + 1⟩ now,
      ⟨t.buckets.insert key (key.bucket start (calls + 1))⟩) := by
  simp only [acquire, h, Key.bucket, Key.decided, Key.rulingIn, Key.ruling]
  -- The bucket is full exactly when the call is over the limit.
  by_cases hrank : calls + 1 ≤ key.limit
  · have hcount : min calls key.limit = calls := by omega
    have hsucc : min (calls + 1) key.limit = calls + 1 := by omega
    have hfull : ¬ key.limit < calls := by omega
    have hfull' : ¬ key.limit < calls + 1 := by omega
    rw [hcount, hsucc, if_pos (by omega), if_pos hrank, if_pos (Or.inl hrank), decide_eq_false hfull,
      decide_eq_false hfull']
  · have hcount : min calls key.limit = key.limit := by omega
    have hsucc : min (calls + 1) key.limit = key.limit := by omega
    have hfirst : (!decide (key.limit < calls)) = decide (calls + 1 = key.limit + 1) := by
      rw [← decide_not, decide_eq_decide]
      omega
    have hfull : key.limit < calls + 1 := by omega
    rw [hcount, hsucc, if_neg (by omega), if_neg hrank, hfirst, decide_eq_true hfull, Clock.after?]
    by_cases hclock : start + key.window < Clock.limit
    · rw [if_pos hclock, if_pos (Or.inr hclock)]
      rfl
    · rw [if_neg hclock, if_neg (by simp [hrank, hclock])]
      rfl

/-- **A call of the key** is decided by its window, and its bucket goes on to fit the window. -/
theorem Agrees.acquire (h : Agrees t key now f?) :
    (t.acquire key now).1 = key.decided (key.enter now f?) now ∧
    Agrees (t.acquire key now).2 key now (some (key.enter now f?)) := by
  obtain ⟨hstart, hcalls⟩ := h.enter
  have hrank : (key.enter now f?).calls - 1 + 1 = (key.enter now f?).calls := Nat.sub_add_cancel hcalls
  have hstep := acquire_of_bucketAt h.bucketAt
  rw [hrank] at hstep
  rw [hstep]
  exact ⟨rfl, hstart, .inl (Table.get?_insert_self _ _ _)⟩

/-- If the clock can hold the end of its window, the call is decided by the ruling. -/
theorem Agrees.acquire_self (h : Agrees t key now f?) (hclock : now + key.window < Clock.limit) :
    (t.acquire key now).1 = some (key.rulingIn (key.enter now f?) now) ∧
    Agrees (t.acquire key now).2 key now (some (key.enter now f?)) := by
  obtain ⟨hdecision, hafter⟩ := h.acquire
  have hstart := h.enter.1
  rw [Key.decided, if_pos (Or.inr (by omega))] at hdecision
  exact ⟨hdecision, hafter⟩

/-- Whatever is decided about a call, only the bucket of its key changes. -/
theorem get?_acquire_of_ne (t : Throttle) (now : Nat) {key' : Key} (h : key ≠ key') :
    (t.acquire key' now).2.buckets.get? key = t.buckets.get? key := by
  simp only [acquire]
  split <;> exact Table.get?_insert_of_ne _ _ h

/-- **A call of another key** does not touch the bucket. -/
theorem Agrees.acquire_other {key' : Key} (h : Agrees t key now f?) (hne : key ≠ key') :
    Agrees (t.acquire key' now).2 key now f? := by
  have hget := get?_acquire_of_ne t now hne
  cases f? with
  | none => exact hget.trans h
  | some f =>
      show _ ∧ (_ = _ ∨ _ = _ ∧ _)
      rw [hget]
      exact h

/-- **A sweep** drops the bucket only if its window is over. -/
theorem Agrees.sweep (h : Agrees t key now f?) : Agrees (t.sweep now) key now f? := by
  have hget := Table.get?_filter t.buckets (fun _ b => !b.expired now) key
  cases f? with
  | none =>
      show (t.buckets.filter _).get? key = none
      rw [hget, h]
      rfl
  | some f =>
      obtain ⟨hstart, hbucket | ⟨hnone, hover⟩⟩ := h
      · have hexpired := Bucket.expired_iff (b := key.bucket f.start f.calls) hstart
        rw [hbucket] at hget
        refine ⟨hstart, ?_⟩
        -- A bucket that is dropped is not missed: the next call would open a window anyway.
        by_cases hover : f.start + key.window ≤ now
        · right
          exact ⟨hget.trans (by rw [Option.filter_some, hexpired.mpr hover]; rfl), hover⟩
        · left
          have hopen : (key.bucket f.start f.calls).expired now = false :=
            Bool.eq_false_iff.mpr fun he => hover (hexpired.mp he)
          exact hget.trans (by rw [Option.filter_some, hopen]; rfl)
      · rw [hnone] at hget
        exact ⟨hstart, .inr ⟨hget, hover⟩⟩

/-! ## A whole run -/

/-- From a throttle whose bucket fits a window, the decisions are the rulings from that window on. -/
theorem decisions_run {ops : List Op} (hops : Admissible ops) (hlo : ∀ op ∈ ops, lo ≤ op.time)
    (h : Agrees t key lo f?) :
    key.decisions (run ops t) = (key.rulingsFrom f? (key.times ops)).map some := by
  -- On the run. The relation is kept at the time of each step, and time moves on to the next.
  induction ops generalizing t lo f? with
  | nil => rfl
  | cons op ops ih =>
      have htime : Agrees t key op.time f? := h.later (hlo op List.mem_cons_self)
      have hrest : ∀ op' ∈ ops, op.time ≤ op'.time := by
        intro op' hmem
        exact (List.pairwise_cons.mp hops.sorted).1 _ (List.mem_map_of_mem hmem)
      cases op with
      | acquire key' now =>
          have hnow : Agrees t key now f? := htime
          by_cases hkey : key' = key
          · subst hkey
            have hclock := hops.clock key' now List.mem_cons_self
            obtain ⟨hdecision, hafter⟩ := hnow.acquire_self hclock
            rw [run, Key.decisions_cons_self, hdecision, ih hops.tail hrest hafter, Key.times,
              if_pos rfl]
            rfl
          · have hne : key ≠ key' := fun he => hkey he.symm
            have hafter := hnow.acquire_other hne
            rw [run, Key.decisions_cons_of_ne hkey, ih hops.tail hrest hafter, Key.times, if_neg hkey]
      | sweep now => exact ih hops.tail hrest htime.sweep

theorem Agrees.empty (key : Key) (lo : Nat) : Agrees ∅ key lo none := rfl

/-- From an empty throttle, the decisions are the rulings of the windows. -/
theorem decisions_run_empty {ops : List Op} (hops : Admissible ops) (key : Key) :
    key.decisions (run ops ∅) = (key.rulings (key.times ops)).map some := by
  rw [decisions_run hops (fun op _ => Nat.zero_le op.time) (Agrees.empty key 0), Key.rulingsFrom_none]

/-- **A throttle refines fixed windows.** In a run from an empty throttle, whatever calls of other keys and
    sweeps it has: the calls of a key are decided by the rulings of the windows that their own times cut; as
    many are allowed as the windows admit, none lost and none twice; and any run in which the key is called
    at the same times decides the same about it. -/
theorem run_refines_windows {ops : List Op} (hops : Admissible ops) (key : Key) :
    key.decisions (run ops ∅) = (key.rulings (key.times ops)).map some ∧
    (key.decisions (run ops ∅)).countP (fun d => d.any Decision.isAllowed)
      = ((windows key.window (key.times ops)).map fun w => min key.limit w.times.length).sum ∧
    ∀ ops', Admissible ops' → key.times ops' = key.times ops →
      key.decisions (run ops' ∅) = key.decisions (run ops ∅) := by
  have hlog := decisions_run_empty hops key
  refine ⟨hlog, ?_, ?_⟩
  · rw [hlog, List.countP_map, ← Key.countP_rulings]
    rfl
  · intro ops' hops' htimes
    rw [decisions_run_empty hops' key, htimes, hlog]

/-- Two calls in ten nanoseconds. -/
def twoInTen : Key :=
  ⟨.user, 1, "ping", 2, 10⟩

/-- Four calls in one window, a call of somebody else, a sweep when the window is over, and one more call. -/
def busyRun : List Op :=
  [.acquire twoInTen 0, .acquire twoInTen 3, .acquire twoInTen 5, .acquire ⟨.user, 2, "ping", 2, 10⟩ 5,
    .acquire twoInTen 9, .sweep 10, .acquire twoInTen 10]

theorem run_refines_windows_busyRun : Admissible busyRun ∧
    twoInTen.decisions (run busyRun ∅) = (twoInTen.rulings (twoInTen.times busyRun)).map some := by
  have hops : Admissible busyRun := by
    refine ⟨by decide, ?_⟩
    intro key now hmem
    simp only [busyRun, List.mem_cons, Op.acquire.injEq, reduceCtorEq, false_or, List.not_mem_nil,
      or_false] at hmem
    rcases hmem with ⟨rfl, rfl⟩ | ⟨rfl, rfl⟩ | ⟨rfl, rfl⟩ | ⟨rfl, rfl⟩ | ⟨rfl, rfl⟩ | ⟨rfl, rfl⟩ <;>
      decide
  exact ⟨hops, (run_refines_windows hops twoInTen).1⟩

example : twoInTen.decisions (run busyRun ∅) =
    [some (.allowed 1), some (.allowed 0), some (.denied 5 true), some (.denied 1 false),
      some (.allowed 1)] := by
  decide

end Gatehouse.Throttle
