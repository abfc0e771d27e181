import Gatehouse.Proofs.Throttle.Refinement

/-!
# `Gatehouse.Proofs.Throttle.Separation` — keys do not get in each other's way

After a run in which time does not go backwards, the bucket of every key fits the window that the calls of that
key have opened (`Agrees.after`). So calls of other keys and sweeps make no difference: about the calls of any
set of keys, a throttle decides what one would that got to see no other calls (`run_filter`).
-/

namespace Gatehouse.Throttle

/-! ## The state after a run -/

/-- The throttle after one step of a run. -/
def Op.apply (t : Throttle) : Op → Throttle
  | .acquire key now => (t.acquire key now).2
  | .sweep now => t.sweep now

/-- The throttle after a run. -/
def after (ops : List Op) (t : Throttle) : Throttle :=
  ops.foldl Op.apply t

/-- The window that is open after calls at the given times. -/
def Key.frameAfter (key : Key) (f? : Option Frame) (times : List Nat) : Option Frame :=
  times.foldl (fun f? now => some (key.enter now f?)) f?

variable {t t' : Throttle} {key : Key} {f? : Option Frame} {lo now : Nat}

theorem after_append (ops ops' : List Op) (t : Throttle) : after (ops ++ ops') t = after ops' (after ops t) :=
  List.foldl_append

/-- The decisions of a run go on from the state that its beginning leaves. -/
theorem run_append (ops ops' : List Op) (t : Throttle) :
    run (ops ++ ops') t = run ops t ++ run ops' (after ops t) := by
  induction ops generalizing t with
  | nil => rfl
  | cons op ops ih =>
      cases op with
      | acquire key now => exact congrArg (_ :: ·) (ih _)
      | sweep now => exact ih _

theorem Key.times_cons (key : Key) (op : Op) (ops : List Op) :
    key.times (op :: ops) = key.times [op] ++ key.times ops := by
  cases op with
  | acquire key' now =>
      by_cases hkey : key' = key
      · simp [Key.times, hkey]
      · simp [Key.times, hkey]
  | sweep now => rfl

theorem Key.mem_times {ops : List Op} : now ∈ key.times ops ↔ .acquire key now ∈ ops := by
  induction ops with
  | nil => simp [Key.times]
  | cons op ops ih =>
      cases op with
      | acquire key' now' =>
          by_cases hkey : key' = key
          · simp [Key.times, hkey, ih]
          · simp [Key.times, hkey, Ne.symm hkey, ih]
      | sweep now' => simpa [Key.times] using ih

/-- A step of a run keeps the window of a key, which its own calls enter. -/
theorem Agrees.step {op : Op} (h : Agrees t key op.time f?) :
    Agrees (op.apply t) key op.time (key.frameAfter f? (key.times [op])) := by
  cases op with
  | acquire key' now =>
      by_cases hkey : key' = key
      · subst hkey
        rw [Key.times, if_pos rfl]
        exact (Agrees.acquire h).2
      · rw [Key.times, if_neg hkey]
        exact Agrees.acquire_other h fun he => hkey he.symm
  | sweep now => exact Agrees.sweep h

/-- The steps after the first one are not earlier. -/
theorem le_time_of_sorted {op : Op} {ops : List Op} (h : ((op :: ops).map Op.time).Pairwise (· ≤ ·)) :
    ∀ op' ∈ ops, op.time ≤ op'.time := by
  intro op' hmem
  exact (List.pairwise_cons.mp h).1 _ (List.mem_map_of_mem hmem)

/-- The steps before another one are not later. -/
theorem time_le_of_sorted {before later : List Op} {op : Op}
    (h : ((before ++ op :: later).map Op.time).Pairwise (· ≤ ·)) :
    (before.map Op.time).Pairwise (· ≤ ·) ∧ ∀ op' ∈ before, op'.time ≤ op.time := by
  rw [List.map_append, List.pairwise_append] at h
  refine ⟨h.1, fun op' hmem => ?_⟩
  exact h.2.2 _ (List.mem_map_of_mem hmem) _ List.mem_cons_self

/-- **After a run**, the bucket of a key fits the window that its calls have opened. -/
theorem Agrees.after {ops : List Op} (hsorted : (ops.map Op.time).Pairwise (· ≤ ·))
    (hlo : ∀ op ∈ ops, lo ≤ op.time) (hhi : ∀ op ∈ ops, op.time ≤ now) (hle : lo ≤ now)
    (h : Agrees t key lo f?) :
    Agrees (Throttle.after ops t) key now (key.frameAfter f? (key.times ops)) := by
  -- On the run. The window is known at the time of each step, and stays known until the next.
  induction ops generalizing t lo f? with
  | nil => exact h.later hle
  | cons op ops ih =>
      have htime : Agrees t key op.time f? := h.later (hlo op List.mem_cons_self)
      have hhi' : ∀ op' ∈ ops, op'.time ≤ now := fun op' hmem => hhi op' (List.mem_cons_of_mem _ hmem)
      rw [Key.times_cons, Key.frameAfter, List.foldl_append]
      exact ih (List.pairwise_cons.mp hsorted).2 (le_time_of_sorted hsorted) hhi'
        (hhi op List.mem_cons_self) htime.step

/-- A throttle that was new when the run began. -/
theorem agrees_after_empty {ops : List Op} (hsorted : (ops.map Op.time).Pairwise (· ≤ ·))
    (hhi : ∀ op ∈ ops, op.time ≤ now) (key : Key) :
    Agrees (Throttle.after ops ∅) key now (key.frameAfter none (key.times ops)) :=
  (Agrees.empty key 0).after hsorted (fun op _ => Nat.zero_le op.time) hhi (Nat.zero_le now)

/-- The first call of a new throttle is allowed. -/
theorem acquire_empty {key : Key} (now : Nat) (h : 0 < key.limit) :
    ((∅ : Throttle).acquire key now).1 = some (.allowed (key.limit - 1)) := by
  rw [(Agrees.empty key now).acquire.1]
  have hfits : 1 ≤ key.limit := h
  simp [Key.decided, Key.enter, Key.rulingIn, Key.ruling, hfits]

/-! ## Some of the keys -/

/-- Whether a step is a call. -/
def Op.isCall : Op → Bool
  | .acquire _ _ => true
  | .sweep _ => false

theorem Key.times_append (key : Key) (ops ops' : List Op) :
    key.times (ops ++ ops') = key.times ops ++ key.times ops' := by
  induction ops with
  | nil => rfl
  | cons op ops ih => rw [List.cons_append, times_cons, ih, ← List.append_assoc, ← times_cons]

/-- Sweeps are not calls. -/
theorem Key.times_filter_isCall (key : Key) (ops : List Op) : key.times (ops.filter Op.isCall) = key.times ops := by
  induction ops with
  | nil => rfl
  | cons op ops ih =>
      cases op with
      | acquire key' now => rw [List.filter_cons_of_pos rfl, times_cons, ih, ← times_cons]
      | sweep now => exact ih

/-- Whether a step is a call of a key for which `p` holds. -/
def Op.isCallOf (p : Key → Bool) : Op → Bool
  | .acquire key _ => p key
  | .sweep _ => false

variable {p : Key → Bool}

/-- Throttles in which the buckets of the keys for which `p` holds fit the same windows. -/
def AgreeOn (p : Key → Bool) (lo : Nat) (t t' : Throttle) : Prop :=
  ∀ key, p key = true → ∃ f?, Agrees t key lo f? ∧ Agrees t' key lo f?

theorem AgreeOn.later (h : AgreeOn p lo t t') (hle : lo ≤ now) : AgreeOn p now t t' := by
  intro key hkey
  obtain ⟨f?, hf, hf'⟩ := h key hkey
  exact ⟨f?, hf.later hle, hf'.later hle⟩

/-- A call that both get is decided in the same way. -/
theorem AgreeOn.acquire (h : AgreeOn p now t t') (hkey : p key = true) :
    (t.acquire key now).1 = (t'.acquire key now).1 ∧
    AgreeOn p now (t.acquire key now).2 (t'.acquire key now).2 := by
  obtain ⟨f?, hf, hf'⟩ := h key hkey
  refine ⟨hf.acquire.1.trans hf'.acquire.1.symm, ?_⟩
  intro other hother
  by_cases he : other = key
  · subst he
    exact ⟨_, hf.acquire.2, hf'.acquire.2⟩
  · obtain ⟨g?, hg, hg'⟩ := h other hother
    exact ⟨g?, hg.acquire_other he, hg'.acquire_other he⟩

/-- A step that only the first one gets to see makes no difference, unless it is a call of such a key. -/
theorem AgreeOn.apply {op : Op} (h : AgreeOn p op.time t t') (hop : op.isCallOf p = false) :
    AgreeOn p op.time (op.apply t) t' := by
  intro key hkey
  obtain ⟨f?, hf, hf'⟩ := h key hkey
  refine ⟨f?, ?_, hf'⟩
  cases op with
  | acquire other now =>
      refine Agrees.acquire_other hf fun he => ?_
      rw [he] at hkey
      exact absurd (hkey.symm.trans hop) (by simp)
  | sweep now => exact Agrees.sweep hf

theorem AgreeOn.run_filter {ops : List Op} (hsorted : (ops.map Op.time).Pairwise (· ≤ ·))
    (hlo : ∀ op ∈ ops, lo ≤ op.time) (h : AgreeOn p lo t t') :
    (run ops t).filter (fun e => p e.1) = run (ops.filter (Op.isCallOf p)) t' := by
  -- On the run. Both throttles take a call of such a key, and only the first one takes any other step.
  induction ops generalizing t t' lo with
  | nil => rfl
  | cons op ops ih =>
      have htime : AgreeOn p op.time t t' := h.later (hlo op List.mem_cons_self)
      have hrest := (List.pairwise_cons.mp hsorted).2
      have hlo' := le_time_of_sorted hsorted
      cases hop : op.isCallOf p with
      | false =>
          have hafter := ih hrest hlo' (htime.apply hop)
          rw [List.filter_cons_of_neg (by simp [hop]), ← hafter]
          cases op with
          | acquire key now => exact List.filter_cons_of_neg (by simpa [Op.isCallOf] using hop)
          | sweep now => rfl
      | true =>
          rw [List.filter_cons_of_pos hop]
          cases op with
          | acquire key now =>
              have hkey : p key = true := hop
              have hnow : AgreeOn p now t t' := htime
              obtain ⟨hdecision, hafter⟩ := hnow.acquire hkey
              rw [run, run, hdecision, ← ih hrest hlo' hafter]
              exact List.filter_cons_of_pos hkey
          | sweep now => cases hop

/-- **Other keys do not matter.** About the calls of the keys for which `p` holds, a throttle decides in a run
    what one would that only gets these calls, and is never swept. -/
theorem run_filter {ops : List Op} (hsorted : (ops.map Op.time).Pairwise (· ≤ ·)) (p : Key → Bool) :
    (run ops ∅).filter (fun e => p e.1) = run (ops.filter (Op.isCallOf p)) ∅ := by
  refine AgreeOn.run_filter hsorted (fun op _ => Nat.zero_le op.time) fun key _ => ?_
  exact ⟨none, Agrees.empty key 0, Agrees.empty key 0⟩

end Gatehouse.Throttle
