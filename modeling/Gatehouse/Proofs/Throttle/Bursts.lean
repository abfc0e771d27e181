import Gatehouse.Proofs.Throttle.Separation
import Mathlib.Data.List.TakeWhile

/-!
# `Gatehouse.Proofs.Throttle.Bursts` — how many calls get through in a span of time

A window lets its calls through up to the limit, but a span of time need not begin where a window does: at the end
of one window and the beginning of the next, more calls can get through in the length of a window than its limit.
They are fewer than twice as many, and in general the limit is kept once more than the span is long
(`admitted_in_span`).

Windows of a key open at least their length apart. So a span of `n` lengths meets at most `n` windows that open in
it (`Key.admitted_of_le`), and one that was open before, whose first call is not in the span
(`Key.admitted_window_of_lt`).
-/

namespace Gatehouse.Throttle

/-! ## Calls in a span -/

/-- The calls of a key in a run: when each was made, and whether it was allowed. -/
def Key.log (key : Key) (ops : List Op) (t : Throttle) : List (Nat × Bool) :=
  (key.times ops).zip ((key.decisions (run ops t)).map fun d => d.any Decision.isAllowed)

/-- How many calls of a log were allowed from the time `a` on and before the time `b`. -/
def admitted (a b : Nat) (log : List (Nat × Bool)) : Nat :=
  log.countP fun (now, allowed) => decide (a ≤ now ∧ now < b) && allowed

variable {t : Throttle} {key : Key} {f? : Option Frame} {lo a b n : Nat} {times : List Nat}

theorem admitted_append (a b : Nat) (log log' : List (Nat × Bool)) :
    admitted a b (log ++ log') = admitted a b log + admitted a b log' :=
  List.countP_append

/-- Calls that are outside the span do not count. -/
theorem admitted_eq_zero {log : List (Nat × Bool)} (h : ∀ call ∈ log, call.1 < a ∨ b ≤ call.1) :
    admitted a b log = 0 := by
  refine List.countP_eq_zero.mpr fun call hcall => ?_
  have := h call hcall
  have houtside : ¬ (a ≤ call.1 ∧ call.1 < b) := by omega
  simp [houtside]

/-- No more calls count than are allowed at all. -/
theorem admitted_le (a b : Nat) (log : List (Nat × Bool)) : admitted a b log ≤ (log.map Prod.snd).countP id := by
  rw [List.countP_map]
  exact List.countP_mono_left fun call _ h => (Bool.and_eq_true_iff.mp h).2

/-! ## Calls in windows -/

/-- The calls at the given times, as the windows decide about them. -/
def Key.windowLog (key : Key) (times : List Nat) : List (Nat × Bool) :=
  times.zip ((key.rulings times).map Decision.isAllowed)

/-- Some calls of a window, the first of which has the given rank. -/
def Key.rankLog (key : Key) (start rank : Nat) (times : List Nat) : List (Nat × Bool) :=
  times.zip (((times.zipIdx rank).map fun (now, rank) => key.ruling start rank now).map Decision.isAllowed)

theorem Key.windowLog_cons (key : Key) (start : Nat) (times : List Nat) :
    key.windowLog (start :: times)
      = key.rankLog start 1 (start :: times.takeWhile (· < start + key.window))
        ++ key.windowLog (times.dropWhile (· < start + key.window)) := by
  have hrulings : key.rulings (start :: times)
      = key.windowRulings ⟨start, times.takeWhile (· < start + key.window)⟩
        ++ key.rulings (times.dropWhile (· < start + key.window)) := by
    rw [rulings, windows, List.flatMap_cons]
    rfl
  have htimes : start :: times
      = (start :: times.takeWhile (· < start + key.window)) ++ times.dropWhile (· < start + key.window) := by
    rw [List.cons_append, List.takeWhile_append_dropWhile]
  have hlength : (start :: times.takeWhile (· < start + key.window)).length
      = ((key.windowRulings ⟨start, times.takeWhile (· < start + key.window)⟩).map Decision.isAllowed).length := by
    simp [windowRulings, Window.times]
  calc
    key.windowLog (start :: times)
      = (start :: times.takeWhile (· < start + key.window) ++ times.dropWhile (· < start + key.window)).zip
          ((key.windowRulings ⟨start, times.takeWhile (· < start + key.window)⟩).map Decision.isAllowed
            ++ (key.rulings (times.dropWhile (· < start + key.window))).map Decision.isAllowed) := by
        rw [← htimes, windowLog, hrulings, List.map_append]
    _ = _ := List.zip_append hlength

/-- A window lets calls through up to the limit. -/
theorem Key.admitted_rankLog_le (key : Key) (start rank : Nat) (times : List Nat) (a b : Nat) :
    admitted a b (key.rankLog start rank times) ≤ key.limit + 1 - rank := by
  refine Nat.le_trans (admitted_le a b _) ?_
  rw [rankLog, List.map_snd_zip (by simp), List.countP_map]
  exact Nat.le_trans (Nat.le_of_eq (key.countP_ruling start rank times)) (Nat.min_le_left _ _)

/-- If the first call of a window is not in the span, there is one less that counts. -/
theorem Key.admitted_window_of_lt (key : Key) {start : Nat} (h : start < a) (times : List Nat) (b : Nat) :
    admitted a b (key.rankLog start 1 (start :: times)) ≤ key.limit - 1 := by
  have hcut : key.rankLog start 1 (start :: times)
      = [(start, (key.ruling start 1 start).isAllowed)] ++ key.rankLog start 2 times := rfl
  have hfirst : admitted a b [(start, (key.ruling start 1 start).isAllowed)] = 0 := by
    refine admitted_eq_zero fun call hcall => ?_
    rw [List.mem_singleton.mp hcall]
    exact .inl h
  have hlater := key.admitted_rankLog_le start 2 times a b
  rw [hcut, admitted_append, hfirst]
  omega

/-! ## Windows in a span -/

/-- The calls that do not belong to the first window are made after it. -/
theorem le_of_mem_dropWhile {ending : Nat} (hsorted : times.Pairwise (· ≤ ·)) :
    ∀ now ∈ times.dropWhile (· < ending), ending ≤ now := by
  induction times with
  | nil => exact nofun
  | cons first times ih =>
      by_cases h : first < ending
      · rw [List.dropWhile_cons_of_pos (by simpa using h)]
        exact ih hsorted.tail
      · rw [List.dropWhile_cons_of_neg (by simpa using h)]
        intro now hnow
        rcases List.mem_cons.mp hnow with rfl | hlater
        · exact Nat.not_lt.mp h
        · exact Nat.le_trans (Nat.not_lt.mp h) (List.rel_of_pairwise_cons hsorted hlater)

/-- **Only windows that open in the span** let calls through: if no call is made before `lo`, there are at most as
    many as lengths of the window from there to the end of the span. -/
theorem Key.admitted_of_le (key : Key) (hsorted : times.Pairwise (· ≤ ·)) (hlo : ∀ now ∈ times, lo ≤ now)
    (hb : b ≤ lo + n * key.window) (a : Nat) : admitted a b (key.windowLog times) ≤ n * key.limit := by
  -- On the windows. Each brings the end of the span one length closer.
  fun_induction windows key.window times generalizing lo n with
  | case1 => exact Nat.zero_le _
  | case2 start times ih =>
      cases n with
      | zero =>
          rw [admitted_eq_zero]
          · exact Nat.zero_le _
          · intro call hcall
            have := hlo call.1 (List.of_mem_zip hcall).1
            omega
      | succ n =>
          have hstart := hlo start List.mem_cons_self
          have hfirst := key.admitted_rankLog_le start 1 (start :: times.takeWhile (· < start + key.window)) a b
          have hlater := ih (hsorted.tail.sublist (List.dropWhile_sublist _)) (le_of_mem_dropWhile hsorted.tail)
            (n := n) (by rw [Nat.succ_mul] at hb; omega)
          rw [windowLog_cons, admitted_append, Nat.succ_mul]
          omega

/-- A window that is over when the span begins has no calls in it. -/
theorem Key.admitted_window_of_le (key : Key) {start : Nat} (hstart : start < a) (hover : start + key.window ≤ a)
    (times : List Nat) (b : Nat) :
    admitted a b (key.rankLog start 1 (start :: times.takeWhile (· < start + key.window))) = 0 := by
  refine admitted_eq_zero fun call hcall => .inl ?_
  rcases List.mem_cons.mp (List.of_mem_zip hcall).1 with hfirst | hlater
  · rw [hfirst]
    exact hstart
  · have hearly := List.mem_takeWhile_imp (p := fun now => decide (now < start + key.window)) hlater
    exact Nat.lt_of_lt_of_le (of_decide_eq_true hearly) hover

/-- **Calls in any span.** Besides the windows that open in the span there can be one that was open before, but
    its first call is not in the span. -/
theorem Key.admitted_windowLog_le (key : Key) (hsorted : times.Pairwise (· ≤ ·)) (a n : Nat) :
    admitted a (a + n * key.window) (key.windowLog times) ≤ n * key.limit + (key.limit - 1) := by
  -- On the windows, up to the first that is not over when the span begins.
  fun_induction windows key.window times with
  | case1 => exact Nat.zero_le _
  | case2 start times ih =>
      have hsorted' : (times.dropWhile (· < start + key.window)).Pairwise (· ≤ ·) :=
        (List.pairwise_cons.mp hsorted).2.sublist (List.dropWhile_sublist (· < start + key.window))
      rcases Nat.lt_or_ge start a with hbefore | hin
      · rw [windowLog_cons, admitted_append]
        rcases Nat.le_total (start + key.window) a with hover | hopen
        · rw [key.admitted_window_of_le hbefore hover, Nat.zero_add]
          exact ih hsorted'
        · have hfirst := key.admitted_window_of_lt hbefore (times.takeWhile (· < start + key.window))
            (a + n * key.window)
          have hlater := key.admitted_of_le hsorted' (le_of_mem_dropWhile hsorted.tail)
            (b := a + n * key.window) (n := n) (by omega) a
          omega
      · have hlo : ∀ now ∈ start :: times, a ≤ now := by
          intro now hnow
          rcases List.mem_cons.mp hnow with rfl | hlater
          · exact hin
          · exact Nat.le_trans hin (List.rel_of_pairwise_cons hsorted hlater)
        exact Nat.le_trans (key.admitted_of_le hsorted hlo (Nat.le_refl _) a) (Nat.le_add_right _ _)

/-! ## Runs -/

/-- Whether a call is allowed is decided by its window, whether or not the clock can hold the end of it. -/
theorem Key.isAllowed_decided (key : Key) (f : Frame) (now : Nat) :
    (key.decided f now).any Decision.isAllowed = (key.rulingIn f now).isAllowed := by
  unfold decided
  split
  · rfl
  · next hover =>
      have hdenied : ¬ f.calls ≤ key.limit := fun h => hover (.inl h)
      rw [rulingIn, ruling, if_neg hdenied]
      rfl

/-- From a throttle whose bucket fits a window, those calls are allowed that the rulings from that window on
    allow. -/
theorem allowed_run {ops : List Op} (hsorted : (ops.map Op.time).Pairwise (· ≤ ·))
    (hlo : ∀ op ∈ ops, lo ≤ op.time) (h : Agrees t key lo f?) :
    (key.decisions (run ops t)).map (fun d => d.any Decision.isAllowed)
      = (key.rulingsFrom f? (key.times ops)).map Decision.isAllowed := by
  induction ops generalizing t lo f? with
  | nil => rfl
  | cons op ops ih =>
      have htime : Agrees t key op.time f? := h.later (hlo op List.mem_cons_self)
      have hrest := le_time_of_sorted hsorted
      cases op with
      | acquire key' now =>
          have hnow : Agrees t key now f? := htime
          by_cases hkey : key' = key
          · subst hkey
            rw [run, Key.decisions_cons_self, Key.times, if_pos rfl, List.map_cons, Key.rulingsFrom,
              List.map_cons, ih hsorted.tail hrest hnow.acquire.2, hnow.acquire.1, Key.isAllowed_decided]
          · have hafter := hnow.acquire_other fun he => hkey he.symm
            rw [run, Key.decisions_cons_of_ne hkey, ih hsorted.tail hrest hafter, Key.times, if_neg hkey]
      | sweep now => exact ih hsorted.tail hrest htime.sweep

/-- The log of a run from an empty throttle is the one of the windows. -/
theorem Key.log_empty (key : Key) {ops : List Op} (hsorted : (ops.map Op.time).Pairwise (· ≤ ·)) :
    key.log ops ∅ = key.windowLog (key.times ops) := by
  rw [log, allowed_run hsorted (fun op _ => Nat.zero_le op.time) (Agrees.empty key 0), rulingsFrom_none,
    windowLog]

/-- The calls of a key are made in the order of the run. -/
theorem Key.times_sublist (key : Key) (ops : List Op) : (key.times ops).Sublist (ops.map Op.time) := by
  induction ops with
  | nil => exact .slnil
  | cons op ops ih =>
      cases op with
      | acquire key' now =>
          by_cases hkey : key' = key
          · rw [times, if_pos hkey]
            exact ih.cons_cons now
          · rw [times, if_neg hkey]
            exact ih.cons now
      | sweep now => exact ih.cons now

/-- **Bursts are bounded.** In a run in which time does not go backwards, whatever calls of other keys and sweeps it
    has, at most twice the limit of calls of a key are allowed in any span that is as long as its window, and at
    most `n + 1` times the limit in any span of `n` such lengths. They are fewer than that, unless the limit is
    zero. -/
theorem admitted_in_span {ops : List Op} (hsorted : (ops.map Op.time).Pairwise (· ≤ ·)) (key : Key) (a : Nat) :
    admitted a (a + key.window) (key.log ops ∅) ≤ 2 * key.limit ∧
    ∀ n, admitted a (a + n * key.window) (key.log ops ∅) ≤ (n + 1) * key.limit ∧
      (0 < key.limit → admitted a (a + n * key.window) (key.log ops ∅) < (n + 1) * key.limit) := by
  have hspan (n : Nat) : admitted a (a + n * key.window) (key.log ops ∅) ≤ n * key.limit + (key.limit - 1) := by
    rw [key.log_empty hsorted]
    exact key.admitted_windowLog_le (hsorted.sublist (key.times_sublist ops)) a n
  refine ⟨?_, fun n => ?_⟩
  · have hone := hspan 1
    rw [Nat.one_mul, Nat.one_mul] at hone
    omega
  · have hn := hspan n
    rw [Nat.succ_mul]
    omega

/-- The calls at the end of one window and at the beginning of the next, with a sweep and a call of somebody else
    between them. -/
def burstRun : List Op :=
  [.acquire twoInTen 0, .acquire twoInTen 9, .sweep 10, .acquire ⟨.user, 2, "ping", 2, 10⟩ 10,
    .acquire twoInTen 10, .acquire twoInTen 11, .acquire twoInTen 12]

theorem admitted_in_span_burstRun : (burstRun.map Op.time).Pairwise (· ≤ ·) ∧
    admitted 9 19 (twoInTen.log burstRun ∅) = 3 ∧ admitted 9 19 (twoInTen.log burstRun ∅) ≤ 4 := by
  have hsorted : (burstRun.map Op.time).Pairwise (· ≤ ·) := by decide
  exact ⟨hsorted, by decide, (admitted_in_span hsorted twoInTen 9).1⟩

end Gatehouse.Throttle
