import Gatehouse.Throttle
import Mathlib.Algebra.GroupWithZero.Nat

/-!
# `Gatehouse.Proofs.Throttle.Windows` — what a throttle should decide

The calls of one key are cut into windows by their times alone: the first call opens a window, and the first
later call at or after its end opens the next (`windows`). In each window the first calls up to the limit are
allowed and all others are denied (`Key.ruling`, `Key.rulings`).

The rulings can also be found one call at a time, with only the start of the window and the number of its
calls in mind (`Frame`, `Key.rulingsFrom`). Both ways agree (`Key.rulingsFrom_none`).
-/

namespace Gatehouse.Throttle

/-! ## Windows -/

/-- The times of the calls in a window. -/
structure Window where
  /-- The call that opens the window. -/
  start : Nat
  /-- The others, in order. -/
  later : List Nat
  deriving DecidableEq, Repr

/-- All times, in order. -/
def Window.times (w : Window) : List Nat :=
  w.start :: w.later

/-- Times cut into windows of the given length. -/
def windows (length : Nat) : List Nat → List Window
  | [] => []
  | start :: times =>
      ⟨start, times.takeWhile (· < start + length)⟩
        :: windows length (times.dropWhile (· < start + length))
termination_by times => times.length
decreasing_by
  have := (List.dropWhile_sublist (· < start + length) (l := times)).length_le
  simp only [List.length_cons]
  omega

/-- What is decided about the call of the given rank in the window that opens at `start`. The first call has
    rank 1. -/
def Key.ruling (key : Key) (start rank now : Nat) : Decision :=
  if rank ≤ key.limit then .allowed (key.limit - rank)
  else .denied (start + key.window - now) (rank = key.limit + 1)

/-- What is decided about the calls of a window. -/
def Key.windowRulings (key : Key) (w : Window) : List Decision :=
  (w.times.zipIdx 1).map fun (now, rank) => key.ruling w.start rank now

/-- What is decided about calls at the given times. -/
def Key.rulings (key : Key) (times : List Nat) : List Decision :=
  (windows key.window times).flatMap key.windowRulings

/-- Whether a call may proceed. -/
def Decision.isAllowed : Decision → Bool
  | .allowed _ => true
  | .denied _ _ => false

/-! ## Call by call -/

/-- The window that is open and the number of calls in it. -/
structure Frame where
  start : Nat
  calls : Nat
  deriving DecidableEq, Repr

/-- The window of a call, given the one that was open before, if there was one. -/
def Key.enter (key : Key) (now : Nat) : Option Frame → Frame
  | none => ⟨now, 1⟩
  | some f => if now < f.start + key.window then ⟨f.start, f.calls + 1⟩ else ⟨now, 1⟩

/-- What is decided about a call that is the latest in its window. -/
def Key.rulingIn (key : Key) (f : Frame) (now : Nat) : Decision :=
  key.ruling f.start f.calls now

/-- What is decided about calls at the given times. -/
def Key.rulingsFrom (key : Key) (f? : Option Frame) : List Nat → List Decision
  | [] => []
  | now :: times =>
      key.rulingIn (key.enter now f?) now :: key.rulingsFrom (some (key.enter now f?)) times

namespace Key

variable {key : Key} {f : Frame} {now : Nat}

/-- A call before the end of the window belongs to it. -/
theorem enter_of_lt (h : now < f.start + key.window) : key.enter now (some f) = ⟨f.start, f.calls + 1⟩ :=
  if_pos h

/-- A call at the end of the window or later opens the next one. -/
theorem enter_of_le (h : f.start + key.window ≤ now) : key.enter now (some f) = ⟨now, 1⟩ :=
  if_neg (Nat.not_lt.mpr h)

/-- The calls before the end of a window have the next ranks in it; the others are cut into windows of their
    own. -/
theorem rulingsFrom_some (f : Frame) (times : List Nat) :
    key.rulingsFrom (some f) times
      = ((times.takeWhile (· < f.start + key.window)).zipIdx (f.calls + 1)).map
          (fun (now, rank) => key.ruling f.start rank now)
        ++ key.rulingsFrom none (times.dropWhile (· < f.start + key.window)) := by
  induction times generalizing f with
  | nil => rfl
  | cons now times ih =>
      by_cases h : now < f.start + key.window
      · -- The call belongs to the window.
        rw [rulingsFrom, enter_of_lt h, ih]
        simp [h, rulingIn]
      · -- The call opens a window as if there had been none.
        rw [rulingsFrom, enter_of_le (Nat.not_lt.mp h)]
        simp [h, rulingsFrom, enter]

/-- **Rulings found call by call are those of the windows.** -/
theorem rulingsFrom_none (times : List Nat) : key.rulingsFrom none times = key.rulings times := by
  unfold rulings
  fun_induction windows key.window times with
  | case1 => rfl
  | case2 start times ih =>
      rw [rulingsFrom, rulingsFrom_some, List.flatMap_cons, ← ih]
      rfl

/-! ## How many calls are allowed -/

/-- In a run of ranks, as many calls are allowed as there are ranks up to the limit. -/
theorem countP_ruling (start rank : Nat) (times : List Nat) :
    ((times.zipIdx rank).map fun (now, rank) => key.ruling start rank now).countP Decision.isAllowed
      = min (key.limit + 1 - rank) times.length := by
  induction times generalizing rank with
  | nil => simp
  | cons now times ih =>
      rw [List.zipIdx_cons, List.map_cons, List.countP_cons, ih]
      by_cases h : rank ≤ key.limit
      · simp [ruling, h, Decision.isAllowed]
        omega
      · simp [ruling, h, Decision.isAllowed]
        omega

/-- A window admits its calls up to the limit. -/
theorem countP_rulings (times : List Nat) :
    (key.rulings times).countP Decision.isAllowed
      = ((windows key.window times).map fun w => min key.limit w.times.length).sum := by
  unfold rulings
  rw [List.countP_flatMap]
  congr 1
  refine List.map_congr_left fun w _ => ?_
  show (key.windowRulings w).countP _ = _
  rw [windowRulings, countP_ruling]
  rfl

end Key

end Gatehouse.Throttle
