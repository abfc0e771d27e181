/-!
# `Gatehouse.Clock` — readings of a clock

Times and delays are whole nanoseconds. The clock counts seconds in a signed 64-bit number, so a delay can
be too long to be added to a reading.

## Contents
- `elapsed`: the time since an earlier reading.
- `after?`: the reading after a delay, if the clock can hold it.
- `deadline`: the reading at which a delay is over for a timer.
- `wholeSeconds`: a delay in seconds, rounded up.
-/

namespace Gatehouse.Clock

/-- Nanoseconds of a number of seconds. -/
def seconds (n : Nat) : Nat :=
  n * 1000000000

theorem seconds_inj {n n' : Nat} : seconds n = seconds n' ↔ n = n' := by
  simp only [seconds]
  omega

/-- The first reading that the clock cannot hold. -/
def limit : Nat :=
  seconds (1 <<< 63)

/-- The time since the reading `start`. A reading in the future counts as now. -/
def elapsed (now start : Nat) : Nat :=
  now - start

/-- The time since a reading grows. -/
theorem elapsed_le {now later : Nat} (h : now ≤ later) (start : Nat) : elapsed now start ≤ elapsed later start :=
  Nat.sub_le_sub_right h start

/-- The reading after a delay, if the clock can hold it. -/
def after? (start delay : Nat) : Option Nat :=
  if start + delay < limit then some (start + delay) else none

/-- The longest delay of a timer: thirty years. -/
def longestDelay : Nat :=
  seconds (30 * 365 * 24 * 3600)

/-- The reading at which a timer goes off. A delay that is too long for a timer is cut short. -/
def deadline (now delay : Nat) : Nat :=
  now + min delay longestDelay

/-- A delay in seconds, rounded up. -/
def wholeSeconds (delay : Nat) : Nat :=
  delay / 1000000000 + (if delay % 1000000000 > 0 then 1 else 0)

/-- The least number of seconds that is not shorter than a delay. -/
theorem wholeSeconds_le_iff {delay n : Nat} : wholeSeconds delay ≤ n ↔ delay ≤ seconds n := by
  simp only [wholeSeconds, seconds]
  split <;> omega

end Gatehouse.Clock
