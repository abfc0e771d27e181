import Gatehouse.Metrics.Series

/-!
# `Gatehouse.Metrics.Basic` — counting what happens

## Contents
- `Histogram`, `Histogram.observe`: how long something takes, counted against fixed bounds.
- `Metrics`: all counts.
- `recordCommand`, `recordFailure`, `recordRejection`, `recordOutcome`, `setBuckets`.
-/

namespace Gatehouse

/-- Durations in seconds, counted against bounds. -/
structure Histogram where
  /-- For each bound, how many durations were at most that long. -/
  within : List Nat
  sum : Float
  count : Nat

namespace Histogram

/-- The bounds. -/
def bounds : List Float :=
  [0.0005, 0.001, 0.005, 0.01, 0.05, 0.1, 0.25, 0.5, 1.0, 2.5, 5.0]

/-- No duration was observed. -/
def empty : Histogram :=
  ⟨bounds.map fun _ => 0, 0, 0⟩

instance : Inhabited Histogram := ⟨empty⟩

/-- One more duration. -/
def observe (h : Histogram) (secs : Float) : Histogram where
  within := List.zipWith (fun bound n => if secs ≤ bound then n + 1 else n) bounds h.within
  sum := h.sum + secs
  count := h.count + 1

end Histogram

/-- All counts. -/
structure Metrics where
  /-- Calls that reached the gates, by command. -/
  commands : Metrics.SeriesTable Nat
  /-- How long they took, by command. -/
  latencies : Metrics.SeriesTable Histogram
  /-- Failed calls by the label of the failure. -/
  failures : Metrics.SeriesTable Nat
  /-- Failed calls by the category of the command and the label of the failure. -/
  failuresByCategory : Metrics.SeriesTable Nat
  /-- Calls that a gate halted, by gate. -/
  rejections : Metrics.SeriesTable Nat
  /-- Messages by what became of them. -/
  outcomes : Metrics.SeriesTable Nat
  /-- The number of throttle buckets after the last sweep. -/
  buckets : Nat

namespace Metrics

/-- Nothing has happened yet. -/
def empty : Metrics :=
  ⟨∅, ∅, ∅, ∅, ∅, ∅, 0⟩

instance : EmptyCollection Metrics := ⟨empty⟩

instance : Inhabited Metrics := ⟨empty⟩

/-- One more of what the labels stand for. -/
def SeriesTable.increment (t : SeriesTable Nat) (labels : List String) : SeriesTable Nat :=
  t.update labels 0 (· + 1)

/-- A call reached the gates of a command and took so many seconds. -/
def recordCommand (m : Metrics) (command : String) (secs : Float) : Metrics :=
  { m with
    commands := m.commands.increment [command]
    latencies := m.latencies.update [command] .empty (·.observe secs) }

/-- A call failed. -/
def recordFailure (m : Metrics) (category label : String) : Metrics :=
  { m with
    failures := m.failures.increment [label]
    failuresByCategory := m.failuresByCategory.increment [category, label] }

/-- A gate halted a call. -/
def recordRejection (m : Metrics) (gate : String) : Metrics :=
  { m with rejections := m.rejections.increment [gate] }

/-- A message was dealt with. -/
def recordOutcome (m : Metrics) (outcome : String) : Metrics :=
  { m with outcomes := m.outcomes.increment [outcome] }

/-- There are so many throttle buckets. -/
def setBuckets (m : Metrics) (count : Nat) : Metrics :=
  { m with buckets := min count (1 <<< 63 - 1) }

end Metrics

end Gatehouse
