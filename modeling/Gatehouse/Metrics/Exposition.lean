import Gatehouse.Decimal.Shortest
import Gatehouse.Metrics.Basic

/-!
# `Gatehouse.Metrics.Exposition` — counts as text

Counts are grouped in families, ordered by name. A family without samples is left out. Every value is shown
as a floating point number.

## Contents
- `Sample`, `Family`, with their lines.
- `Metrics.families`: the families of all counts.
- `Metrics.text`.
-/

namespace Gatehouse.Metrics

/-- One value of a family. -/
structure Sample where
  name : String
  /-- The names and values of the labels. -/
  labels : List (String × String)
  value : String
  deriving DecidableEq, Repr

/-- Values with a common meaning. -/
structure Family where
  name : String
  help : String
  kind : String
  samples : List Sample
  deriving DecidableEq, Repr

/-! ## Lines -/

/-- What a character of a label value is written as. -/
def escapeChar (c : Char) : List Char :=
  if c = '\\' then ['\\', '\\']
  else if c = '"' then ['\\', '"']
  else if c = '\n' then ['\\', 'n']
  else [c]

/-- A label. -/
def labelText (label : String × String) : String :=
  label.1 ++ "=\"" ++ String.ofList (label.2.toList.flatMap escapeChar) ++ "\""

/-- The line of a sample. -/
def Sample.line (s : Sample) : String :=
  let labels := if s.labels.isEmpty then "" else
    "\x7b" ++ String.intercalate "," (s.labels.map labelText) ++ "\x7d"
  s.name ++ labels ++ " " ++ s.value

/-- The lines of a family. -/
def Family.lines (f : Family) : List String :=
  ["# HELP " ++ f.name ++ " " ++ f.help, "# TYPE " ++ f.name ++ " " ++ f.kind] ++ f.samples.map Sample.line

/-! ## Families -/

/-- A count as it is shown. -/
def countText (n : Nat) : String :=
  Decimal.text (Float.ofNat n)

/-- The series of a table in the order of their labels. -/
def ordered {ν : Type} (t : SeriesTable ν) : List (Series ν) :=
  t.toList.mergeSort fun a b => !b.labels.lex a.labels (· < ·)

/-- A family of counts whose labels have the given names. -/
def counters (name help : String) (labels : List String) (t : SeriesTable Nat) : Family :=
  ⟨name, help, "counter", (ordered t).map fun s => ⟨name, labels.zip s.labels, countText s.value⟩⟩

/-- The samples of one histogram. -/
def histogramSamples (name : String) (labels : List (String × String)) (h : Histogram) : List Sample :=
  List.zipWith
      (fun bound n => ⟨name ++ "_bucket", labels ++ [("le", Decimal.text bound)], countText n⟩)
      Histogram.bounds h.within
    ++ [⟨name ++ "_bucket", labels ++ [("le", "+Inf")], countText h.count⟩,
      ⟨name ++ "_sum", labels, Decimal.text h.sum⟩,
      ⟨name ++ "_count", labels, countText h.count⟩]

/-- How long calls took. -/
def latencyFamily (m : Metrics) : Family :=
  let name := "bot_command_duration_seconds"
  ⟨name, "Command latency including gates", "histogram",
    (ordered m.latencies).flatMap fun s => histogramSamples name (["command"].zip s.labels) s.value⟩

/-- The number of throttle buckets. -/
def bucketFamily (m : Metrics) : Family :=
  let name := "bot_throttle_buckets"
  ⟨name, "Live throttle buckets", "gauge", [⟨name, [], countText m.buckets⟩]⟩

/-- The families of all counts. -/
def families (m : Metrics) : List Family :=
  [ latencyFamily m,
    counters "bot_command_errors_total" "Failed command invocations by category" ["category", "error"]
      m.failuresByCategory,
    counters "bot_command_exceptions_total" "Failed command invocations by failure class" ["class"]
      m.failures,
    counters "bot_command_total" "Commands dispatched by name" ["command"] m.commands,
    counters "bot_dispatch_total" "Inbound messages by dispatch outcome" ["outcome"] m.outcomes,
    counters "bot_gate_rejections_total" "Dispatches stopped by a gate" ["gate"] m.rejections,
    bucketFamily m ].filter fun f => !f.samples.isEmpty

/-- The lines of some families. -/
def linesOf (fs : List Family) : List String :=
  fs.flatMap Family.lines

/-- All counts as text. -/
def text (m : Metrics) : String :=
  String.join ((linesOf m.families).map (· ++ "\n"))

end Gatehouse.Metrics
