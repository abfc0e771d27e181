import Gatehouse.Config.Problem
import Gatehouse.Config.Reader
import Gatehouse.Session
import Std.Time.DateTime.Timestamp

/-!
# `Gatehouse.Main` — the command line

The program takes the path of a configuration, reads events from standard input and writes actions to
standard output, each as a line. Complaints go to standard error.

## Contents
- `readLine`: one line of bytes.
- `loadFile`: the configuration of a file.
- `work`: dealing with events until there are no more.
- `main`.
-/

namespace Gatehouse

/-- The readings of the clocks. -/
def readClocks : IO Moment := do
  let seconds := (← Std.Time.Timestamp.now).toSecondsSinceUnixEpoch.val
  return ⟨← IO.monoNanosNow, seconds⟩

/-- The next line of a stream with its line feed; nothing at the end of the stream. -/
partial def readLine (input : IO.FS.Stream) (read : List UInt8) : IO (List UInt8) := do
  let bytes ← input.read 1
  match bytes.data.toList with
  | [] => return read.reverse
  | b :: _ => if b = 10 then return (b :: read).reverse else readLine input (b :: read)

/-- The configuration of a file, or what is wrong with it. -/
def loadFile (path : String) : IO (Except String Config) := do
  try
    let bytes ← IO.FS.readBinFile path
    match Config.load bytes with
    | .ok config => return .ok config
    | .error (.file reason) => return .error ("failed to read config file: " ++ reason)
    | .error .document => return .error "failed to parse config"
  catch e => return .error ("failed to read config file: " ++ toString e)

/-- Post what is queued, delete what is due, and write out all that was done. -/
def settle (s : Session) (output : IO.FS.Stream) : IO Session := do
  let now := (← readClocks).clock
  let s := (s.deliver now).expire now
  let (out, console) := s.state.world.console.drain
  for o in out do
    output.write ⟨o.bytes.toArray⟩
  output.flush
  return s.changeWorld fun w => { w with console }

/-- Drop what has expired, unless that was done less than `interval` nanoseconds ago. -/
def sweepIfDue (s : Session) (interval last now : Nat) : Session × Nat :=
  if Clock.elapsed now last < interval then (s, last) else (s.sweep now, now)

/-- Deal with events until there are no more. The result tells whether all of the input was text. -/
partial def work (s : Session) (interval last : Nat) (input output : IO.FS.Stream) : IO Bool := do
  let line ← readLine input []
  if line.isEmpty then return true
  let moment ← readClocks
  let (s, last) := sweepIfDue s interval last moment.clock
  let (complete, s) := s.feed line moment
  if complete then work (← settle s output) interval last input output else return false

/-- Work with a configuration. The result is the exit code. -/
def serve (config : Config) : IO UInt32 := do
  let moment ← readClocks
  match Session.start config (Start.ofCalendar moment.calendar) with
  | .error _ => return 1
  | .ok s =>
      let complete ← work s (Clock.seconds config.sweepInterval) moment.clock (← IO.getStdin) (← IO.getStdout)
      return if complete then 0 else 1

end Gatehouse

open Gatehouse

/-- Work with the configuration of the file that the first argument names. -/
def main (args : List String) : IO UInt32 := do
  let path := args.headD "config.toml"
  match ← loadFile path with
  | .error reason =>
      IO.eprintln ("Failed to load config " ++ path ++ ": " ++ reason)
      return 1
  | .ok config =>
      if config.isSound then serve config
      else
        for problem in config.problems do
          IO.eprintln problem.message
        return 1
