import Gatehouse.Console
import Gatehouse.Json.Reader
import Gatehouse.Text.Blank

/-!
# `Gatehouse.Feed` — events from a stream of bytes

Events come as lines of JSON text. Blank lines and lines that hold no event are passed over. A line that is
no text at all ends the stream.

## Contents
- `Feed.lines`: the lines of a stream.
- `Feed.event?`: the event of a line.
- `Feed.read`: the events of a stream, and whether it could be read to its end.
-/

namespace Gatehouse.Feed

/-- The lines of a stream. A line feed at the very end begins no further line. -/
def lines : List UInt8 → List (List UInt8)
  | [] => []
  | b :: bs =>
      if b = 10 then [] :: lines bs
      else
        match lines bs with
        | [] => [[b]]
        | line :: rest => (b :: line) :: rest

/-- The event of a line, if it holds one. White space around it does not count. -/
def event? (line : String) : Option Event :=
  (Json.read? (Text.trimmed line)).bind Event.decode?

/-- The text of a line, if it is text. -/
def text? (line : List UInt8) : Option String :=
  String.fromUTF8? ⟨line.toArray⟩

/-- The events of lines up to the first that is no text, and whether there is none. -/
def readLines : List (List UInt8) → List Event × Bool
  | [] => ([], true)
  | line :: rest =>
      match text? line with
      | none => ([], false)
      | some text =>
          let (events, complete) := readLines rest
          ((event? text).toList ++ events, complete)

/-- The events of a stream, and whether it could be read to its end. -/
def read (bytes : List UInt8) : List Event × Bool :=
  readLines (lines bytes)

end Gatehouse.Feed
