import Gatehouse.Metrics.Exposition
import Gatehouse.Text.Blank

/-!
# `Gatehouse.Endpoint` — answering web requests

The bot answers requests for its counts and for a sign of life.

## Contents
- `Endpoint.Response`.
- `Endpoint.path`: the path of a request target.
- `Endpoint.respond`: the answer to a request.
-/

namespace Gatehouse.Endpoint

/-- The answer to a request. -/
structure Response where
  status : Nat
  contentType : Option String
  /-- The methods that are allowed, where another one was used. -/
  allow : Option String
  body : String
  deriving DecidableEq, Repr

/-- The target without its scheme and host, if it has them. -/
def withoutHost (cs : List Char) : List Char :=
  match cs with
  | '/' :: _ => cs
  | _ =>
      match Text.splitAt? ':' cs with
      | some (_, '/' :: '/' :: rest) => rest.dropWhile fun c => c ≠ '/' ∧ c ≠ '?' ∧ c ≠ '#'
      | _ => cs

/-- The path of a request target: what precedes the query and the fragment. -/
def path (target : String) : String :=
  String.ofList ((withoutHost target.toList).takeWhile fun c => c ≠ '?' ∧ c ≠ '#')

/-- The text that a path stands for, if it stands for any. -/
def resource? (m : Metrics) (path : String) : Option String :=
  match path with
  | "/metrics" => some m.text
  | "/health" => some "ok"
  | _ => none

/-- The answer to a request. A request for the head alone is answered without the text. -/
def respond (m : Metrics) (method target : String) : Response :=
  let contentType := "text/plain; charset=utf-8"
  match resource? m (path target), method with
  | none, _ => ⟨404, none, none, ""⟩
  | some text, "GET" => ⟨200, some contentType, none, text⟩
  | some _, "HEAD" => ⟨200, some contentType, none, ""⟩
  | some _, _ => ⟨405, none, some "GET,HEAD", ""⟩

end Gatehouse.Endpoint
