import Gatehouse.Gate.Factory

/-!
# `Gatehouse.Gate.Probe` — gates for trying out stacks

A probe leaves a note with its first argument when it is asked, and then always decides the same way.

## Contents
- `Gate.probe`, `Gate.Probe.builder`.
- `GateFactory.withProbes`: the gates `pass`, `halt` and `boom`.
-/

namespace Gatehouse

/-- What a probe does after it has left its note. -/
inductive Gate.Probe where
  | pass
  | halt
  | boom
  deriving DecidableEq, Repr

namespace Gate.Probe

/-- The name of a probe. -/
def name : Gate.Probe → String
  | .pass => "pass"
  | .halt => "halt"
  | .boom => "boom"

/-- The decision of a probe. -/
def verdict : Gate.Probe → Act Panic Flow
  | .pass => return .proceed
  | .halt => return .halt
  | .boom => throw (.text "boom")

/-- The gate of a probe that leaves the note `mark`. -/
def gate (p : Gate.Probe) (mark : String) : Gate where
  name := p.name
  help := none
  check _ := do
    Act.note (.obj [("gate", .str mark)])
    p.verdict

/-- Builds a probe from the arguments of its declaration. -/
def builder (p : Gate.Probe) : GateBuilder
  | [] => .error (.missingArguments p.name)
  | mark :: _ => .ok (p.gate mark)

end Gate.Probe

/-- The factory with all probes. -/
def GateFactory.withProbes (f : GateFactory) : GateFactory :=
  [Gate.Probe.pass, Gate.Probe.halt, Gate.Probe.boom].foldl (fun f p => f.register p.name p.builder) f

end Gatehouse
