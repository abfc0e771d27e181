import Gatehouse.Gate.Basic

/-!
# `Gatehouse.Command.Basic` — commands

A command has gates and a body. The body runs if every gate lets the call through.

## Contents
- `Command`, `Command.listing`.
- `Command.run`: a call of a command, gate by gate (`run_of_proceed`, `run_of_halt`, `run_of_panic`) and then
  by its body (`run_of_body`, `run_of_interrupt`).
-/

namespace Gatehouse

/-- A command. -/
structure Command where
  descriptor : Descriptor
  /-- The gates, in the order in which they are asked. -/
  gates : List Gate
  body : Context → Act Interrupt Unit

namespace Command

/-- The name of a command. -/
def name (c : Command) : String :=
  c.descriptor.name

/-- A command as others see it. -/
def listing (c : Command) : Listing :=
  ⟨c.descriptor, c.gates.map fun g => (g.name, g.help)⟩

/-- A call of a command. The result is the name of the gate that halted it, if one did. -/
def run (c : Command) (ctx : Context) : Act Interrupt (Option String) := do
  match ← Act.ofPanicking (Gate.runAll ctx c.gates) with
  | some gate => return some gate
  | none =>
      c.body ctx
      return none

variable {d : Descriptor} {g : Gate} {gates : List Gate} {body : Context → Act Interrupt Unit}
variable {ctx : Context} {w w' : World}

/-- After a gate that lets the call through, the call goes on as if there were only the other gates. -/
theorem run_of_proceed (h : g.check ctx w = (.ok .proceed, w')) :
    run ⟨d, g :: gates, body⟩ ctx w = run ⟨d, gates, body⟩ ctx w' := by
  have hgates : Act.ofPanicking (Gate.runAll ctx (g :: gates)) w
      = Act.ofPanicking (Gate.runAll ctx gates) w' := by
    simp only [Act.ofPanicking, Gate.runAll_of_proceed h]
  exact Stateful.bind_congr hgates

/-- A gate that halts ends the call. -/
theorem run_of_halt (h : g.check ctx w = (.ok .halt, w')) :
    run ⟨d, g :: gates, body⟩ ctx w = (.ok (some g.name), w') := by
  rw [run, Stateful.bind_of_ok (Act.ofPanicking_of_ok (Gate.runAll_of_halt h gates))]
  rfl

/-- A gate that panics ends the call. -/
theorem run_of_panic {p : Panic} (h : g.check ctx w = (.error p, w')) :
    run ⟨d, g :: gates, body⟩ ctx w = (.error (.panic p), w') := by
  rw [run, Stateful.bind_of_error (Act.ofPanicking_of_error (Gate.runAll_of_panic h gates))]

/-- A call without gates that the body brings to its end. -/
theorem run_of_body (h : body ctx w = (.ok (), w')) : run ⟨d, [], body⟩ ctx w = (.ok none, w') := by
  show (body ctx >>= fun _ => return none) w = (.ok none, w')
  rw [Stateful.bind_of_ok h]
  rfl

/-- A call without gates that the body does not bring to its end. -/
theorem run_of_interrupt {i : Interrupt} (h : body ctx w = (.error i, w')) :
    run ⟨d, [], body⟩ ctx w = (.error i, w') := by
  show (body ctx >>= fun _ => return none) w = (.error i, w')
  rw [Stateful.bind_of_error h]

end Command

end Gatehouse
