import Gatehouse.Context

/-!
# `Gatehouse.Gate.Basic` — gates and stacks of gates

A gate decides whether a call of a command may go on. The gates of a command are asked in order; the first
that halts ends the call, and the ones after it are never asked.

## Contents
- `Flow`, `Gate`.
- `Gate.runAll`: asking a stack of gates (`Gate.runAll_of_proceed`, `Gate.runAll_of_halt`,
  `Gate.runAll_of_panic`, `Gate.runAll_cons_eq_none_iff`).
-/

namespace Gatehouse

/-- What a gate decides. -/
inductive Flow where
  | proceed
  /-- The call ends here. The gate has told the caller why. -/
  | halt
  deriving DecidableEq, Repr

/-- A gate. -/
structure Gate where
  name : String
  /-- What the gate asks for, in one line. -/
  help : Option String
  check : Context → Act Panic Flow

/-- Ask gates in order. The result is the name of the gate that halted, if one did. -/
def Gate.runAll (c : Context) : List Gate → Act Panic (Option String)
  | [] => return none
  | g :: gates => do
      match ← g.check c with
      | .proceed => runAll c gates
      | .halt => return some g.name

namespace Gate

variable {c : Context} {g : Gate} {w w' : World}

/-- After a gate that lets the call through, the others are asked in the world it left. -/
theorem runAll_of_proceed (h : g.check c w = (.ok .proceed, w')) (gates : List Gate) :
    runAll c (g :: gates) w = runAll c gates w' := by
  rw [runAll, Stateful.bind_of_ok h]

/-- After a gate that halts, no other is asked. -/
theorem runAll_of_halt (h : g.check c w = (.ok .halt, w')) (gates : List Gate) :
    runAll c (g :: gates) w = (.ok (some g.name), w') := by
  rw [runAll, Stateful.bind_of_ok h]
  rfl

/-- After a gate that panics, no other is asked. -/
theorem runAll_of_panic {p : Panic} (h : g.check c w = (.error p, w')) (gates : List Gate) :
    runAll c (g :: gates) w = (.error p, w') := by
  rw [runAll, Stateful.bind_of_error h]

/-- A stack lets a call through if its first gate does and then the others do. -/
theorem runAll_cons_eq_none_iff {gates : List Gate} :
    runAll c (g :: gates) w = (.ok none, w') ↔
      ∃ w₁, g.check c w = (.ok .proceed, w₁) ∧ runAll c gates w₁ = (.ok none, w') := by
  constructor
  · intro h
    rcases hg : g.check c w with ⟨p | flow, w₁⟩
    · rw [runAll_of_panic hg] at h
      cases h
    · cases flow with
      | proceed => exact ⟨w₁, rfl, by rwa [runAll_of_proceed hg] at h⟩
      | halt =>
          rw [runAll_of_halt hg] at h
          cases h
  · rintro ⟨w₁, hg, hrest⟩
    rw [runAll_of_proceed hg, hrest]

end Gate

end Gatehouse
