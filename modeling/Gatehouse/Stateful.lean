/-!
# `Gatehouse.Stateful` — computations that change a state and may end early

What such a computation did before it ended early stays done, so its result comes with the state it left.

## Contents
- `Stateful.bind_of_ok`, `Stateful.bind_of_error`, `Stateful.bind_congr`: a computation and what follows it.
-/

namespace Gatehouse.Stateful

variable {ε σ α β : Type} {act act' : ExceptT ε (StateM σ) α} {next : α → ExceptT ε (StateM σ) β} {s s' : σ}

/-- What follows a computation that came to its end goes on from its result, in the state it left. -/
theorem bind_of_ok {a : α} (h : act s = (.ok a, s')) : (act >>= next) s = next a s' := by
  simp only [bind, ExceptT.bind, ExceptT.mk, StateT.bind, h, ExceptT.bindCont]

/-- What follows a computation that ended early does not happen. -/
theorem bind_of_error {e : ε} (h : act s = (.error e, s')) : (act >>= next) s = (.error e, s') := by
  simp only [bind, ExceptT.bind, ExceptT.mk, StateT.bind, h, ExceptT.bindCont]
  rfl

/-- Computations that come to the same are followed by the same. -/
theorem bind_congr (h : act s = act' s') : (act >>= next) s = (act' >>= next) s' := by
  simp only [bind, ExceptT.bind, ExceptT.mk, StateT.bind, h]

end Gatehouse.Stateful
