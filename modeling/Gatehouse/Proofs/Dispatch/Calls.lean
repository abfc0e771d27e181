import Gatehouse.Command.Basic

/-!
# `Gatehouse.Proofs.Dispatch.Calls` — which gates a call asks, and whether its body runs

`Calls body c gates w calls ending w'` says that a call of a command with the given gates and body, begun in
the world `w`, asks the callees `calls` one after the other, each in the world that the one before it left,
ends with `ending` and leaves `w'`. Every call has such a course (`exists_calls`), and `Command.run` follows
it (`Calls.run_eq`).

The callees are the first gates, in order and each once, and the body after them if all gates let the call
through. What a course does not reach does not matter: with other gates after the last one asked, or another
body, the course is the same (`Calls.exists_asked`).
-/

namespace Gatehouse

/-- What a call can ask. -/
inductive Callee where
  | gate (gate : Gate)
  | body

/-- How a call ends. -/
inductive Ending where
  | halted (gate : Gate)
  /-- A gate panicked. -/
  | cut (panic : Panic)
  /-- The body came to its end. -/
  | finished
  /-- The body ended with an error or a panic. -/
  | interrupted (interrupt : Interrupt)

namespace Ending

/-- Whether a call got as far as the body. -/
def inBody : Ending → Bool
  | .halted _ | .cut _ => false
  | .finished | .interrupted _ => true

/-- What a call that ends so results in. -/
def result : Ending → Except Interrupt (Option String)
  | .halted g => .ok (some g.name)
  | .cut p => .error (.panic p)
  | .finished => .ok none
  | .interrupted i => .error i

end Ending

variable {body body' : Context → Act Interrupt Unit} {c : Context}

/-- The course of a call. -/
inductive Calls (body : Context → Act Interrupt Unit) (c : Context) :
    List Gate → World → List Callee → Ending → World → Prop where
  | proceed {g gates w w₁ calls ending w'} : g.check c w = (.ok .proceed, w₁) →
      Calls body c gates w₁ calls ending w' → Calls body c (g :: gates) w (.gate g :: calls) ending w'
  | halt {g gates w w'} : g.check c w = (.ok .halt, w') →
      Calls body c (g :: gates) w [.gate g] (.halted g) w'
  | panic {g gates w p w'} : g.check c w = (.error p, w') →
      Calls body c (g :: gates) w [.gate g] (.cut p) w'
  | finish {w w'} : body c w = (.ok (), w') → Calls body c [] w [.body] .finished w'
  | interrupt {w i w'} : body c w = (.error i, w') → Calls body c [] w [.body] (.interrupted i) w'

/-- Every call takes some course. -/
theorem exists_calls (body : Context → Act Interrupt Unit) (c : Context) (gates : List Gate) (w : World) :
    ∃ calls ending w', Calls body c gates w calls ending w' := by
  -- On the gates that are left. Each starts in the world that the one before it left.
  induction gates generalizing w with
  | nil =>
      rcases h : body c w with ⟨_ | _, w'⟩
      · exact ⟨_, _, _, .interrupt h⟩
      · exact ⟨_, _, _, .finish h⟩
  | cons g gates ih =>
      rcases h : g.check c w with ⟨_ | _ | _, w₁⟩
      · exact ⟨_, _, _, .panic h⟩
      · obtain ⟨calls, ending, w', hrest⟩ := ih w₁
        exact ⟨_, _, _, .proceed h hrest⟩
      · exact ⟨_, _, _, .halt h⟩

namespace Calls

variable {gates : List Gate} {w w' : World} {calls : List Callee} {ending : Ending}

/-- A call comes to what its course says. -/
theorem run_eq (h : Calls body c gates w calls ending w') (d : Descriptor) :
    Command.run ⟨d, gates, body⟩ c w = (ending.result, w') := by
  induction h with
  | proceed hg _ ih => rw [Command.run_of_proceed hg, ih]
  | halt hg => exact Command.run_of_halt hg
  | panic hg => exact Command.run_of_panic hg
  | finish hb => exact Command.run_of_body hb
  | interrupt hb => exact Command.run_of_interrupt hb

/-- The callees are the first gates in order, each once, and then the body if the call gets so far. A call
    that gets so far has asked every gate; for one that does not, the other gates and the body could be
    any. -/
theorem exists_asked (h : Calls body c gates w calls ending w') :
    ∃ asked later, gates = asked ++ later ∧
      calls = asked.map .gate ++ (if ending.inBody then [.body] else []) ∧
      (ending.inBody = true → later = []) ∧
      (ending.inBody = false → ∀ later' body', Calls body' c (asked ++ later') w calls ending w') := by
  induction h with
  | @proceed g _ _ _ _ _ _ hg _ ih =>
      obtain ⟨asked, later, rfl, rfl, hlater, hother⟩ := ih
      refine ⟨g :: asked, later, rfl, rfl, hlater, ?_⟩
      intro he later' body'
      exact .proceed hg (hother he later' body')
  -- The gate decides alone, so the same step is one of any call that asks it first.
  | @halt g gates _ _ hg => exact ⟨[g], gates, rfl, rfl, nofun, fun _ _ _ => .halt hg⟩
  | @panic g gates _ _ _ hg => exact ⟨[g], gates, rfl, rfl, nofun, fun _ _ _ => .panic hg⟩
  | finish _ => exact ⟨[], [], rfl, rfl, fun _ => rfl, nofun⟩
  | interrupt _ => exact ⟨[], [], rfl, rfl, fun _ => rfl, nofun⟩

/-- The gate that halts a call is the last one it asks. -/
theorem getLast?_of_halted {g : Gate} (h : Calls body c gates w calls ending w') (he : ending = .halted g) :
    calls.getLast? = some (.gate g) := by
  induction h with
  | proceed _ _ ih => rw [List.getLast?_cons, ih he]; rfl
  | halt _ => cases he; rfl
  | panic _ => cases he
  | finish _ => cases he
  | interrupt _ => cases he

end Calls

end Gatehouse
