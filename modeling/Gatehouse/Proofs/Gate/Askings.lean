import Gatehouse.Proofs.Command.Frames
import Gatehouse.Proofs.Dispatch.Calls
import Gatehouse.Proofs.Gate.Rates
import Gatehouse.Proofs.Throttle.Separation

/-!
# `Gatehouse.Proofs.Gate.Askings` — which gates are asked, and what throttles decide then

`Gate.askings` lists the gates that a call asks, each with the world that it is asked in. A gate that is asked where
the command declares a rate takes the call from the throttle; other gates leave it alone (`Gate.Fits`). So what the
gates do to the throttle is a run of it, with the decisions that they got (`Recorded`, `Gate.recorded_askings`).
-/

namespace Gatehouse

/-! ## Gates that are asked -/

/-- A gate is asked. -/
structure Gate.Asking where
  /-- Its place among the gates of the command. -/
  place : Nat
  gate : Gate
  context : Context
  /-- The world that it is asked in. -/
  world : World

/-- The gates that a call asks, the first of which is at the given place. -/
def Gate.askings (c : Context) : Nat → List Gate → World → List Gate.Asking
  | _, [], _ => []
  | place, g :: gates, w =>
      ⟨place, g, c, w⟩ ::
        match g.check c w with
        | (.ok .proceed, w') => askings c (place + 1) gates w'
        | _ => []

/-- They are the gates among the callees of the call. -/
theorem Calls.askings {body : Context → Act Interrupt Unit} {c : Context} {gates : List Gate} {w w' : World}
    {calls : List Callee} {ending : Ending} (h : Calls body c gates w calls ending w') (place : Nat) :
    calls = (Gate.askings c place gates w).map (fun a => Callee.gate a.gate)
      ++ (if ending.inBody then [.body] else []) := by
  induction h generalizing place with
  | @proceed g _ _ _ _ _ _ hg _ ih =>
      rw [Gate.askings, hg]
      exact congrArg (Callee.gate g :: ·) (ih (place + 1))
  | halt hg =>
      rw [Gate.askings, hg]
      rfl
  | panic hg =>
      rw [Gate.askings, hg]
      rfl
  | finish _ => rfl
  | interrupt _ => rfl

namespace Gate

variable {c : Context} {g : Gate} {gates : List Gate} {place : Nat} {w : World} {a : Asking}

/-- A gate that halts is the one that ends the call. -/
theorem runAll_of_mem_askings (ha : a ∈ askings c place gates w)
    (hhalt : (a.gate.check a.context a.world).1 = .ok .halt) :
    (runAll c gates w).1 = .ok (some a.gate.name) := by
  induction gates generalizing place w with
  | nil => cases ha
  | cons g gates ih =>
      rw [askings] at ha
      rcases hg : g.check c w with ⟨p | flow, w'⟩
      · rw [hg] at ha
        obtain rfl := List.mem_singleton.mp ha
        rw [hg] at hhalt
        cases hhalt
      · rw [hg] at ha
        cases flow with
        | halt =>
            obtain rfl := List.mem_singleton.mp ha
            rw [runAll_of_halt hg]
        | proceed =>
            rw [runAll_of_proceed hg]
            rcases List.mem_cons.mp ha with rfl | hrest
            · rw [hg] at hhalt
              cases hhalt
            · exact ih hrest

/-- The gates that are asked are gates of the call, each at its place. -/
theorem mem_of_mem_askings (ha : a ∈ askings c place gates w) :
    a.context = c ∧ (a.gate, a.place) ∈ gates.zipIdx place := by
  induction gates generalizing place w with
  | nil => cases ha
  | cons g gates ih =>
      rw [askings] at ha
      rw [List.zipIdx_cons]
      rcases List.mem_cons.mp ha with rfl | hrest
      · exact ⟨rfl, List.mem_cons_self⟩
      · split at hrest
        · obtain ⟨hcontext, hmem⟩ := ih hrest
          exact ⟨hcontext, List.mem_cons_of_mem _ hmem⟩
        · cases hrest

end Gate

/-! ## Gates and throttles -/

/-- Whoever calls, the gate leaves throttles alone. -/
def Gate.Sparing (g : Gate) : Prop :=
  ∀ c w, (g.check c w).2.throttle = w.throttle

/-- Every custom gate that can be declared leaves throttles alone. -/
def GateFactory.Sparing (f : GateFactory) : Prop :=
  ∀ name builder args gate, f.custom.get? name = some builder → builder args = .ok gate → gate.Sparing

/-- Whoever calls, the body leaves throttles alone. -/
def Builtin.Body.Sparing (body : Builtin.Body) : Prop :=
  ∀ c w, (body c w).2.throttle = w.throttle

/-- Only throttles take calls from throttles. -/
theorem World.sparing_frame : World.Frame fun _ w w' => w'.throttle = w.throttle where
  refl _ _ := rfl
  trans h h' := h'.trans h
  push _ _ := rfl
  query channel w id := by rw [World.query_snd]
  note _ _ _ := rfl
  console _ _ _ _ := rfl

/-- The gate of a rate takes its call from the throttle, and does nothing else to it. -/
theorem Rate.throttle_gate (r : Rate) (c : Context) (w : World) :
    (r.gate.check c w).2.throttle = (w.throttle.acquire (r.key c) c.moment.clock).2 := by
  rw [Rate.gate, Gate.throttle_check, Gate.countIn_apply]
  exact World.sparing_frame.throttleVerdict c _ _

/-- The gate is what the command declares at the place: the one of a rate, or a gate that leaves throttles
    alone. -/
def Gate.Fits (d : Descriptor) (place : Nat) (g : Gate) : Prop :=
  match d.rate? place with
  | some r => g = r.gate
  | none => g.Sparing

theorem Gate.Fits.eq_gate {d : Descriptor} {place : Nat} {g : Gate} {r : Rate} (h : g.Fits d place)
    (hr : d.rate? place = some r) : g = r.gate := by
  rwa [Fits, hr] at h

/-- Gates that were built from declarations fit them. -/
theorem GateFactory.Sparing.fits {f : GateFactory} (hf : f.Sparing) {d : Descriptor} {gates : List Gate}
    (h : List.Forall₂ (fun spec gate => f.build d.name spec = .ok gate) d.gates gates) :
    ∀ x ∈ gates.zipIdx, x.1.Fits d x.2 := by
  rintro ⟨gate, place⟩ hx
  obtain ⟨hplace, hgate⟩ := List.getElem?_eq_some_iff.mp (List.mem_zipIdx_iff_getElem?.mp hx)
  obtain ⟨hlength, hbuilt⟩ := List.forall₂_iff_get.mp h
  have hspec : d.gates[place]? = some (d.gates.get ⟨place, hlength ▸ hplace⟩) :=
    List.getElem?_eq_getElem _
  have hbuild := hbuilt place (hlength ▸ hplace) hplace
  have hget : gates.get ⟨place, hplace⟩ = gate := hgate
  rw [hget] at hbuild
  show Gate.Fits d place gate
  rcases World.sparing_frame.build hf hbuild with ⟨scope, limit, window, hparse, rfl⟩ | ⟨hparse, hsparing⟩
  · have hrate : d.rate? place = some ⟨scope, limit, window⟩ :=
      Descriptor.rate?_eq_some_iff.mpr ⟨_, hspec, hparse⟩
    rw [Gate.Fits, hrate]
    rfl
  · cases hrate : d.rate? place with
    | none =>
        rw [Gate.Fits, hrate]
        exact hsparing
    | some r =>
        obtain ⟨spec, hspec', hparse'⟩ := Descriptor.rate?_eq_some_iff.mp hrate
        cases hspec.symm.trans hspec'
        exact absurd hparse' (hparse _ _ _)

/-! ## Runs of throttles -/

namespace Gate.Asking

/-- The rate that the gate was declared with, if it was declared as a throttle. -/
def rate? (a : Asking) : Option Rate :=
  a.context.command.rate? a.place

/-- The call that a throttle of the rate gets. -/
def op (a : Asking) (r : Rate) : Throttle.Op :=
  .acquire (r.key a.context) a.context.moment.clock

/-- What it decides. -/
def decision (a : Asking) (r : Rate) : Option Throttle.Decision :=
  (a.world.throttle.acquire (r.key a.context) a.context.moment.clock).1

/-- The call that the gate takes from the throttle, if it is one. -/
def op? (a : Asking) : Option Throttle.Op :=
  a.rate?.map a.op

/-- The bucket that the gate counts in and what it is told, if it is a throttle. -/
def entry? (a : Asking) : Option (Throttle.Key × Option Throttle.Decision) :=
  a.rate?.map fun r => (r.key a.context, a.decision r)

end Gate.Asking

/-- What happens to a throttle is a run of it, and some of what happens is that gates are asked. -/
structure Recorded (ops : List Throttle.Op) (asked : List Gate.Asking) (t t' : Throttle) : Prop where
  state : t' = Throttle.after ops t
  /-- The calls of the run are those that the gates take. -/
  calls : ops.filter Throttle.Op.isCall = asked.filterMap Gate.Asking.op?
  /-- The decisions of the run are those that the gates got. -/
  log : asked.filterMap Gate.Asking.entry? = Throttle.run ops t
  /-- A gate is asked in the state that the run has come to with the calls of the gates before it. -/
  placed : ∀ front a back, asked = front ++ a :: back → ∀ r, a.rate? = some r →
    ∃ before later, ops = before ++ a.op r :: later ∧ a.world.throttle = Throttle.after before t ∧
      before.filter Throttle.Op.isCall = front.filterMap Gate.Asking.op?

namespace Recorded

variable {ops ops' : List Throttle.Op} {asked asked' : List Gate.Asking} {t t' t'' : Throttle}

theorem nil (t : Throttle) : Recorded [] [] t t :=
  ⟨rfl, rfl, rfl, fun _ _ _ h => absurd h (by simp)⟩

/-- A sweep asks no gate. -/
theorem sweep (t : Throttle) (now : Nat) : Recorded [.sweep now] [] t (t.sweep now) :=
  ⟨rfl, rfl, rfl, fun _ _ _ h => absurd h (by simp)⟩

theorem append (h : Recorded ops asked t t') (h' : Recorded ops' asked' t' t'') :
    Recorded (ops ++ ops') (asked ++ asked') t t'' where
  state := by
    rw [Throttle.after_append, ← h.state]
    exact h'.state
  calls := by
    rw [List.filter_append, List.filterMap_append, h.calls, h'.calls]
  log := by
    rw [List.filterMap_append, Throttle.run_append, ← h.state, h.log, h'.log]
  placed := by
    intro front a back hasked r hr
    rcases List.append_eq_append_iff.mp hasked with ⟨front', rfl, hback⟩ | ⟨back', hfirst, hback⟩
    · -- The gate is among the later ones, or is the first of them.
      obtain ⟨before, later, rfl, hworld, hcalls⟩ := h'.placed front' a back hback r hr
      refine ⟨ops ++ before, later, by simp, ?_, ?_⟩
      · rw [Throttle.after_append, ← h.state]
        exact hworld
      · rw [List.filter_append, List.filterMap_append, h.calls, hcalls]
    · cases back' with
      | nil =>
          rw [List.append_nil] at hfirst
          obtain ⟨before, later, rfl, hworld, hcalls⟩ := h'.placed [] a back hback.symm r hr
          refine ⟨ops ++ before, later, by simp, ?_, ?_⟩
          · rw [Throttle.after_append, ← h.state]
            exact hworld
          · rw [List.filter_append, h.calls, hcalls, hfirst]
            exact List.append_nil _
      | cons b back' =>
          obtain ⟨rfl, hback⟩ := List.cons_eq_cons.mp hback
          obtain ⟨before, later, rfl, hworld, hcalls⟩ := h.placed front a back' hfirst r hr
          exact ⟨before, later ++ ops', by simp, hworld, hcalls⟩

/-- The bucket of a throttle that is asked fits the window that the gates before it have left open, if no call was
    made before the run and time does not go backwards. -/
theorem agrees {front back : List Gate.Asking} {a : Gate.Asking} {r : Rate} (h : Recorded ops asked ∅ t)
    (hsorted : (ops.map Throttle.Op.time).Pairwise (· ≤ ·)) (hasked : asked = front ++ a :: back)
    (hr : a.rate? = some r) :
    a.world.throttle.Agrees (r.key a.context) a.context.moment.clock
      ((r.key a.context).frameAfter none ((r.key a.context).times (front.filterMap Gate.Asking.op?))) := by
  obtain ⟨before, later, rfl, hworld, hcalls⟩ := h.placed front a back hasked r hr
  obtain ⟨hsorted', hhi⟩ := Throttle.time_le_of_sorted hsorted
  rw [hworld, ← hcalls, Throttle.Key.times_filter_isCall]
  exact Throttle.agrees_after_empty hsorted' hhi _

end Recorded

namespace Gate

variable {c : Context} {g : Gate} {gates : List Gate} {place : Nat}

/-- A gate takes its call from the throttle, if it is declared as one, and otherwise leaves it alone. -/
theorem Fits.recorded (h : g.Fits c.command place) (w : World) :
    Recorded ([⟨place, g, c, w⟩].filterMap Asking.op?) [⟨place, g, c, w⟩] w.throttle
      (g.check c w).2.throttle := by
  have hrate : Asking.rate? ⟨place, g, c, w⟩ = c.command.rate? place := rfl
  have hone {front back : List Asking} {a : Asking} (h : [⟨place, g, c, w⟩] = front ++ a :: back) :
      front = [] ∧ a = ⟨place, g, c, w⟩ ∧ back = [] := by
    cases front with
    | nil =>
        obtain ⟨ha, hback⟩ := List.cons_eq_cons.mp h
        exact ⟨rfl, ha.symm, hback.symm⟩
    | cons b front => simp at h
  cases hr : c.command.rate? place with
  | none =>
      have hsparing : g.Sparing := by rwa [Fits, hr] at h
      have hop : [⟨place, g, c, w⟩].filterMap Asking.op? = [] := by simp [Asking.op?, hrate, hr]
      rw [hop]
      refine ⟨hsparing c w, hop.symm, by simp [Asking.entry?, hrate, hr, Throttle.run], ?_⟩
      intro front a back hasked r har
      obtain ⟨rfl, rfl, rfl⟩ := hone hasked
      cases har.symm.trans (hrate.trans hr)
  | some r =>
      have hop : [⟨place, g, c, w⟩].filterMap Asking.op? = [.acquire (r.key c) c.moment.clock] := by
        simp [Asking.op?, hrate, hr, Asking.op]
      rw [hop]
      refine ⟨?_, hop.symm, by simp [Asking.entry?, hrate, hr, Asking.decision, Throttle.run], ?_⟩
      · show (g.check c w).2.throttle = (w.throttle.acquire (r.key c) c.moment.clock).2
        rw [h.eq_gate hr, r.throttle_gate]
      · intro front a back hasked r' har
        obtain ⟨rfl, rfl, rfl⟩ := hone hasked
        cases har.symm.trans (hrate.trans hr)
        exact ⟨[], [], rfl, rfl, rfl⟩

/-- **What a stack of gates does to the throttle** is a run of it. -/
theorem recorded_askings (h : ∀ x ∈ gates.zipIdx place, x.1.Fits c.command x.2) (w : World) :
    Recorded ((askings c place gates w).filterMap Asking.op?) (askings c place gates w) w.throttle
      (runAll c gates w).2.throttle := by
  -- On the gates that are left. Each takes the throttle from where the one before it left it.
  induction gates generalizing place w with
  | nil => exact .nil w.throttle
  | cons g gates ih =>
      rw [List.zipIdx_cons, List.forall_mem_cons] at h
      have hfirst := Fits.recorded h.1 w
      rcases hg : g.check c w with ⟨p | flow, w'⟩
      · rw [hg] at hfirst
        rw [askings, hg, runAll_of_panic hg]
        exact hfirst
      · rw [hg] at hfirst
        cases flow with
        | halt =>
            rw [askings, hg, runAll_of_halt hg]
            exact hfirst
        | proceed =>
            rw [askings, hg, runAll_of_proceed hg, ← List.singleton_append, List.filterMap_append]
            exact hfirst.append (ih h.2 w')

end Gate

end Gatehouse
