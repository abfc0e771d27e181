import Gatehouse.Gate.Builtin
import Gatehouse.Proofs.Readings

/-!
# `Gatehouse.Proofs.Gate.Rates` — the limits that commands declare

A throttle declares a rate: so many calls in so many seconds, counted against a user, a channel, a guild or
everybody. `Descriptor.rate?` is the rate that a command declares at a place among its gates. Declarations are
only accepted if both numbers are positive (`GateSpec.pos_of_parse`, `Descriptor.rate?_pos`).
-/

namespace Gatehouse

/-- So many calls in so many seconds. -/
structure Rate where
  scope : Throttle.Scope
  limit : Nat
  window : Nat
  deriving DecidableEq, Repr

/-- The gate of a rate. -/
def Rate.gate (r : Rate) : Gate :=
  Gate.throttle r.scope r.limit r.window

/-- The bucket that a call counts in. -/
def Rate.key (r : Rate) (c : Context) : Throttle.Key :=
  Gate.throttleKey c r.scope r.limit r.window

/-- The rate of a declaration, if it is one of a throttle. -/
def GateSpec.rate? : GateSpec → Option Rate
  | .throttle scope limit window => some ⟨scope, limit, window⟩
  | _ => none

/-- The rate that a command declares at a place among its gates. -/
def Descriptor.rate? (d : Descriptor) (place : Nat) : Option Rate :=
  (d.gates[place]?).bind fun spec => (GateSpec.parse spec).toOption.bind GateSpec.rate?

theorem GateSpec.rate?_eq_some_iff {spec : GateSpec} {r : Rate} :
    spec.rate? = some r ↔ spec = .throttle r.scope r.limit r.window := by
  cases spec with
  | throttle scope limit window =>
      obtain ⟨scope', limit', window'⟩ := r
      simp [rate?]
  | permission level => exact ⟨nofun, nofun⟩
  | require target capabilities => exact ⟨nofun, nofun⟩
  | officialGuild => exact ⟨nofun, nofun⟩
  | guildOnly => exact ⟨nofun, nofun⟩
  | custom name args => exact ⟨nofun, nofun⟩

theorem Descriptor.rate?_eq_some_iff {d : Descriptor} {place : Nat} {r : Rate} :
    d.rate? place = some r ↔
      ∃ spec, d.gates[place]? = some spec ∧ GateSpec.parse spec = .ok (.throttle r.scope r.limit r.window) := by
  simp only [rate?, Option.bind_eq_some_iff, toOption_eq_some_iff, GateSpec.rate?_eq_some_iff, exists_eq_right]

/-! ## Accepted rates -/

namespace GateSpec

theorem pos_of_parsePositive {bound n : Nat} {s : String} (h : parsePositive bound s = .ok n) : 0 < n := by
  unfold parsePositive at h
  split at h
  · obtain rfl := Except.ok.inj h
    exact Nat.succ_pos _
  · cases h

/-- A throttle is only read from a scope and two positive numbers. -/
theorem pos_of_throttleOf {args : List String} {scope : Throttle.Scope} {limit window : Nat}
    (h : throttleOf args = .ok (.throttle scope limit window)) : 0 < limit ∧ 0 < window := by
  unfold throttleOf at h
  split at h
  · cases h
  · next scopeText limitText windowText =>
      simp only [bind_eq_ok_iff] at h
      obtain ⟨_, -, _, hlimit, _, hwindow, hspec⟩ := h
      cases hspec
      exact ⟨pos_of_parsePositive hlimit, pos_of_parsePositive hwindow⟩
  · cases h

variable {spec : GateSpec} {args : List String}

theorem rate?_of_permissionOf (h : permissionOf args = .ok spec) : spec.rate? = none := by
  unfold permissionOf at h
  split at h
  · cases h
  · next level =>
      obtain ⟨_, -, rfl⟩ := map_eq_ok_iff.mp h
      rfl
  · cases h

theorem rate?_of_requireOf (h : requireOf args = .ok spec) : spec.rate? = none := by
  unfold requireOf at h
  split at h
  · next target c cs =>
      simp only [bind_eq_ok_iff] at h
      obtain ⟨_, -, _, -, hspec⟩ := h
      cases hspec
      rfl
  · cases h

theorem rate?_of_ofNoArguments {name : String} {gate : GateSpec} (hgate : gate.rate? = none)
    (h : ofNoArguments name gate args = .ok spec) : spec.rate? = none := by
  cases args with
  | nil =>
      cases h
      exact hgate
  | cons _ _ => cases h

/-- **Accepted rates are positive.** Only what is named so is read as a throttle. -/
theorem pos_of_parse {text : String} {scope : Throttle.Scope} {limit window : Nat}
    (h : parse text = .ok (.throttle scope limit window)) : 0 < limit ∧ 0 < window := by
  have hparts : ofParts (split text).1 (split text).2 = .ok (.throttle scope limit window) := h
  unfold ofParts at hparts
  split at hparts
  · cases hparts
  · cases rate?_of_permissionOf hparts
  · cases rate?_of_requireOf hparts
  · exact pos_of_throttleOf hparts
  · cases rate?_of_ofNoArguments rfl hparts
  · cases rate?_of_ofNoArguments rfl hparts
  · cases hparts

end GateSpec

theorem Descriptor.rate?_pos {d : Descriptor} {place : Nat} {r : Rate} (h : d.rate? place = some r) :
    0 < r.limit ∧ 0 < r.window := by
  obtain ⟨spec, -, hparse⟩ := rate?_eq_some_iff.mp h
  exact GateSpec.pos_of_parse hparse

end Gatehouse
