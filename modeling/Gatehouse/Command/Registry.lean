import Gatehouse.Command.Basic
import Gatehouse.Gate.Factory
import Gatehouse.Text.Quoted

/-!
# `Gatehouse.Command.Registry` — the commands that can be called

Every trigger stands for one command. A command is registered with all of its triggers and gates or, if
anything is wrong with it, not at all.

## Contents
- `Registry`, `Registry.resolve?`, `Registry.listings`.
- `RegistryError`, `RegistryError.message`.
- `Registering.command`: the registration of a command, step by step, and what it comes to
  (`Registering.command_apply`).
- `Registry.register`, `Registry.registerAll`.
- `Usage`, `Registry.stats`: how often commands were called.
- `Listing.technical`: a command in technical listings.
-/

namespace Gatehouse

/-- The commands that can be called. -/
structure Registry where
  /-- The commands in the order of registration. -/
  commands : List Command
  /-- The command of each trigger. -/
  index : Table String Command

/-- Why a command cannot be registered. -/
inductive RegistryError where
  | duplicateTrigger (trigger command existing : String)
  | gate (error : GateFactory.Error)
  deriving DecidableEq, Repr

/-- What is said about a command that cannot be registered. -/
def RegistryError.message : RegistryError → String
  | .duplicateTrigger trigger command existing =>
      "trigger `" ++ trigger ++ "` of `" ++ command ++ "` is already registered by `" ++ existing ++ "`"
  | .gate e => e.message

namespace Registry

/-- No command can be called. -/
def empty : Registry :=
  ⟨[], Table.empty⟩

instance : EmptyCollection Registry := ⟨empty⟩

instance : Inhabited Registry := ⟨empty⟩

/-- The command that a trigger of any case stands for. -/
def resolve? (r : Registry) (trigger : String) : Option Command :=
  r.index.get? (Text.lowercased trigger)

theorem resolve?_lowercased (r : Registry) (trigger : String) :
    r.resolve? (Text.lowercased trigger) = r.resolve? trigger := by
  rw [resolve?, resolve?, Text.lowercased_lowercased]

/-- Every command as others see it. -/
def listings (r : Registry) : List Listing :=
  r.commands.map Command.listing

/-! ## Registration -/

/-- The first trigger that stands for a registered command already. -/
def taken? (r : Registry) (triggers : List String) : Option (String × Command) :=
  triggers.findSome? fun t => (r.index.get? t).map fun c => (t, c)

/-- The first trigger that occurs before. -/
def repeated? (seen : List String) : List String → Option String
  | [] => none
  | t :: ts => if seen.contains t then some t else repeated? (t :: seen) ts

/-- What is wrong with the triggers of a command, if anything is. -/
def clash? (r : Registry) (d : Descriptor) : Option RegistryError :=
  match r.taken? d.triggers, repeated? [] d.triggers with
  | some (t, existing), _ => some (.duplicateTrigger t d.name existing.name)
  | none, some t => some (.duplicateTrigger t d.name d.name)
  | none, none => none

/-- The registry with one more command, whose triggers are free. -/
def add (r : Registry) (c : Command) : Registry where
  commands := r.commands ++ [c]
  index := c.descriptor.triggers.foldl (fun index t => index.insert t c) r.index

end Registry

/-- A computation on the registry that may end early. What it did to the registry before that stays done. -/
abbrev Registering (α : Type) : Type :=
  ExceptT RegistryError (StateM Registry) α

namespace Registering

/-- Ends at a trigger that stands for a registered command already. -/
def checkFree (name : String) : List String → Registering Unit
  | [] => return
  | t :: ts => do
      match (← get).index.get? t with
      | some existing => throw (.duplicateTrigger t name existing.name)
      | none => checkFree name ts

/-- Ends at a trigger that occurs before. -/
def checkDistinct (name : String) (seen : List String) : List String → Registering Unit
  | [] => return
  | t :: ts =>
      if seen.contains t then throw (.duplicateTrigger t name name)
      else checkDistinct name (t :: seen) ts

/-- Builds gates in order and ends at a bad declaration. -/
def buildGates (f : GateFactory) (name : String) : List String → Registering (List Gate)
  | [] => return []
  | spec :: specs => do
      match f.build name spec with
      | .error e => throw (.gate e)
      | .ok gate =>
          let gates ← buildGates f name specs
          return gate :: gates

/-- Has triggers stand for a command. -/
def insertTriggers (c : Command) : List String → Registering Unit
  | [] => return
  | t :: ts => do
      modify fun r => { r with index := r.index.insert t c }
      insertTriggers c ts

/-- Checks the triggers of a command, builds its gates, and enters it into the registry. -/
def command (f : GateFactory) (d : Descriptor) (body : Context → Act Interrupt Unit) : Registering Unit := do
  checkFree d.name d.triggers
  checkDistinct d.name [] d.triggers
  let gates ← buildGates f d.name d.gates
  let c : Command := ⟨d, gates, body⟩
  insertTriggers c d.triggers
  modify fun r => { r with commands := r.commands ++ [c] }

/-! ### What each part comes to -/

theorem checkFree_apply (name : String) (triggers : List String) (r : Registry) :
    checkFree name triggers r = (match r.taken? triggers with
      | some (t, existing) => .error (.duplicateTrigger t name existing.name)
      | none => .ok (), r) := by
  induction triggers with
  | nil => rfl
  | cons t ts ih =>
      have hget : (get : Registering Registry) r = (.ok r, r) := rfl
      rw [checkFree, Stateful.bind_of_ok hget, Registry.taken?, List.findSome?_cons]
      cases r.index.get? t with
      | some existing => rfl
      | none => exact ih

theorem checkDistinct_apply (name : String) (seen triggers : List String) (r : Registry) :
    checkDistinct name seen triggers r = (match Registry.repeated? seen triggers with
      | some t => .error (.duplicateTrigger t name name)
      | none => .ok (), r) := by
  induction triggers generalizing seen with
  | nil => rfl
  | cons t ts ih =>
      rw [checkDistinct, Registry.repeated?]
      by_cases h : seen.contains t = true
      · rw [if_pos h, if_pos h]
        rfl
      · rw [if_neg h, if_neg h]
        exact ih (t :: seen)

theorem buildGates_apply (f : GateFactory) (name : String) (specs : List String) (r : Registry) :
    buildGates f name specs r = ((f.buildAll name specs).mapError .gate, r) := by
  induction specs with
  | nil => rfl
  | cons spec specs ih =>
      rw [buildGates, GateFactory.buildAll, List.mapM_cons]
      cases f.build name spec with
      | error e => rfl
      | ok gate =>
          show (buildGates f name specs >>= fun gates => pure (gate :: gates)) r = _
          cases hrest : specs.mapM (f.build name) with
          | error e =>
              rw [GateFactory.buildAll, hrest] at ih
              exact Stateful.bind_of_error ih
          | ok gates =>
              rw [GateFactory.buildAll, hrest] at ih
              exact Stateful.bind_of_ok ih

theorem insertTriggers_apply (c : Command) (triggers : List String) (r : Registry) :
    insertTriggers c triggers r
      = (.ok (), { r with index := triggers.foldl (fun index t => index.insert t c) r.index }) := by
  induction triggers generalizing r with
  | nil => rfl
  | cons t ts ih => exact ih { r with index := r.index.insert t c }

/-- **A command is entered completely or not at all.** All that can go wrong does so before the registry is
    touched. -/
theorem command_apply (f : GateFactory) (d : Descriptor) (body : Context → Act Interrupt Unit) (r : Registry) :
    command f d body r =
      match r.clash? d with
      | some e => (.error e, r)
      | none =>
          match f.buildAll d.name d.gates with
          | .ok gates => (.ok (), r.add ⟨d, gates, body⟩)
          | .error e => (.error (.gate e), r) := by
  have hfree := checkFree_apply d.name d.triggers r
  have hdistinct := checkDistinct_apply d.name [] d.triggers r
  have hgates := buildGates_apply f d.name d.gates r
  cases htaken : r.taken? d.triggers with
  | some taken =>
      rw [htaken] at hfree
      rw [command, Stateful.bind_of_error hfree, Registry.clash?, htaken]
  | none =>
      rw [htaken] at hfree
      rw [command, Stateful.bind_of_ok hfree, Registry.clash?, htaken]
      cases hrepeated : Registry.repeated? [] d.triggers with
      | some t =>
          rw [hrepeated] at hdistinct
          rw [Stateful.bind_of_error hdistinct]
      | none =>
          rw [hrepeated] at hdistinct
          rw [Stateful.bind_of_ok hdistinct]
          cases hbuilt : f.buildAll d.name d.gates with
          | error e =>
              rw [hbuilt] at hgates
              exact Stateful.bind_of_error hgates
          | ok gates =>
              -- Nothing can go wrong any more.
              rw [hbuilt] at hgates
              have hinsert := insertTriggers_apply ⟨d, gates, body⟩ d.triggers r
              rw [Stateful.bind_of_ok hgates, Stateful.bind_of_ok hinsert]
              rfl

end Registering

namespace Registry

/-- Register a command. -/
def register (r : Registry) (f : GateFactory) (d : Descriptor) (body : Context → Act Interrupt Unit) :
    Except RegistryError Registry :=
  match Registering.command f d body r with
  | (.ok (), r') => .ok r'
  | (.error e, _) => .error e

theorem register_eq (r : Registry) (f : GateFactory) (d : Descriptor) (body : Context → Act Interrupt Unit) :
    r.register f d body =
      match r.clash? d with
      | some e => .error e
      | none =>
          match f.buildAll d.name d.gates with
          | .ok gates => .ok (r.add ⟨d, gates, body⟩)
          | .error e => .error (.gate e) := by
  rw [register, Registering.command_apply]
  cases r.clash? d with
  | some e => rfl
  | none => cases f.buildAll d.name d.gates <;> rfl

/-- Register commands one after the other, up to the first that cannot be registered. -/
def registerAll (f : GateFactory) :
    List (Descriptor × (Context → Act Interrupt Unit)) → Registry → Except RegistryError Registry
  | [], r => .ok r
  | (d, body) :: ds, r =>
      match r.register f d body with
      | .ok r => registerAll f ds r
      | .error e => .error e

end Registry

/-! ## Use -/

/-- How often commands were called, by their names. -/
abbrev Usage := Table String Nat

/-- How often a command was called. -/
def Usage.count (u : Usage) (name : String) : Nat :=
  (u.get? name).getD 0

/-- One more call of a command. -/
def Usage.record (u : Usage) (name : String) : Usage :=
  u.update name 0 (· + 1)

/-- One more use of a command counts for it alone. -/
theorem Usage.count_record (u : Usage) (name name' : String) :
    (u.record name).count name' = u.count name' + if name' = name then 1 else 0 := by
  show ((u.insert name _).get? name').getD 0 = _
  rw [Table.get?_insert]
  by_cases h : name' = name
  · subst h
    simp [count]
  · simp [count, h]

/-- Whether a count comes before another in statistics: the higher one first, then by name. -/
def Usage.precedes (a b : String × Nat) : Bool :=
  b.2 < a.2 || (a.2 = b.2 && decide (a.1 ≤ b.1))

/-- How often which command was called, most often first, without those that never were. -/
def Registry.stats (r : Registry) (u : Usage) : List (String × Nat) :=
  ((r.commands.map fun c => (c.name, u.count c.name)).filter fun e => 0 < e.2).mergeSort Usage.precedes

/-- A command in technical listings. -/
def Listing.technical (l : Listing) : String :=
  let d := l.descriptor
  "Command \x7b name: " ++ Text.quoted d.name ++ ", category: " ++ d.category.label ++ ", triggers: "
    ++ Text.quotedList d.triggers ++ ", gates: " ++ Text.quotedList d.gates ++ ", .. \x7d"

end Gatehouse
