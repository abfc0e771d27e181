import Gatehouse.Json.Basic

/-!
# `Gatehouse.Json.Record` — records as JSON values

A record is an object whose members are the fields. Unknown members are ignored, but a known one must not
occur twice. A record may also be a list of its fields in their declared order, where fields at the end
may be left out if they have a default.

## Contents
- `Layout`: the field names of a record and how many of them a list has to give.
- `Layout.fields?`: the fields that a value gives.
- `Layout.field?`: one of them.
- `required?`, `defaulting?`, `optional?`: reading one field.
- `Layout.fields?_obj`, `optional?_eq`, `nullable?_ofOption`: what is written is what is read.
-/

namespace Gatehouse.Json

/-- The declared fields of a record. -/
structure Layout where
  /-- The field names in declared order. -/
  names : List String
  /-- How many fields a record written as a list has to give. -/
  least : Nat
  deriving Repr

/-- The fields that a record gives, by name. -/
def Layout.fields? (layout : Layout) : Json → Option (List (String × Json))
  | .obj members =>
      let known := members.filter fun m => layout.names.contains m.1
      if (known.map Prod.fst).Nodup then some known else none
  | .arr items =>
      if layout.least ≤ items.length ∧ items.length ≤ layout.names.length then
        some (layout.names.zip items)
      else none
  | _ => none

/-- The field of a name, if a record gives it. -/
def Layout.field? (layout : Layout) (j : Json) (name : String) : Option Json :=
  (layout.fields? j).bind (·.lookup name)

/-- An object with exactly the declared fields gives all of them. -/
theorem Layout.fields?_obj {layout : Layout} {members : List (String × Json)}
    (hnames : members.map Prod.fst = layout.names) (hnodup : layout.names.Nodup) :
    layout.fields? (.obj members) = some members := by
  have hknown : members.filter (fun m => layout.names.contains m.1) = members := by
    rw [List.filter_eq_self, ← hnames]
    intro m hm
    exact List.contains_iff_mem.mpr (List.mem_map_of_mem hm)
  simp only [fields?, hknown, hnames, if_pos hnodup]

variable {α : Type}

/-- A field that must be given. -/
def required? (fields : List (String × Json)) (name : String) (value? : Json → Option α) : Option α :=
  match fields.lookup name with
  | some j => value? j
  | none => none

/-- A field that has a default. -/
def defaulting? (fields : List (String × Json)) (name : String) (value? : Json → Option α) (default : α) :
    Option α :=
  match fields.lookup name with
  | some j => value? j
  | none => some default

/-- A field that may be absent or null. -/
def optional? (fields : List (String × Json)) (name : String) (value? : Json → Option α) :
    Option (Option α) :=
  match fields.lookup name with
  | some .null => some none
  | some j => (value? j).map some
  | none => some none

/-- A value that may be null. -/
def nullable? (value? : Json → Option α) : Json → Option (Option α)
  | .null => some none
  | j => (value? j).map some

/-- An optional field that is given may be null. -/
theorem optional?_eq (fields : List (String × Json)) (name : String) (value? : Json → Option α) :
    optional? fields name value?
      = match fields.lookup name with
        | some j => nullable? value? j
        | none => some none := by
  rw [optional?]
  cases fields.lookup name with
  | none => rfl
  | some j => cases j <;> rfl

/-- Of a value that is not null, a value is read. -/
theorem nullable?_eq_some {value? : Json → Option α} {j : Json} {a? : Option α}
    (h : nullable? value? j = some a?) (hnull : j ≠ .null) : ∃ a, value? j = some a ∧ a? = some a := by
  unfold nullable? at h
  split at h
  · exact absurd rfl hnull
  · obtain ⟨a, ha, rfl⟩ := Option.map_eq_some_iff.mp h
    exact ⟨a, ha, rfl⟩

/-- An optional value is read back if no value is written as null. -/
theorem nullable?_ofOption {value? : Json → Option α} {write : α → Json}
    (hread : ∀ a, value? (write a) = some a) (hnull : ∀ a, write a ≠ .null) (a? : Option α) :
    nullable? value? (ofOption write a?) = some a? := by
  cases a? with
  | none => rfl
  | some a =>
      show nullable? value? (write a) = some (some a)
      unfold nullable?
      split
      · next h => exact absurd h (hnull a)
      · rw [hread]
        rfl

end Gatehouse.Json
