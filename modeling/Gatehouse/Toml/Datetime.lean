import Gatehouse.Toml.Scalars

/-!
# `Gatehouse.Toml.Datetime` — dates and times that are written as tables

A table whose first key is `Toml.datetimeMember` stands for a date or time. Its value has to be a string
with the date or time in it; whatever follows in the table is passed over.

## Contents
- `Toml.reveal?`: a value with such tables replaced by the dates and times that they stand for.
-/

namespace Gatehouse.Toml

/-- The date or time that a value is the text of. -/
def datetimeOf? : Toml → Option Toml
  | .string s => (datetime? s.toList).map .datetime
  | _ => none

mutual

/-- A value with every table that stands for a date or time replaced by it. -/
def reveal? : Toml → Option Toml
  | .array items => (revealItems? items).map .array
  | .table [] => some (.table [])
  | .table ((key, v) :: rest) =>
      if key = datetimeMember then datetimeOf? v
      else do
        let v ← reveal? v
        let rest ← revealEntries? rest
        return .table ((key, v) :: rest)
  | v => some v

/-- The same for the elements of an array. -/
def revealItems? : List Toml → Option (List Toml)
  | [] => some []
  | item :: items => do
      let item ← reveal? item
      let items ← revealItems? items
      return item :: items

/-- The same for the values of entries. -/
def revealEntries? : List (String × Toml) → Option Entries
  | [] => some []
  | (key, v) :: entries => do
      let v ← reveal? v
      let entries ← revealEntries? entries
      return (key, v) :: entries

end

end Gatehouse.Toml
