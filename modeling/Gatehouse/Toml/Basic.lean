/-!
# `Gatehouse.Toml.Basic` — TOML values

## Contents
- `Toml`: a value. Dates and times are kept as their normal text.
- `Toml.Entries`: the entries of a table, in order of appearance.
- `Toml.datetimeMember`, `Toml.datetimeTable`: dates and times as tables.
-/

namespace Gatehouse

/-- A TOML value. -/
inductive Toml where
  | string (value : String)
  | integer (value : Int)
  | float (value : Float)
  | boolean (value : Bool)
  /-- A date, a time or both, in normal form. -/
  | datetime (text : String)
  | array (items : List Toml)
  | table (entries : List (String × Toml))
  deriving Inhabited

/-- The entries of a table. -/
abbrev Toml.Entries := List (String × Toml)

/-- The key of a table that stands for a date or time. -/
def Toml.datetimeMember : String := "$__toml_private_datetime"

/-- The table that stands for a date or time. -/
def Toml.datetimeTable (text : String) : Toml :=
  .table [(Toml.datetimeMember, .string text)]

end Gatehouse
