import Gatehouse.Table
import Gatehouse.Toml.Datetime
import Gatehouse.Toml.Reader
import Gatehouse.Toml.Writer

/-!
# `Gatehouse.Locale.Catalog` — the texts of one language

A catalog is written as a tree of tables. Its entries are the leaves of the tree, addressed by the keys on
the way to them with dots between.

## Contents
- `Catalog`, `Catalog.get?`.
- `leaves`: the leaves of a tree with their paths, in the order of their keys.
- `leafText`: the text of a leaf.
- `Catalog.ofTree`, `Catalog.read?`.
-/

namespace Gatehouse

/-- The texts of one language. -/
structure Catalog where
  /-- The code of the language, such as `en_US`. -/
  code : String
  entries : Table String String
  deriving DecidableEq

namespace Catalog

instance : Inhabited Catalog := ⟨⟨"", Table.empty⟩⟩

/-- The text of a key. -/
def get? (c : Catalog) (key : String) : Option String :=
  c.entries.get? key

/-- A leaf of a tree with the keys on the way to it. -/
abbrev Leaf := List String × Toml

/-- Branches in the order of their keys with one more, which comes before others of its key. -/
def insertBranch (b : String × List Leaf) : List (String × List Leaf) → List (String × List Leaf)
  | [] => [b]
  | first :: rest => if b.1 ≤ first.1 then b :: first :: rest else first :: insertBranch b rest

/-- The leaves of several branches, in the order of the keys of the branches. -/
def joinBranches (branches : List (String × List Leaf)) : List Leaf :=
  (branches.foldr insertBranch []).flatMap fun b => b.2.map fun l => (b.1 :: l.1, l.2)

mutual

/-- The leaves of a tree: every value that is not a table. -/
def leaves : Toml → List Leaf
  | .table entries => joinBranches (branches entries)
  | v => [([], v)]

/-- The entries of a table with the leaves of their values. -/
def branches : List (String × Toml) → List (String × List Leaf)
  | [] => []
  | (key, v) :: entries => (key, leaves v) :: branches entries

end

/-- The text of an element of a list of lines. A date or time is shown as the table that stands for it. -/
def lineText : Toml → String
  | .string s => s
  | .datetime t => (Toml.datetimeTable t).text
  | v => v.text

/-- The text of a leaf: strings stand for themselves, a list has a line for each element. -/
def leafText : Toml → String
  | .array items => String.intercalate "\n" (items.map lineText)
  | v => lineText v

/-- A path with dots between its keys. -/
def dotted (path : List String) : String :=
  String.intercalate "." path

/-- The catalog that is written as a tree. Of two leaves with one address the later counts. -/
def ofTree (code : String) (entries : Toml.Entries) : Catalog :=
  ⟨code, Table.ofList ((leaves (.table entries)).map fun l => (dotted l.1, leafText l.2))⟩

/-- The catalog of a document. Tables that stand for dates and times are leaves, and must be well formed. -/
def read? (code source : String) : Option Catalog :=
  ((Toml.read? source).bind Toml.revealEntries?).map (ofTree code)

end Catalog

end Gatehouse
