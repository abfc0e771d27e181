import Gatehouse.Toml.Basic

/-!
# `Gatehouse.Toml.Document` — building tables from headers and keys

A document is a sequence of headers and key-value lines, and each of them adds to one tree of tables. What
may be added to a table depends on how the table came to be: a header or an inline table defines it once
and for all, a dotted key may only extend tables that dotted keys made, and a table that exists only
because something below it does may still be defined.

## Contents
- `Origin`, `Node`: the tree.
- `Branch.set`, `Branch.erase`: changes of one entry. The order of entries is kept.
- `descend?`: the change of a table that a path leads to.
- `place?`, `openTable?`, `openElement?`: a key-value line, a header, and a header of an array.
- `Node.finish`: the finished value.
-/

namespace Gatehouse.Toml

/-- How a table came to be. -/
inductive Origin where
  /-- By a header of its own, or as the root. -/
  | defined
  /-- By a header further down. -/
  | implied
  /-- By a dotted key. -/
  | dotted
  deriving DecidableEq, Repr

/-- A tree of tables. -/
inductive Node where
  /-- A value that nothing can be added to. -/
  | value (v : Toml)
  | table (origin : Origin) (entries : List (String × Node))
  /-- The elements of an array of tables, newest first. -/
  | tables (elements : List (List (String × Node)))
  deriving Inhabited

/-- The entries of a table under construction. -/
abbrev Branch := List (String × Node)

/-- The entries with the value of `key` replaced, or added if there is none. -/
def Branch.set (branch : Branch) (key : String) (node : Node) : Branch :=
  match branch with
  | [] => [(key, node)]
  | e :: rest => if e.1 = key then (key, node) :: rest else e :: Branch.set rest key node

/-- The entries in which the table that `path` leads to is changed by `change`. Tables that are missing on
    the way are made; `byKey` tells whether a dotted key leads the way or a header. -/
def descend? (byKey : Bool) (change : Origin → Branch → Option Branch) :
    (path : List String) → Origin → Branch → Option Branch
  | [], origin, branch => change origin branch
  | key :: path, _, branch =>
      match branch.lookup key with
      | none =>
          let origin := if byKey then Origin.dotted else Origin.implied
          (descend? byKey change path origin []).map fun sub =>
            Branch.set branch key (.table origin sub)
      | some (.value _) => none
      | some (.table origin sub) =>
          if byKey && origin = .defined then none
          else
            (descend? byKey change path origin sub).map fun sub =>
              Branch.set branch key (.table origin sub)
      | some (.tables []) => none
      | some (.tables (sub :: older)) =>
          (descend? byKey change path .defined sub).map fun sub =>
            Branch.set branch key (.tables (sub :: older))

/-- The entries without `key`. -/
def Branch.erase (branch : Branch) (key : String) : Branch :=
  branch.filter fun e => e.1 ≠ key

/-- A path without its last key, and that key. -/
def splitLast? (path : List String) : Option (List String × String) :=
  path.getLast?.map fun key => (path.dropLast, key)

/-- Add the entry of a key-value line to a table. A plain key must not go into a table that a dotted key
    made, nor a dotted key into any other, and no key may have a value already. -/
def place? (path : List String) (v : Toml) (origin : Origin) (branch : Branch) : Option Branch :=
  match splitLast? path with
  | none => none
  | some (parents, key) =>
      let put (origin : Origin) (branch : Branch) : Option Branch :=
        if decide (origin = .dotted) = parents.isEmpty then none
        else if (branch.lookup key).isSome then none
        else some (Branch.set branch key (.value v))
      descend? true put parents origin branch

/-- Define the table of a header. It must be new, or have existed only for the sake of a table below it. In
    both cases it comes last among the entries around it. -/
def openTable? (path : List String) (root : Branch) : Option Branch :=
  match splitLast? path with
  | none => none
  | some (parents, key) =>
      let define (_ : Origin) (branch : Branch) : Option Branch :=
        match branch.lookup key with
        | none => some (Branch.set branch key (.table .defined []))
        | some (.table .implied sub) => some (Branch.set (branch.erase key) key (.table .defined sub))
        | some _ => none
      descend? false define parents .defined root

/-- Add an element to the array of tables of a header. -/
def openElement? (path : List String) (root : Branch) : Option Branch :=
  match splitLast? path with
  | none => none
  | some (parents, key) =>
      let extend (_ : Origin) (branch : Branch) : Option Branch :=
        match branch.lookup key with
        | none => some (Branch.set branch key (.tables [[]]))
        | some (.tables elements) => some (Branch.set branch key (.tables ([] :: elements)))
        | some _ => none
      descend? false extend parents .defined root

/-- Add a key-value line below the header `header`. -/
def addLine? (header path : List String) (v : Toml) (root : Branch) : Option Branch :=
  descend? false (place? path v) header .defined root

/-- The entries of an inline table. -/
def inlineBranch? (lines : List (List String × Toml)) : Option Branch :=
  lines.foldlM (fun branch line => place? line.1 line.2 .defined branch) []

/-! ## The finished value -/

mutual

/-- The value of a tree. -/
def Node.finish : Node → Toml
  | .value v => v
  | .table _ entries => .table (finishEntries entries)
  | .tables elements => .array (finishElements elements).reverse

/-- The values of entries. -/
def finishEntries : List (String × Node) → List (String × Toml)
  | [] => []
  | (key, node) :: rest => (key, node.finish) :: finishEntries rest

/-- The tables of an array, in the same order. -/
def finishElements : List (List (String × Node)) → List Toml
  | [] => []
  | entries :: rest => .table (finishEntries entries) :: finishElements rest

end

end Gatehouse.Toml
