import Gatehouse.Clock
import Gatehouse.Table

/-!
# `Gatehouse.Cache` — values that are remembered for a while

An entry is valid for a fixed time after it was inserted. What has expired is invisible to lookups at once
and takes up room until the next sweep.

## Contents
- `Cache`, `get?`, `insert`, `sweep`, `size`, `dropped`.
- `get?_insert_self`, `get?_insert_of_ne`, `get?_sweep`: what a lookup finds after a change.
- `dropped_eq`: a sweep drops what has expired.
-/

namespace Gatehouse

/-- Values with the time of their insertion. -/
structure Cache (κ ν : Type) where
  /-- How long an entry is valid. -/
  lifetime : Nat
  entries : Table κ (ν × Nat)

namespace Cache

variable {κ ν : Type}

/-- A cache that holds nothing. -/
def empty (lifetime : Nat) : Cache κ ν :=
  ⟨lifetime, Table.empty⟩

/-- Whether an entry that was inserted at `inserted` is still valid. -/
def isFresh (c : Cache κ ν) (now inserted : Nat) : Bool :=
  Clock.elapsed now inserted < c.lifetime

/-- What is valid now was valid before. -/
theorem isFresh_of_le {c : Cache κ ν} {now later inserted : Nat} (h : now ≤ later)
    (hfresh : c.isFresh later inserted = true) : c.isFresh now inserted = true := by
  have hlater : Clock.elapsed later inserted < c.lifetime := of_decide_eq_true hfresh
  exact decide_eq_true (Nat.lt_of_le_of_lt (Clock.elapsed_le h inserted) hlater)

/-- The cache without what has expired. -/
def sweep (c : Cache κ ν) (now : Nat) : Cache κ ν :=
  { c with entries := c.entries.filter fun _ e => c.isFresh now e.2 }

/-- The number of entries, valid or not. -/
def size (c : Cache κ ν) : Nat :=
  c.entries.size

/-- The number of entries that a sweep drops. -/
def dropped (c : Cache κ ν) (now : Nat) : Nat :=
  c.size - (c.sweep now).size

/-- A sweep drops every entry that is a lifetime old. -/
theorem dropped_eq (c : Cache κ ν) (now : Nat) :
    c.dropped now = c.entries.entries.countP fun e => c.lifetime ≤ Clock.elapsed now e.2.2 := by
  have hkept : (c.sweep now).size = c.entries.entries.countP fun e => c.isFresh now e.2.2 :=
    List.countP_eq_length_filter.symm
  have hall : c.size = (c.entries.entries.countP fun e => c.isFresh now e.2.2)
      + c.entries.entries.countP fun e => c.lifetime ≤ Clock.elapsed now e.2.2 := by
    rw [size, Table.size, List.length_eq_countP_add_countP fun e => c.isFresh now e.2.2]
    simp [isFresh]
  rw [dropped, hkept, hall, Nat.add_sub_cancel_left]

variable [DecidableEq κ]

/-- The value of a key, if it is still valid. -/
def get? (c : Cache κ ν) (k : κ) (now : Nat) : Option ν :=
  match c.entries.get? k with
  | some (v, inserted) => if c.isFresh now inserted then some v else none
  | none => none

/-- The cache in which `k` has the value `v` from now on. -/
def insert (c : Cache κ ν) (k : κ) (v : ν) (now : Nat) : Cache κ ν :=
  { c with entries := c.entries.insert k (v, now) }

/-! ## Lookups after a change -/

variable {c : Cache κ ν} {k k' : κ} {now later : Nat}

/-- A lookup finds the value of the entry as long as the entry is valid. -/
theorem get?_eq (c : Cache κ ν) (k : κ) (now : Nat) :
    c.get? k now = ((c.entries.get? k).filter fun e => c.isFresh now e.2).map Prod.fst := by
  rw [get?]
  cases c.entries.get? k with
  | none => rfl
  | some e => by_cases h : c.isFresh now e.2 = true <;> simp [Option.filter, h]

@[simp] theorem get?_empty (lifetime : Nat) (k : κ) (now : Nat) :
    (empty lifetime : Cache κ ν).get? k now = none := rfl

/-- Without a lifetime nothing is ever found. -/
theorem get?_of_lifetime_zero (h : c.lifetime = 0) (k : κ) (now : Nat) : c.get? k now = none := by
  rw [get?_eq, Option.map_eq_none_iff, Option.filter_eq_none_iff]
  intro e _
  simp [isFresh, h]

theorem get?_insert_self (c : Cache κ ν) (k : κ) (v : ν) (inserted now : Nat) :
    (c.insert k v inserted).get? k now = if c.isFresh now inserted then some v else none := by
  rw [get?, insert, Table.get?_insert_self]
  rfl

theorem get?_insert_of_ne (c : Cache κ ν) (v : ν) (inserted now : Nat) (h : k' ≠ k) :
    (c.insert k v inserted).get? k' now = c.get? k' now := by
  rw [get?, insert, Table.get?_insert_of_ne _ _ h]
  rfl

/-- A sweep drops nothing that could still be found. -/
theorem get?_sweep (h : now ≤ later) : (c.sweep now).get? k later = c.get? k later := by
  have hfresh (e : ν × Nat) :
      (c.isFresh now e.2 && c.isFresh later e.2) = c.isFresh later e.2 := by
    cases hlater : c.isFresh later e.2 with
    | false => exact Bool.and_false _
    | true => rw [isFresh_of_le h hlater, Bool.true_and]
  rw [get?_eq, get?_eq, sweep, Table.get?_filter, Option.filter_filter]
  congr 2
  funext e
  exact hfresh e

end Cache

end Gatehouse
