/-!
# `Gatehouse.Table` — finite maps

A finite map is a list of entries with distinct keys. The order of the entries carries no meaning.

## Contents
- `Table`, `get?`, `insert`, `erase`, `filter`, `ofList`, `size`.
- `get?_insert_self`, `get?_insert_of_ne`, `get?_erase_self`, `get?_erase_of_ne`, `get?_filter`: what a lookup
  finds after a change.
- `mem_keys_iff`: the keys are what a lookup finds.
-/

namespace Gatehouse

/-- A finite map from `κ` to `ν`. -/
structure Table (κ ν : Type) where
  entries : List (κ × ν)
  keys_nodup : (entries.map Prod.fst).Nodup
  deriving DecidableEq

namespace Table

variable {κ ν : Type}

/-- The map without entries. -/
def empty : Table κ ν :=
  ⟨[], by simp⟩

instance : EmptyCollection (Table κ ν) := ⟨empty⟩

instance : Inhabited (Table κ ν) := ⟨empty⟩

/-- The keys that have a value. -/
def keys (t : Table κ ν) : List κ :=
  t.entries.map Prod.fst

/-- The values. -/
def values (t : Table κ ν) : List ν :=
  t.entries.map Prod.snd

/-- The number of entries. -/
def size (t : Table κ ν) : Nat :=
  t.entries.length

/-- Distinct keys stay distinct in any selection of entries. -/
theorem nodup_filter {entries : List (κ × ν)} (p : κ × ν → Bool)
    (h : (entries.map Prod.fst).Nodup) : ((entries.filter p).map Prod.fst).Nodup :=
  (List.Sublist.map Prod.fst List.filter_sublist).nodup h

/-- The entries that satisfy `p`. -/
def filter (p : κ → ν → Bool) (t : Table κ ν) : Table κ ν :=
  ⟨t.entries.filter fun e => p e.1 e.2, nodup_filter _ t.keys_nodup⟩

variable [DecidableEq κ]

/-- The value of a key. -/
def get? (t : Table κ ν) (k : κ) : Option ν :=
  (t.entries.find? fun e => e.1 = k).map Prod.snd

/-- Whether a key has a value. -/
def contains (t : Table κ ν) (k : κ) : Bool :=
  (t.get? k).isSome

/-- The map without the entry of `k`. -/
def erase (t : Table κ ν) (k : κ) : Table κ ν :=
  t.filter fun k' _ => k' ≠ k

/-- The map in which `k` has the value `v` and every other key what it had. -/
def insert (t : Table κ ν) (k : κ) (v : ν) : Table κ ν :=
  ⟨(k, v) :: (t.erase k).entries, by
    rw [List.map_cons, List.nodup_cons]
    refine ⟨?_, (t.erase k).keys_nodup⟩
    intro h
    obtain ⟨e, he, hk⟩ := List.mem_map.mp h
    have := (List.mem_filter.mp he).2
    simp_all⟩

/-- The map in which the value of `k`, or `default` if it has none, is replaced by `f` of it. -/
def update (t : Table κ ν) (k : κ) (default : ν) (f : ν → ν) : Table κ ν :=
  t.insert k (f ((t.get? k).getD default))

/-- The map of a list of entries, where later entries replace earlier ones. -/
def ofList (entries : List (κ × ν)) : Table κ ν :=
  entries.foldl (fun t e => t.insert e.1 e.2) empty

/-! ## Lookups after a change -/

@[simp] theorem get?_empty (k : κ) : (empty : Table κ ν).get? k = none := rfl

@[simp] theorem get?_insert_self (t : Table κ ν) (k : κ) (v : ν) : (t.insert k v).get? k = some v := by
  simp [get?, insert]

theorem get?_erase_of_ne (t : Table κ ν) {k k' : κ} (h : k' ≠ k) : (t.erase k).get? k' = t.get? k' := by
  simp only [get?, erase, filter, List.find?_filter]
  congr 2
  funext e
  by_cases he : e.1 = k'
  · simp [he, h]
  · simp [he]

@[simp] theorem get?_erase_self (t : Table κ ν) (k : κ) : (t.erase k).get? k = none := by
  simp [get?, erase, filter, List.find?_filter]

theorem get?_insert_of_ne (t : Table κ ν) {k k' : κ} (v : ν) (h : k' ≠ k) :
    (t.insert k v).get? k' = t.get? k' := by
  have hne : ¬ k = k' := fun hk => h hk.symm
  rw [← get?_erase_of_ne t h]
  simp [get?, insert, hne]

theorem get?_insert (t : Table κ ν) (k k' : κ) (v : ν) :
    (t.insert k v).get? k' = if k' = k then some v else t.get? k' := by
  by_cases h : k' = k
  · subst h
    simp
  · simp [h, get?_insert_of_ne t v h]

/-- A lookup in a list of entries with distinct keys finds every entry. -/
theorem find?_eq_some_iff {entries : List (κ × ν)} (h : (entries.map Prod.fst).Nodup) (k : κ) (v : ν) :
    entries.find? (fun e => e.1 = k) = some (k, v) ↔ (k, v) ∈ entries := by
  constructor
  · exact List.mem_of_find?_eq_some
  · intro hmem
    induction entries with
    | nil => cases hmem
    | cons e entries ih =>
        rw [List.map_cons, List.nodup_cons] at h
        rcases List.mem_cons.mp hmem with rfl | hmem
        · simp
        · have hne : e.1 ≠ k := by
            rintro rfl
            exact h.1 (List.mem_map.mpr ⟨_, hmem, rfl⟩)
          rw [List.find?_cons_of_neg (by simpa using hne)]
          exact ih h.2 hmem

/-- A lookup finds the entry of a key. -/
theorem get?_eq_some_iff (t : Table κ ν) (k : κ) (v : ν) : t.get? k = some v ↔ (k, v) ∈ t.entries := by
  rw [← find?_eq_some_iff t.keys_nodup]
  constructor
  · intro h
    obtain ⟨e, he, rfl⟩ := Option.map_eq_some_iff.mp h
    have hk : e.1 = k := by simpa using List.find?_some he
    rw [he, ← hk]
  · intro h
    rw [get?, h]
    rfl

theorem mem_keys_iff (t : Table κ ν) (k : κ) : k ∈ t.keys ↔ ∃ v, t.get? k = some v := by
  simp only [keys, List.mem_map, Prod.exists, get?_eq_some_iff, exists_and_right, exists_eq_right]

/-- Of the entries of a key, the selection keeps those that satisfy `p`. -/
theorem get?_filter (t : Table κ ν) (p : κ → ν → Bool) (k : κ) :
    (t.filter p).get? k = (t.get? k).filter (p k) := by
  ext v
  rw [get?_eq_some_iff, Option.filter_eq_some_iff, get?_eq_some_iff]
  exact List.mem_filter

end Table

end Gatehouse
