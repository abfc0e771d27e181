import Mathlib.Data.List.Nodup
import Gatehouse.Toml.Basic

/-!
# `Gatehouse.Proofs.Toml.Paths` — the keys that lead to a value

Keys lead from a table to what is in it, one table deeper with each of them (`LeadsTo`). An array is an end: what is
in its elements has no keys of its own. Where no table has two entries of one key (`Distinct`), keys lead to one value
at most (`LeadsTo.unique`).
-/

namespace Gatehouse.Toml

/-- The value is not a table. -/
def IsLeaf : Toml → Prop
  | .table _ => False
  | _ => True

/-- The keys lead from one value to another. -/
inductive LeadsTo : Toml → List String → Toml → Prop where
  | here (v : Toml) : LeadsTo v [] v
  | through {entries : Entries} {key : String} {path : List String} {v w : Toml} :
      (key, v) ∈ entries → LeadsTo v path w → LeadsTo (.table entries) (key :: path) w

/-- No table that keys lead to has two entries of one key. -/
inductive Distinct : Toml → Prop where
  | leaf {v : Toml} : IsLeaf v → Distinct v
  | table {entries : Entries} :
      (entries.map Prod.fst).Nodup → (∀ e ∈ entries, Distinct e.2) → Distinct (.table entries)

/-- No key of a table that keys lead to has a dot in it. -/
def Undotted (t : Toml) : Prop :=
  ∀ path v, LeadsTo t path v → ∀ key ∈ path, '.' ∉ key.toList

variable {t v w : Toml} {entries : Entries} {key : String} {path : List String}

/-! ## Where keys lead -/

theorem leadsTo_nil_iff : LeadsTo t [] v ↔ v = t := by
  constructor
  · intro h
    cases h
    rfl
  · rintro rfl
    exact .here v

theorem leadsTo_cons_iff :
    LeadsTo (.table entries) (key :: path) w ↔ ∃ v, (key, v) ∈ entries ∧ LeadsTo v path w := by
  constructor
  · intro h
    cases h with
    | through hmem hrest => exact ⟨_, hmem, hrest⟩
  · rintro ⟨v, hmem, hrest⟩
    exact .through hmem hrest

/-- No key leads on from a value that is not a table. -/
theorem IsLeaf.leadsTo_iff (h : IsLeaf t) : LeadsTo t path v ↔ path = [] ∧ v = t := by
  constructor
  · intro hlead
    cases hlead with
    | here => exact ⟨rfl, rfl⟩
    | through => exact h.elim
  · rintro ⟨rfl, rfl⟩
    exact .here v

/-- At least one key leads to a value of a table. -/
theorem LeadsTo.ne_nil (h : LeadsTo (.table entries) path v) (hleaf : IsLeaf v) : path ≠ [] := by
  rintro rfl
  rw [leadsTo_nil_iff.mp h] at hleaf
  exact hleaf

/-! ## Distinct keys -/

theorem distinct_table_iff :
    Distinct (.table entries) ↔ (entries.map Prod.fst).Nodup ∧ ∀ e ∈ entries, Distinct e.2 := by
  constructor
  · intro h
    cases h with
    | leaf hleaf => exact hleaf.elim
    | table hkeys hvalues => exact ⟨hkeys, hvalues⟩
  · rintro ⟨hkeys, hvalues⟩
    exact .table hkeys hvalues

/-- **Keys lead to one value at most.** -/
theorem LeadsTo.unique (h : Distinct t) (hv : LeadsTo t path v) (hw : LeadsTo t path w) : v = w := by
  induction hv generalizing w with
  | here => exact (leadsTo_nil_iff.mp hw).symm
  | @through entries key path v _ hmem _ ih =>
      obtain ⟨hkeys, hvalues⟩ := distinct_table_iff.mp h
      obtain ⟨v', hmem', hw⟩ := leadsTo_cons_iff.mp hw
      -- Both ways go through the same entry.
      obtain ⟨-, rfl⟩ := Prod.mk.inj (List.inj_on_of_nodup_map hkeys hmem hmem' rfl)
      exact ih (hvalues _ hmem) hw

/-! ## Keys without dots -/

theorem IsLeaf.undotted (h : IsLeaf t) : Undotted t := by
  intro path v hlead
  obtain ⟨rfl, -⟩ := h.leadsTo_iff.mp hlead
  exact List.forall_mem_nil _

theorem undotted_table_iff : Undotted (.table entries) ↔ ∀ e ∈ entries, '.' ∉ e.1.toList ∧ Undotted e.2 := by
  constructor
  · intro h e he
    refine ⟨h [e.1] e.2 (.through he (.here e.2)) e.1 List.mem_cons_self, fun path v hlead key hkey => ?_⟩
    exact h (e.1 :: path) v (.through he hlead) key (List.mem_cons_of_mem _ hkey)
  · intro h path v hlead
    cases hlead with
    | here => exact List.forall_mem_nil _
    | through he hrest =>
        obtain ⟨hkey, hbelow⟩ := h _ he
        exact List.forall_mem_cons.mpr ⟨hkey, hbelow _ _ hrest⟩

end Gatehouse.Toml
