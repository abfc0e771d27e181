import Gatehouse.Cache

/-!
# `Gatehouse.Proofs.Store.Expiry` — the last write wins, for a lifetime

Insertions, lookups and sweeps come in any order and for any keys (`Op`), while time does not go backwards. A lookup
finds the value that was last inserted under its key if that was less than a lifetime ago, and otherwise nothing. What
the key had before that insertion does not matter, nor do lookups of it since then. A sweep drops and counts the stored
entries that are a lifetime old (`remembers_last_insertion`).

The entry of a key changes in two ways only: an insertion of the key replaces it, and a sweep that finds it too old
drops it (`entry_after_of_quiet`). An entry that is too old for a sweep is too old for every lookup after it. So a cache
that is swept stays like one that is not (`Alike.sweep`), and two runs that differ in their sweeps alone find the same
(`lookups_filter`).
-/

namespace Gatehouse.Cache

variable {κ ν : Type}

/-! ## Runs -/

/-- What can happen to a cache. -/
inductive Op (κ ν : Type) where
  | insert (k : κ) (v : ν) (now : Nat)
  | get (k : κ) (now : Nat)
  | sweep (now : Nat)
  deriving DecidableEq, Repr

namespace Op

/-- When it happens. -/
def time : Op κ ν → Nat
  | .insert _ _ now => now
  | .get _ now => now
  | .sweep now => now

def isSweep : Op κ ν → Bool
  | .sweep _ => true
  | _ => false

/-- Whether an entry that was inserted at `inserted` outlasts it. A sweep drops entries that are a lifetime old. -/
def spares (lifetime inserted : Nat) : Op κ ν → Bool
  | .sweep now => Clock.elapsed now inserted < lifetime
  | _ => true

/-- An entry that is young enough now was young enough for every sweep so far. -/
theorem spares_of_le {op : Op κ ν} {lifetime inserted now : Nat} (h : op.time ≤ now)
    (hfresh : Clock.elapsed now inserted < lifetime) : op.spares lifetime inserted = true := by
  cases op with
  | insert k v t => rfl
  | get k t => rfl
  | sweep t => exact decide_eq_true (Nat.lt_of_le_of_lt (Clock.elapsed_le h inserted) hfresh)

variable [DecidableEq κ]

/-- Whether it is an insertion of a key. -/
def inserts (k : κ) : Op κ ν → Bool
  | .insert k' _ _ => k' = k
  | _ => false

/-- The cache after it. A lookup leaves the cache as it is. -/
def apply (c : Cache κ ν) : Op κ ν → Cache κ ν
  | .insert k v now => c.insert k v now
  | .get _ _ => c
  | .sweep now => c.sweep now

end Op

variable [DecidableEq κ] {c c' : Cache κ ν} {ops ops' since : List (Op κ ν)} {op : Op κ ν} {k : κ} {v : ν}
  {lifetime inserted lo now : Nat}

/-- The cache after a run. -/
def after (ops : List (Op κ ν)) (c : Cache κ ν) : Cache κ ν :=
  ops.foldl Op.apply c

/-- What the lookups of a run find, in order. -/
def lookups : List (Op κ ν) → Cache κ ν → List (Option ν)
  | [], _ => []
  | .insert k v now :: ops, c => lookups ops (c.insert k v now)
  | .get k now :: ops, c => c.get? k now :: lookups ops c
  | .sweep now :: ops, c => lookups ops (c.sweep now)

/-- The latest insertion of a key in a run is that of `v` at `inserted`, and `since` is what came after it. -/
structure Latest (k : κ) (v : ν) (inserted : Nat) (since ops : List (Op κ ν)) : Prop where
  made : ∃ before, ops = before ++ .insert k v inserted :: since
  last : ∀ op ∈ since, op.inserts k = false

/-- A key has a latest insertion in a run, or it was never inserted. -/
theorem exists_latest (k : κ) (ops : List (Op κ ν)) :
    (∃ v inserted since, Latest k v inserted since ops) ∨ ∀ op ∈ ops, op.inserts k = false := by
  induction ops with
  | nil => exact .inr (List.forall_mem_nil _)
  | cons op ops ih =>
      rcases ih with ⟨v, inserted, since, ⟨before, rfl⟩, hlast⟩ | hnone
      · exact .inl ⟨v, inserted, since, ⟨op :: before, rfl⟩, hlast⟩
      · cases hop : op.inserts k with
        | false => exact .inr (List.forall_mem_cons.mpr ⟨hop, hnone⟩)
        | true =>
            cases op with
            | insert k' v now =>
                obtain rfl : k' = k := of_decide_eq_true hop
                exact .inl ⟨v, now, ops, ⟨[], rfl⟩, hnone⟩
            | get k' now => cases hop
            | sweep now => cases hop

/-! ## The entry of one key -/

theorem after_append (ops ops' : List (Op κ ν)) (c : Cache κ ν) : after (ops ++ ops') c = after ops' (after ops c) :=
  List.foldl_append

theorem lifetime_apply (c : Cache κ ν) (op : Op κ ν) : (op.apply c).lifetime = c.lifetime := by
  cases op <;> rfl

theorem lifetime_after (ops : List (Op κ ν)) (c : Cache κ ν) : (after ops c).lifetime = c.lifetime := by
  induction ops generalizing c with
  | nil => rfl
  | cons op ops ih => exact (ih (op.apply c)).trans (lifetime_apply c op)

theorem isFresh_after (ops : List (Op κ ν)) (lifetime now inserted : Nat) :
    (after ops (empty lifetime)).isFresh now inserted = decide (Clock.elapsed now inserted < lifetime) := by
  rw [isFresh, lifetime_after]
  rfl

theorem filter_true (e? : Option (ν × Nat)) : (e?.filter fun _ => true) = e? := by
  cases e? <;> rfl

/-- What is no insertion of the key leaves its entry as it is, or drops it. -/
theorem entry_apply_of_quiet (h : op.inserts k = false) (c : Cache κ ν) :
    (op.apply c).entries.get? k = (c.entries.get? k).filter fun e => op.spares c.lifetime e.2 := by
  cases op with
  | insert k' v now =>
      have hother : k ≠ k' := fun he => of_decide_eq_false h he.symm
      rw [Op.apply, insert, Table.get?_insert_of_ne _ _ hother]
      exact (filter_true _).symm
  | get k' now => exact (filter_true _).symm
  | sweep now => exact Table.get?_filter _ _ _

/-- **Without an insertion of its key** an entry stays what it is, until a sweep finds it too old. -/
theorem entry_after_of_quiet (h : ∀ op ∈ since, op.inserts k = false) (c : Cache κ ν) :
    (after since c).entries.get? k
      = (c.entries.get? k).filter fun e => since.all fun op => op.spares c.lifetime e.2 := by
  induction since generalizing c with
  | nil => exact (filter_true _).symm
  | cons op since ih =>
      have hrest := ih (fun op' hmem => h op' (List.mem_cons_of_mem _ hmem)) (op.apply c)
      rw [lifetime_apply, entry_apply_of_quiet (h op List.mem_cons_self), Option.filter_filter] at hrest
      exact hrest

/-- **An insertion stays the entry of its key** until the key is inserted again or a sweep finds it too old. -/
theorem entry_after_insert (h : ∀ op ∈ since, op.inserts k = false) (c : Cache κ ν) (v : ν) (inserted : Nat) :
    (after (.insert k v inserted :: since) c).entries.get? k
      = if since.all (Op.spares c.lifetime inserted) then some (v, inserted) else none := by
  have hentry : (c.insert k v inserted).entries.get? k = some (v, inserted) := Table.get?_insert_self _ _ _
  have hsince := entry_after_of_quiet h (c.insert k v inserted)
  rw [hentry, Option.filter_some] at hsince
  exact hsince

/-- The entry of a key after a run is its latest insertion, if that outlasted what came since. -/
theorem Latest.entry (h : Latest k v inserted since ops) (lifetime : Nat) :
    (after ops (empty lifetime)).entries.get? k
      = if since.all (Op.spares lifetime inserted) then some (v, inserted) else none := by
  obtain ⟨⟨before, rfl⟩, hlast⟩ := h
  have hentry := entry_after_insert hlast (after before (empty lifetime)) v inserted
  rw [lifetime_after] at hentry
  rw [after_append]
  exact hentry

/-- A key that was not inserted has no entry. -/
theorem entry_of_not_inserted (h : ∀ op ∈ ops, op.inserts k = false) (lifetime : Nat) :
    (after ops (empty lifetime)).entries.get? k = none :=
  entry_after_of_quiet h (empty lifetime)

/-- The stored entries are the latest insertions of their keys, but for those that a sweep found too old. -/
theorem entry_eq_some_iff :
    (after ops (empty lifetime)).entries.get? k = some (v, inserted) ↔
      ∃ since, Latest k v inserted since ops ∧ ∀ op ∈ since, op.spares lifetime inserted = true := by
  constructor
  · intro hentry
    rcases exists_latest k ops with ⟨v', inserted', since, hlatest⟩ | hnone
    · rw [hlatest.entry] at hentry
      split at hentry
      · next hspared =>
          cases hentry
          exact ⟨since, hlatest, List.all_eq_true.mp hspared⟩
      · cases hentry
    · rw [entry_of_not_inserted hnone] at hentry
      cases hentry
  · rintro ⟨since, hlatest, hspared⟩
    rw [hlatest.entry, if_pos (List.all_eq_true.mpr hspared)]

/-- **A lookup finds the latest insertion** if that is less than a lifetime old. -/
theorem Latest.get?_eq (h : Latest k v inserted since ops) (hnow : ∀ op ∈ ops, op.time ≤ now) (lifetime : Nat) :
    (after ops (empty lifetime)).get? k now = if Clock.elapsed now inserted < lifetime then some v else none := by
  rw [Cache.get?_eq, h.entry]
  simp only [isFresh_after]
  by_cases hfresh : Clock.elapsed now inserted < lifetime
  · have hspared : since.all (Op.spares lifetime inserted) = true := by
      obtain ⟨before, rfl⟩ := h.made
      refine List.all_eq_true.mpr fun op hop => Op.spares_of_le (hnow op ?_) hfresh
      exact List.mem_append_right _ (List.mem_cons_of_mem _ hop)
    rw [if_pos hspared, Option.filter_some, if_pos (decide_eq_true hfresh), if_pos hfresh]
    rfl
  · -- Here it does not matter whether a sweep has dropped the entry already.
    rw [if_neg hfresh, Option.map_eq_none_iff, Option.filter_eq_none_iff]
    intro e hentry
    split at hentry
    · cases hentry
      exact fun h => hfresh (of_decide_eq_true h)
    · cases hentry

/-! ## Two runs -/

/-- From some time on, lookups find the same in two caches. -/
structure Alike (c c' : Cache κ ν) (lo : Nat) : Prop where
  lifetime : c.lifetime = c'.lifetime
  get? : ∀ k now, lo ≤ now → c.get? k now = c'.get? k now

theorem Alike.refl (c : Cache κ ν) (lo : Nat) : Alike c c lo :=
  ⟨rfl, fun _ _ _ => rfl⟩

theorem Alike.later {lo' : Nat} (h : Alike c c' lo) (hle : lo ≤ lo') : Alike c c' lo' :=
  ⟨h.lifetime, fun k now hnow => h.get? k now (Nat.le_trans hle hnow)⟩

/-- An insertion into both keeps them alike. -/
theorem Alike.insert (h : Alike c c' lo) (k : κ) (v : ν) (inserted : Nat) :
    Alike (c.insert k v inserted) (c'.insert k v inserted) lo := by
  refine ⟨h.lifetime, fun k' now hnow => ?_⟩
  by_cases hkey : k' = k
  · subst hkey
    rw [get?_insert_self, get?_insert_self, isFresh, isFresh, h.lifetime]
  · rw [get?_insert_of_ne _ _ _ _ hkey, get?_insert_of_ne _ _ _ _ hkey]
    exact h.get? k' now hnow

/-- **A sweep of one of them** keeps them alike. -/
theorem Alike.sweep (h : Alike c c' lo) : Alike (c.sweep lo) c' lo :=
  ⟨h.lifetime, fun k now hnow => (get?_sweep hnow).trans (h.get? k now hnow)⟩

/-- Two runs find the same if one of them goes without the sweeps of the other. -/
theorem Alike.lookups_eq (h : Alike c c' lo) (hsorted : (lo :: ops.map Op.time).Pairwise (· ≤ ·)) :
    lookups ops c = lookups (ops.filter fun op => !op.isSweep) c' := by
  -- On the run. The caches are alike from the time of the step before on.
  induction ops generalizing c c' lo with
  | nil => rfl
  | cons op ops ih =>
      obtain ⟨hlo, hrest⟩ := List.pairwise_cons.mp hsorted
      have halike : Alike c c' op.time := h.later (hlo _ List.mem_cons_self)
      cases op with
      | insert k v now => exact ih (halike.insert k v now) hrest
      | get k now =>
          have hfound : c.get? k now = c'.get? k now := halike.get? k now (Nat.le_refl now)
          rw [lookups, hfound, ih halike hrest]
          rfl
      | sweep now => exact ih halike.sweep hrest

/-- **Lookups find what they find without the sweeps.** -/
theorem lookups_filter (h : (ops.map Op.time).Pairwise (· ≤ ·)) (c : Cache κ ν) :
    lookups ops c = lookups (ops.filter fun op => !op.isSweep) c :=
  (Alike.refl c 0).lookups_eq (List.pairwise_cons.mpr ⟨fun t _ => Nat.zero_le t, h⟩)

/-! ## Exact expiry -/

/-- **What is promised of a cache** to which a run has happened and that is used at the time `now`. -/
structure Remembers (lifetime : Nat) (ops : List (Op κ ν)) (now : Nat) : Prop where
  /-- A lookup finds the value of the latest insertion of its key if that is less than a lifetime old, and otherwise
      nothing, whatever came before it, and whatever came since: lookups of the key, sweeps, and insertions of other
      keys. -/
  found : ∀ k v inserted since, Latest k v inserted since ops →
    (after ops (empty lifetime)).get? k now = if Clock.elapsed now inserted < lifetime then some v else none
  /-- Of a key that was never inserted it finds nothing. -/
  missing : ∀ k, (∀ op ∈ ops, op.inserts k = false) → (after ops (empty lifetime)).get? k now = none
  /-- The stored entries are the latest insertions of their keys, but for those that a sweep found too old. -/
  stored : ∀ k v inserted, (after ops (empty lifetime)).entries.get? k = some (v, inserted) ↔
    ∃ since, Latest k v inserted since ops ∧ ∀ op ∈ since, op.spares lifetime inserted = true
  /-- A sweep leaves the stored entries that are less than a lifetime old, as they are. -/
  kept : ∀ k v inserted, ((after ops (empty lifetime)).sweep now).entries.get? k = some (v, inserted) ↔
    (after ops (empty lifetime)).entries.get? k = some (v, inserted) ∧ Clock.elapsed now inserted < lifetime
  /-- It counts the others. -/
  dropped : (after ops (empty lifetime)).dropped now
    = (after ops (empty lifetime)).entries.entries.countP fun e => lifetime ≤ Clock.elapsed now e.2.2
  /-- Sweeps make no difference to lookups, wherever they are put in or left out. -/
  unswept : ∀ ops', (ops'.map Op.time).Pairwise (· ≤ ·) →
    (ops'.filter fun op => !op.isSweep) = (ops.filter fun op => !op.isSweep) →
    lookups ops' (empty lifetime) = lookups ops (empty lifetime)

/-- **A cache is a map in which the last write wins, and expires exactly.** -/
theorem remembers_last_insertion (lifetime : Nat) (h : (ops.map Op.time ++ [now]).Pairwise (· ≤ ·)) :
    Remembers lifetime ops now := by
  obtain ⟨hsorted, -, hlast⟩ := List.pairwise_append.mp h
  have hnow : ∀ op ∈ ops, op.time ≤ now := fun op hop =>
    hlast _ (List.mem_map_of_mem hop) now List.mem_cons_self
  constructor
  case found => exact fun k v inserted since hlatest => hlatest.get?_eq hnow lifetime
  case missing =>
    intro k hnone
    rw [get?_eq, entry_of_not_inserted hnone]
    rfl
  case stored => exact fun k v inserted => entry_eq_some_iff
  case kept =>
    intro k v inserted
    rw [sweep, Table.get?_filter, Option.filter_eq_some_iff, isFresh_after, decide_eq_true_iff]
  case dropped =>
    rw [dropped_eq, lifetime_after]
    rfl
  case unswept =>
    intro ops' hsorted' hsame
    rw [lookups_filter hsorted', hsame, ← lookups_filter hsorted]

/-- An invitation that is renewed, and a poll that is swept away. -/
def inviteRun : List (Op String Nat) :=
  [.insert "invite" 3 0, .insert "poll" 8 1, .get "invite" 9, .insert "invite" 4 9, .sweep 12, .get "poll" 12,
    .get "invite" 18]

/-- With a lifetime of ten, the second invitation is found at 18, when the first would be too old, and not any more
    at 19, when a sweep drops it. -/
theorem remembers_last_insertion_inviteRun :
    (inviteRun.map Op.time ++ [18]).Pairwise (· ≤ ·) ∧ (inviteRun.map Op.time ++ [19]).Pairwise (· ≤ ·) ∧
    (after inviteRun (empty 10)).get? "invite" 18 = some 4 ∧ (after inviteRun (empty 10)).get? "invite" 19 = none ∧
    (after inviteRun (empty 10)).get? "topic" 19 = none ∧
    (after inviteRun (empty 10)).dropped 18 = 0 ∧ (after inviteRun (empty 10)).dropped 19 = 1 ∧
    lookups (inviteRun.filter fun op => !op.isSweep) (empty 10) = lookups inviteRun (empty 10) ∧
    lookups inviteRun (empty 10) = [some 3, none, some 4] := by
  have h₁₈ : (inviteRun.map Op.time ++ [18]).Pairwise (· ≤ ·) := by decide
  have h₁₉ : (inviteRun.map Op.time ++ [19]).Pairwise (· ≤ ·) := by decide
  have hlatest : Latest "invite" 4 9 [.sweep 12, .get "poll" 12, .get "invite" 18] inviteRun :=
    ⟨⟨inviteRun.take 3, rfl⟩, by decide⟩
  have hthen := remembers_last_insertion 10 h₁₈
  have hlater := remembers_last_insertion 10 h₁₉
  exact ⟨h₁₈, h₁₉, hthen.found _ _ _ _ hlatest, hlater.found _ _ _ _ hlatest, hlater.missing _ (by decide),
    hthen.dropped.trans (by decide), hlater.dropped.trans (by decide), hthen.unswept _ (by decide) (by decide),
    by decide⟩

/-- A sweep at a time that the lookup after it has not reached yet does make a difference. -/
example : lookups [.insert "invite" 3 0, .sweep 10, .get "invite" 9] (empty 10) = [none] ∧
    lookups [.insert "invite" 3 0, .get "invite" 9] (empty 10) = [some 3] := by
  decide

end Gatehouse.Cache
