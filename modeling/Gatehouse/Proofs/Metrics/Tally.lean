import Gatehouse.Metrics.Basic
import Mathlib.Algebra.GroupWithZero.Nat
import Mathlib.Data.List.Induction
import Mathlib.Data.List.Nodup

/-!
# `Gatehouse.Proofs.Metrics.Tally` — counters and what was counted

A table of counters that starts empty is a tally: it is determined by the label lists that were counted, in
order. What it holds for one list of labels is how often labels of the same digest were counted
(`count_tally`), and all of it adds up to the number of things counted (`total_tally`). Where the digest
tells the counted labels apart, a sum over any choice of series is a count of the history (`sumOf_tally`).

A new value in a finite map takes the place of the old one in a sum over its entries (`Table.sum_insert`).
-/

namespace Gatehouse

/-! ## Sums over a finite map -/

namespace Table

variable {κ ν : Type} [DecidableEq κ]

/-- Taking out a key takes its entry out of a sum. -/
theorem sum_erase (t : Table κ ν) (k : κ) (f : κ × ν → Nat) :
    ((t.erase k).entries.map f).sum + ((t.get? k).map fun v => f (k, v)).getD 0 = (t.entries.map f).sum := by
  obtain ⟨entries, h⟩ := t
  simp only [erase, filter, get?]
  induction entries with
  | nil => rfl
  | cons e entries ih =>
      rw [List.map_cons, List.nodup_cons] at h
      by_cases hk : e.1 = k
      · -- No later entry has the key, so the selection drops this one and keeps the rest.
        subst hk
        have hall : ∀ e' ∈ entries, decide (e'.1 ≠ e.1) = true := by
          intro e' he'
          refine decide_eq_true fun heq => h.1 ?_
          exact List.mem_map.mpr ⟨e', he', heq⟩
        rw [List.filter_cons_of_neg (by simp), List.filter_eq_self.mpr hall, List.find?_cons_of_pos (by simp)]
        simp only [List.map_cons, List.sum_cons, Option.map_some, Option.getD_some]
        exact Nat.add_comm _ _
      · have hrest := ih h.2
        rw [List.find?_cons_of_neg (by simpa using hk), List.filter_cons_of_pos (by simpa using hk)]
        simp only [List.map_cons, List.sum_cons]
        omega

/-- A new value of a key takes the place of the old one in a sum. -/
theorem sum_insert (t : Table κ ν) (k : κ) (v : ν) (f : κ × ν → Nat) :
    ((t.insert k v).entries.map f).sum + ((t.get? k).map fun v => f (k, v)).getD 0
      = (t.entries.map f).sum + f (k, v) := by
  have herase := sum_erase t k f
  show (f (k, v) :: ((t.erase k).entries.map f)).sum + _ = _
  rw [List.sum_cons]
  omega

end Table

namespace Metrics.SeriesTable

/-! ## Counters -/

/-- How often something was counted under a list of labels. -/
def count (t : SeriesTable Nat) (labels : List String) : Nat :=
  (t.get? labels).getD 0

/-- The sum over the series whose labels satisfy `p`. -/
def sumOf (t : SeriesTable Nat) (p : List String → Bool) : Nat :=
  (t.toList.map fun s => if p s.labels then s.value else 0).sum

/-- The sum over all series. -/
def total (t : SeriesTable Nat) : Nat :=
  t.sumOf fun _ => true

/-- The counters after everything in a history was counted, oldest first. -/
def tally (history : List (List String)) : SeriesTable Nat :=
  history.foldl increment ∅

theorem tally_concat (history : List (List String)) (labels : List String) :
    tally (history ++ [labels]) = (tally history).increment labels := by
  rw [tally, List.foldl_append]
  rfl

/-! ## One more -/

/-- Counting changes the counter of every list of labels with the same digest, and no other. -/
theorem count_increment (t : SeriesTable Nat) (labels labels' : List String) :
    (t.increment labels).count labels'
      = t.count labels' + if digest labels' = digest labels then 1 else 0 := by
  unfold count increment
  rw [get?_update]
  by_cases h : digest labels' = digest labels
  · have hget : t.get? labels' = t.get? labels := by
      simp only [get?, series?, h]
    rw [if_pos h, if_pos h, hget]
    rfl
  · rw [if_neg h, if_neg h]
    rfl

/-- What a series adds to a sum. -/
def share (p : List String → Bool) (s : Series Nat) : Nat :=
  if p s.labels then s.value else 0

theorem sumOf_eq (t : SeriesTable Nat) (p : List String → Bool) :
    t.sumOf p = (t.table.entries.map fun e => share p e.2).sum := by
  simp only [sumOf, toList, Table.values, List.map_map]
  rfl

/-- A series with a value that is one higher adds one more, if it is in the sum. -/
theorem share_succ (p : List String → Bool) (s : Series Nat) :
    share p { s with value := s.value + 1 } = share p s + if p s.labels then 1 else 0 := by
  unfold share
  by_cases hp : p s.labels <;> simp [hp]

theorem increment_table (t : SeriesTable Nat) (labels : List String) :
    (t.increment labels).table = t.table.insert (digest labels)
      ⟨(t.seriesOr labels 0).labels, (t.seriesOr labels 0).value + 1⟩ := rfl

/-- Counting adds one to a sum that takes in the series of the labels. -/
theorem sumOf_increment (t : SeriesTable Nat) (labels : List String) (p : List String → Bool) :
    (t.increment labels).sumOf p = t.sumOf p + if p (t.seriesOr labels 0).labels then 1 else 0 := by
  have hold : ((t.table.get? (digest labels)).map fun s => share p s).getD 0
      = share p (t.seriesOr labels 0) := by
    unfold seriesOr series?
    cases t.table.get? (digest labels) with
    | none => simp [share]
    | some s => rfl
  -- The new entry takes the place of the old one, if there was one, in the sum over the entries.
  have hnew := Table.sum_insert t.table (digest labels)
    ⟨(t.seriesOr labels 0).labels, (t.seriesOr labels 0).value + 1⟩ fun e => share p e.2
  simp only [hold, share_succ] at hnew
  rw [sumOf_eq, sumOf_eq, increment_table]
  omega

/-- Counting adds one to the sum over all series. -/
theorem total_increment (t : SeriesTable Nat) (labels : List String) :
    (t.increment labels).total = t.total + 1 := by
  rw [total, sumOf_increment]
  rfl

/-! ## A whole history -/

/-- A counter holds how often labels of its digest were counted. -/
theorem count_tally (history : List (List String)) (labels : List String) :
    (tally history).count labels = history.countP fun l => digest labels = digest l := by
  induction history using List.reverseRecOn with
  | nil => rfl
  | append_singleton history l ih =>
      rw [tally_concat, count_increment, ih, List.countP_append, List.countP_singleton]
      simp

/-- All counters add up to the number of things counted. -/
theorem total_tally (history : List (List String)) : (tally history).total = history.length := by
  induction history using List.reverseRecOn with
  | nil => rfl
  | append_singleton history l ih =>
      rw [tally_concat, total_increment, ih, List.length_append]
      rfl

/-- Labels of a history that the digest tells apart. -/
def Distinguished (history : List (List String)) : Prop :=
  ∀ l ∈ history, ∀ l' ∈ history, digest l = digest l' → l = l'

/-- Labels with different digests are told apart. -/
theorem Distinguished.of_nodup {history : List (List String)} (h : (history.map digest).Nodup) :
    Distinguished history :=
  fun _ hl _ hl' heq => List.inj_on_of_nodup_map h hl hl' heq

theorem Distinguished.subset {history history' : List (List String)} (h : Distinguished history')
    (hsub : history ⊆ history') : Distinguished history :=
  fun l hl l' hl' => h l (hsub hl) l' (hsub hl')

/-- Every series goes by labels that were counted. -/
theorem labels_mem_of_series?_tally {history : List (List String)} {labels : List String} {s : Series Nat}
    (h : (tally history).series? labels = some s) : s.labels ∈ history := by
  induction history using List.reverseRecOn generalizing labels s with
  | nil => cases h
  | append_singleton history l ih =>
      rw [tally_concat, series?, increment_table, Table.get?_insert] at h
      split at h
      · -- The series was counted last. It goes by its old labels, or by the new ones if it is new.
        obtain rfl := Option.some.inj h
        show ((tally history).seriesOr l 0).labels ∈ _
        unfold seriesOr
        cases hl : (tally history).series? l with
        | none => simp
        | some s => exact List.mem_append_left _ (ih hl)
      · exact List.mem_append_left _ (ih h)

/-- If the digest tells apart what was counted, a sum over series is a count of the history. -/
theorem sumOf_tally {history : List (List String)} (h : Distinguished history) (p : List String → Bool) :
    (tally history).sumOf p = history.countP p := by
  induction history using List.reverseRecOn with
  | nil => rfl
  | append_singleton history l ih =>
      -- The series that is counted goes by `l` itself, not just by labels of the same digest.
      have hlabels : ((tally history).seriesOr l 0).labels = l := by
        unfold seriesOr
        cases hl : (tally history).series? l with
        | none => rfl
        | some s =>
            have hmem := List.mem_append_left [l] (labels_mem_of_series?_tally hl)
            exact h s.labels hmem l (by simp) (digest_of_series? hl)
      rw [tally_concat, sumOf_increment, hlabels, ih (h.subset (List.subset_append_left _ _)),
        List.countP_append, List.countP_singleton]

end Metrics.SeriesTable

end Gatehouse
