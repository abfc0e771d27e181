import Gatehouse.Table

/-!
# `Gatehouse.Metrics.Series` — values told apart by labels

A value is kept under the values of its labels. Lists of labels are told apart by a digest of 64 bits, which
is taken of the bytes of all labels in a row. Lists with the same digest are one series, which goes by the
labels that came first: after `["ab", "c"]`, the labels `["a", "bc"]` count towards `["ab", "c"]`.

## Contents
- `digest`: the digest of a list of labels. Only the joined text matters (`digest_cons_cons`).
- `Series`, `SeriesTable`: the values under all labels.
- `SeriesTable.get?`, `SeriesTable.update`, and what a lookup finds after an update (`get?_update`).
-/

namespace Gatehouse.Metrics

/-! ## Digests -/

/-- The bytes of all labels in a row. -/
def labelBytes (labels : List String) : List UInt8 :=
  labels.flatMap fun label => label.toList.flatMap String.utf8EncodeChar

/-- A digest after one more byte: the byte is mixed in, then spread over all bits. -/
def absorb (d : UInt64) (b : UInt8) : UInt64 :=
  (d ^^^ b.toUInt64) * 0x100000001b3

/-- The digest of a list of labels. -/
def digest (labels : List String) : UInt64 :=
  (labelBytes labels).foldl absorb 0xcbf29ce484222325

/-- Where one label ends and the next begins does not matter. -/
theorem digest_cons_cons (a b : String) (labels : List String) :
    digest (a :: b :: labels) = digest ((a ++ b) :: labels) := by
  simp [digest, labelBytes]

/-! ## Series -/

/-- A value with its labels. -/
structure Series (ν : Type) where
  labels : List String
  value : ν
  deriving DecidableEq, Repr

/-- The values under all labels. -/
structure SeriesTable (ν : Type) where
  table : Table UInt64 (Series ν)
  digest_labels : ∀ e ∈ table.entries, digest e.2.labels = e.1

namespace SeriesTable

variable {ν : Type}

/-- No labels have a value. -/
def empty : SeriesTable ν :=
  ⟨Table.empty, by simp [Table.empty]⟩

instance : EmptyCollection (SeriesTable ν) := ⟨empty⟩

instance : Inhabited (SeriesTable ν) := ⟨empty⟩

/-- The series that a list of labels belongs to. -/
def series? (t : SeriesTable ν) (labels : List String) : Option (Series ν) :=
  t.table.get? (digest labels)

/-- The value of a list of labels. -/
def get? (t : SeriesTable ν) (labels : List String) : Option ν :=
  (t.series? labels).map Series.value

/-- All series. -/
def toList (t : SeriesTable ν) : List (Series ν) :=
  t.table.values

/-- A series goes by labels of its digest. -/
theorem digest_of_series? {t : SeriesTable ν} {labels : List String} {s : Series ν}
    (h : t.series? labels = some s) : digest s.labels = digest labels := by
  simp only [series?, Table.get?, Option.map_eq_some_iff] at h
  obtain ⟨e, he, rfl⟩ := h
  have hk : e.1 = digest labels := by simpa using List.find?_some he
  rw [t.digest_labels e (List.mem_of_find?_eq_some he), hk]

/-- The series of a list of labels, which starts with `default` if there is none yet. -/
def seriesOr (t : SeriesTable ν) (labels : List String) (default : ν) : Series ν :=
  (t.series? labels).getD ⟨labels, default⟩

/-- Also a new series goes by labels of its digest. -/
theorem digest_seriesOr (t : SeriesTable ν) (labels : List String) (default : ν) :
    digest (t.seriesOr labels default).labels = digest labels := by
  unfold seriesOr
  cases h : t.series? labels with
  | none => rfl
  | some s => exact digest_of_series? h

/-- The table in which the value of a list of labels, or `default` if it has none, is replaced by `f` of it. -/
def update (t : SeriesTable ν) (labels : List String) (default : ν) (f : ν → ν) : SeriesTable ν :=
  let s := t.seriesOr labels default
  ⟨t.table.insert (digest labels) { s with value := f s.value }, by
    intro e he
    rcases List.mem_cons.mp he with rfl | he
    · exact t.digest_seriesOr labels default
    · exact t.digest_labels e (List.mem_filter.mp he).1⟩

/-- An update changes the value of all labels with the digest and no other. -/
theorem get?_update (t : SeriesTable ν) (labels labels' : List String) (default : ν) (f : ν → ν) :
    (t.update labels default f).get? labels' =
      if digest labels' = digest labels then some (f ((t.get? labels).getD default))
      else t.get? labels' := by
  simp only [get?, series?, update, Table.get?_insert]
  split
  · simp only [Option.map_some, seriesOr, series?]
    cases t.table.get? (digest labels) <;> rfl
  · rfl

end SeriesTable

end Gatehouse.Metrics
