import Gatehouse.Capability.Basic

/-!
# `Gatehouse.Capability.Set` — sets of capabilities

A set has one bit for each capability. The administrator capability is an ordinary member as far as the set
is concerned; `allows` and `missing` are the operations that let it stand for every other one.

## Contents
- `Capabilities`, `empty`, `full`, `insert`, `remove`, `contains`, `toList`.
- `allows`, `missing`: the tests that respect the administrator capability.
- `Capabilities.parse`, `Capabilities.ofNames`: the two written forms.
- `contains_insert`, `contains_remove`, `contains_ofList`, `ext_contains`: membership decides everything.
- `s ⊆ t`, `contains_missing`, and `isEmpty_missing_iff`: nothing is missing if every wanted capability is granted.
-/

namespace Gatehouse

/-- A set of capabilities, one bit for each. -/
structure Capabilities where
  bits : BitVec 18
  deriving DecidableEq, Repr

namespace Capabilities

/-- The set without members. -/
def empty : Capabilities :=
  ⟨0⟩

instance : EmptyCollection Capabilities := ⟨empty⟩

instance : Inhabited Capabilities := ⟨empty⟩

/-- Whether `c` is a member. The administrator capability does not stand for others here. -/
def contains (s : Capabilities) (c : Capability) : Bool :=
  s.bits.getLsbD c.index

/-- The set with `c` added. -/
def insert (s : Capabilities) (c : Capability) : Capabilities :=
  ⟨s.bits ||| BitVec.twoPow 18 c.index⟩

/-- The set with `c` taken out. -/
def remove (s : Capabilities) (c : Capability) : Capabilities :=
  ⟨s.bits &&& ~~~ BitVec.twoPow 18 c.index⟩

/-- The set of the listed capabilities. -/
def ofList (cs : List Capability) : Capabilities :=
  cs.foldl insert empty

/-- Every capability. -/
def full : Capabilities :=
  ofList Capability.all

/-- The members, in the fixed order of capabilities. -/
def toList (s : Capabilities) : List Capability :=
  Capability.all.filter s.contains

/-- The number of members. -/
def size (s : Capabilities) : Nat :=
  s.toList.length

/-- Whether the set has no member. -/
def isEmpty (s : Capabilities) : Bool :=
  s.bits = 0

/-- Whether `c` is granted: administrators hold every capability. -/
def allows (s : Capabilities) (c : Capability) : Bool :=
  s.contains .administrator || s.contains c

/-- The capabilities of `wanted` that `s` does not grant. -/
def missing (s wanted : Capabilities) : Capabilities :=
  if s.contains .administrator then empty else ⟨wanted.bits &&& ~~~ s.bits⟩

/-- The names of the members, in the fixed order. -/
def names (s : Capabilities) : List String :=
  s.toList.map Capability.name

/-- The names of the members, separated by commas. -/
def text (s : Capabilities) : String :=
  String.intercalate ", " s.names

/-- The set of a list of names. A blank name is an error. -/
def ofNames (names : List String) : Except Capability.Unknown Capabilities :=
  (names.mapM Capability.parse).map ofList

/-- The set of a text with names between commas. Blank pieces are passed over. -/
def parse (s : String) : Except Capability.Unknown Capabilities :=
  ofNames (((Text.fields ',' s.toList).filter fun piece => !piece.all Text.isBlank).map String.ofList)

/-! ## Membership -/

@[simp] theorem contains_empty (c : Capability) : empty.contains c = false := by
  simp [contains, empty]

theorem contains_insert (s : Capabilities) (c d : Capability) :
    (s.insert c).contains d = (decide (d = c) || s.contains d) := by
  have hd := Capability.index_lt d
  simp only [contains, insert, BitVec.getLsbD_or, BitVec.getLsbD_twoPow]
  by_cases h : d = c
  · subst h
    simp [hd]
  · have : ¬ c.index = d.index := fun hi => h (Capability.index_inj hi).symm
    simp [h, this]

theorem contains_remove (s : Capabilities) (c d : Capability) :
    (s.remove c).contains d = (!decide (d = c) && s.contains d) := by
  have hd := Capability.index_lt d
  simp only [contains, remove, BitVec.getLsbD_and, BitVec.getLsbD_not, BitVec.getLsbD_twoPow]
  by_cases h : d = c
  · subst h
    simp [hd]
  · have : ¬ c.index = d.index := fun hi => h (Capability.index_inj hi).symm
    simp [h, this, hd]

/-- The listed capabilities are the members. -/
theorem contains_ofList {cs : List Capability} {c : Capability} : (ofList cs).contains c = true ↔ c ∈ cs := by
  have key : ∀ s : Capabilities, (cs.foldl insert s).contains c = true ↔ c ∈ cs ∨ s.contains c = true := by
    induction cs with
    | nil => simp
    | cons d cs ih =>
        intro s
        rw [List.foldl_cons, ih, contains_insert, List.mem_cons]
        simp only [Bool.or_eq_true, decide_eq_true_eq]
        rw [or_left_comm, or_assoc]
  rw [ofList, key, contains_empty]
  simp

/-- Sets with the same members are equal. -/
theorem ext_contains {s t : Capabilities} (h : ∀ c, s.contains c = t.contains c) : s = t := by
  have hget : ∀ i, i < 18 → ∃ c ∈ Capability.all, c.index = i := by decide
  have hbits : s.bits = t.bits := by
    apply BitVec.eq_of_getLsbD_eq
    intro i hi
    obtain ⟨c, _, rfl⟩ := hget i hi
    exact h c
  cases s
  cases t
  simp_all

/-- A set is empty if it has no member. -/
theorem isEmpty_iff (s : Capabilities) : s.isEmpty = true ↔ ∀ c, s.contains c = false := by
  constructor
  · intro h c
    have hbits : s.bits = 0 := by simpa [isEmpty] using h
    simp [contains, hbits]
  · intro h
    have hempty : s = empty := ext_contains fun c => by rw [h c, contains_empty]
    rw [hempty]
    rfl

/-! ## What is granted -/

instance : HasSubset Capabilities := ⟨fun s t => ∀ c, s.contains c = true → t.contains c = true⟩

/-- A larger set grants no less. -/
theorem allows_mono {s t : Capabilities} (h : s ⊆ t) {c : Capability} (hc : s.allows c = true) :
    t.allows c = true := by
  unfold allows at hc ⊢
  rw [Bool.or_eq_true] at hc ⊢
  exact hc.imp (h .administrator) (h c)

/-- What is missing is wanted and not granted. -/
theorem contains_missing (s wanted : Capabilities) (c : Capability) :
    (s.missing wanted).contains c = (wanted.contains c && !s.allows c) := by
  unfold missing allows
  by_cases hadmin : s.contains .administrator = true
  · rw [if_pos hadmin, hadmin, contains_empty]
    simp
  · rw [if_neg hadmin, Bool.eq_false_iff.mpr hadmin, Bool.false_or]
    have hc := Capability.index_lt c
    simp [contains, hc]

/-- Nothing is missing if every wanted capability is granted. -/
theorem isEmpty_missing_iff (s wanted : Capabilities) :
    (s.missing wanted).isEmpty = true ↔ ∀ c, wanted.contains c = true → s.allows c = true := by
  rw [isEmpty_iff]
  refine forall_congr' fun c => ?_
  rw [contains_missing]
  cases wanted.contains c <;> cases s.allows c <;> simp

end Capabilities

end Gatehouse
