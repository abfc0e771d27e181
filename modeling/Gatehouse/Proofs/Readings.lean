import Gatehouse.Json.Basic
import Mathlib.Data.List.Forall2

/-!
# `Gatehouse.Proofs.Readings` — what is read part by part

A reading in steps is as good as its steps (`bind_eq_ok_iff`). A list is read if each of its elements is, and then
in their order (`mapM_eq_ok_iff`). What is read from a list of written values is the list of these values
(`Json.listOf?_map`). Of values that only some elements have, those that are kept belong to some of the elements
(`filter_filterMap_eq`).
-/

namespace Gatehouse

variable {ε α β : Type}

/-! ## Steps -/

/-- Something is read in two steps exactly if each of them succeeds. -/
theorem bind_eq_ok_iff {x : Except ε α} {next : α → Except ε β} {b : β} :
    x >>= next = .ok b ↔ ∃ a, x = .ok a ∧ next a = .ok b := by
  cases x with
  | error e => exact ⟨nofun, fun ⟨_, h, _⟩ => nomatch h⟩
  | ok a =>
      refine ⟨fun h => ⟨a, rfl, h⟩, ?_⟩
      rintro ⟨a', ha, h⟩
      cases ha
      exact h

theorem map_eq_ok_iff {x : Except ε α} {f : α → β} {b : β} :
    x.map f = .ok b ↔ ∃ a, x = .ok a ∧ f a = b := by
  cases x with
  | error e => exact ⟨nofun, fun ⟨_, h, _⟩ => nomatch h⟩
  | ok a =>
      refine ⟨fun h => ⟨a, rfl, Except.ok.inj h⟩, ?_⟩
      rintro ⟨a', ha, rfl⟩
      cases ha
      rfl

theorem mapError_eq_ok_iff {ε' : Type} {x : Except ε α} {f : ε → ε'} {a : α} :
    x.mapError f = .ok a ↔ x = .ok a := by
  cases x with
  | error e => exact ⟨nofun, nofun⟩
  | ok a' => exact ⟨fun h => congrArg Except.ok (Except.ok.inj h), fun h => congrArg Except.ok (Except.ok.inj h)⟩

theorem toOption_eq_some_iff {x : Except ε α} {a : α} : x.toOption = some a ↔ x = .ok a := by
  cases x with
  | error e => exact ⟨nofun, nofun⟩
  | ok a' => exact ⟨fun h => congrArg Except.ok (Option.some.inj h), fun h => congrArg some (Except.ok.inj h)⟩

theorem exists_of_isOk {x : Except ε α} (h : x.isOk = true) : ∃ a, x = .ok a := by
  cases x with
  | error e => cases h
  | ok a => exact ⟨a, rfl⟩

/-- A reading of which something can be found out succeeds. -/
theorem exists_of_toOption_map {x : Except ε α} {f : α → β} {b : β} (h : x.toOption.map f = some b) :
    ∃ a, x = .ok a ∧ f a = b := by
  obtain ⟨a, ha, hb⟩ := Option.map_eq_some_iff.mp h
  exact ⟨a, toOption_eq_some_iff.mp ha, hb⟩

/-! ## Elements -/

/-- All elements are read exactly if each of them is, and then in their order. -/
theorem mapM_eq_ok_iff {read : α → Except ε β} {xs : List α} {ys : List β} :
    xs.mapM read = .ok ys ↔ List.Forall₂ (fun x y => read x = .ok y) xs ys := by
  induction xs generalizing ys with
  | nil =>
      rw [List.forall₂_nil_left_iff]
      exact ⟨fun h => (Except.ok.inj h).symm, fun h => congrArg Except.ok h.symm⟩
  | cons x xs ih =>
      rw [List.forall₂_cons_left_iff, List.mapM_cons]
      simp only [bind_eq_ok_iff, ih]
      constructor
      · rintro ⟨y, hy, rest, hrest, h⟩
        exact ⟨y, rest, hy, hrest, (Except.ok.inj h).symm⟩
      · rintro ⟨y, rest, hy, hrest, rfl⟩
        exact ⟨y, hy, rest, hrest, rfl⟩

/-- The elements of a list have partners exactly if each of them has one. -/
theorem exists_forall₂_iff {R : α → β → Prop} {xs : List α} :
    (∃ ys, List.Forall₂ R xs ys) ↔ ∀ x ∈ xs, ∃ y, R x y := by
  induction xs with
  | nil => exact ⟨fun _ => nofun, fun _ => ⟨[], .nil⟩⟩
  | cons x xs ih =>
      rw [List.forall_mem_cons, ← ih]
      simp only [List.forall₂_cons_left_iff]
      constructor
      · rintro ⟨_, y, ys, hy, hys, rfl⟩
        exact ⟨⟨y, hy⟩, ys, hys⟩
      · rintro ⟨⟨y, hy⟩, ys, hys⟩
        exact ⟨y :: ys, y, ys, hy, hys, rfl⟩

/-- Something is read from a list exactly if something is read from each element. -/
theorem exists_mapM_eq_ok_iff {read : α → Except ε β} {xs : List α} :
    (∃ ys, xs.mapM read = .ok ys) ↔ ∀ x ∈ xs, ∃ y, read x = .ok y := by
  simp only [mapM_eq_ok_iff]
  exact exists_forall₂_iff

/-- What was read are the readings of the elements. -/
theorem mem_of_forall₂ {R : α → β → Prop} {xs : List α} {ys : List β} (h : List.Forall₂ R xs ys)
    (hunique : ∀ x y y', R x y → R x y' → y = y') (y : β) : y ∈ ys ↔ ∃ x ∈ xs, R x y := by
  induction h with
  | nil => simp
  | @cons x y' xs ys hxy _ ih =>
      rw [List.mem_cons, ih, List.exists_mem_cons_iff]
      refine or_congr_left ⟨?_, fun hy => hunique x y y' hy hxy⟩
      rintro rfl
      exact hxy

/-- What is kept of the values of elements are the values of the elements that are kept. -/
theorem filter_filterMap_eq {f : α → Option β} {g : α → β} {p : β → Bool} {q : α → Bool}
    (h : ∀ a, (f a).filter p = if q a then some (g a) else none) (l : List α) :
    (l.filterMap f).filter p = (l.filter q).map g := by
  induction l with
  | nil => rfl
  | cons a l ih =>
      have ha := h a
      rw [List.filter_filterMap] at ih ⊢
      rw [List.filterMap_cons, ha, ih, List.filter_cons]
      cases q a <;> rfl

/-- A list of written values is read back if each of them is. -/
theorem Json.listOf?_map {read? : Json → Option α} {write : α → Json} (h : ∀ a, read? (write a) = some a)
    (as : List α) : listOf? read? (.arr (as.map write)) = some as := by
  have hpure : read? ∘ write = pure := funext h
  show (as.map write).mapM read? = some as
  rw [List.mapM_map, hpure, List.mapM_pure]
  simp

end Gatehouse
