import Gatehouse.Command.Registry
import Mathlib.Data.List.Nodup

/-!
# `Gatehouse.Proofs.Command.Registration` — what registered commands have in common

`Registry.Built r` says that `r` comes from declarations that were registered one after the other. Of such a
registry, every trigger belongs to one command, and looking it up finds that command (`Registry.WellFormed`,
`Registry.Built.wellFormed`). The name of a command is one of its triggers, in lowercase as far as ASCII
goes, so commands have different names (`Registry.Built.names_nodup`).
-/

namespace Gatehouse

namespace Registry

/-! ## Successful registration -/

/-- A trigger is free if no command was registered with it. -/
theorem taken?_eq_none_iff (r : Registry) (triggers : List String) :
    r.taken? triggers = none ↔ ∀ t ∈ triggers, r.index.get? t = none := by
  unfold taken?
  rw [List.findSome?_eq_none_iff]
  simp only [Option.map_eq_none_iff]

theorem repeated?_eq_none_iff (seen triggers : List String) :
    repeated? seen triggers = none ↔ triggers.Nodup ∧ ∀ t ∈ triggers, t ∉ seen := by
  induction triggers generalizing seen with
  | nil => simp [repeated?]
  | cons t ts ih =>
      unfold repeated?
      by_cases h : t ∈ seen
      · rw [if_pos (List.contains_iff_mem.mpr h)]
        refine ⟨fun hnone => absurd hnone (Option.some_ne_none t), fun hall => ?_⟩
        exact absurd h (hall.2 t List.mem_cons_self)
      · rw [if_neg (by simpa using h), ih, List.nodup_cons]
        simp only [List.mem_cons, not_or]
        constructor
        · rintro ⟨hnodup, hfree⟩
          refine ⟨⟨fun hmem => (hfree t hmem).1 rfl, hnodup⟩, ?_⟩
          rintro u (rfl | hu)
          · exact h
          · exact (hfree u hu).2
        · rintro ⟨⟨hnew, hnodup⟩, hfree⟩
          exact ⟨hnodup, fun u hu => ⟨fun he => hnew (he ▸ hu), hfree u (.inr hu)⟩⟩

/-- Nothing is wrong with triggers that are different from each other and from those that are there. -/
theorem clash?_eq_none_iff (r : Registry) (d : Descriptor) :
    r.clash? d = none ↔ d.triggers.Nodup ∧ ∀ t ∈ d.triggers, r.index.get? t = none := by
  have htaken := r.taken?_eq_none_iff d.triggers
  have hrepeated := repeated?_eq_none_iff [] d.triggers
  simp only [List.not_mem_nil, not_false_eq_true, implies_true, and_true] at hrepeated
  rw [← htaken, ← hrepeated]
  unfold clash?
  cases r.taken? d.triggers <;> cases repeated? [] d.triggers <;> simp

/-- **A command that was registered** had triggers of its own, and the registry is the one with the command
    added. -/
theorem register_eq_ok_iff {r r' : Registry} {f : GateFactory} {d : Descriptor}
    {body : Context → Act Interrupt Unit} :
    r.register f d body = .ok r' ↔
      d.triggers.Nodup ∧ (∀ t ∈ d.triggers, r.index.get? t = none) ∧
        ∃ gates, f.buildAll d.name d.gates = .ok gates ∧ r' = r.add ⟨d, gates, body⟩ := by
  rw [← and_assoc, ← clash?_eq_none_iff, register_eq]
  cases r.clash? d with
  | some e => exact ⟨nofun, fun h => nomatch h.1⟩
  | none =>
      cases f.buildAll d.name d.gates with
      | error e => exact ⟨nofun, fun ⟨_, _, h, _⟩ => nomatch h⟩
      | ok gates =>
          constructor
          · intro h
            exact ⟨rfl, gates, rfl, (Except.ok.inj h).symm⟩
          · rintro ⟨-, gates', hgates, rfl⟩
            rw [Except.ok.inj hgates]

/-! ## The invariant -/

/-- What is looked up after a command was added. -/
theorem get?_foldl_insert (c : Command) (triggers : List String) (index : Table String Command)
    (t : String) :
    (triggers.foldl (fun index t => index.insert t c) index).get? t
      = if t ∈ triggers then some c else index.get? t := by
  induction triggers generalizing index with
  | nil => rfl
  | cons u triggers ih =>
      rw [List.foldl_cons, ih, Table.get?_insert]
      by_cases hmem : t ∈ triggers
      · simp [hmem]
      · by_cases heq : t = u <;> simp [hmem, heq]

theorem get?_add (r : Registry) (c : Command) (t : String) :
    (r.add c).index.get? t = if t ∈ c.descriptor.triggers then some c else r.index.get? t :=
  get?_foldl_insert c c.descriptor.triggers r.index t

/-- All triggers, in the order of registration. -/
def triggers (r : Registry) : List String :=
  r.commands.flatMap fun c => c.descriptor.triggers

/-- No trigger occurs twice, and the index leads from every trigger to its command. -/
structure WellFormed (r : Registry) : Prop where
  nodup : r.triggers.Nodup
  index : ∀ t c, r.index.get? t = some c ↔ c ∈ r.commands ∧ t ∈ c.descriptor.triggers

theorem WellFormed.empty : (∅ : Registry).WellFormed where
  nodup := List.nodup_nil
  index _ _ := ⟨nofun, fun h => nomatch h.1⟩

/-- A trigger that is not in the index is free. -/
theorem WellFormed.not_mem {r : Registry} (h : r.WellFormed) {t : String} (ht : r.index.get? t = none) :
    t ∉ r.triggers := by
  intro hmem
  obtain ⟨c, hc, htc⟩ := List.mem_flatMap.mp hmem
  rw [(h.index t c).mpr ⟨hc, htc⟩] at ht
  cases ht

/-- **Adding a command** whose triggers are free keeps the registry in order. -/
theorem WellFormed.add {r : Registry} (h : r.WellFormed) {c : Command} (hnodup : c.descriptor.triggers.Nodup)
    (hfree : ∀ t ∈ c.descriptor.triggers, r.index.get? t = none) : (r.add c).WellFormed where
  nodup := by
    show ((r.commands ++ [c]).flatMap _).Nodup
    rw [List.flatMap_append, List.flatMap_singleton]
    refine List.nodup_append.mpr ⟨h.nodup, hnodup, ?_⟩
    rintro t ht u hu rfl
    exact h.not_mem (hfree t hu) ht
  index t c' := by
    rw [get?_add]
    show _ ↔ c' ∈ r.commands ++ [c] ∧ _
    rw [List.mem_append, List.mem_singleton]
    -- A trigger of the new command leads to it, as no older command has the trigger.
    by_cases ht : t ∈ c.descriptor.triggers
    · rw [if_pos ht, Option.some.injEq]
      constructor
      · rintro rfl
        exact ⟨.inr rfl, ht⟩
      · rintro ⟨hold | rfl, ht'⟩
        · have hsome := (h.index t c').mpr ⟨hold, ht'⟩
          rw [hfree t ht] at hsome
          cases hsome
        · rfl
    · rw [if_neg ht, h.index t c']
      constructor
      · rintro ⟨hold, ht'⟩
        exact ⟨.inl hold, ht'⟩
      · rintro ⟨hold | rfl, ht'⟩
        · exact ⟨hold, ht'⟩
        · exact absurd ht' ht

/-! ## Registries that were built -/

/-- Registries that come from declarations. A declaration that cannot be registered leaves no trace. -/
inductive Built : Registry → Prop where
  | empty : Built ∅
  | register {r r' : Registry} {f : GateFactory} {name : String} {category : Category} {aliases : List String}
      {description : String} {usage gates : List String} {body : Context → Act Interrupt Unit} :
      Built r → r.register f (.declare name category aliases description usage gates) body = .ok r' → Built r'

theorem Built.wellFormed {r : Registry} (h : r.Built) : r.WellFormed := by
  induction h with
  | empty => exact .empty
  | register _ hr ih =>
      obtain ⟨hnodup, hfree, gates, -, rfl⟩ := register_eq_ok_iff.mp hr
      exact ih.add hnodup hfree

/-- The name of a command is one of its triggers, in lowercase as far as ASCII goes. -/
theorem Built.name_mem {r : Registry} (h : r.Built) {c : Command} (hc : c ∈ r.commands) :
    Text.asciiLowercased c.name ∈ c.descriptor.triggers := by
  induction h with
  | empty => cases hc
  | register _ hr ih =>
      obtain ⟨-, -, gates, -, rfl⟩ := register_eq_ok_iff.mp hr
      rcases List.mem_append.mp hc with hold | hnew
      · exact ih hold
      · rw [List.mem_singleton.mp hnew]
        exact List.mem_cons_self

/-- Commands that each have their name among triggers that occur once have different names. -/
theorem names_nodup_of_triggers {commands : List Command}
    (hnodup : (commands.flatMap fun c => c.descriptor.triggers).Nodup)
    (hname : ∀ c ∈ commands, Text.asciiLowercased c.name ∈ c.descriptor.triggers) :
    (commands.map Command.name).Nodup := by
  induction commands with
  | nil => exact List.nodup_nil
  | cons c commands ih =>
      rw [List.flatMap_cons, List.nodup_append] at hnodup
      obtain ⟨-, hrest, hdisjoint⟩ := hnodup
      rw [List.map_cons, List.nodup_cons]
      refine ⟨fun hmem => ?_, ih hrest fun c' hc' => hname c' (List.mem_cons_of_mem _ hc')⟩
      -- Two commands of one name would share the trigger that the name gives.
      obtain ⟨c', hc', heq⟩ := List.mem_map.mp hmem
      have hfirst := hname c List.mem_cons_self
      have hother := hname c' (List.mem_cons_of_mem _ hc')
      rw [heq] at hother
      exact hdisjoint _ hfirst _ (List.mem_flatMap.mpr ⟨c', hc', hother⟩) rfl

/-- **Commands have different names.** -/
theorem Built.names_nodup {r : Registry} (h : r.Built) : (r.commands.map Command.name).Nodup :=
  names_nodup_of_triggers h.wellFormed.nodup fun _ hc => h.name_mem hc

/-- What a trigger of any case stands for is a registered command. -/
theorem Built.mem_of_resolve? {r : Registry} (h : r.Built) {trigger : String} {c : Command}
    (hc : r.resolve? trigger = some c) : c ∈ r.commands :=
  ((h.wellFormed.index _ c).mp hc).1

end Registry

end Gatehouse
