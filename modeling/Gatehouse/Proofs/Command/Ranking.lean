import Gatehouse.Proofs.Command.Atomicity

/-!
# `Gatehouse.Proofs.Command.Ranking` — statistics depend on the uses alone

The statistics of a registry rank its commands by how often each was used (`Registry.Ranks`): every command that was
used is listed once with the number of its uses, the most used first, and of those that were used equally often in
the order of their names. Since commands have different names, no two entries are equal in rank. So there is only
one such list (`Registry.Ranks.unique`), in whatever order the commands were registered and used.
-/

namespace Gatehouse

/-! ## Uses -/

/-- The counts after commands of the given names were used, one after the other. -/
def Usage.ofUses (uses : List String) : Usage :=
  uses.foldl Usage.record Table.empty

theorem Usage.count_foldl_record (u : Usage) (uses : List String) (name : String) :
    (uses.foldl record u).count name = u.count name + uses.count name := by
  induction uses generalizing u with
  | nil => rfl
  | cons used uses ih =>
      rw [List.foldl_cons, ih, count_record, List.count_cons]
      by_cases h : name = used
      · subst h
        simp only [if_true, BEq.rfl]
        omega
      · have hne : (used == name) = false := beq_eq_false_iff_ne.mpr (Ne.symm h)
        simp only [h, hne, if_false, Bool.false_eq_true]
        omega

/-- Every use is counted. -/
theorem Usage.count_ofUses (uses : List String) (name : String) : (ofUses uses).count name = uses.count name := by
  rw [ofUses, count_foldl_record]
  exact Nat.zero_add _

/-! ## The order -/

namespace Usage

/-- One entry comes before another one: the higher count first, and then by name. -/
def Outranks (a b : String × Nat) : Prop :=
  b.2 < a.2 ∨ a.2 = b.2 ∧ a.1 < b.1

theorem precedes_iff {a b : String × Nat} : precedes a b = true ↔ b.2 < a.2 ∨ a.2 = b.2 ∧ a.1 ≤ b.1 := by
  simp [precedes]

theorem precedes_trans (a b c : String × Nat) (hab : precedes a b = true) (hbc : precedes b c = true) :
    precedes a c = true := by
  rw [precedes_iff] at *
  rcases hab with hab | ⟨hab, hname⟩
  · exact .inl (by omega)
  · rcases hbc with hbc | ⟨hbc, hname'⟩
    · exact .inl (by omega)
    · exact .inr ⟨hab.trans hbc, String.le_trans hname hname'⟩

theorem precedes_total (a b : String × Nat) : (precedes a b || precedes b a) = true := by
  rw [Bool.or_eq_true, precedes_iff, precedes_iff]
  rcases Nat.lt_trichotomy a.2 b.2 with h | h | h
  · exact .inr (.inl h)
  · rcases String.le_total a.1 b.1 with hname | hname
    · exact .inl (.inr ⟨h, hname⟩)
    · exact .inr (.inr ⟨h.symm, hname⟩)
  · exact .inl (.inl h)

/-- Of two entries with different names, the one that precedes the other outranks it. -/
theorem outranks_of_precedes {a b : String × Nat} (h : precedes a b = true) (hne : a.1 ≠ b.1) : Outranks a b := by
  rcases precedes_iff.mp h with hcount | ⟨hcount, hname⟩
  · exact .inl hcount
  · refine .inr ⟨hcount, String.not_le.mp fun hname' => ?_⟩
    exact hne (String.le_antisymm hname hname')

/-- No two entries outrank each other. -/
theorem Outranks.asymm {a b : String × Nat} (h : Outranks a b) : ¬ Outranks b a := by
  rintro (hcount | ⟨hcount, hname⟩)
  · rcases h with h | ⟨h, -⟩ <;> omega
  · rcases h with h | ⟨-, h⟩
    · omega
    · exact String.lt_irrefl _ (String.lt_trans h hname)

end Usage

/-! ## Rankings -/

namespace Registry

variable {r r' : Registry} {uses uses' : List String} {stats stats' : List (String × Nat)}

/-- A list ranks the commands of a registry by their uses. -/
structure Ranks (r : Registry) (uses : List String) (stats : List (String × Nat)) : Prop where
  /-- Names tell commands apart. -/
  names : (r.commands.map Command.name).Nodup
  /-- The commands that were used are listed with the number of their uses, and nothing else is. -/
  mem_iff : ∀ name n, (name, n) ∈ stats ↔ (∃ c ∈ r.commands, c.name = name) ∧ n = uses.count name ∧ 0 < n
  /-- None is listed twice. -/
  once : (stats.map Prod.fst).Nodup
  /-- Counts decrease, and where they do not, names increase. -/
  ordered : stats.Pairwise Usage.Outranks

/-- **There is one ranking only**, whatever the order of registration and the order of uses. -/
theorem Ranks.unique (h : r.Ranks uses stats) (h' : r'.Ranks uses' stats')
    (hnames : (r.commands.map Command.name).Perm (r'.commands.map Command.name)) (huses : uses.Perm uses') :
    stats = stats' := by
  have hregistered (name : String) : (∃ c ∈ r.commands, c.name = name) ↔ ∃ c ∈ r'.commands, c.name = name := by
    simpa only [List.mem_map] using hnames.mem_iff
  have hperm : stats.Perm stats' := by
    refine (List.perm_ext_iff_of_nodup h.once.of_map h'.once.of_map).mpr fun ⟨name, n⟩ => ?_
    rw [h.mem_iff, h'.mem_iff, hregistered, huses.count_eq]
  refine List.Perm.eq_of_pairwise (fun a b _ _ hab hba => ?_) h.ordered h'.ordered hperm
  exact absurd hba hab.asymm

/-- The entries of the statistics before they are put in order. -/
theorem stats_perm (r : Registry) (u : Usage) :
    (r.stats u).Perm ((r.commands.map fun c => (c.name, u.count c.name)).filter fun e => 0 < e.2) :=
  List.mergeSort_perm _ _

/-- **The statistics rank the commands** if names tell them apart. -/
theorem ranks_stats (h : (r.commands.map Command.name).Nodup) (uses : List String) :
    r.Ranks uses (r.stats (.ofUses uses)) := by
  have hperm := r.stats_perm (.ofUses uses)
  have honce : ((r.stats (.ofUses uses)).map Prod.fst).Nodup := by
    refine (hperm.map Prod.fst).nodup_iff.mpr ?_
    refine List.Nodup.sublist (List.filter_sublist.map Prod.fst) ?_
    rwa [List.map_map]
  constructor
  case names => exact h
  case once => exact honce
  case mem_iff =>
    intro name n
    rw [hperm.mem_iff, List.mem_filter, List.mem_map]
    simp only [Prod.mk.injEq, Usage.count_ofUses, decide_eq_true_eq]
    constructor
    · rintro ⟨⟨c, hc, rfl, rfl⟩, hpos⟩
      exact ⟨⟨c, hc, rfl⟩, rfl, hpos⟩
    · rintro ⟨⟨c, hc, rfl⟩, rfl, hpos⟩
      exact ⟨⟨c, hc, rfl, rfl⟩, hpos⟩
  case ordered =>
    have hsorted : (r.stats (.ofUses uses)).Pairwise fun a b => Usage.precedes a b = true :=
      List.pairwise_mergeSort Usage.precedes_trans Usage.precedes_total _
    exact (hsorted.and (List.pairwise_map.mp honce)).imp fun hab => Usage.outranks_of_precedes hab.1 hab.2

/-- **Statistics are canonical.** After any sequence of registrations, successful or not, and any sequence of uses,
    they rank the registered commands by their uses. A registry in which the same commands were registered in
    another order has the same statistics after the same uses in another order. -/
theorem stats_canonical {f : GateFactory} {ds : List Declaration} (hnamed : ∀ d ∈ ds, d.IsNamed)
    (uses : List String) :
    (enterAll f ∅ ds).Ranks uses ((enterAll f ∅ ds).stats (.ofUses uses)) ∧
    ∀ (f' : GateFactory) (ds' : List Declaration) (uses' : List String), (∀ d ∈ ds', d.IsNamed) →
      ((enterAll f ∅ ds).commands.map Command.descriptor).Perm
        ((enterAll f' ∅ ds').commands.map Command.descriptor) → uses.Perm uses' →
      (enterAll f ∅ ds).stats (.ofUses uses) = (enterAll f' ∅ ds').stats (.ofUses uses') := by
  have hranks := ranks_stats (names_nodup_enterAll f hnamed) uses
  refine ⟨hranks, fun f' ds' uses' hnamed' hdescriptors huses => ?_⟩
  have hnames := hdescriptors.map Descriptor.name
  rw [List.map_map, List.map_map] at hnames
  exact hranks.unique (ranks_stats (names_nodup_enterAll f' hnamed') uses') hnames huses

/-- Three commands, and an attempt to register one of them again. -/
def threeCommands : List Declaration :=
  [idle "uptime" [] [], idle "stats" ["st"] [], idle "purge" [] [], idle "uptime" [] []]

/-- Five uses of two of them. -/
def fiveUses : List String :=
  ["stats", "purge", "stats", "purge", "stats"]

theorem stats_canonical_threeCommands :
    (∀ d ∈ threeCommands, d.IsNamed) ∧ (∀ d ∈ threeCommands.reverse, d.IsNamed) ∧
    ((enterAll (.ofGuilds []) ∅ threeCommands).commands.map Command.descriptor).Perm
      ((enterAll (.ofGuilds [Id.ofNat 1]) ∅ threeCommands.reverse).commands.map Command.descriptor) ∧
    fiveUses.Perm fiveUses.reverse ∧
    (enterAll (.ofGuilds []) ∅ threeCommands).stats (.ofUses fiveUses) = [("stats", 3), ("purge", 2)] ∧
    (enterAll (.ofGuilds [Id.ofNat 1]) ∅ threeCommands.reverse).stats (.ofUses fiveUses.reverse)
      = [("stats", 3), ("purge", 2)] := by
  have hnamed : ∀ d ∈ threeCommands, d.IsNamed := by
    intro d hd
    simp only [threeCommands, List.mem_cons, List.not_mem_nil, or_false] at hd
    rcases hd with rfl | rfl | rfl | rfl <;> exact Declaration.isNamed_declare ..
  have hnamed' : ∀ d ∈ threeCommands.reverse, d.IsNamed := fun d hd => hnamed d (List.mem_reverse.mp hd)
  have hperm : ((enterAll (.ofGuilds []) ∅ threeCommands).commands.map Command.descriptor).Perm
      ((enterAll (.ofGuilds [Id.ofNat 1]) ∅ threeCommands.reverse).commands.map Command.descriptor) := by
    decide +kernel
  have huses : fiveUses.Perm fiveUses.reverse := (List.reverse_perm fiveUses).symm
  have hstats : (enterAll (.ofGuilds []) ∅ threeCommands).stats (.ofUses fiveUses)
      = [("stats", 3), ("purge", 2)] := by
    have hentries : ((enterAll (.ofGuilds []) ∅ threeCommands).commands.map fun c =>
        (c.name, (Usage.ofUses fiveUses).count c.name)).filter (fun e => 0 < e.2) = [("stats", 3), ("purge", 2)] := by
      decide +kernel
    rw [stats, hentries]
    exact List.mergeSort_of_pairwise (by decide)
  have hsame := (stats_canonical hnamed fiveUses).2 (.ofGuilds [Id.ofNat 1]) threeCommands.reverse fiveUses.reverse
    hnamed' hperm huses
  exact ⟨hnamed, hnamed', hperm, huses, hstats, hsame.symm.trans hstats⟩

end Registry

end Gatehouse
