import Gatehouse.Proofs.Command.Registration
import Gatehouse.Proofs.Readings
import Mathlib.Data.List.Induction
import Mathlib.Data.List.Perm.Basic

/-!
# `Gatehouse.Proofs.Command.Atomicity` — commands are registered completely or not at all

Commands are registered one after the other, and each attempt can fail. `Registry.enterAll` is the registry
after any number of attempts. It is in order (`Registry.InOrder`): the index has the triggers of all commands,
each of which occurs once, and every command has one gate for each declaration of one. An attempt enters one
command, or it fails and leaves no trace; which of the two happens only depends on whether the triggers are
free and the gates can be built (`Registry.Acceptable`).
-/

namespace Gatehouse

/-! ## Gates in their order -/

/-- All gates are built exactly if each of them is, and then in the order of their declarations. -/
theorem GateFactory.buildAll_eq_ok_iff {f : GateFactory} {command : String} {specs : List String}
    {gates : List Gate} :
    f.buildAll command specs = .ok gates ↔
      List.Forall₂ (fun spec gate => f.build command spec = .ok gate) specs gates :=
  mapM_eq_ok_iff

/-- All gates can be built if each of them can. -/
theorem GateFactory.exists_buildAll_iff {f : GateFactory} {command : String} {specs : List String} :
    (∃ gates, f.buildAll command specs = .ok gates) ↔
      ∀ spec ∈ specs, ∃ gate, f.build command spec = .ok gate := by
  simp only [buildAll_eq_ok_iff]
  induction specs with
  | nil => simp
  | cons spec specs ih =>
      rw [List.forall_mem_cons, ← ih]
      constructor
      · rintro ⟨_, hgates⟩
        cases hgates with
        | cons hgate hrest => exact ⟨⟨_, hgate⟩, _, hrest⟩
      · rintro ⟨⟨gate, hgate⟩, gates, hrest⟩
        exact ⟨gate :: gates, .cons hgate hrest⟩

/-- A declaration with the body of the command. -/
structure Declaration where
  descriptor : Descriptor
  body : Context → Act Interrupt Unit

/-- The name of the command is one of its triggers, in lowercase as far as ASCII goes. -/
def Declaration.IsNamed (d : Declaration) : Prop :=
  Text.asciiLowercased d.descriptor.name ∈ d.descriptor.triggers

/-- That is how commands are declared. -/
theorem Declaration.isNamed_declare (name : String) (category : Category) (aliases : List String)
    (description : String) (usage gates : List String) (body : Context → Act Interrupt Unit) :
    IsNamed ⟨.declare name category aliases description usage gates, body⟩ :=
  List.mem_cons_self

namespace Registry

variable {f : GateFactory} {r : Registry} {d : Declaration}

/-! ## One attempt -/

/-- An attempt to register a command: what it comes to, and the registry that it leaves. -/
def enter (f : GateFactory) (r : Registry) (d : Declaration) : Except RegistryError Unit × Registry :=
  Registering.command f d.descriptor d.body r

/-- Registering a command is such an attempt. What is left of one that failed is not passed on. -/
theorem register_eq_enter (r : Registry) (f : GateFactory) (d : Declaration) :
    r.register f d.descriptor d.body = (enter f r d).1.map fun _ => (enter f r d).2 := by
  rw [register, enter]
  rcases Registering.command f d.descriptor d.body r with ⟨e | ⟨⟩, r'⟩ <;> rfl

/-- An attempt that fails leaves no trace, in whatever registry. -/
theorem enter_of_error {e : RegistryError} {r' : Registry} (h : enter f r d = (.error e, r')) : r' = r := by
  rw [enter, Registering.command_apply] at h
  cases hclash : r.clash? d.descriptor with
  | some e' =>
      rw [hclash] at h
      exact (congrArg Prod.snd h).symm
  | none =>
      rw [hclash] at h
      cases hgates : f.buildAll d.descriptor.name d.descriptor.gates with
      | ok gates =>
          rw [hgates] at h
          cases h
      | error e' =>
          rw [hgates] at h
          exact (congrArg Prod.snd h).symm

/-- A declaration that nothing is wrong with. -/
structure Acceptable (f : GateFactory) (r : Registry) (d : Declaration) : Prop where
  nodup : d.descriptor.triggers.Nodup
  free : ∀ t ∈ d.descriptor.triggers, t ∉ r.triggers
  gates : ∀ spec ∈ d.descriptor.gates, ∃ gate, f.build d.descriptor.name spec = .ok gate

/-- What is not in the index is no trigger. -/
theorem WellFormed.get?_eq_none_iff (h : r.WellFormed) (t : String) : r.index.get? t = none ↔ t ∉ r.triggers := by
  refine ⟨h.not_mem, fun hmem => ?_⟩
  cases hget : r.index.get? t with
  | none => rfl
  | some c =>
      obtain ⟨hc, ht⟩ := (h.index t c).mp hget
      exact absurd (List.mem_flatMap.mpr ⟨c, hc, ht⟩) hmem

/-- **An attempt succeeds or leaves no trace.** If nothing is wrong with the declaration, the command is added
    with its gates. Otherwise the registry stays what it was. -/
theorem enter_cases (h : r.WellFormed) (f : GateFactory) (d : Declaration) :
    (Acceptable f r d ∧ ∃ gates, f.buildAll d.descriptor.name d.descriptor.gates = .ok gates ∧
      enter f r d = (.ok (), r.add ⟨d.descriptor, gates, d.body⟩)) ∨
    (¬ Acceptable f r d ∧ ∃ e, enter f r d = (.error e, r)) := by
  have happly := Registering.command_apply f d.descriptor d.body r
  have hclash := r.clash?_eq_none_iff d.descriptor
  simp only [h.get?_eq_none_iff] at hclash
  cases hc : r.clash? d.descriptor with
  | some e =>
      rw [hc] at happly hclash
      refine .inr ⟨fun ha => ?_, e, happly⟩
      cases hclash.mpr ⟨ha.nodup, ha.free⟩
  | none =>
      obtain ⟨hnodup, hfree⟩ := hclash.mp hc
      rw [hc] at happly
      cases hgates : f.buildAll d.descriptor.name d.descriptor.gates with
      | error e =>
          rw [hgates] at happly
          refine .inr ⟨fun ha => ?_, .gate e, happly⟩
          obtain ⟨gates, hok⟩ := GateFactory.exists_buildAll_iff.mpr ha.gates
          cases hgates.symm.trans hok
      | ok gates =>
          rw [hgates] at happly
          exact .inl ⟨⟨hnodup, hfree, GateFactory.exists_buildAll_iff.mp ⟨gates, hgates⟩⟩, gates, rfl, happly⟩

/-- An attempt succeeds exactly if nothing is wrong with the declaration. -/
theorem enter_succeeds_iff (h : r.WellFormed) : (enter f r d).1 = .ok () ↔ Acceptable f r d := by
  rcases enter_cases h f d with ⟨ha, gates, -, henter⟩ | ⟨hna, e, henter⟩
  · exact iff_of_true (congrArg Prod.fst henter) ha
  · rw [henter]
    exact iff_of_false nofun hna

theorem enter_of_ok {r' : Registry} (h : r.WellFormed) (hok : enter f r d = (.ok (), r')) :
    ∃ gates, r' = r.add ⟨d.descriptor, gates, d.body⟩ := by
  rcases enter_cases h f d with ⟨-, gates, -, henter⟩ | ⟨-, e, henter⟩
  · exact ⟨gates, (congrArg Prod.snd (henter.symm.trans hok)).symm⟩
  · cases henter.symm.trans hok

/-! ## The invariant -/

/-- A registry in order, with gates from `f`. -/
structure InOrder (f : GateFactory) (r : Registry) : Prop extends r.WellFormed where
  /-- Every command has one gate for each declaration of one, in the same order. -/
  gates : ∀ c ∈ r.commands,
    List.Forall₂ (fun spec gate => f.build c.name spec = .ok gate) c.descriptor.gates c.gates

theorem InOrder.empty (f : GateFactory) : InOrder f ∅ where
  toWellFormed := .empty
  gates _ hc := nomatch hc

/-- **An attempt keeps the registry in order**, whatever it comes to. -/
theorem InOrder.enter (h : InOrder f r) (d : Declaration) : InOrder f (Registry.enter f r d).2 := by
  rcases enter_cases h.toWellFormed f d with ⟨ha, gates, hgates, henter⟩ | ⟨-, e, henter⟩
  · rw [henter]
    refine ⟨h.add ha.nodup fun t ht => (h.get?_eq_none_iff t).mpr (ha.free t ht), fun c hc => ?_⟩
    rcases List.mem_append.mp hc with hold | hnew
    · exact h.gates c hold
    · rw [List.mem_singleton.mp hnew]
      exact GateFactory.buildAll_eq_ok_iff.mp hgates
  · rw [henter]
    exact h

/-- The keys of the index are the triggers of all commands. -/
theorem WellFormed.keys_perm (h : r.WellFormed) : r.index.keys.Perm r.triggers := by
  refine (List.perm_ext_iff_of_nodup r.index.keys_nodup h.nodup).mpr fun t => ?_
  show t ∈ r.index.keys ↔ _
  rw [Table.mem_keys_iff, triggers, List.mem_flatMap]
  exact exists_congr fun c => h.index t c

/-! ## Any number of attempts -/

/-- The registry after attempts to register commands, each of which can fail. -/
def enterAll (f : GateFactory) (r : Registry) (ds : List Declaration) : Registry :=
  ds.foldl (fun r d => (enter f r d).2) r

theorem enterAll_concat (f : GateFactory) (r : Registry) (ds : List Declaration) (d : Declaration) :
    enterAll f r (ds ++ [d]) = (enter f (enterAll f r ds) d).2 := by
  rw [enterAll, List.foldl_append]
  rfl

theorem inOrder_enterAll (f : GateFactory) (ds : List Declaration) : InOrder f (enterAll f ∅ ds) := by
  induction ds using List.reverseRecOn with
  | nil => exact .empty f
  | append_singleton ds d ih =>
      rw [enterAll_concat]
      exact ih.enter d

/-- The commands that are there are among those that were declared. -/
theorem mem_of_mem_enterAll {ds : List Declaration} {c : Command} (h : c ∈ (enterAll f ∅ ds).commands) :
    ∃ d ∈ ds, c.descriptor = d.descriptor ∧ c.body = d.body := by
  induction ds using List.reverseRecOn with
  | nil => cases h
  | append_singleton ds d ih =>
      rw [enterAll_concat] at h
      rcases enter_cases (inOrder_enterAll f ds).toWellFormed f d with ⟨-, gates, -, henter⟩ | ⟨-, e, henter⟩
      · rw [henter] at h
        rcases List.mem_append.mp h with hold | hnew
        · obtain ⟨d', hd', hc⟩ := ih hold
          exact ⟨d', List.mem_append_left _ hd', hc⟩
        · rw [List.mem_singleton.mp hnew]
          exact ⟨d, List.mem_concat_self .., rfl, rfl⟩
      · rw [henter] at h
        obtain ⟨d', hd', hc⟩ := ih h
        exact ⟨d', List.mem_append_left _ hd', hc⟩

/-- Commands that were all registered are those of attempts that succeeded. -/
theorem registerAll_eq_ok {ds : List (Descriptor × (Context → Act Interrupt Unit))} {r' : Registry}
    (h : registerAll f ds r = .ok r') : r' = enterAll f r (ds.map fun d => ⟨d.1, d.2⟩) := by
  induction ds generalizing r with
  | nil => exact (Except.ok.inj h).symm
  | cons d ds ih =>
      have hfirst := register_eq_enter r f ⟨d.1, d.2⟩
      rw [registerAll, hfirst] at h
      cases hok : (enter f r ⟨d.1, d.2⟩).1 with
      | error e =>
          rw [hok] at h
          cases h
      | ok =>
          rw [hok] at h
          exact ih h

/-- Commands that have their names among their triggers have different names. -/
theorem names_nodup_enterAll (f : GateFactory) {ds : List Declaration} (h : ∀ d ∈ ds, d.IsNamed) :
    ((enterAll f ∅ ds).commands.map Command.name).Nodup := by
  refine names_nodup_of_triggers (inOrder_enterAll f ds).nodup fun c hc => ?_
  obtain ⟨d, hd, hdescriptor, -⟩ := mem_of_mem_enterAll hc
  rw [Command.name, hdescriptor]
  exact h d hd

/-- A use that is counted is one of a command that the table has. -/
theorem count_eq_zero {usage : Usage} {name : String} (h : name ∉ usage.keys) : usage.count name = 0 := by
  cases hget : usage.get? name with
  | none => rw [Usage.count, hget, Option.getD_none]
  | some n => exact absurd ((usage.mem_keys_iff name).mpr ⟨n, hget⟩) h

/-- The name of a new command is that of no command before it. -/
theorem name_not_mem {ds : List Declaration} {r' : Registry} (hnamed : ∀ d' ∈ ds ++ [d], d'.IsNamed)
    (hok : enter f (enterAll f ∅ ds) d = (.ok (), r')) :
    d.descriptor.name ∉ (enterAll f ∅ ds).commands.map Command.name := by
  have hnames := names_nodup_enterAll f hnamed
  obtain ⟨gates, rfl⟩ := enter_of_ok (inOrder_enterAll f ds).toWellFormed hok
  rw [enterAll_concat, hok] at hnames
  -- The new command is the last one.
  change (((enterAll f ∅ ds).commands ++ [_]).map Command.name).Nodup at hnames
  rw [List.map_append, List.nodup_append] at hnames
  exact fun hmem => hnames.2.2 _ hmem d.descriptor.name List.mem_cons_self rfl

/-! ## All of it -/

/-- What is promised of the registry `r` after the attempts `ds`, and of the next one. -/
structure Atomic (f : GateFactory) (ds : List Declaration) (r : Registry) : Prop where
  /-- The index has the triggers of all commands, in the order of registration, and each occurs once. -/
  keys : r.index.keys.Perm r.triggers
  nodup : r.triggers.Nodup
  /-- It leads from a trigger to the command that has it. -/
  index : ∀ t c, r.index.get? t = some c ↔ c ∈ r.commands ∧ t ∈ c.descriptor.triggers
  /-- Commands have different names. -/
  names : (∀ d ∈ ds, d.IsNamed) → (r.commands.map Command.name).Nodup
  /-- Every command has one gate for each declaration of one, in the same order. -/
  gates : ∀ c ∈ r.commands,
    List.Forall₂ (fun spec gate => f.build c.name spec = .ok gate) c.descriptor.gates c.gates
  /-- What registering a command gives is what the attempt leaves, if that succeeds. -/
  registers : ∀ d, r.register f d.descriptor d.body = (enter f r d).1.map fun _ => (enter f r d).2
  /-- An attempt succeeds exactly if nothing is wrong with the declaration. -/
  accepts : ∀ d, (enter f r d).1 = .ok () ↔ Acceptable f r d
  /-- If it succeeds, there is one more command, at the end. -/
  success : ∀ d r', enter f r d = (.ok (), r') →
    ∃ gates, r'.commands = r.commands ++ [⟨d.descriptor, gates, d.body⟩]
  /-- No use of a command that was there counts as one of the new command. -/
  unused : ∀ d r', (∀ d' ∈ ds ++ [d], d'.IsNamed) → enter f r d = (.ok (), r') →
    ∀ usage : Usage, usage.keys ⊆ r.commands.map Command.name → usage.count d.descriptor.name = 0
  /-- If it fails, the registry is what it was. -/
  failure : ∀ d e r', enter f r d = (.error e, r') → r' = r
  /-- Then its triggers are still free for others. -/
  retry : ∀ d e r', enter f r d = (.error e, r') → ∀ d', Acceptable f r d' → (enter f r' d').1 = .ok ()

/-- **Registration is atomic**, after any number of attempts that succeeded or failed. -/
theorem enterAll_atomic (f : GateFactory) (ds : List Declaration) : Atomic f ds (enterAll f ∅ ds) := by
  have horder := inOrder_enterAll f ds
  have hwf := horder.toWellFormed
  constructor
  case keys => exact horder.keys_perm
  case nodup => exact horder.nodup
  case index => exact horder.index
  case names => exact fun hnamed => names_nodup_enterAll f hnamed
  case gates => exact horder.gates
  case registers => exact fun d => register_eq_enter _ f d
  case accepts => exact fun d => enter_succeeds_iff hwf
  case success =>
    intro d r' hok
    obtain ⟨gates, rfl⟩ := enter_of_ok hwf hok
    exact ⟨gates, rfl⟩
  case unused =>
    intro d r' hnamed hok usage husage
    exact count_eq_zero fun hmem => name_not_mem hnamed hok (husage hmem)
  case failure => exact fun d e r' herror => enter_of_error herror
  case retry =>
    intro d e r' herror d' hacceptable
    rw [enter_of_error herror]
    exact (enter_succeeds_iff hwf).mpr hacceptable

/-! ## A declaration that is mended -/

/-- A command that does nothing. -/
def idle (name : String) (aliases gates : List String) : Declaration :=
  ⟨.declare name .utility aliases "" [] gates, fun _ => return⟩

/-- The second attempt takes an alias that is taken. -/
def clashingAttempts : List Declaration :=
  [idle "ping" ["p"] ["guild-only"], idle "pong" ["p"] []]

/-- Uses of the command that is there. -/
def pingUses : Usage :=
  Table.empty.insert "ping" 3

theorem enterAll_atomic_mended :
    (enterAll (.ofGuilds []) ∅ clashingAttempts).commands.map Command.name = ["ping"] ∧
    (∃ e r', enter (.ofGuilds []) (enterAll (.ofGuilds []) ∅ clashingAttempts) (idle "pong" [] ["owner-only"])
        = (.error e, r') ∧
      r' = enterAll (.ofGuilds []) ∅ clashingAttempts ∧
      (enter (.ofGuilds []) r' (idle "pong" [] ["guild-only"])).1 = .ok ()) ∧
    pingUses.count "pong" = 0 := by
  have hatomic := enterAll_atomic (.ofGuilds []) clashingAttempts
  have hbad : (enter (.ofGuilds []) (enterAll (.ofGuilds []) ∅ clashingAttempts)
      (idle "pong" [] ["owner-only"])).1 = .error (.gate (.unknown "pong" "owner-only")) := by
    rfl
  have hgood : Acceptable (.ofGuilds []) (enterAll (.ofGuilds []) ∅ clashingAttempts)
      (idle "pong" [] ["guild-only"]) := by
    refine ⟨by decide, by decide +kernel, fun spec hspec => ⟨Gate.guildOnly, ?_⟩⟩
    rw [List.mem_singleton.mp hspec]
    rfl
  have hnamed : ∀ d ∈ clashingAttempts ++ [idle "pong" [] ["guild-only"]], d.IsNamed := by
    intro d hd
    simp only [clashingAttempts, List.cons_append, List.nil_append, List.mem_cons, List.not_mem_nil,
      or_false] at hd
    rcases hd with rfl | rfl | rfl <;> exact Declaration.isNamed_declare ..
  have hfails := Prod.ext hbad rfl
  have hsucceeds := Prod.ext ((hatomic.accepts _).mpr hgood) rfl
  exact ⟨by decide +kernel, ⟨_, _, hfails, hatomic.failure _ _ _ hfails, hatomic.retry _ _ _ hfails _ hgood⟩,
    hatomic.unused _ _ hnamed hsucceeds pingUses (by decide +kernel)⟩

end Registry

end Gatehouse
