import Gatehouse.Proofs.Dispatch.Containment
import Gatehouse.Proofs.Dispatch.Passages
import Gatehouse.Proofs.Metrics.Tally
import Gatehouse.Proofs.Readings

/-!
# `Gatehouse.Proofs.Dispatch.Labels` — what a message is counted under

Each table of counters is increased under labels that follow from what a message does
(`Passage.record_counters`). Counters are told apart by a digest of their labels. Outcomes, failures and
failures by category have few labels, and the digest tells all of them apart (`digest_outcome_iff`,
`distinguished_failures`, `distinguished_categories`). Names of commands and gates can be anything, but the gates
that come with the bot have few names, so each of these has a counter of its own (`Bot.Contained.rejected_by_name`).
-/

namespace Gatehouse

open Metrics.SeriesTable (tally Distinguished)

/-! ## The labels that a message is counted under -/

namespace Passage

def outcomeLabels (p : Passage) : List (List String) :=
  [[p.outcome.name]]

def commandLabels : Passage → List (List String)
  | .stopped _ => []
  | .called command _ => [[command.name]]

def rejectionLabels : Passage → List (List String)
  | .called _ (.ok (some gate)) => [[gate]]
  | _ => []

def failureLabels : Passage → List (List String)
  | .called _ (.error i) => [[(Failure.ofInterrupt i).label]]
  | _ => []

def categoryLabels : Passage → List (List String)
  | .called command (.error i) => [[command.descriptor.category.key, (Failure.ofInterrupt i).label]]
  | _ => []

/-- **What a message adds to each table of counters.** -/
theorem record_counters (m : Metrics) (p : Passage) :
    (p.record m).outcomes = p.outcomeLabels.foldl Metrics.SeriesTable.increment m.outcomes ∧
    (p.record m).commands = p.commandLabels.foldl Metrics.SeriesTable.increment m.commands ∧
    (p.record m).rejections = p.rejectionLabels.foldl Metrics.SeriesTable.increment m.rejections ∧
    (p.record m).failures = p.failureLabels.foldl Metrics.SeriesTable.increment m.failures ∧
    (p.record m).failuresByCategory
      = p.categoryLabels.foldl Metrics.SeriesTable.increment m.failuresByCategory := by
  rcases p with _ | ⟨_, _ | _ | _⟩ <;> exact ⟨rfl, rfl, rfl, rfl, rfl⟩

end Passage

/-- Counting what one more message came to. -/
theorem tally_flatMap_concat (labels : Passage → List (List String)) (past : List Passage) (p : Passage) :
    tally ((past ++ [p]).flatMap labels)
      = (labels p).foldl Metrics.SeriesTable.increment (tally (past.flatMap labels)) := by
  rw [List.flatMap_append, List.flatMap_singleton]
  exact List.foldl_append

/-- If each passage has at most one list of labels that `q` is about, and those that have one satisfy `p`,
    then as many labels are counted as passages. -/
theorem countP_labels {past : List Passage} {labels : Passage → List (List String)}
    {q : List String → Bool} {p : Passage → Bool}
    (h : ∀ a ∈ past, (labels a).countP q = if p a then 1 else 0) :
    (past.flatMap labels).countP q = past.countP p := by
  induction past with
  | nil => rfl
  | cons a past ih =>
      rw [List.flatMap_cons, List.countP_append, List.countP_cons, h a List.mem_cons_self,
        ih fun b hb => h b (List.mem_cons_of_mem a hb), Nat.add_comm]

/-! ## Labels that the digest tells apart -/

/-- Every outcome. -/
def Outcome.all : List Outcome :=
  [.botAuthor, .storeUnavailable, .notCandidate, .missingCapabilities, .unknownCommand, .rejected, .completed,
    .invalidArguments, .externalPermission, .failed]

theorem Outcome.mem_all (o : Outcome) : o ∈ Outcome.all := by
  cases o <;> decide

theorem outcomes_distinguished : Distinguished (Outcome.all.map fun o => [o.name]) :=
  -- All digests are computed and compared.
  .of_nodup (by decide +kernel)

/-- The series of an outcome is its own. -/
theorem digest_outcome_iff (o o' : Outcome) :
    Metrics.digest [o.name] = Metrics.digest [o'.name] ↔ o = o' := by
  refine ⟨fun h => ?_, fun h => h ▸ rfl⟩
  have hnames := outcomes_distinguished _ (List.mem_map_of_mem o.mem_all) _
    (List.mem_map_of_mem o'.mem_all) h
  -- Different outcomes have different names.
  revert hnames
  cases o <;> cases o' <;> decide

/-- The labels of all failures. -/
def Failure.labels : List String :=
  ["insufficient_external_permission", "invalid_arguments", "unknown_message", "platform_unavailable",
    "internal_error", "panic"]

theorem Failure.label_mem (i : Interrupt) : (Failure.ofInterrupt i).label ∈ Failure.labels := by
  rcases i with ((c | id | reason) | reason | ⟨reason, contexts⟩) | p <;>
    simp [ofInterrupt, ofError, ofPanic, label, labels, CommandError.code, PlatformError.code]

/-- Every category. -/
def Category.all : List Category :=
  [.administration, .entertainment, .utility, .system]

theorem Category.mem_all (c : Category) : c ∈ Category.all := by
  cases c <;> decide

theorem failures_distinguished : Distinguished (Failure.labels.map fun l => [l]) :=
  .of_nodup (by decide +kernel)

theorem categories_distinguished :
    Distinguished (Category.all.flatMap fun c => Failure.labels.map fun l => [c.key, l]) :=
  .of_nodup (by decide +kernel)

/-- The names of the gates that come with the bot. -/
def Gate.names : List String :=
  ["permission", "require:user", "require:bot", "throttle", "official-guild", "guild-only", "verified"]

theorem gates_distinguished : Distinguished (Gate.names.map fun name => [name]) :=
  .of_nodup (by decide +kernel)

/-- Whatever a command declares, its gate goes by one of these names. -/
theorem GateFactory.name_mem_names {official : List GuildId} {command spec : String} {g : Gate}
    (h : (GateFactory.ofGuilds official).withVerified.build command spec = .ok g) : g.name ∈ Gate.names := by
  rw [build] at h
  split at h
  · next parsed _ =>
      cases parsed with
      | permission | throttle | officialGuild | guildOnly =>
          obtain rfl := Except.ok.inj h
          exact List.contains_iff_mem.mp rfl
      | require target =>
          obtain rfl := Except.ok.inj h
          cases target with
          | user | bot => exact List.contains_iff_mem.mp rfl
      | custom name args =>
          -- Only one custom gate is registered, and it takes no arguments.
          rw [ofSpec, withVerified, register, ofGuilds, Table.get?_insert, Table.get?_empty] at h
          split at h
          · next builder hbuilder =>
              split at hbuilder
              · obtain rfl := Option.some.inj hbuilder
                cases args with
                | nil =>
                    obtain rfl := Except.ok.inj h
                    exact List.contains_iff_mem.mp rfl
                | cons => cases h
              · cases hbuilder
          · cases h
  · cases h

/-- **The gates that come with the bot are counted by their names**: the counter of the gate that halts goes up by
    one, and that of no other name does. -/
theorem Bot.Contained.rejected_by_name {bot : Bot} {m : Message} {moment : Moment} {command : Command} {c : Context}
    {s s₁ : BotState} {asked later : List Gate} {g : Gate} {w : World} {official : List GuildId} {specs : List String}
    (h : bot.Contained m moment s command c s₁ asked later (.halted g) w)
    (hbuild : (GateFactory.ofGuilds official).withVerified.buildAll command.name specs = .ok command.gates)
    {name : String} (hname : name ∈ Gate.names) :
    (bot.process m moment s).2.metrics.rejections.count [name]
      = s.metrics.rejections.count [name] + if name = g.name then 1 else 0 := by
  have hg : g ∈ command.gates := by
    rw [h.gates]
    exact List.mem_append_left _ (List.mem_of_getLast? (h.halted_last g rfl))
  obtain ⟨spec, -, hspec⟩ := (mem_of_forall₂ (mapM_eq_ok_iff.mp hbuild)
    (fun _ _ _ h h' => Except.ok.inj (h.symm.trans h')) g).mp hg
  have hdigest : Metrics.digest [name] = Metrics.digest [g.name] ↔ name = g.name := by
    refine ⟨fun hdigest => ?_, fun heq => heq ▸ rfl⟩
    have hlabels := gates_distinguished _ (List.mem_map_of_mem hname) _
      (List.mem_map_of_mem (GateFactory.name_mem_names hspec)) hdigest
    exact List.head_eq_of_cons_eq hlabels
  rw [h.rejected g rfl]
  simp only [hdigest]

namespace Passage

/-- The label of the failure that a call ends with, if it fails. -/
def label? : Passage → Option String
  | .called _ (.error i) => some (Failure.ofInterrupt i).label
  | _ => none

theorem label?_mem {p : Passage} {l : String} (h : p.label? = some l) : l ∈ Failure.labels := by
  rcases p with _ | ⟨_, i | _⟩
  · cases h
  · cases h
    exact Failure.label_mem i
  · cases h

/-- What a passage adds to the counters of failures. -/
theorem countP_failureLabels (p : Passage) (q : List String → Bool) :
    p.failureLabels.countP q = if p.label?.any fun l => q [l] then 1 else 0 := by
  rcases p with _ | ⟨_, i | _⟩
  · rfl
  · exact List.countP_singleton
  · rfl

/-- Failures are counted under one label for each of two outcomes, and under others if they have the third. -/
theorem outcome_of_label? {r : Registry} {p : Passage} (h : p.Of r) :
    (p.outcome = .externalPermission ↔ p.label? = some "insufficient_external_permission") ∧
    (p.outcome = .invalidArguments ↔ p.label? = some "invalid_arguments") ∧
    (p.outcome = .failed ↔
      ∃ l, p.label? = some l ∧ l ≠ "insufficient_external_permission" ∧ l ≠ "invalid_arguments") := by
  rcases p with o | ⟨command, i | gate⟩
  · cases o <;> simp_all [Of, outcome, label?, Outcome.isEarly]
  · rcases i with ((c | id | reason) | reason | ⟨reason, contexts⟩) | panic <;>
      simp [outcome, label?, Outcome.ofResult, Failure.ofInterrupt, Failure.ofError, Failure.ofPanic,
        Failure.label, CommandError.code, PlatformError.code]
  · cases gate <;> simp [outcome, label?, Outcome.ofResult]

end Passage

variable {past : List Passage}

theorem distinguished_failures : Distinguished (past.flatMap Passage.failureLabels) := by
  refine failures_distinguished.subset fun l hl => ?_
  obtain ⟨p, -, hl⟩ := List.mem_flatMap.mp hl
  rcases p with _ | ⟨_, i | _ | _⟩
  · cases hl
  · rw [List.mem_singleton.mp hl]
    exact List.mem_map_of_mem (Failure.label_mem i)
  · cases hl
  · cases hl

theorem distinguished_categories : Distinguished (past.flatMap Passage.categoryLabels) := by
  refine categories_distinguished.subset fun l hl => ?_
  obtain ⟨p, -, hl⟩ := List.mem_flatMap.mp hl
  rcases p with _ | ⟨command, i | _ | _⟩
  · cases hl
  · rw [List.mem_singleton.mp hl]
    exact List.mem_flatMap.mpr ⟨_, Category.mem_all _, List.mem_map_of_mem (Failure.label_mem i)⟩
  · cases hl
  · cases hl

end Gatehouse
