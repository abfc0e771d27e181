import Gatehouse.Proofs.Dispatch.Labels
import Mathlib.Algebra.BigOperators.Group.List.Basic

/-!
# `Gatehouse.Proofs.Dispatch.Conservation` — over a whole run the counters agree

A bot deals with messages, and between them anything can happen to its world and its store (`Happening`). Its
counters and its statistics of use start empty, and at every time they hold what the messages so far came to,
no more and no less (`Counted`). From this follow the laws between the counters (`Conserved`,
`Bot.after_conserved`).

The counters of commands are series: names with one digest share a counter. A command whose name shares its
series with no other has a counter that equals its uses; in general the counter equals the uses of all
commands in the series. `Bot.command_counters_can_merge` shows two commands for which this makes a difference.
-/

namespace Gatehouse

open Metrics.SeriesTable (tally)

/-! ## Runs -/

/-- What can happen to a bot. -/
inductive Happening where
  | message (m : Message) (moment : Moment)
  /-- Anything else: the world, the store and the gauge of throttle buckets become what they become. -/
  | change (world : World) (store : CachedStore) (buckets : Nat)

/-- What becomes of one message. -/
structure Visit where
  /-- The command that it reached, if it did. -/
  reached : Option Command
  outcome : Outcome

namespace Bot

/-- A bot that has seen nothing yet. -/
def fresh (world : World) (store : CachedStore) : BotState :=
  ⟨world, store, Table.empty, ∅⟩

/-- What becomes of a message. -/
def visit (bot : Bot) (m : Message) (moment : Moment) (s : BotState) : Visit where
  reached := (bot.route m moment s).1.toOption.map Prod.fst
  outcome := (bot.process m moment s).1

/-- The state after one thing happened. -/
def step (bot : Bot) (s : BotState) : Happening → BotState
  | .message m moment => (bot.process m moment s).2
  | .change world store buckets => { s with world, store, metrics := { s.metrics with buckets } }

/-- The state after a run. -/
def after (bot : Bot) (run : List Happening) (s : BotState) : BotState :=
  run.foldl bot.step s

/-- What becomes of the messages of a run, in order. -/
def visits (bot : Bot) : List Happening → BotState → List Visit
  | [], _ => []
  | .message m moment :: run, s => bot.visit m moment s :: bot.visits run (bot.step s (.message m moment))
  | .change world store buckets :: run, s => bot.visits run (bot.step s (.change world store buckets))

end Bot

namespace Passage

/-- What becomes of a message that does this. -/
def visit (p : Passage) : Visit :=
  ⟨p.command?, p.outcome⟩

/-- Whether a command of the given name is called. -/
def calls (p : Passage) (name : String) : Bool :=
  p.command?.any fun c => c.name = name

end Passage

/-! ## Counting along a run -/

/-- **The counters hold what the messages so far came to.** -/
structure Counted (past : List Passage) (s : BotState) : Prop where
  outcomes : s.metrics.outcomes = tally (past.flatMap Passage.outcomeLabels)
  commands : s.metrics.commands = tally (past.flatMap Passage.commandLabels)
  rejections : s.metrics.rejections = tally (past.flatMap Passage.rejectionLabels)
  failures : s.metrics.failures = tally (past.flatMap Passage.failureLabels)
  categories : s.metrics.failuresByCategory = tally (past.flatMap Passage.categoryLabels)
  uses : ∀ name, s.usage.count name = past.countP fun p => p.calls name

namespace Counted

variable {past : List Passage} {s : BotState}

theorem fresh (world : World) (store : CachedStore) : Counted [] (Bot.fresh world store) :=
  ⟨rfl, rfl, rfl, rfl, rfl, fun _ => rfl⟩

/-- A message is counted under its labels and nowhere else. -/
theorem message (h : Counted past s) (bot : Bot) (m : Message) (moment : Moment) :
    Counted (past ++ [bot.passage m moment s]) (bot.process m moment s).2 := by
  obtain ⟨-, hmetrics, husage⟩ := Bot.process_passage bot m moment s
  generalize bot.passage m moment s = p at hmetrics husage ⊢
  obtain ⟨houtcomes, hcommands, hrejections, hfailures, hcategories⟩ := p.record_counters s.metrics
  refine ⟨?_, ?_, ?_, ?_, ?_, ?_⟩
  · rw [tally_flatMap_concat, ← h.outcomes, hmetrics, houtcomes]
  · rw [tally_flatMap_concat, ← h.commands, hmetrics, hcommands]
  · rw [tally_flatMap_concat, ← h.rejections, hmetrics, hrejections]
  · rw [tally_flatMap_concat, ← h.failures, hmetrics, hfailures]
  · rw [tally_flatMap_concat, ← h.categories, hmetrics, hcategories]
  · intro name
    rw [husage, List.countP_append, List.countP_singleton, ← h.uses]
    cases p with
    | stopped outcome => rfl
    | called command result =>
        show (s.usage.record command.name).count name = _
        rw [Usage.count_record]
        simp [Passage.calls, Passage.command?, eq_comm]

/-- Whatever else happens is not counted. -/
theorem change (h : Counted past s) (bot : Bot) (world : World) (store : CachedStore) (buckets : Nat) :
    Counted past (bot.step s (.change world store buckets)) :=
  ⟨h.outcomes, h.commands, h.rejections, h.failures, h.categories, h.uses⟩

end Counted

/-- What becomes of a message is what it does. -/
theorem Bot.visit_eq (bot : Bot) (m : Message) (moment : Moment) (s : BotState) :
    bot.visit m moment s = (bot.passage m moment s).visit := by
  have houtcome := (process_passage bot m moment s).1
  unfold visit Passage.visit
  rw [houtcome]
  congr 1
  unfold passage
  split
  · next hroute =>
      rw [hroute]
      rfl
  · next hroute =>
      rw [hroute]
      rfl

/-- **A whole run is counted**: what its messages did is added to what was done before. -/
theorem Counted.run {bot : Bot} (hbuilt : bot.registry.Built) {past : List Passage} {s : BotState}
    (h : Counted past s) (run : List Happening) :
    ∃ more, bot.visits run s = more.map Passage.visit ∧ (∀ p ∈ more, p.Of bot.registry) ∧
      Counted (past ++ more) (bot.after run s) := by
  -- On the run, with any past: a message moves its passage from the rest of the run to the past.
  induction run generalizing past s with
  | nil => exact ⟨[], rfl, nofun, by rwa [List.append_nil]⟩
  | cons happening run ih =>
      cases happening with
      | message m moment =>
          obtain ⟨more, hvisits, hof, hcounted⟩ := ih (h.message bot m moment)
          refine ⟨bot.passage m moment s :: more, ?_, ?_, ?_⟩
          · rw [List.map_cons, ← bot.visit_eq, ← hvisits]
            rfl
          · rintro p (_ | ⟨_, hp⟩)
            · exact bot.passage_of hbuilt m moment s
            · exact hof p hp
          · rw [List.append_assoc] at hcounted
            exact hcounted
      | change world store buckets => exact ih (h.change bot world store buckets)

/-! ## Laws between counts -/

section Laws

variable {past : List Passage} {r : Registry}

/-- A name belongs to at most one of several commands with different names. -/
theorem sum_name_eq {commands : List Command} (hnodup : (commands.map Command.name).Nodup) (name : String) :
    (commands.map fun c => if name = c.name then 1 else 0).sum
      = if name ∈ commands.map Command.name then 1 else 0 := by
  induction commands with
  | nil => rfl
  | cons c commands ih =>
      rw [List.map_cons, List.nodup_cons] at hnodup
      rw [List.map_cons, List.sum_cons, ih hnodup.2]
      by_cases hname : name = c.name
      · subst hname
        simp [hnodup.1]
      · simp [hname]

/-- Uses of different commands add up to the calls of any of them. -/
theorem sum_calls {commands : List Command} (hnodup : (commands.map Command.name).Nodup) :
    (commands.map fun c => past.countP fun p => p.calls c.name).sum
      = past.countP fun p => p.command?.any fun c => c.name ∈ commands.map Command.name := by
  induction past with
  | nil => simp
  | cons p past ih =>
      -- One more message adds to both sides what it adds for a single command of the list.
      simp only [List.countP_cons]
      rw [List.sum_map_add, ih]
      congr 1
      cases p with
      | stopped outcome => simp [Passage.calls, Passage.command?]
      | called command result =>
          simpa [Passage.calls, Passage.command?] using sum_name_eq hnodup command.name

variable {bot : Bot} {s : BotState}

namespace Counted

/-- The counter of an outcome. -/
theorem count_outcomes (h : Counted past s) (o : Outcome) :
    s.metrics.outcomes.count [o.name] = past.countP fun p => p.outcome = o := by
  rw [h.outcomes, Metrics.SeriesTable.count_tally]
  refine countP_labels fun p _ => ?_
  simp only [Passage.outcomeLabels, List.countP_singleton, digest_outcome_iff, eq_comm]

/-- The counters of outcomes add up to the messages. -/
theorem total_outcomes (h : Counted past s) : s.metrics.outcomes.total = past.length := by
  rw [h.outcomes, Metrics.SeriesTable.total_tally, List.length_flatMap]
  simp [Passage.outcomeLabels]

/-- The counter of a command holds the calls of all commands of its series. -/
theorem count_commands (h : Counted past s) (name : String) :
    s.metrics.commands.count [name] = past.countP fun p =>
      p.command?.any fun c => Metrics.digest [name] = Metrics.digest [c.name] := by
  rw [h.commands, Metrics.SeriesTable.count_tally]
  refine countP_labels fun p _ => ?_
  rcases p with _ | ⟨command, _⟩
  · rfl
  · exact List.countP_singleton

/-- The counters of rejections add up to the rejected messages. -/
theorem total_rejections (h : Counted past s) (hof : ∀ p ∈ past, p.Of r) :
    s.metrics.rejections.total = past.countP fun p => p.outcome = .rejected := by
  rw [h.rejections, Metrics.SeriesTable.total_tally, ← List.countP_true]
  refine countP_labels fun p hp => ?_
  have hp := hof p hp
  rcases p with o | ⟨command, i | _ | gate⟩
  · have hne : o ≠ .rejected := by
      rintro rfl
      cases hp
    exact (if_neg fun h => hne (of_decide_eq_true h)).symm
  · exact (if_neg fun h => Outcome.ofResult_error_ne_rejected i (of_decide_eq_true h)).symm
  · rfl
  · rfl

/-- A sum over the counters of failures. -/
theorem sumOf_failures (h : Counted past s) (q : List String → Bool) :
    s.metrics.failures.sumOf q = past.countP fun p => p.label?.any fun l => q [l] := by
  rw [h.failures, Metrics.SeriesTable.sumOf_tally distinguished_failures]
  exact countP_labels fun p _ => p.countP_failureLabels q

/-- The counter of the failures with one label. -/
theorem count_failures (h : Counted past s) {label : String} (hlabel : label ∈ Failure.labels) :
    s.metrics.failures.count [label] = past.countP fun p => p.label? = some label := by
  rw [h.failures, Metrics.SeriesTable.count_tally, countP_labels fun p _ => p.countP_failureLabels _]
  refine List.countP_congr fun p _ => ?_
  cases hp : p.label? with
  | none => simp
  | some l =>
      simp only [Option.any_some, decide_eq_true_eq, Option.some.injEq]
      refine ⟨fun hdigest => ?_, fun heq => heq ▸ rfl⟩
      -- Both are labels of failures, and the digest tells these apart.
      have hlabels := failures_distinguished _ (List.mem_map_of_mem hlabel) _
        (List.mem_map_of_mem (Passage.label?_mem hp)) hdigest
      exact (List.singleton_inj.mp hlabels).symm

/-- The sum over the categories of the counters of one label. -/
theorem sumOf_categories (h : Counted past s) (label : String) :
    s.metrics.failuresByCategory.sumOf (fun labels => labels.tail = [label])
      = past.countP fun p => p.label? = some label := by
  rw [h.categories, Metrics.SeriesTable.sumOf_tally distinguished_categories]
  refine countP_labels fun p _ => ?_
  rcases p with _ | ⟨command, i | _ | _⟩ <;> simp [Passage.categoryLabels, Passage.label?]

/-- The uses of the commands whose names satisfy `q` add up to their calls. -/
theorem sum_uses (h : Counted past s) (hbuilt : r.Built) (hof : ∀ p ∈ past, p.Of r) (q : String → Bool) :
    ((r.commands.filter fun c => q c.name).map fun c => s.usage.count c.name).sum
      = past.countP fun p => p.command?.any fun c => q c.name := by
  have hsub : ((r.commands.filter fun c => q c.name).map Command.name).Sublist
      (r.commands.map Command.name) :=
    List.Sublist.map _ List.filter_sublist
  simp only [h.uses]
  -- Names tell the chosen commands apart, and every message that calls one calls a registered one.
  rw [sum_calls (hsub.nodup hbuilt.names_nodup)]
  refine List.countP_congr fun p hp => ?_
  have hp := hof p hp
  rcases p with _ | ⟨command, _⟩
  · rfl
  · simp only [Passage.command?, Option.any_some, decide_eq_true_eq, List.mem_map, List.mem_filter]
    constructor
    · rintro ⟨c, ⟨-, hq⟩, hname⟩
      rwa [hname] at hq
    · intro hq
      exact ⟨command, ⟨hp, hq⟩, rfl⟩

/-- The counter of a command holds the uses of all commands of its series. -/
theorem count_series (h : Counted past s) (hbuilt : r.Built) (hof : ∀ p ∈ past, p.Of r) (name : String) :
    s.metrics.commands.count [name]
      = ((r.commands.filter fun c => Metrics.digest [name] = Metrics.digest [c.name]).map
          fun c => s.usage.count c.name).sum := by
  rw [h.count_commands]
  exact (h.sum_uses hbuilt hof fun name' => Metrics.digest [name] = Metrics.digest [name']).symm

/-- The counter of a command with a series of its own holds its uses. -/
theorem count_own (h : Counted past s) (hof : ∀ p ∈ past, p.Of r) {name : String}
    (hown : ∀ c ∈ r.commands, Metrics.digest [name] = Metrics.digest [c.name] → c.name = name) :
    s.metrics.commands.count [name] = s.usage.count name := by
  rw [h.count_commands, h.uses]
  refine List.countP_congr fun p hp => ?_
  have hp := hof p hp
  rcases p with _ | ⟨command, _⟩
  · rfl
  · show decide _ = true ↔ decide _ = true
    rw [decide_eq_true_eq, decide_eq_true_eq]
    exact ⟨hown command hp, fun hname => hname ▸ rfl⟩

end Counted

/-- An outcome that is not early is one of five. -/
theorem not_isEarly_eq (o : Outcome) : (if (!o.isEarly) = true then 1 else 0)
    = (if o = .rejected then 1 else 0) + (if o = .completed then 1 else 0)
      + (if o = .invalidArguments then 1 else 0) + (if o = .externalPermission then 1 else 0)
      + if o = .failed then 1 else 0 := by
  cases o <;> rfl

/-- Messages that call a command have one of five outcomes, and no other messages have one of them. -/
theorem countP_called (hof : ∀ p ∈ past, p.Of r) :
    (past.countP fun p => p.command?.isSome)
      = (past.countP fun p => p.outcome = .rejected) + (past.countP fun p => p.outcome = .completed)
        + (past.countP fun p => p.outcome = .invalidArguments)
        + (past.countP fun p => p.outcome = .externalPermission)
        + past.countP fun p => p.outcome = .failed := by
  induction past with
  | nil => rfl
  | cons p past ih =>
      have hrest := ih fun p hp => hof p (List.mem_cons_of_mem _ hp)
      have hone := not_isEarly_eq p.outcome
      rw [← Passage.isSome_command? (hof p List.mem_cons_self)] at hone
      simp only [List.countP_cons, hrest, decide_eq_true_eq]
      omega

namespace Counted

/-- The uses of all commands add up to the messages with one of five outcomes. -/
theorem sum_all_uses (h : Counted past s) (hbuilt : r.Built) (hof : ∀ p ∈ past, p.Of r) :
    (r.commands.map fun c => s.usage.count c.name).sum
      = s.metrics.outcomes.count [Outcome.rejected.name] + s.metrics.outcomes.count [Outcome.completed.name]
        + s.metrics.outcomes.count [Outcome.invalidArguments.name]
        + s.metrics.outcomes.count [Outcome.externalPermission.name]
        + s.metrics.outcomes.count [Outcome.failed.name] := by
  have hall := h.sum_uses hbuilt hof fun _ => true
  simp only [List.filter_true, Option.any_true] at hall
  rw [hall, countP_called hof]
  simp only [h.count_outcomes]

/-- If an outcome means a failure with one label, both have the same counter. -/
theorem count_failure_eq (h : Counted past s) {label : String} (hlabel : label ∈ Failure.labels)
    {o : Outcome} (hiff : ∀ p ∈ past, p.outcome = o ↔ p.label? = some label) :
    s.metrics.failures.count [label] = s.metrics.outcomes.count [o.name] := by
  rw [h.count_failures hlabel, h.count_outcomes]
  refine List.countP_congr fun p hp => ?_
  rw [decide_eq_true_eq, decide_eq_true_eq]
  exact (hiff p hp).symm

/-- Failures under labels other than two of them add up to the failed messages. -/
theorem sumOf_failed (h : Counted past s) (hof : ∀ p ∈ past, p.Of r) :
    (s.metrics.failures.sumOf fun labels =>
        labels ≠ ["insufficient_external_permission"] ∧ labels ≠ ["invalid_arguments"])
      = s.metrics.outcomes.count [Outcome.failed.name] := by
  rw [h.sumOf_failures, h.count_outcomes]
  refine List.countP_congr fun p hp => ?_
  rw [decide_eq_true_eq, (Passage.outcome_of_label? (hof p hp)).2.2, Option.any_eq_true]
  simp

/-- Over the categories, the failures under a label add up to all failures under it. -/
theorem sumOf_categories_eq (h : Counted past s) (label : String) :
    (s.metrics.failuresByCategory.sumOf fun labels => labels.tail = [label])
      = s.metrics.failures.sumOf fun labels => labels = [label] := by
  rw [h.sumOf_categories, h.sumOf_failures]
  refine List.countP_congr fun p _ => ?_
  rw [decide_eq_true_eq, Option.any_eq_true]
  simp

end Counted

end Laws

/-! ## Conservation -/

/-- The laws between the counters of a bot, given what became of its messages. -/
structure Conserved (bot : Bot) (visits : List Visit) (s : BotState) : Prop where
  /-- An outcome is counted as often as messages had it. -/
  outcomes : ∀ o : Outcome, s.metrics.outcomes.count [o.name] = visits.countP fun v => v.outcome = o
  /-- The outcomes add up to the messages. -/
  messages : s.metrics.outcomes.total = visits.length
  /-- What messages reach is registered, and names tell registered commands apart. -/
  reached : (∀ v ∈ visits, ∀ c ∈ v.reached, c ∈ bot.registry.commands) ∧
    (bot.registry.commands.map Command.name).Nodup
  /-- A command is used as often as messages reached it. -/
  uses : ∀ c ∈ bot.registry.commands,
    s.usage.count c.name = visits.countP fun v => v.reached.any fun c' => c'.name = c.name
  /-- The counter of a command holds the uses of all commands of its series. -/
  series : ∀ c ∈ bot.registry.commands,
    s.metrics.commands.count [c.name]
      = ((bot.registry.commands.filter fun c' => Metrics.digest [c.name] = Metrics.digest [c'.name]).map
          fun c' => s.usage.count c'.name).sum
  /-- If no other command is in its series, these are its own uses. -/
  commands : ∀ c ∈ bot.registry.commands,
    (∀ c' ∈ bot.registry.commands, Metrics.digest [c.name] = Metrics.digest [c'.name] → c'.name = c.name) →
    s.metrics.commands.count [c.name] = s.usage.count c.name
  /-- All uses add up to the messages that got as far as a command. -/
  calls : (bot.registry.commands.map fun c => s.usage.count c.name).sum
    = s.metrics.outcomes.count [Outcome.rejected.name] + s.metrics.outcomes.count [Outcome.completed.name]
      + s.metrics.outcomes.count [Outcome.invalidArguments.name]
      + s.metrics.outcomes.count [Outcome.externalPermission.name]
      + s.metrics.outcomes.count [Outcome.failed.name]
  /-- The gates' rejections add up to the rejected messages. -/
  rejections : s.metrics.rejections.total = s.metrics.outcomes.count [Outcome.rejected.name]
  externalPermission : s.metrics.failures.count ["insufficient_external_permission"]
    = s.metrics.outcomes.count [Outcome.externalPermission.name]
  invalidArguments : s.metrics.failures.count ["invalid_arguments"]
    = s.metrics.outcomes.count [Outcome.invalidArguments.name]
  /-- Failures under all other labels add up to the failed messages. -/
  failed : (s.metrics.failures.sumOf fun labels =>
      labels ≠ ["insufficient_external_permission"] ∧ labels ≠ ["invalid_arguments"])
    = s.metrics.outcomes.count [Outcome.failed.name]
  /-- Over the categories, the failures under a label add up to all failures under it. -/
  categories : ∀ label, (s.metrics.failuresByCategory.sumOf fun labels => labels.tail = [label])
    = s.metrics.failures.sumOf fun labels => labels = [label]

/-- What is counted in full obeys the laws. -/
theorem Counted.conserved {bot : Bot} {past : List Passage} {s : BotState} (hbuilt : bot.registry.Built)
    (hof : ∀ p ∈ past, p.Of bot.registry) (h : Counted past s) :
    Conserved bot (past.map Passage.visit) s where
  outcomes o := by
    rw [h.count_outcomes, List.countP_map]
    rfl
  messages := by rw [h.total_outcomes, List.length_map]
  reached := by
    refine ⟨?_, hbuilt.names_nodup⟩
    intro v hv c hc
    obtain ⟨p, hp, rfl⟩ := List.mem_map.mp hv
    have hp := hof p hp
    rcases p with _ | ⟨command, _⟩
    · cases hc
    · rw [← Option.some.inj hc]
      exact hp
  uses c _ := by
    rw [h.uses, List.countP_map]
    rfl
  series c _ := h.count_series hbuilt hof c.name
  commands c _ hown := h.count_own hof hown
  calls := h.sum_all_uses hbuilt hof
  rejections := by rw [h.total_rejections hof, h.count_outcomes]
  externalPermission :=
    h.count_failure_eq (by decide) fun p hp => (Passage.outcome_of_label? (hof p hp)).1
  invalidArguments :=
    h.count_failure_eq (by decide) fun p hp => (Passage.outcome_of_label? (hof p hp)).2.1
  failed := h.sumOf_failed hof
  categories label := h.sumOf_categories_eq label

namespace Bot

/-- **Over a whole run the counters agree.** Whatever messages a bot with commands that were registered deals
    with, and whatever else happens in between, its counters obey the laws at every time. -/
theorem after_conserved {bot : Bot} (hbuilt : bot.registry.Built) (world : World) (store : CachedStore)
    (run : List Happening) :
    Conserved bot (bot.visits run (fresh world store)) (bot.after run (fresh world store)) := by
  obtain ⟨past, hvisits, hof, hcounted⟩ := (Counted.fresh world store).run hbuilt run
  rw [hvisits]
  exact hcounted.conserved hbuilt hof

/-! ## Two commands in one series -/

/-- A command without gates that does nothing. -/
def idle (name : String) : Command :=
  ⟨.declare name .utility [] "" [] [], [], fun _ => return⟩

/-- Two names with one digest. -/
def twin : Command := idle "8yn0iYCKYHlIj4-BwPqk"

@[inherit_doc twin]
def otherTwin : Command := idle "GReLUrM4wMqfg9yzV3KQ"

/-- A bot that knows both. -/
def twinBot : Bot where
  services := { (default : Services) with lead := "!" }
  registry := (Registry.empty.add twin).add otherTwin

/-- A direct message that calls a command. -/
def callOf (c : Command) : Message :=
  { pingMessage with content := "!" ++ c.name }

/-- Each is called once. -/
def twinRun : List Happening :=
  [.message (callOf twin) ⟨0, 0⟩, .message (callOf otherTwin) ⟨0, 0⟩]

def twinState : BotState :=
  fresh (.ofBot ⟨Id.ofNat 9, "bot", true⟩) (.ofStore (.ofAdmins []) 0)

theorem twinBot_built : twinBot.registry.Built := by
  have hfirst : Registry.empty.register (.ofGuilds []) twin.descriptor twin.body
      = .ok (Registry.empty.add twin) := by
    rfl
  have hsecond : (Registry.empty.add twin).register (.ofGuilds []) otherTwin.descriptor otherTwin.body
      = .ok twinBot.registry := by
    rfl
  exact .register (.register .empty hfirst) hsecond

theorem after_conserved_twins : twinBot.registry.Built ∧
    Conserved twinBot (twinBot.visits twinRun twinState) (twinBot.after twinRun twinState) :=
  ⟨twinBot_built, after_conserved twinBot_built _ _ twinRun⟩

/-- **The counter of a command can hold more than its uses**: each of the two was used once, and the counter
    that they share stands at two. -/
theorem command_counters_can_merge : twinBot.registry.Built ∧ twin ∈ twinBot.registry.commands ∧
    (twinBot.after twinRun twinState).usage.count twin.name = 1 ∧
    (twinBot.after twinRun twinState).metrics.commands.count [twin.name] = 2 := by
  refine ⟨twinBot_built, List.mem_cons_self, ?_⟩
  decide +kernel

end Bot

end Gatehouse
