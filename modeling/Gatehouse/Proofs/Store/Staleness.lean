import Gatehouse.Store.Cached
import Mathlib.Data.List.Induction

/-!
# `Gatehouse.Proofs.Store.Staleness` — how old a remembered answer can be

Requests, sweeps and changes of the store come in any order, and the store can be down for a while (`Op`). A run
keeps account of the answers that the store itself gave (`Run.answers`). A request reaches the store if it would
go unanswered with the store down (`reaches`).

A request is answered by the latest of these answers to the same guild and user, if it is less than a lifetime
old, and then the store is not asked; otherwise by the store as it is now. Nothing else in the run makes a
difference: no sweep, and no request for another guild or user (`fetch_boundedly_stale`).

What the cache holds is related to the account at one time (`Run.Agrees`), which is kept by everything that
happens until then (`Run.Agrees.step`).
-/

namespace Gatehouse.CachedStore

/-! ## Runs -/

/-- What can happen to a store whose answers are remembered. -/
inductive Op where
  | fetch (guild : Option GuildId) (user : UserId) (asked answered : Nat)
  | sweep (now : Nat)
  /-- The store is changed, goes down or comes back. -/
  | change (f : Store → Store)

/-- The readings of the clock that it takes. -/
def Op.readings : Op → List Nat
  | .fetch _ _ asked answered => [asked, answered]
  | .sweep now => [now]
  | .change _ => []

/-- The readings of the clock in a run, in order. -/
def readings (ops : List Op) : List Nat :=
  ops.flatMap Op.readings

/-- Whether it matters for requests of a guild and user: if it is one, or a change of the store. -/
def Op.matters (key : Option GuildId × UserId) : Op → Bool
  | .fetch guild user _ _ => (guild, user) = key
  | .sweep _ => false
  | .change _ => true

theorem readings_concat (ops : List Op) (op : Op) : readings (ops ++ [op]) = readings ops ++ op.readings := by
  rw [readings, List.flatMap_append, List.flatMap_singleton]
  rfl

theorem readings_filter_subset {ops : List Op} {p : Op → Bool} : readings (ops.filter p) ⊆ readings ops := by
  intro t ht
  obtain ⟨op, hop, ht⟩ := List.mem_flatMap.mp ht
  exact List.mem_flatMap.mpr ⟨op, (List.mem_filter.mp hop).1, ht⟩

/-- What the store has become by the changes in a run. -/
def storeAfter (inner : Store) (ops : List Op) : Store :=
  ops.foldl (fun s op => match op with | .change f => f s | _ => s) inner

theorem storeAfter_concat (inner : Store) (ops : List Op) (op : Op) :
    storeAfter inner (ops ++ [op]) = match op with
      | .change f => f (storeAfter inner ops)
      | _ => storeAfter inner ops := by
  rw [storeAfter, List.foldl_append]
  rfl

/-- Whether a request reaches the store. If so, it goes unanswered with the store down. -/
def reaches (s : CachedStore) (guild : Option GuildId) (user : UserId) (asked answered : Nat) : Bool :=
  !((s.change fun inner => { inner with down := true }).fetchDuring guild user asked answered).1.isOk

/-- An answer that the store itself gave. -/
structure Answer where
  key : Option GuildId × UserId
  /-- What the store held then. -/
  record : CallerRecord
  time : Nat

/-- A store with its cache, and the account of the answers that the store itself gave, latest first. -/
structure Run where
  state : CachedStore
  answers : List Answer

namespace Run

/-- A request that reaches the store and is answered goes into the account. -/
def step (r : Run) : Op → Run
  | .fetch guild user asked answered =>
      let (reply, state) := r.state.fetchDuring guild user asked answered
      { state
        answers :=
          if r.state.reaches guild user asked answered && reply.isOk then
            ⟨(guild, user), r.state.inner.lookup guild user, answered⟩ :: r.answers
          else r.answers }
  | .sweep now => { r with state := r.state.sweep now }
  | .change f => { r with state := r.state.change f }

/-- The run from a fresh cache. -/
def after (inner : Store) (lifetime : Nat) (ops : List Op) : Run :=
  ops.foldl step ⟨ofStore inner lifetime, []⟩

/-- The latest answer of the store for a guild and user. -/
def latest? (r : Run) (key : Option GuildId × UserId) : Option Answer :=
  r.answers.find? fun a => a.key = key

/-- The latest answer, if it is less than a lifetime old. -/
def valid? (r : Run) (key : Option GuildId × UserId) (now : Nat) : Option Answer :=
  (r.latest? key).filter fun a => r.state.cache.isFresh now a.time

theorem after_concat (inner : Store) (lifetime : Nat) (ops : List Op) (op : Op) :
    after inner lifetime (ops ++ [op]) = (after inner lifetime ops).step op := by
  rw [after, List.foldl_append]
  rfl

end Run

/-! ## One request -/

variable {s : CachedStore} {guild : Option GuildId} {user : UserId} {asked answered : Nat}

/-- A request that finds a valid answer comes back with it and leaves no trace. -/
theorem fetchDuring_of_some {record : CallerRecord} (h : s.cache.get? (guild, user) asked = some record) :
    s.fetchDuring guild user asked answered = (.ok record, s) := by
  have hlifetime : s.cache.lifetime ≠ 0 := by
    intro hzero
    rw [Cache.get?_of_lifetime_zero hzero] at h
    cases h
  rw [fetchDuring, if_neg hlifetime, h]

/-- Any other request comes back with what the store says. -/
theorem fetchDuring_of_none (h : s.cache.get? (guild, user) asked = none) :
    (s.fetchDuring guild user asked answered).1 = s.inner.fetch guild user := by
  simp only [fetchDuring, h]
  split
  · rfl
  · cases s.inner.fetch guild user <;> rfl

/-- If the store says nothing, that leaves no trace either. -/
theorem fetchDuring_of_down (h : s.cache.get? (guild, user) asked = none) (hdown : s.inner.down = true) :
    (s.fetchDuring guild user asked answered).2 = s := by
  simp only [fetchDuring, h, Store.fetch_of_down hdown]
  split <;> rfl

/-- If the store answers, the answer is found from then on. -/
theorem get?_fetchDuring_of_up (h : s.cache.get? (guild, user) asked = none) (hup : s.inner.down = false)
    (key : Option GuildId × UserId) (now : Nat) :
    (s.fetchDuring guild user asked answered).2.cache.get? key now
      = (s.cache.insert (guild, user) (s.inner.lookup guild user) answered).get? key now := by
  simp only [fetchDuring, h, Store.fetch_of_up hup]
  split
  · -- Without a lifetime nothing is remembered, and nothing would be found.
    next hzero =>
      rw [Cache.get?_of_lifetime_zero hzero, Cache.get?_of_lifetime_zero (c := s.cache.insert _ _ _) hzero]
  · rfl

/-- A request changes neither what is on record nor how long answers are valid. -/
theorem inner_fetchDuring (s : CachedStore) (guild : Option GuildId) (user : UserId) (asked answered : Nat) :
    (s.fetchDuring guild user asked answered).2.inner = s.inner ∧
    (s.fetchDuring guild user asked answered).2.cache.lifetime = s.cache.lifetime := by
  rw [fetchDuring]
  split
  · exact ⟨rfl, rfl⟩
  · split
    · exact ⟨rfl, rfl⟩
    · split <;> exact ⟨rfl, rfl⟩

/-- The store is reached exactly if no valid answer is found. -/
theorem reaches_eq : s.reaches guild user asked answered = (s.cache.get? (guild, user) asked).isNone := by
  rw [reaches]
  cases h : s.cache.get? (guild, user) asked with
  | some record =>
      rw [fetchDuring_of_some (s := s.change _) h]
      rfl
  | none =>
      rw [fetchDuring_of_none (s := s.change _) h]
      rfl

namespace Run

variable {r r' : Run} {key : Option GuildId × UserId} {now : Nat}

theorem step_of_some {record : CallerRecord} (h : r.state.cache.get? (guild, user) asked = some record) :
    r.step (.fetch guild user asked answered) = r := by
  simp only [step, reaches_eq, fetchDuring_of_some h, h, Option.isNone_some, Bool.false_and, Bool.false_eq_true,
    if_false]

theorem step_of_down (h : r.state.cache.get? (guild, user) asked = none) (hdown : r.state.inner.down = true) :
    r.step (.fetch guild user asked answered) = r := by
  have hreply : (r.state.fetchDuring guild user asked answered).1.isOk = false := by
    rw [fetchDuring_of_none h, Store.fetch, hdown]
    rfl
  simp only [step, hreply, fetchDuring_of_down h hdown, Bool.and_false, Bool.false_eq_true, if_false]

theorem answers_step_of_up (h : r.state.cache.get? (guild, user) asked = none)
    (hup : r.state.inner.down = false) :
    (r.step (.fetch guild user asked answered)).answers
      = ⟨(guild, user), r.state.inner.lookup guild user, answered⟩ :: r.answers := by
  have hreply : (r.state.fetchDuring guild user asked answered).1.isOk = true := by
    rw [fetchDuring_of_none h, Store.fetch, hup]
    rfl
  simp only [step, reaches_eq, h, hreply, Option.isNone_none, Bool.and_true, if_true]

/-! ## What the cache holds -/

/-- At the time `now` the cache finds what the account has: the latest answer of each guild and user, if it is
    less than a lifetime old. -/
def Agrees (r : Run) (now : Nat) : Prop :=
  ∀ key, r.state.cache.get? key now = (r.valid? key now).map Answer.record

/-- An answer of the store is the latest for its guild and user, and leaves the others as they are. -/
theorem latest?_step_of_up (h : r.state.cache.get? (guild, user) asked = none)
    (hup : r.state.inner.down = false) :
    (r.step (.fetch guild user asked answered)).latest? key
      = if key = (guild, user) then some ⟨(guild, user), r.state.inner.lookup guild user, answered⟩
        else r.latest? key := by
  rw [latest?, answers_step_of_up h hup, List.find?_cons]
  by_cases hkey : key = (guild, user)
  · simp [hkey]
  · simp [hkey, Ne.symm hkey, latest?]

theorem lifetime_step (r : Run) (op : Op) :
    (r.step op).state.cache.lifetime = r.state.cache.lifetime := by
  cases op with
  | fetch guild user asked answered => exact (inner_fetchDuring r.state guild user asked answered).2
  | sweep now => rfl
  | change f => rfl

theorem valid?_eq (r : Run) (op : Op) (key : Option GuildId × UserId) (now : Nat) :
    (r.step op).valid? key now = ((r.step op).latest? key).filter fun a => r.state.cache.isFresh now a.time := by
  simp only [valid?, Cache.isFresh, lifetime_step]

/-- **Whatever happens until then** keeps the cache in line with the account. -/
theorem Agrees.step (h : r.Agrees now) {op : Op} (hnow : ∀ t ∈ op.readings, t ≤ now) :
    (r.step op).Agrees now := by
  cases op with
  | fetch guild user asked answered =>
      cases hget : r.state.cache.get? (guild, user) asked with
      | some record => rwa [step_of_some hget]
      | none =>
          cases hdown : r.state.inner.down with
          | true => rwa [step_of_down hget hdown]
          | false =>
              intro key
              have hstate : (r.step (.fetch guild user asked answered)).state.cache.get? key now = _ :=
                get?_fetchDuring_of_up hget hdown key now
              rw [hstate, valid?_eq, latest?_step_of_up hget hdown]
              by_cases hkey : key = (guild, user)
              · subst hkey
                rw [Cache.get?_insert_self, if_pos rfl, Option.filter_some]
                split <;> rfl
              · rw [Cache.get?_insert_of_ne _ _ _ _ hkey, if_neg hkey]
                exact h key
  | sweep t =>
      intro key
      have hsweep : (r.state.cache.sweep t).get? key now = r.state.cache.get? key now :=
        Cache.get?_sweep (hnow t List.mem_cons_self)
      exact hsweep.trans (h key)
  | change f => exact h

/-- **After a run the cache is in line with the account**, at every time that is not before it. -/
theorem agrees_after (inner : Store) (lifetime : Nat) {ops : List Op} (h : ∀ t ∈ readings ops, t ≤ now) :
    (after inner lifetime ops).Agrees now := by
  induction ops using List.reverseRecOn with
  | nil => exact fun _ => rfl
  | append_singleton ops op ih =>
      rw [after_concat]
      simp only [readings_concat, List.mem_append] at h
      exact (ih fun t ht => h t (.inl ht)).step fun t ht => h t (.inr ht)

/-- A request is answered by the latest answer if that is valid, and otherwise by the store. -/
theorem Agrees.reply (h : r.Agrees asked) (guild : Option GuildId) (user : UserId) (answered : Nat) :
    (r.state.fetchDuring guild user asked answered).1
      = match r.valid? (guild, user) asked with
        | some a => .ok a.record
        | none => r.state.inner.fetch guild user := by
  have hget := h (guild, user)
  cases hvalid : r.valid? (guild, user) asked with
  | some a =>
      rw [hvalid] at hget
      exact congrArg Prod.fst (fetchDuring_of_some hget)
  | none =>
      rw [hvalid] at hget
      exact fetchDuring_of_none hget

/-! ## What makes no difference -/

/-- Two runs in which the store and its latest answer for a guild and user are the same. -/
structure Same (key : Option GuildId × UserId) (r r' : Run) : Prop where
  inner : r.state.inner = r'.state.inner
  lifetime : r.state.cache.lifetime = r'.state.cache.lifetime
  latest : r.latest? key = r'.latest? key

theorem Same.valid?_eq (h : Same key r r') (now : Nat) : r.valid? key now = r'.valid? key now := by
  simp only [valid?, Cache.isFresh, h.latest, h.lifetime]

/-- What does not matter for a guild and user can be left out of one run. -/
theorem Same.step_left (h : Same key r r') {op : Op} (hop : op.matters key = false) :
    Same key (r.step op) r' := by
  cases op with
  | fetch guild user asked answered =>
      have hother : key ≠ (guild, user) := fun he => of_decide_eq_false hop he.symm
      refine ⟨(inner_fetchDuring _ _ _ _ _).1.trans h.inner, (lifetime_step r _).trans h.lifetime, ?_⟩
      rw [← h.latest]
      cases hget : r.state.cache.get? (guild, user) asked with
      | some record => rw [step_of_some hget]
      | none =>
          cases hdown : r.state.inner.down with
          | true => rw [step_of_down hget hdown]
          | false => rw [latest?_step_of_up hget hdown, if_neg hother]
  | sweep now => exact ⟨h.inner, h.lifetime, h.latest⟩
  | change f => cases hop

/-- A request for the guild and user does the same in both. -/
theorem Same.fetch (h : Same (guild, user) r r') (hr : r.Agrees asked) (hr' : r'.Agrees asked) (answered : Nat) :
    Same (guild, user) (r.step (.fetch guild user asked answered))
      (r'.step (.fetch guild user asked answered)) := by
  have hsame : r.state.cache.get? (guild, user) asked = r'.state.cache.get? (guild, user) asked := by
    rw [hr, hr', h.valid?_eq]
  cases hget : r'.state.cache.get? (guild, user) asked with
  | some record => rwa [step_of_some hget, step_of_some (hsame.trans hget)]
  | none =>
      cases hdown : r'.state.inner.down with
      | true => rwa [step_of_down hget hdown, step_of_down (hsame.trans hget) (h.inner ▸ hdown)]
      | false =>
          have hup : r.state.inner.down = false := h.inner ▸ hdown
          constructor
          case inner =>
            exact (inner_fetchDuring _ _ _ _ _).1.trans (h.inner.trans (inner_fetchDuring _ _ _ _ _).1.symm)
          case lifetime => rw [lifetime_step, lifetime_step, h.lifetime]
          case latest =>
            rw [latest?_step_of_up hget hdown, latest?_step_of_up (hsame.trans hget) hup, h.inner, h.latest]

/-- **A run is the same for a guild and user without all that does not matter for them.** -/
theorem same_filter (inner : Store) (lifetime : Nat) {ops : List Op} (h : (readings ops).Pairwise (· ≤ ·))
    (key : Option GuildId × UserId) :
    Same key (after inner lifetime ops) (after inner lifetime (ops.filter (Op.matters key))) := by
  induction ops using List.reverseRecOn with
  | nil => exact ⟨rfl, rfl, rfl⟩
  | append_singleton ops op ih =>
      rw [readings_concat, List.pairwise_append] at h
      rw [List.filter_append, after_concat]
      cases hop : op.matters key with
      | false =>
          rw [List.filter_cons_of_neg (by simp [hop]), List.filter_nil, List.append_nil]
          exact (ih h.1).step_left hop
      | true =>
          rw [List.filter_cons_of_pos hop, List.filter_nil, after_concat]
          cases op with
          | fetch guild user asked answered =>
              obtain rfl : (guild, user) = key := of_decide_eq_true hop
              have hbefore : ∀ t ∈ readings ops, t ≤ asked := fun t ht => h.2.2 t ht asked List.mem_cons_self
              exact (ih h.1).fetch (agrees_after inner lifetime hbefore)
                (agrees_after inner lifetime fun t ht => hbefore t (readings_filter_subset ht)) answered
          | sweep now => cases hop
          | change f =>
              have hsame := ih h.1
              exact ⟨congrArg f hsame.inner, hsame.lifetime, hsame.latest⟩

/-! ## The account -/

theorem inner_after (inner : Store) (lifetime : Nat) (ops : List Op) :
    (after inner lifetime ops).state.inner = storeAfter inner ops ∧
    (after inner lifetime ops).state.cache.lifetime = lifetime := by
  induction ops using List.reverseRecOn with
  | nil => exact ⟨rfl, rfl⟩
  | append_singleton ops op ih =>
      rw [after_concat, lifetime_step, storeAfter_concat, ← ih.1]
      refine ⟨?_, ih.2⟩
      cases op with
      | fetch guild user asked answered => exact (inner_fetchDuring _ _ _ _ _).1
      | sweep now => rfl
      | change f => rfl

/-- **What is in the account was answered in the run**, with what the store held at that time. -/
theorem exists_fetch_of_mem {inner : Store} {lifetime : Nat} {ops : List Op} {a : Answer}
    (h : a ∈ (after inner lifetime ops).answers) :
    ∃ before asked rest, ops = before ++ .fetch a.key.1 a.key.2 asked a.time :: rest ∧
      a.record = (storeAfter inner before).lookup a.key.1 a.key.2 := by
  induction ops using List.reverseRecOn with
  | nil => cases h
  | append_singleton ops op ih =>
      have hlater (hold : a ∈ (after inner lifetime ops).answers) : ∃ before asked rest,
          ops ++ [op] = before ++ .fetch a.key.1 a.key.2 asked a.time :: rest ∧
          a.record = (storeAfter inner before).lookup a.key.1 a.key.2 := by
        obtain ⟨before, asked, rest, rfl, hrecord⟩ := ih hold
        exact ⟨before, asked, rest ++ [op], by simp, hrecord⟩
      rw [after_concat] at h
      cases op with
      | fetch guild user asked answered =>
          simp only [step] at h
          split at h
          · rcases List.mem_cons.mp h with rfl | hold
            · exact ⟨ops, asked, [], rfl, by rw [(inner_after inner lifetime ops).1]⟩
            · exact hlater hold
          · exact hlater h
      | sweep now => exact hlater h
      | change f => exact hlater h

end Run

/-! ## Bounded staleness -/

open Run (after)

/-- **How a request is answered after a run**, by the account of the run. -/
structure BoundedStaleness (inner : Store) (lifetime : Nat) (ops : List Op) (guild : Option GuildId)
    (user : UserId) (asked answered : Nat) : Prop where
  /-- By the latest answer of the store for the guild and user, if it is less than a lifetime old, whatever the
      store would say now. Such a request leaves no trace. -/
  remembered : ∀ a, (after inner lifetime ops).latest? (guild, user) = some a →
    Clock.elapsed asked a.time < lifetime →
    (∀ other, (((after inner lifetime ops).state.change fun _ => other).fetchDuring guild user asked answered).1
      = .ok a.record) ∧
    ((after inner lifetime ops).state.fetchDuring guild user asked answered).2 = (after inner lifetime ops).state
  /-- Otherwise by the store as it is now. -/
  current : (∀ a, (after inner lifetime ops).latest? (guild, user) = some a →
      lifetime ≤ Clock.elapsed asked a.time) →
    ((after inner lifetime ops).state.fetchDuring guild user asked answered).1
      = (storeAfter inner ops).fetch guild user ∧
    (after inner lifetime ops).state.reaches guild user asked answered = true
  /-- Without a lifetime always by the store as it is now. -/
  uncached : lifetime = 0 →
    ((after inner lifetime ops).state.fetchDuring guild user asked answered).1
      = (storeAfter inner ops).fetch guild user
  /-- A request that goes unanswered leaves no trace. -/
  unanswered : ∀ e, ((after inner lifetime ops).state.fetchDuring guild user asked answered).1 = .error e →
    ((after inner lifetime ops).state.fetchDuring guild user asked answered).2 = (after inner lifetime ops).state
  /-- What is in the account was answered in the run, with what the store held at that time. -/
  account : ∀ a ∈ (after inner lifetime ops).answers, ∃ before asked rest,
    ops = before ++ .fetch a.key.1 a.key.2 asked a.time :: rest ∧
    a.record = (storeAfter inner before).lookup a.key.1 a.key.2
  /-- Sweeps and requests for other guilds and users make no difference, wherever they are put in or left
      out. -/
  indifferent : ∀ ops', (readings ops' ++ [asked]).Pairwise (· ≤ ·) →
    ops'.filter (Op.matters (guild, user)) = ops.filter (Op.matters (guild, user)) →
    ((after inner lifetime ops').state.fetchDuring guild user asked answered).1
      = ((after inner lifetime ops).state.fetchDuring guild user asked answered).1

theorem le_of_mem_readings {ops : List Op} (h : (readings ops ++ [asked]).Pairwise (· ≤ ·)) :
    ∀ t ∈ readings ops, t ≤ asked :=
  fun t ht => (List.pairwise_append.mp h).2.2 t ht asked List.mem_cons_self

/-- **A cached store is a view of its store of bounded age.** -/
theorem fetch_boundedly_stale (inner : Store) (lifetime : Nat) {ops : List Op}
    (h : (readings ops ++ [asked]).Pairwise (· ≤ ·)) (guild : Option GuildId) (user : UserId) (answered : Nat) :
    BoundedStaleness inner lifetime ops guild user asked answered := by
  have hagrees := Run.agrees_after inner lifetime (le_of_mem_readings h)
  obtain ⟨hinner, hlifetime⟩ := Run.inner_after inner lifetime ops
  constructor
  case remembered =>
    intro a hlatest hvalid
    have hget : (after inner lifetime ops).state.cache.get? (guild, user) asked = some a.record := by
      rw [hagrees, Run.valid?, hlatest, Option.filter_some, Cache.isFresh, hlifetime, decide_eq_true hvalid]
      rfl
    refine ⟨fun other => ?_, congrArg Prod.snd (fetchDuring_of_some hget)⟩
    exact congrArg Prod.fst
      (fetchDuring_of_some (s := (after inner lifetime ops).state.change fun _ => other) hget)
  case current =>
    intro hexpired
    have hget : (after inner lifetime ops).state.cache.get? (guild, user) asked = none := by
      rw [hagrees, Option.map_eq_none_iff, Run.valid?, Option.filter_eq_none_iff]
      intro a hlatest
      rw [Cache.isFresh, hlifetime, decide_eq_true_iff]
      exact Nat.not_lt.mpr (hexpired a hlatest)
    exact ⟨by rw [fetchDuring_of_none hget, hinner], by rw [reaches_eq, hget]; rfl⟩
  case uncached =>
    intro hzero
    rw [fetchDuring_of_none (Cache.get?_of_lifetime_zero (hlifetime.trans hzero) _ _), hinner]
  case unanswered =>
    intro e he
    cases hget : (after inner lifetime ops).state.cache.get? (guild, user) asked with
    | some record => rw [fetchDuring_of_some hget]
    | none =>
        rw [fetchDuring_of_none hget] at he
        cases hdown : (after inner lifetime ops).state.inner.down with
        | true => exact fetchDuring_of_down hget hdown
        | false =>
            rw [Store.fetch_of_up hdown] at he
            cases he
  case account => exact fun a ha => Run.exists_fetch_of_mem ha
  case indifferent =>
    intro ops' h' hops
    have hsame := Run.same_filter inner lifetime (List.pairwise_append.mp h).1 (guild, user)
    have hsame' := Run.same_filter inner lifetime (List.pairwise_append.mp h').1 (guild, user)
    have hagrees' := Run.agrees_after inner lifetime (le_of_mem_readings h')
    rw [hops] at hsame'
    rw [hagrees.reply, hagrees'.reply, hsame'.valid?_eq, hsame'.inner, ← hsame.valid?_eq, ← hsame.inner]

/-- A request, then a change of what is on record about the user, an outage, and a sweep. -/
def outageRun : List Op :=
  [.fetch none (Id.ofNat 5) 0 1, .change fun s => s.insertVerification ⟨Id.ofNat 5, true, none⟩,
    .change fun s => { s with down := true }, .sweep 9]

/-- With a lifetime of ten, the answer that came at 1 is given again at 10, and not any more at 11. -/
theorem fetch_boundedly_stale_outageRun :
    (readings outageRun ++ [10]).Pairwise (· ≤ ·) ∧ (readings outageRun ++ [11]).Pairwise (· ≤ ·) ∧
    ((after (.ofAdmins []) 10 outageRun).state.fetchDuring none (Id.ofNat 5) 10 10).1 = .ok ⟨none, none, none⟩ ∧
    ((after (.ofAdmins []) 10 outageRun).state.fetchDuring none (Id.ofNat 5) 11 11).1
      = .error Store.offline := by
  have h₁₀ : (readings outageRun ++ [10]).Pairwise (· ≤ ·) := by decide
  have h₁₁ : (readings outageRun ++ [11]).Pairwise (· ≤ ·) := by decide
  have hlatest : (after (.ofAdmins []) 10 outageRun).latest? (none, Id.ofNat 5)
      = some ⟨(none, Id.ofNat 5), ⟨none, none, none⟩, 1⟩ := rfl
  have hstale₁₀ := fetch_boundedly_stale (.ofAdmins []) 10 h₁₀ none (Id.ofNat 5) 10
  have hstale₁₁ := fetch_boundedly_stale (.ofAdmins []) 10 h₁₁ none (Id.ofNat 5) 11
  refine ⟨h₁₀, h₁₁, (hstale₁₀.remembered _ hlatest (by decide)).1 _, ?_⟩
  refine (hstale₁₁.current fun a ha => ?_).1
  obtain rfl := Option.some.inj (hlatest.symm.trans ha)
  decide

end Gatehouse.CachedStore
