import Gatehouse.Store.Cached

/-!
# `Gatehouse.Proofs.Store.Answers` — remembered answers are answers of the store

As long as the store is not changed, what is remembered of it is what it says (`CachedStore.Faithful`), and a
request is answered as by the store itself, at any time (`CachedStore.Faithful.fetch_eq`).
-/

namespace Gatehouse

namespace Cache

variable {κ ν : Type} [DecidableEq κ]

/-- What a cache gives was put into it under the same key. -/
theorem entry_of_get? {c : Cache κ ν} {k : κ} {v : ν} {now : Nat} (h : c.get? k now = some v) :
    ∃ inserted, c.entries.get? k = some (v, inserted) := by
  rw [get?] at h
  split at h
  · next v' inserted hentry =>
      split at h
      · exact ⟨inserted, hentry.trans (by rw [Option.some.inj h])⟩
      · exact absurd h (by simp)
  · exact absurd h (by simp)

/-- Sweeping leaves nothing that was not there. -/
theorem entry_of_sweep {c : Cache κ ν} {k : κ} {e : ν × Nat} {now : Nat}
    (h : (c.sweep now).entries.get? k = some e) : c.entries.get? k = some e := by
  rw [sweep, Table.get?_filter] at h
  exact (Option.filter_eq_some_iff.mp h).1

end Cache

namespace CachedStore

variable {s : CachedStore}

/-- Every answer that is remembered is what the store says. -/
def Faithful (s : CachedStore) : Prop :=
  ∀ key answer inserted,
    s.cache.entries.get? key = some (answer, inserted) → answer = s.inner.lookup key.1 key.2

theorem Faithful.ofStore (inner : Store) (lifetime : Nat) : (ofStore inner lifetime).Faithful := by
  intro key answer inserted h
  exact absurd h (by simp [CachedStore.ofStore, Cache.empty])

theorem Faithful.insert (h : s.Faithful) (guild : Option GuildId) (user : UserId) (now : Nat) :
    { s with cache := s.cache.insert (guild, user) (s.inner.lookup guild user) now }.Faithful := by
  intro key answer inserted hentry
  rw [Cache.insert, Table.get?_insert] at hentry
  split at hentry
  · next hkey =>
      cases hentry
      rw [hkey]
  · exact h key answer inserted hentry

theorem Faithful.sweep (h : s.Faithful) (now : Nat) : (s.sweep now).Faithful := by
  intro key answer inserted hentry
  exact h key answer inserted (Cache.entry_of_sweep hentry)

/-- **A request is answered as by the store itself**, from the cache or not, and answers stay as they are. -/
theorem Faithful.fetch_eq (h : s.Faithful) (hup : s.inner.down = false) (guild : Option GuildId) (user : UserId)
    (now : Nat) :
    (s.fetch guild user now).1 = .ok (s.inner.lookup guild user) ∧
    (s.fetch guild user now).2.Faithful ∧ (s.fetch guild user now).2.inner = s.inner := by
  have hinner := Store.fetch_of_up hup guild user
  rw [fetch, fetchDuring]
  split
  · exact ⟨hinner, h, rfl⟩
  · cases hcached : s.cache.get? (guild, user) now with
    | some answer =>
        obtain ⟨inserted, hentry⟩ := Cache.entry_of_get? hcached
        exact ⟨congrArg Except.ok (h _ _ _ hentry), h, rfl⟩
    | none =>
        rw [hinner]
        exact ⟨rfl, h.insert guild user now, rfl⟩

end CachedStore

end Gatehouse
