import Gatehouse.Cache
import Gatehouse.Store.Basic

/-!
# `Gatehouse.Store.Cached` — a store whose answers are remembered

Answers are kept for a while under the guild and user they were requested for. A lifetime of zero keeps
nothing, and a request that was not answered is never remembered.

A request reads the clock twice if it reaches the store: when it looks for an answer that is remembered, and
when it remembers the answer of the store.

## Contents
- `CachedStore`, `CachedStore.fetchDuring`, `CachedStore.fetch`, `CachedStore.sweep`, `CachedStore.change`.
-/

namespace Gatehouse

/-- A store with a cache of its answers. -/
structure CachedStore where
  inner : Store
  cache : Cache (Option GuildId × UserId) CallerRecord

namespace CachedStore

/-- A store whose answers are remembered for `lifetime`. -/
def ofStore (inner : Store) (lifetime : Nat) : CachedStore :=
  ⟨inner, Cache.empty lifetime⟩

/-- Request what is on record for a user, from the cache if it has an answer that is valid at `asked`. An answer
    of the store is remembered from `answered` on. -/
def fetchDuring (s : CachedStore) (guild : Option GuildId) (user : UserId) (asked answered : Nat) :
    Except Store.Unavailable CallerRecord × CachedStore :=
  if s.cache.lifetime = 0 then (s.inner.fetch guild user, s)
  else
    match s.cache.get? (guild, user) asked with
    | some answer => (.ok answer, s)
    | none =>
        match s.inner.fetch guild user with
        | .ok answer => (.ok answer, { s with cache := s.cache.insert (guild, user) answer answered })
        | .error e => (.error e, s)

/-- Request what is on record for a user while the clock stands still. -/
def fetch (s : CachedStore) (guild : Option GuildId) (user : UserId) (now : Nat) :
    Except Store.Unavailable CallerRecord × CachedStore :=
  s.fetchDuring guild user now now

/-- The store without the answers that have expired. -/
def sweep (s : CachedStore) (now : Nat) : CachedStore :=
  { s with cache := s.cache.sweep now }

/-- The store after a change of what is on record. The cache keeps what it holds. -/
def change (s : CachedStore) (f : Store → Store) : CachedStore :=
  { s with inner := f s.inner }

end CachedStore

end Gatehouse
