import ScreenQuery.Bridge.Basic
import ScreenQuery.Dump

/-!
# The snapshot cache

* A `Cache` keeps the latest snapshot and when it was captured. `fresh?` serves it while it is no
  older than the cache allows; `receive` puts a new dump in its place.
* `get` asks the bridge only when there is nothing to serve. A capture that fails changes nothing in
  the cache.
* Snapshots are numbered from one in the order in which their dumps are received.

`Cache` is `SnapshotCache`: `fresh?` and `isFresh` are what `get` asks of `is_fresh`, and `receive`
is its `store` after a capture. Out of scope: several caches in one process, which would take their
ids from the one counter of `next_snapshot_id`, and counters that pass 64 bits.
-/

namespace ScreenQuery

/-- A snapshot and when it was captured. -/
structure Entry where
  snapshot : Snapshot
  captured : Nat

/-- The latest snapshot, and how long it may be served, in milliseconds. -/
structure Cache where
  freshness : Nat
  entry : Option Entry
  /-- The number of captures that succeeded. -/
  captures : Nat
  /-- The id of the next snapshot. -/
  nextId : Nat

namespace Cache

/-- A cache that has received nothing. -/
def empty (freshness : Nat) : Cache := ⟨freshness, none, 0, 1⟩

/-- The latest snapshot, however old. -/
def current (cache : Cache) : Option Snapshot := cache.entry.map Entry.snapshot

/-- True when there is a snapshot that may still be served. -/
def isFresh (cache : Cache) (now : Nat) : Bool :=
  cache.entry.any fun entry => now - entry.captured ≤ cache.freshness

/-- The snapshot to serve, unless a new one is asked for. -/
def fresh? (cache : Cache) (force : Bool) (now : Nat) : Option Snapshot :=
  if !force && cache.isFresh now then cache.current else none

/-- The cache without its snapshot. -/
def invalidate (cache : Cache) : Cache := { cache with entry := none }

/-- Reads a dump and keeps its snapshot. -/
def store (cache : Cache) (dump : Text) (now : Nat) : Snapshot × Cache :=
  let snapshot := Dump.parse cache.nextId dump
  (snapshot, { cache with entry := some ⟨snapshot, now⟩, nextId := cache.nextId + 1 })

/-- Reads a dump that was captured and keeps its snapshot. -/
def receive (cache : Cache) (dump : Text) (now : Nat) : Snapshot × Cache :=
  let (snapshot, cache) := cache.store dump now
  (snapshot, { cache with captures := cache.captures + 1 })

/-- The snapshot for the answer of a bridge, and the cache after it. -/
def accept (cache : Cache) (dump : Except BridgeError Text) (now : Nat) :
    Except BridgeError Snapshot × Cache :=
  match dump with
  | .ok dump =>
    let (snapshot, cache) := cache.receive dump now
    (.ok snapshot, cache)
  | .error error => (.error error, cache)

/-- What a request leads to: how long it takes, its result, and cache and device after it. -/
structure Served (σ : Type) where
  latency : Nat
  result : Except BridgeError Snapshot
  cache : Cache
  device : σ

/-- Serves a snapshot, after a capture if need be. -/
def get {σ : Type} (bridge : Bridge σ) (cache : Cache) (force : Bool) (now : Nat) (device : σ) :
    Served σ :=
  match cache.fresh? force now with
  | some snapshot => ⟨0, .ok snapshot, cache, device⟩
  | none =>
    let answer := bridge.capture now device
    let (result, cache) := cache.accept answer.result (now + answer.latency)
    ⟨answer.latency, result, cache, answer.state⟩

end Cache

end ScreenQuery
