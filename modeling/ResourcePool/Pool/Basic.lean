import ResourcePool.Factory
import ResourcePool.Metrics.Basic
import ResourcePool.Note
import ResourcePool.Store.Basic

/-!
# The state of a pool

A pool is its configuration, its store, its counters and the notes it has made. How an operation
that waits for the factory goes on is not part of it: that is a `Stage`.
-/

namespace ResourcePool

/-- A pool of resources `ω` under keys `κ`, whose factory fails with errors `ε`. -/
structure Pool (κ ω ε : Type) where
  /-- The configuration, which never changes. -/
  config : Config
  /-- The slots of the keys in use. -/
  store : Store κ ω
  /-- The events counted so far. -/
  tally : Tally := {}
  /-- The notes made so far, the latest first. -/
  notes : List (Note κ ε) := []

namespace Pool

variable {κ ω ε : Type} [DecidableEq κ]

/-- An open pool with nothing in it, whose store goes through its keys in a given order. -/
def empty (config : Config) (walk : Walk κ) : Pool κ ω ε where
  config := config
  store := { selection := config.selection, idleLimit := config.idleLimit, walk := walk }

/-- Counts an event. -/
def count (pool : Pool κ ω ε) (event : Counter) : Pool κ ω ε :=
  { pool with tally := pool.tally.bump event }

/-- Makes a note. -/
def note (pool : Pool κ ω ε) (note : Note κ ε) : Pool κ ω ε :=
  { pool with notes := note :: pool.notes }

/-- Whether the pool is closed. -/
def isClosed (pool : Pool κ ω ε) : Bool := pool.store.isSealed

/-- How many resources of a key are on loan. -/
def numActive (pool : Pool κ ω ε) (key : κ) : Nat := pool.store.numActive key

/-- How many resources of a key are idle. -/
def numIdle (pool : Pool κ ω ε) (key : κ) : Nat := pool.store.numIdle key

/-- A snapshot of the pool. -/
def metrics (pool : Pool κ ω ε) : Metrics :=
  .ofTally pool.tally pool.store.totalActive pool.store.totalIdle pool.store.keyCount

/-- The outline of a pool. -/
def outline (pool : Pool κ ω ε) : Text.Outline :=
  .record "KeyedObjectPool" [
    ("state", .word (if pool.isClosed then "Closed" else "Open")),
    ("selection", .word pool.config.selection.name),
    ("num_active", .ofNat pool.store.totalActive),
    ("num_idle", .ofNat pool.store.totalIdle)]

/-- Ends a loan that began with a given slot, and unlinks what has become vacant. -/
def endLoan (pool : Pool κ ω ε) (key : κ) (slot : SlotId) : Pool κ ω ε :=
  { pool with store := ((pool.store.release slot).prune key).2 }

end Pool

end ResourcePool
