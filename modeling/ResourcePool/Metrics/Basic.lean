import ResourcePool.Json.Record
import ResourcePool.Text.Outline

/-!
# Metrics

* `Counter` and `Tally` — the events that a pool counts while it runs, without an upper bound.
* `Metric` and `Metrics` — a snapshot of a pool: its counters and its current numbers of lent
  resources, idle resources and keys, each in a word of 64 bits.
* `Metrics.table`, `Metrics.outline` and `Metrics.format` — a snapshot as a table of texts, as an
  outline and as JSON.
-/

namespace ResourcePool

/-! ## Counting events -/

/-- The events that a pool counts. -/
inductive Counter where
  /-- A resource was lent. -/
  | borrowed
  /-- A resource came back and was kept. -/
  | returned
  /-- The factory created a resource. -/
  | created
  /-- A resource was given to the factory to destroy. -/
  | destroyed
  /-- Destroying a resource failed. -/
  | destroyFailures
  /-- A candidate was discarded because it could not be activated. -/
  | activationFailures
  /-- A resource was discarded because it did not pass validation. -/
  | validationFailures
  /-- A resource was discarded because it could not be passivated. -/
  | passivationFailures
  /-- A borrow was refused because its key was at capacity. -/
  | refusals
  deriving DecidableEq, Repr

/-- How often each event has happened. -/
structure Tally where
  borrowed : Nat := 0
  returned : Nat := 0
  created : Nat := 0
  destroyed : Nat := 0
  destroyFailures : Nat := 0
  activationFailures : Nat := 0
  validationFailures : Nat := 0
  passivationFailures : Nat := 0
  refusals : Nat := 0
  deriving DecidableEq, Repr

namespace Tally

/-- How often one event has happened. -/
def get (tally : Tally) : Counter → Nat
  | .borrowed => tally.borrowed
  | .returned => tally.returned
  | .created => tally.created
  | .destroyed => tally.destroyed
  | .destroyFailures => tally.destroyFailures
  | .activationFailures => tally.activationFailures
  | .validationFailures => tally.validationFailures
  | .passivationFailures => tally.passivationFailures
  | .refusals => tally.refusals

/-- Counts one more event. -/
def bump (tally : Tally) : Counter → Tally
  | .borrowed => { tally with borrowed := tally.borrowed + 1 }
  | .returned => { tally with returned := tally.returned + 1 }
  | .created => { tally with created := tally.created + 1 }
  | .destroyed => { tally with destroyed := tally.destroyed + 1 }
  | .destroyFailures => { tally with destroyFailures := tally.destroyFailures + 1 }
  | .activationFailures => { tally with activationFailures := tally.activationFailures + 1 }
  | .validationFailures => { tally with validationFailures := tally.validationFailures + 1 }
  | .passivationFailures => { tally with passivationFailures := tally.passivationFailures + 1 }
  | .refusals => { tally with refusals := tally.refusals + 1 }

/-- Counting an event changes the number of that event alone. -/
@[simp] theorem get_bump (tally : Tally) (event counter : Counter) :
    (tally.bump event).get counter = tally.get counter + (if counter = event then 1 else 0) := by
  cases event <;> cases counter <;> rfl

end Tally

/-! ## Snapshots -/

/-- What a snapshot tells about a pool. -/
inductive Metric where
  | borrowed
  | returned
  | created
  | destroyed
  | destroyFailures
  | activationFailures
  | validationFailures
  | passivationFailures
  | refusals
  /-- The resources that are lent at the moment. -/
  | active
  /-- The resources that are idle at the moment. -/
  | idle
  /-- The keys with a lent or an idle resource. -/
  | keys
  deriving DecidableEq, Repr

/-- A snapshot of a pool. -/
structure Metrics where
  borrowed : UInt64 := 0
  returned : UInt64 := 0
  created : UInt64 := 0
  destroyed : UInt64 := 0
  destroyFailures : UInt64 := 0
  activationFailures : UInt64 := 0
  validationFailures : UInt64 := 0
  passivationFailures : UInt64 := 0
  refusals : UInt64 := 0
  active : UInt64 := 0
  idle : UInt64 := 0
  keys : UInt64 := 0
  deriving DecidableEq, Repr

namespace Metric

/-- The metrics in the order in which they are shown and written. -/
def all : List Metric :=
  [.borrowed, .returned, .created, .destroyed, .destroyFailures, .activationFailures,
    .validationFailures, .passivationFailures, .refusals, .active, .idle, .keys]

/-- The name of a metric outside this library. -/
def name : Metric → String
  | .borrowed => "total_borrowed"
  | .returned => "total_returned"
  | .created => "total_created"
  | .destroyed => "total_destroyed"
  | .destroyFailures => "destroy_failures"
  | .activationFailures => "activation_failures"
  | .validationFailures => "validation_failures"
  | .passivationFailures => "passivation_failures"
  | .refusals => "max_active_events"
  | .active => "active_objects"
  | .idle => "idle_objects"
  | .keys => "keys"

end Metric

namespace Metrics

/-- The value of one metric. -/
def get (metrics : Metrics) : Metric → UInt64
  | .borrowed => metrics.borrowed
  | .returned => metrics.returned
  | .created => metrics.created
  | .destroyed => metrics.destroyed
  | .destroyFailures => metrics.destroyFailures
  | .activationFailures => metrics.activationFailures
  | .validationFailures => metrics.validationFailures
  | .passivationFailures => metrics.passivationFailures
  | .refusals => metrics.refusals
  | .active => metrics.active
  | .idle => metrics.idle
  | .keys => metrics.keys

/-- Replaces the value of one metric. -/
def set (metrics : Metrics) (value : UInt64) : Metric → Metrics
  | .borrowed => { metrics with borrowed := value }
  | .returned => { metrics with returned := value }
  | .created => { metrics with created := value }
  | .destroyed => { metrics with destroyed := value }
  | .destroyFailures => { metrics with destroyFailures := value }
  | .activationFailures => { metrics with activationFailures := value }
  | .validationFailures => { metrics with validationFailures := value }
  | .passivationFailures => { metrics with passivationFailures := value }
  | .refusals => { metrics with refusals := value }
  | .active => { metrics with active := value }
  | .idle => { metrics with idle := value }
  | .keys => { metrics with keys := value }

/-- Setting a metric changes that metric alone. -/
@[simp] theorem get_set (metrics : Metrics) (value : UInt64) (target metric : Metric) :
    (metrics.set value target).get metric =
      if metric = target then value else metrics.get metric := by
  cases target <;> cases metric <;> rfl

/-- The snapshot of a pool with the given counts, each reduced to 64 bits. -/
def ofTally (tally : Tally) (active idle keys : Nat) : Metrics where
  borrowed := .ofNat tally.borrowed
  returned := .ofNat tally.returned
  created := .ofNat tally.created
  destroyed := .ofNat tally.destroyed
  destroyFailures := .ofNat tally.destroyFailures
  activationFailures := .ofNat tally.activationFailures
  validationFailures := .ofNat tally.validationFailures
  passivationFailures := .ofNat tally.passivationFailures
  refusals := .ofNat tally.refusals
  active := .ofNat active
  idle := .ofNat idle
  keys := .ofNat keys

/-! ## Ways of writing a snapshot -/

/-- The decimal text of one metric. -/
def text (metrics : Metrics) (metric : Metric) : String := toString (metrics.get metric).toNat

/-- A snapshot as a table from names to decimals. -/
def table (metrics : Metrics) : List (String × String) :=
  Metric.all.map fun metric => (metric.name, metrics.text metric)

/-- The name of the record in diagnostics and refusals. -/
def recordName : String := "PoolMetrics"

/-- The outline of a snapshot. -/
def outline (metrics : Metrics) : Text.Outline :=
  .record recordName (Metric.all.map fun metric => (metric.name, .word (metrics.text metric)))

/-- A snapshot as a JSON record, all of whose members are required. -/
def format : RecordFormat Metric Metrics Metrics where
  name := recordName
  shortArray := .elements recordName 12
  fields := Metric.all
  fieldName := Metric.name
  isOptional _ := false
  isStrict := false
  blank := {}
  set metric json metrics := (json.decodeWord64 .size).map fun value => metrics.set value metric
  finish := .ok
  get metric metrics := .ofNat (metrics.get metric).toNat

end Metrics

end ResourcePool
