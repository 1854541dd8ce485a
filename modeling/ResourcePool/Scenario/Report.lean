import ResourcePool.Factory.Recorder
import ResourcePool.Metrics.Exposition
import ResourcePool.Pool.Basic
import ResourcePool.Pool.Stage
import ResourcePool.Scenario.Key

/-!
# What a scenario reports

Every step of a scenario is reported with its outcome, the calls of the factory since the step
before, the state of the pool and the notes the pool has made.
-/

namespace ResourcePool.Scenario

/-- Why a command was not carried out. -/
inductive Fault where
  /-- There is no handle of the name. -/
  | noHandle
  /-- There is no resource of the name. -/
  | noObject
  /-- There is no guard of the name. -/
  | noGuard
  /-- The name is in use. -/
  | nameTaken
  /-- The command is not known, or has no meaning where it stands. -/
  | badOp
  deriving DecidableEq, Repr

/-- The name of a fault. -/
def Fault.name : Fault → String
  | .noHandle => "NoHandle"
  | .noObject => "NoObject"
  | .noGuard => "NoGuard"
  | .nameTaken => "NameTaken"
  | .badOp => "BadOp"

/-- What came of a command. -/
inductive Outcome (ω : Type) where
  /-- It was not carried out. -/
  | fault (fault : Fault)
  /-- An operation of the pool is over. -/
  | finished (result : Result ω String)
  /-- A borrow that is allowed to fail is over. -/
  | tried (object : Option ω)
  /-- What a guard holds. -/
  | guard (key : Key) (object : ω)
  /-- A resource as it is now. -/
  | held (object : ω)
  /-- Whether something that was to be dropped existed. -/
  | existed (was : Bool)
  /-- Whether the pool is closed. -/
  | state (isClosed : Bool)
  /-- The counts of a key. -/
  | counts (active idle : Nat)
  /-- The configuration of the pool. -/
  | config (config : Config)
  /-- A text. -/
  | text (text : String)
  /-- The metrics as a table. -/
  | table (metrics : Metrics)
  /-- The metrics as a record. -/
  | record (metrics : Metrics)
  /-- The exposition of the metrics. -/
  | exposition (text : Except ExpositionError String)
  /-- The calls of a recording factory. -/
  | calls (calls : List (RecordedCall Key))
  /-- The numbers of resources. -/
  | numbers (numbers : List Nat)
  /-- There is nothing to tell. -/
  | nothing

/-- The state of a pool between two commands. -/
structure Snapshot where
  /-- How many resources are on loan. -/
  active : Nat
  /-- How many resources are idle. -/
  idle : Nat
  /-- The keys in use, as the metrics count them. -/
  keys : Nat
  /-- Whether the pool is closed. -/
  isClosed : Bool
  /-- The keys that have a resource on loan or idle, in order, with both counts. -/
  perKey : List (Key × Nat × Nat)

/-- The counts of all keys in use, in the order of the keys. -/
def countsPerKey {ω : Type} (store : Store Key ω) : List (Key × Nat × Nat) :=
  let counts (link : Key × SlotId) :=
    (link.1, (store.slot link.2).active, (store.slot link.2).idle.length)
  Key.sortBy (·.1) (store.links.map counts)

/-- The state of a pool. -/
def Snapshot.ofPool {ω : Type} (pool : Pool Key ω String) : Snapshot where
  active := pool.store.totalActive
  idle := pool.store.totalIdle
  keys := pool.store.keyCount
  isClosed := pool.isClosed
  perKey := (countsPerKey pool.store).filter fun entry => 0 < entry.2.1 + entry.2.2

/-- An entry in the log of a scripted factory. -/
inductive LogEntry (ω : Type) where
  /-- A call: its step, key and resource, and the name of the mode in which it ended. -/
  | call (step : Step) (key : Key) (id : Nat) (mode : String)
  /-- A command that the factory carried out during a call, and the state of the pool after it. -/
  | hook (name : String) (outcome : Outcome ω) (state : Option Snapshot)

/-- The key of an entry, if it is that of a destroy. -/
def LogEntry.destroyKey? {ω : Type} : LogEntry ω → Option Key
  | .call .destroy key _ _ => some key
  | _ => none

/-- What is reported of a step. -/
structure Report (ω : Type) where
  /-- What came of the command. -/
  outcome : Outcome ω
  /-- How long a waiting borrow waited, in milliseconds. -/
  waited : Option Nat := none
  /-- The log of the factory since the last report. -/
  calls : List (LogEntry ω)
  /-- The state of the pool, if there still is a handle. -/
  state : Option Snapshot
  /-- The notes of the pool since the last report. -/
  notes : List (Note Key String)

/-- What is reported of a command in a task. -/
structure TaskReport (ω : Type) where
  /-- The number of the task. -/
  task : Nat
  /-- When the command was over, in milliseconds from the start of the tasks. -/
  time : Nat
  /-- The report on the command itself. -/
  report : Report ω

/-- What is reported of a top-level step: a command, or tasks with what happened in them. -/
structure StepReport (ω : Type) where
  /-- The report on the step itself. -/
  report : Report ω
  /-- What happened in tasks, in the order in which it happened. -/
  events : Option (List (TaskReport ω)) := none

end ResourcePool.Scenario
