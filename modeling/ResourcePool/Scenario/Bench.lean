import ResourcePool.Scenario.Apparatus
import ResourcePool.Scenario.Register
import ResourcePool.Session

/-!
# Carrying out commands

A bench is a session of a pool together with its factory and the names that a scenario has given to
handles, guards and resources.

* `Bench.settle` answers the calls that an action leads to, one after another, until the action is
  over. Before a call is answered the factory may carry out commands on the same bench, which start
  and end further operations.
* `Bench.perform` carries out one command.
* `Bench.takeReport` sums up what has happened since the last report.

Every call of the factory takes one unit of fuel, and a play of the bench that runs out of it ends
without a value. It ends so as well when an action is asked of a handle or a guard that does not
exist, which no command does.
-/

namespace ResourcePool.Scenario

/-- A session with its factory and the names in use. -/
structure Bench (σ ω : Type) where
  /-- The session. -/
  session : Session Key ω String
  /-- The state of the factory. -/
  factory : σ
  /-- The names of the handles. -/
  handles : Register Unit
  /-- The resources that were kept. -/
  objects : Register ω := []
  /-- The guards. -/
  guards : Register GuardId := []
  /-- The log of the factory since the last report, the latest entry first. -/
  log : List (LogEntry ω) := []
  /-- How many notes of the pool have been reported. -/
  reported : Nat := 0

/-- Something done with a bench. -/
abbrev Play (σ ω α : Type) := StateT (Bench σ ω) Option α

/-- How a play gets from an unfinished action to its reply. -/
abbrev Settler (σ ω : Type) := Option (Reply ω String) → Play σ ω (Reply ω String)

namespace Bench

variable {σ ω : Type}

/-- A bench with a new pool and one handle. -/
def create (kit : Apparatus σ ω) (config : Config) (handle : String) : Bench σ ω where
  session := .create config .linking
  factory := kit.initial
  handles := [(handle, ())]

/-- The state of the pool, if there still is a handle to ask through. -/
def snapshot? (bench : Bench σ ω) : Option Snapshot :=
  if bench.handles.isEmpty then none else some (.ofPool bench.session.pool)

/-! ## Reports -/

/-- Sums up what has happened since the last report. -/
def takeReport (outcome : Outcome ω) (waited : Option Nat) : Play σ ω (Report ω) := do
  let bench ← get
  let notes := bench.session.pool.notes
  set { bench with log := [], reported := notes.length }
  return {
    outcome := outcome
    waited := waited
    calls := bench.log.reverse
    state := bench.snapshot?
    notes := (notes.take (notes.length - bench.reported)).reverse }

/-- The log with the destroys at its end in the order of their keys, not reaching back before the
given length. The log has its latest entry first. -/
def sortTail (start : Nat) (log : List (LogEntry ω)) : List (LogEntry ω) :=
  let recent := log.take (log.length - start)
  let tail := recent.takeWhile fun entry => entry.destroyKey?.isSome
  let sorted := Key.sortBy (fun entry => entry.destroyKey?.getD default) tail.reverse
  sorted.reverse ++ log.drop tail.length

/-! ## Single actions -/

/-- Starts an action of the session and sees it through. -/
def act (settle : Settler σ ω) (action : Action Key ω) : Play σ ω (Reply ω String) := do
  let bench ← get
  let some (session, reply) := bench.session.act? action | failure
  set { bench with session := session }
  settle reply

/-- The outcome that a reply stands for. -/
def outcomeOf : Reply ω String → Outcome ω
  | .result result => .finished result
  | .guarded _ object => .finished (.lent object)

/-- What came of a command after something was dropped at its end: a panic there takes the place of
the outcome. -/
def afterDrop (outcome : Outcome ω) : Reply ω String → Outcome ω
  | .result (.panicked reason) => .finished (.panicked reason)
  | _ => outcome

/-- Keeps a resource under a name. Without a name it is lost, which is no concern of the pool. -/
def keepObject (name : Option String) (object : ω) : Play σ ω Unit := do
  let some name := name | return
  modify fun bench => { bench with objects := bench.objects.set name object }

/-- Keeps what a reply brings: a resource that was lent, or a guard. A guard that had the name
before is dropped. -/
def keep (settle : Settler σ ω) (name : Option String) (reply : Reply ω String) :
    Play σ ω (Outcome ω) := do
  let outcome := outcomeOf reply
  match reply with
  | .result (.lent object) => keepObject name object
  | .guarded id _ =>
    let name := name.getD ""
    let displaced := (← get).guards.get? name
    modify fun bench => { bench with guards := bench.guards.set name id }
    let some old := displaced | return outcome
    return afterDrop outcome (← act settle (.dropGuard old))
  | _ => pure ()
  return outcome

/-- Runs an operation through a handle. -/
def call (settle : Settler σ ω) (operation : Operation Key ω) : Play σ ω (Outcome ω) := do
  return outcomeOf (← act settle (.call operation))

/-- Borrows through a handle and keeps the resource. -/
def borrow (settle : Settler σ ω) (key : Key) (name : Option String) : Play σ ω (Outcome ω) := do
  keep settle name (← act settle (.call (.borrow key)))

/-- Borrows through a handle into a guard of a new name. -/
def obtain (settle : Settler σ ω) (key : Key) (name : String) : Play σ ω (Outcome ω) := do
  if (← get).guards.has name then return .fault .nameTaken
  keep settle (some name) (← act settle (.get key))

/-- What came of a borrow that is allowed to fail, though not to panic. -/
def forgive : Outcome ω → Outcome ω
  | .finished (.panicked reason) => .finished (.panicked reason)
  | .finished result => .tried result.lent?
  | outcome => outcome

/-- Does something with a kept resource. -/
def withObject (name : String) (use : ω → Play σ ω (Outcome ω)) : Play σ ω (Outcome ω) := do
  let some object := (← get).objects.get? name | return .fault .noObject
  use object

/-- Does something with a guard. -/
def withGuard (name : String) (use : GuardId → Play σ ω (Outcome ω)) : Play σ ω (Outcome ω) := do
  let some id := (← get).guards.get? name | return .fault .noGuard
  use id

/-- Does away with a guard by an action. -/
def spend (settle : Settler σ ω) (name : String) (action : GuardId → Action Key ω) :
    Play σ ω (Outcome ω) :=
  withGuard name fun id => do
    modify fun bench => { bench with guards := bench.guards.erase name }
    return outcomeOf (← act settle (action id))

/-- Does something through a handle, with a handle of its own that is dropped in the end. The pool
therefore stays open for it even if the factory drops all the others in the meantime. -/
def withHandle (settle : Settler σ ω) (name : String) (use : Play σ ω (Outcome ω)) :
    Play σ ω (Outcome ω) := do
  unless (← get).handles.has name do return .fault .noHandle
  discard <| act settle .cloneHandle
  let outcome ← use
  return afterDrop outcome (← act settle .dropHandle)

/-- Refuses a command that has no meaning where it stands. -/
def refuse (handle : String) : Play σ ω (Outcome ω) := do
  return .fault (if (← get).handles.has handle then .badOp else .noHandle)

/-- Drops a handle. -/
def dropHandle (settle : Settler σ ω) (name : String) : Play σ ω (Outcome ω) := do
  unless (← get).handles.has name do return .existed false
  modify fun bench => { bench with handles := bench.handles.erase name }
  return afterDrop (.existed true) (← act settle .dropHandle)

/-- Clones a handle under a new name. -/
def cloneHandle (settle : Settler σ ω) (name : String) : Play σ ω (Outcome ω) := do
  if (← get).handles.has name then return .fault .nameTaken
  modify fun bench => { bench with handles := bench.handles.set name () }
  return outcomeOf (← act settle .cloneHandle)

/-- Changes a resource in place and shows it. -/
def touch (kit : Apparatus σ ω) (settle : Settler σ ω) (value : Json) (guard : Option String)
    (object : String) : Play σ ω (Outcome ω) := do
  let bench ← get
  match guard.bind bench.guards.get? with
  | some id =>
    let some guard := bench.session.guard? id | return .fault .noGuard
    let changed := kit.touch value guard.object
    discard <| act settle (.touch id changed)
    return .held changed
  | none => withObject object fun found => do
    let changed := kit.touch value found
    modify fun bench => { bench with objects := bench.objects.set object changed }
    return .held changed

/-! ## Commands -/

/-- Carries out an order through a handle that exists. -/
def obey (settle : Settler σ ω) : Order → Play σ ω (Outcome ω)
  | .borrow key name => borrow settle key name
  | .tryBorrow key name => return forgive (← borrow settle key name)
  | .giveBack key name => withObject name fun object => call settle (.giveBack key object)
  | .invalidate key name => withObject name fun object => call settle (.invalidate key object)
  | .get key name => obtain settle key name
  | .add key => call settle (.add key)
  | .prefill key count => call settle (.prefill key count)
  | .clearKey key => call settle (.clearKey key)
  | .clear => call settle .clear
  | .close => call settle .close
  | .state => return .state (← get).session.pool.isClosed
  | .counts key => do
    let pool := (← get).session.pool
    return .counts (pool.numActive key) (pool.numIdle key)
  | .config => return .config (← get).session.pool.config
  | .debug spread => do
    let outline := (← get).session.pool.outline
    return .text (if spread then outline.spread 0 else outline.inline)
  | .metrics => return .table (← get).session.pool.metrics
  | .metricsRecord => return .record (← get).session.pool.metrics
  | .exposition pool tags => return .exposition ((← get).session.pool.metrics.expose pool tags)
  | .clone name => cloneHandle settle name
  | .borrowWaiting .. | .getWaiting .. | .unknown _ => return .fault .badOp

/-- Carries out a command, leaving the log as the factory wrote it. Commands that take time have no
place here. -/
def carryOut (kit : Apparatus σ ω) (settle : Settler σ ω) : Command → Play σ ω (Outcome ω)
  | .through handle order => withHandle settle handle (obey settle order)
  | .showGuard name => withGuard name fun id => do
    let some guard := (← get).session.guard? id | return .fault .noGuard
    return .guard guard.key guard.object
  | .dropGuard name => spend settle name .dropGuard
  | .release name => spend settle name .release
  | .invalidateGuard name => spend settle name .invalidate
  | .touch guard object value => touch kit settle value guard object
  | .forge value name => do
    let object := kit.forge value
    keepObject name object
    return .held object
  | .rule rule => do
    modify fun bench => { bench with factory := kit.addRule rule bench.factory }
    return .nothing
  | .clearRules => do
    modify fun bench => { bench with factory := kit.clearRules bench.factory }
    return .nothing
  | .dropHandle name => dropHandle settle name
  | .recorder handle command => do
    let bench ← get
    let some (outcome, factory) := kit.record command bench.factory | refuse handle
    set { bench with factory := factory }
    return outcome
  | .tasks handle _ | .sleep handle _ => refuse handle

/-- **Carries out a command.** If it may have emptied the pool, the destroys at its end are put in
the order of their keys. -/
def perform (kit : Apparatus σ ω) (settle : Settler σ ω) (command : Command) :
    Play σ ω (Outcome ω) := do
  let start := (← get).log.length
  let outcome ← carryOut kit settle command
  if command.emptiesPool then
    modify fun bench => { bench with log := sortTail start bench.log }
  return outcome

/-- **Sees an action through**: as long as there is no reply, the call that the innermost operation
waits for is put to the factory, whose commands are carried out before its answer counts. -/
def settle (kit : Apparatus σ ω) : Nat → Settler σ ω
  | _, some reply => return reply
  | 0, none => failure
  | fuel + 1, none => do
    let bench ← get
    let some request := bench.session.request? | failure
    let (consultation, factory) := kit.consult request bench.factory
    set { bench with factory := factory, log := consultation.entry.toList ++ bench.log }
    for command in consultation.hooks do
      let outcome ← perform kit (settle kit fuel) command
      modify fun bench =>
        { bench with log := .hook command.name outcome bench.snapshot? :: bench.log }
    let bench ← get
    let some (session, reply) := bench.session.answer? consultation.answer | failure
    set { bench with session := session }
    settle kit fuel reply

end Bench

end ResourcePool.Scenario
