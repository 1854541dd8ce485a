import ResourcePool.Scenario.Bench
import ResourcePool.Waiting

/-!
# Tasks on a virtual clock

Lists of commands can run side by side. Time is virtual and counted in milliseconds: it stands still
while any task can go on, and then moves straight to the earliest moment at which one can. At every
such moment the tasks take their turns in the order of their numbers, and a task whose turn it is
goes on as far as it can.

* `Pause` — what a task waits for: the end of a sleep, or the next try of a waiting borrow.
* `Task.turn` — the turn of one task at a moment.
* `Bench.round` — one turn for every task. All of them share the ration of timers of the round, and
  when that was too short there is another round at the same moment.
* `Bench.runTasks` — all rounds until every task is over.

A waiting borrow holds a handle of its own from its start to its end, so the pool stays open for it
even if all other handles are dropped in the meantime.
-/

namespace ResourcePool.Scenario

/-- Something done with a bench in a round of turns. -/
abbrev Turnwise (σ ω α : Type) := StateT Ration (Play σ ω) α

/-- A waiting borrow in a task. -/
structure PendingBorrow where
  /-- The key to borrow under. -/
  key : Key
  /-- Whether the resource goes into a guard. -/
  guarded : Bool
  /-- The name for the resource or the guard. -/
  name : Option String
  /-- When it started. -/
  started : Nat
  /-- When it tries next, and when it gives up. -/
  wait : Wait

/-- What a task waits for. -/
inductive Pause where
  /-- The end of a sleep. -/
  | sleep (wake : Nat)
  /-- The next try of a waiting borrow. -/
  | borrow (pending : PendingBorrow)

/-- When the wait of a task is over. -/
def Pause.wake : Pause → Nat
  | .sleep wake => wake
  | .borrow pending => pending.wait.wake

/-- How far a command in a task has come. -/
inductive Advance (ω : Type) where
  /-- It is over; a waiting borrow tells how long it has waited. -/
  | over (outcome : Outcome ω) (waited : Option Nat)
  /-- It waits. -/
  | paused (pause : Pause)

/-- A task that is not over. -/
structure Task where
  /-- Its number. -/
  index : Nat
  /-- What it waits for, if it has begun a command. -/
  pause : Option Pause := none
  /-- The commands after that. -/
  rest : List Command

namespace PendingBorrow

variable {σ ω : Type}

/-- What a waiting borrow tries. -/
def action (pending : PendingBorrow) : Action Key ω :=
  if pending.guarded then .get pending.key else .call (.borrow pending.key)

/-- Ends a waiting borrow: the resource is kept, and the handle that it held is dropped. -/
def conclude (settle : Settler σ ω) (now : Nat) (pending : PendingBorrow)
    (reply : Reply ω String) : Play σ ω (Advance ω) := do
  let outcome ← Bench.keep settle pending.name reply
  let waited := some (now - pending.started)
  return .over (Bench.afterDrop outcome (← Bench.act settle .dropHandle)) waited

/-- Looks at a waiting borrow, with the function that says what it does then. -/
def advance (settle : Settler σ ω) (now : Nat) (pending : PendingBorrow)
    (look : Wait → Nat → Ration → Play σ ω (Reply ω String) →
      Play σ ω (Wait.Standing ω String × Ration)) : Turnwise σ ω (Advance ω) := do
  let (standing, ration) ←
    look pending.wait now (← getThe Ration) (Bench.act settle pending.action)
  set ration
  match standing with
  | .waiting wait => return .paused (.borrow { pending with wait := wait })
  | .over reply => pending.conclude settle now reply

/-- Looks again at a waiting borrow. -/
def poll (settle : Settler σ ω) (now : Nat) (pending : PendingBorrow) :
    Turnwise σ ω (Advance ω) :=
  pending.advance settle now Wait.poll

/-- Starts a waiting borrow with a handle of its own. -/
def start (settle : Settler σ ω) (now : Nat) (key : Key) (guarded : Bool) (name : Option String) :
    Turnwise σ ω (Advance ω) := do
  discard <| Bench.act settle .cloneHandle
  let patience := (← getThe (Bench σ ω)).session.pool.config.patience
  let pending : PendingBorrow := {
    key := key
    guarded := guarded
    name := name
    started := now
    wait := .start now patience }
  pending.advance settle now Wait.begin

end PendingBorrow

namespace Task

variable {σ ω : Type}

/-- Looks at the end of a sleep. -/
def sleepUntil (now wake : Nat) : Turnwise σ ω (Advance ω) := do
  let (fires, ration) := (← getThe Ration).look wake now
  set ration
  return if fires then .over (.finished .done) none else .paused (.sleep wake)

/-- Starts a command of a task. -/
def begin (kit : Apparatus σ ω) (settle : Settler σ ω) (now : Nat) (command : Command) :
    Turnwise σ ω (Advance ω) := do
  match command with
  | .sleep _ ms => sleepUntil now (now + min ms longestSleep)
  | .through handle (.borrowWaiting key name) =>
    unless (← getThe (Bench σ ω)).handles.has handle do return .over (.fault .noHandle) none
    PendingBorrow.start settle now key false name
  | .through handle (.getWaiting key name) =>
    let bench ← getThe (Bench σ ω)
    unless bench.handles.has handle do return .over (.fault .noHandle) none
    if bench.guards.has name then return .over (.fault .nameTaken) (some 0)
    PendingBorrow.start settle now key true (some name)
  | command => return .over (← Bench.perform kit settle command) none

/-- Goes on with what a task waits for. -/
def resume (settle : Settler σ ω) (now : Nat) : Pause → Turnwise σ ω (Advance ω)
  | .sleep wake => sleepUntil now wake
  | .borrow pending => pending.poll settle now

/-- What is left of a task, and what is reported of it. -/
abbrev Turn (ω : Type) := List (TaskReport ω) × Option Task

/-- Reports a command that is over. -/
def report (index now : Nat) (outcome : Outcome ω) (waited : Option Nat) :
    Turnwise σ ω (TaskReport ω) := do
  let summary ← (Bench.takeReport outcome waited : Play σ ω (Report ω))
  return { task := index, time := now, report := summary }

/-- Carries out commands up to the first one that has to wait. -/
def runOn (kit : Apparatus σ ω) (settle : Settler σ ω) (index now : Nat) :
    List Command → Turnwise σ ω (Turn ω)
  | [] => return ([], none)
  | command :: rest => do
    match ← begin kit settle now command with
    | .paused pause => return ([], some { index := index, pause := some pause, rest := rest })
    | .over outcome waited =>
      let first ← report index now outcome waited
      let (reports, left) ← runOn kit settle index now rest
      return (first :: reports, left)

/-- **The turn of a task**: it goes on with what it waited for, if that is due, and then carries out
commands up to the next one that has to wait. -/
def turn (kit : Apparatus σ ω) (settle : Settler σ ω) (now : Nat) (task : Task) :
    Turnwise σ ω (Turn ω) := do
  let some pause := task.pause | runOn kit settle task.index now task.rest
  match ← resume settle now pause with
  | .paused pause => return ([], some { task with pause := some pause })
  | .over outcome waited =>
    let first ← report task.index now outcome waited
    let (reports, left) ← runOn kit settle task.index now task.rest
    return (first :: reports, left)

end Task

namespace Bench

variable {σ ω : Type}

/-- Gives every task its turn, in order. -/
def round (kit : Apparatus σ ω) (settle : Settler σ ω) (now : Nat) :
    List Task → Turnwise σ ω (List (TaskReport ω) × List Task)
  | [] => return ([], [])
  | task :: rest => do
    let (reports, left) ← task.turn kit settle now
    let (others, waiting) ← round kit settle now rest
    return (reports ++ others, left.toList ++ waiting)

/-- The earliest moment at which one of some tasks can go on. -/
def nextMoment? (tasks : List Task) : Option Nat :=
  (tasks.filterMap fun task => task.pause.map Pause.wake).min?

/-- Gives tasks their turns at one moment after another, and at the same moment again where the
ration of timers was too short, until all of them are over. -/
def rounds (kit : Apparatus σ ω) (settle : Settler σ ω) :
    Nat → Nat → List Task → Play σ ω (List (TaskReport ω))
  | 0, _, _ => failure
  | fuel + 1, now, tasks => do
    let ((reports, waiting), ration) ← (round kit settle now tasks).run {}
    if ration.isShort then return reports ++ (← rounds kit settle fuel now waiting)
    match nextMoment? waiting with
    | none => return reports
    | some moment => return reports ++ (← rounds kit settle fuel moment waiting)

/-- **Runs lists of commands side by side**, on a clock that starts at zero. -/
def runTasks (kit : Apparatus σ ω) (fuel : Nat) (lists : List (List Command)) :
    Play σ ω (List (TaskReport ω)) :=
  rounds kit (settle kit fuel) fuel 0
    (lists.zipIdx.map fun entry => { index := entry.2, rest := entry.1 })

end Bench

end ResourcePool.Scenario
