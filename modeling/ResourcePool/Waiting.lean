import ResourcePool.Session
import ResourcePool.Timer

/-!
# Waiting borrows

A borrow that waits tries again every ten milliseconds while its key is at capacity, and gives up
when its patience has run out. Time is counted in whole milliseconds; patience that ends within a
millisecond lasts until the end of it.

* `Wait.begin` — the first try, which is made at once.
* `Wait.poll` — what a waiting borrow does when it is looked at: it tries if the timer of the next
  try fires, and otherwise gives up if the timer of its deadline does.
* `Wait.afterTry` — the reply to a try ends the waiting unless it says that the key is at capacity.
* `Wait.wake` — when it has to be looked at again.

At a moment at which both the next try and the end of the waiting are due, the try comes first, so
capacity that becomes free at the last moment is not missed.
-/

namespace ResourcePool

/-- The milliseconds between two tries. -/
def retryInterval : Nat := 10

/-- A borrow that waits. -/
structure Wait where
  /-- How long it waits at most. -/
  patience : Duration
  /-- When it gives up. -/
  deadline : Nat
  /-- When it tries next. -/
  nextTry : Nat
  deriving DecidableEq

namespace Wait

variable {ω ε : Type} {m : Type → Type} [Monad m]

/-- How a waiting borrow stands after it was looked at. -/
inductive Standing (ω ε : Type) where
  /-- It is over. -/
  | over (reply : Reply ω ε)
  /-- It goes on waiting. -/
  | waiting (wait : Wait)

/-- Starts to wait: the first try is due at once. -/
def start (now : Nat) (patience : Duration) : Wait where
  patience := patience
  deadline := now + patience.ceilMillis
  nextTry := now

/-- The reply of a borrow that gives up. -/
def timeout (wait : Wait) : Reply ω ε := .result (.failed (.timedOut wait.patience))

/-- Gives up or goes on waiting. -/
def standing (wait : Wait) (isOver : Bool) : Standing ω ε :=
  if isOver then .over wait.timeout else .waiting wait

/-- Looks at the deadline, where `before` is the ration with which the look at this borrow began. If
the borrow itself has used the last of it, the deadline counts all the same. -/
def lookAtDeadline (wait : Wait) (now : Nat) (before ration : Ration) : Standing ω ε × Ration :=
  if 0 < before.left && ration.left = 0 then (wait.standing (wait.deadline ≤ now), ration)
  else
    let (fires, ration) := ration.look wait.deadline now
    (wait.standing fires, ration)

/-- Goes on after a try that found the key at capacity. -/
def afterRefusal (wait : Wait) (now : Nat) (before ration : Ration) : Standing ω ε × Ration :=
  let next := now + retryInterval
  let (_, ration) := ration.look next now
  { wait with nextTry := next }.lookAtDeadline now before ration

/-- Goes on after a try. -/
def afterTry (wait : Wait) (now : Nat) (before ration : Ration) (reply : Reply ω ε) :
    Standing ω ε × Ration :=
  match reply with
  | .result (.failed .atCapacity) => wait.afterRefusal now before ration
  | reply => (.over reply, ration)

/-- **Makes the first try**, where `attempt` tries to borrow. -/
def begin (wait : Wait) (now : Nat) (ration : Ration) (attempt : m (Reply ω ε)) :
    m (Standing ω ε × Ration) := do
  return wait.afterTry now ration ration (← attempt)

/-- **What a waiting borrow does when it is looked at**, where `attempt` tries to borrow. -/
def poll (wait : Wait) (now : Nat) (ration : Ration) (attempt : m (Reply ω ε)) :
    m (Standing ω ε × Ration) := do
  let (isDue, looked) := ration.look wait.nextTry now
  if isDue then return wait.afterTry now ration looked (← attempt)
  else return wait.lookAtDeadline now ration looked

/-- When a waiting borrow has to be looked at again. -/
def wake (wait : Wait) : Nat := min wait.nextTry wait.deadline

end Wait

end ResourcePool
