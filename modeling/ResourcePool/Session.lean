import ResourcePool.Pool.Operation

/-!
# Sessions: handles, guards and nested operations

Clients reach a pool through handles, which can be cloned and dropped, and may hold a lent resource
in a guard, which gives it back when it is dropped. A session is a pool together with its handles,
its guards and the operations in progress on it.

* Operations nest: while one waits for the factory, the factory may use the pool, so that further
  operations start and end before the call is answered. `Session.running` is the stack of operations
  in progress, the innermost first.
* A handle, a guard and a running operation each keep the pool alive. When the last of them is gone
  the pool closes itself; the operation that ended last is over only when that is done.
* `Session.act?` starts an action of a client and `Session.answer?` answers the call that the
  innermost operation waits for. Either gives a reply when an action has come to its end.
* `Session.step?` takes both as events, and `Session.Reachable` holds of every session that events
  lead to.
-/

namespace ResourcePool

/-- A lent resource that goes back to the pool when its guard is dropped. -/
structure Guard (κ ω : Type) where
  /-- The key that the resource was lent under. -/
  key : κ
  /-- The resource. -/
  object : ω
  deriving DecidableEq, Repr

/-- The number of a guard. -/
abbrev GuardId := Nat

/-- What becomes of the result of an operation. -/
inductive Purpose (κ : Type) where
  /-- The result goes to the client as it is. -/
  | plain
  /-- A resource that was lent is put into a guard. -/
  | guarding (key : κ)
  /-- The operation gives back the resource of a guard that goes away; a failure is only noted. -/
  | dropping (key : κ)
  deriving DecidableEq, Repr

/-- An operation in progress. -/
structure Activity (κ ω ε : Type) where
  /-- The call that it waits for, and how it goes on. -/
  stage : Stage κ ω ε
  /-- What becomes of its result. -/
  purpose : Purpose κ

/-- What a client is told when an action is over. -/
inductive Reply (ω ε : Type) where
  /-- The result of the operation. -/
  | result (result : Result ω ε)
  /-- A resource was lent and put into a guard. -/
  | guarded (id : GuardId) (object : ω)
  deriving DecidableEq

/-- What a client can do. -/
inductive Action (κ ω : Type) where
  /-- Run an operation through a handle. -/
  | call (operation : Operation κ ω)
  /-- Borrow through a handle and put the resource into a guard. -/
  | get (key : κ)
  /-- Give the resource of a guard back. -/
  | release (guard : GuardId)
  /-- Have the resource of a guard destroyed. -/
  | invalidate (guard : GuardId)
  /-- Drop a guard. -/
  | dropGuard (guard : GuardId)
  /-- Put the resource of a guard into another state. -/
  | touch (guard : GuardId) (object : ω)
  /-- Clone a handle. -/
  | cloneHandle
  /-- Drop a handle. -/
  | dropHandle
  deriving DecidableEq, Repr

/-- A pool in use. -/
structure Session (κ ω ε : Type) where
  /-- The pool. -/
  pool : Pool κ ω ε
  /-- The operations in progress, the innermost first. -/
  running : List (Activity κ ω ε) := []
  /-- How many handles there are. -/
  handles : Nat := 1
  /-- The guards by number, the oldest first. -/
  guards : List (GuardId × Guard κ ω) := []
  /-- The number for the next guard. -/
  nextGuard : GuardId := 0

namespace Session

variable {κ ω ε : Type} [DecidableEq κ]

/-- A new pool with one handle, whose store goes through its keys in a given order. -/
def create (config : Config) (walk : Walk κ) : Session κ ω ε := { pool := .empty config walk }

/-- Whether a handle, a guard or a running operation keeps the pool alive. -/
def isReferenced (session : Session κ ω ε) : Bool :=
  session.handles != 0 || !session.guards.isEmpty || !session.running.isEmpty

/-- The guard of a number. -/
def guard? (session : Session κ ω ε) (id : GuardId) : Option (Guard κ ω) :=
  (session.guards.find? fun entry => entry.1 = id).map (·.2)

/-- Takes a guard away. -/
def removeGuard (session : Session κ ω ε) (id : GuardId) : Session κ ω ε :=
  { session with guards := session.guards.filter fun entry => entry.1 ≠ id }

/-- Puts another state of its resource into a guard. -/
def setGuard (session : Session κ ω ε) (id : GuardId) (object : ω) : Session κ ω ε :=
  let touch (entry : GuardId × Guard κ ω) : GuardId × Guard κ ω :=
    if entry.1 = id then (id, { entry.2 with object := object }) else entry
  { session with guards := session.guards.map touch }

/-- The factory call that the innermost operation waits for. -/
def request? (session : Session κ ω ε) : Option (Request κ ω) :=
  session.running.head?.map fun activity => activity.stage.request

/-! ## Ends of operations -/

/-- Puts a lent resource into a new guard. -/
def addGuard (session : Session κ ω ε) (key : κ) (object : ω) :
    Session κ ω ε × Option (Reply ω ε) :=
  ({ session with
      guards := session.guards ++ [(session.nextGuard, ⟨key, object⟩)]
      nextGuard := session.nextGuard + 1 },
    some (.guarded session.nextGuard object))

/-- Tells the client the result, after closing the pool if nothing keeps it alive any more. -/
def depart (session : Session κ ω ε) (result : Result ω ε) : Session κ ω ε × Option (Reply ω ε) :=
  if session.isReferenced then (session, some (.result result))
  else
    match session.pool.close result with
    | (pool, .waiting stage) => ({ session with pool := pool, running := [⟨stage, .plain⟩] }, none)
    | (pool, .finished result) => ({ session with pool := pool }, some (.result result))

/-- Ends an operation with its result. -/
def conclude (session : Session κ ω ε) (purpose : Purpose κ) (result : Result ω ε) :
    Session κ ω ε × Option (Reply ω ε) :=
  match purpose, result with
  | .guarding key, .lent object => session.addGuard key object
  | .dropping key, .failed error =>
    { session with pool := session.pool.note (.returnFailed key error) }.depart .done
  | _, result => session.depart result

/-- Takes over a turn of the pool: the operation waits on top of the others, or it is over. -/
def advance (session : Session κ ω ε) (purpose : Purpose κ) (turn : Pool.Turn κ ω ε) :
    Session κ ω ε × Option (Reply ω ε) :=
  match turn with
  | (pool, .waiting stage) =>
    ({ session with pool := pool, running := ⟨stage, purpose⟩ :: session.running }, none)
  | (pool, .finished result) => { session with pool := pool }.conclude purpose result

/-! ## Events -/

/-- Starts an action. There is a reply if it is over at once, and otherwise the innermost operation
waits for the factory. Nothing happens without a handle, or with a guard that is gone. -/
def act? (session : Session κ ω ε) : Action κ ω → Option (Session κ ω ε × Option (Reply ω ε))
  | .call operation =>
    if session.handles = 0 then none
    else some (session.advance .plain (session.pool.start operation))
  | .get key =>
    if session.handles = 0 then none
    else some (session.advance (.guarding key) (session.pool.borrow key))
  | .release id =>
    (session.guard? id).map fun guard =>
      (session.removeGuard id).advance .plain (session.pool.giveBack guard.key guard.object)
  | .invalidate id =>
    (session.guard? id).map fun guard =>
      (session.removeGuard id).advance .plain (session.pool.invalidate guard.key guard.object)
  | .dropGuard id =>
    (session.guard? id).map fun guard =>
      (session.removeGuard id).advance (.dropping guard.key)
        (session.pool.giveBack guard.key guard.object)
  | .touch id object =>
    (session.guard? id).map fun _ => (session.setGuard id object, some (.result .done))
  | .cloneHandle =>
    if session.handles = 0 then none
    else some ({ session with handles := session.handles + 1 }, some (.result .done))
  | .dropHandle =>
    if session.handles = 0 then none
    else some ({ session with handles := session.handles - 1 }.depart .done)

/-- Answers the call that the innermost operation waits for. -/
def answer? (session : Session κ ω ε) (answer : Answer ω ε) :
    Option (Session κ ω ε × Option (Reply ω ε)) :=
  match session.running with
  | [] => none
  | activity :: rest =>
    some ({ session with running := rest }.advance activity.purpose
      (session.pool.resume activity.stage answer))

/-- What can happen in a session. -/
inductive Event (κ ω ε : Type) where
  /-- A client, or the factory from inside a call, starts an action. -/
  | act (action : Action κ ω)
  /-- The factory answers the call of the innermost operation. -/
  | answer (answer : Answer ω ε)
  deriving DecidableEq

/-- One event of a session. -/
def step? (session : Session κ ω ε) : Event κ ω ε → Option (Session κ ω ε × Option (Reply ω ε))
  | .act action => session.act? action
  | .answer answer => session.answer? answer

/-- The sessions that events lead to from a new pool. The events are arbitrary, and so are the
clients, the factory and the order in which the store goes through its keys. -/
inductive Reachable (config : Config) : Session κ ω ε → Prop where
  | create (walk : Walk κ) : Reachable config (create config walk)
  | step {session next : Session κ ω ε} {event : Event κ ω ε} {reply : Option (Reply ω ε)} :
      Reachable config session → session.step? event = some (next, reply) → Reachable config next

end Session

end ResourcePool
