import ResourcePool.Pool.Basic
import ResourcePool.Pool.Stage

/-!
# Operations of a pool

Every operation is given by two functions: `Pool.start` runs it up to its first factory call, and
`Pool.resume` takes the answer to a call and runs on to the next one. Both are total, and neither
looks at the factory, so any factory, also one that uses the pool from inside a call, is a way of
choosing answers and of ordering calls.

The rules, in the order of the sections below:

* a borrow tries the idle resources of the key, then fresh ones, and destroys every candidate that
  cannot be activated or does not pass validation;
* a return validates (if configured) and passivates the resource and then keeps it; a resource that
  fails, or finds no room, is destroyed after the loan has been given up;
* an invalidation gives the loan up and then destroys;
* an addition creates and passivates a resource and keeps it if there is room;
* clearing takes all idle resources out first and then destroys them one by one, and closing seals
  the store before it clears.
-/

namespace ResourcePool

/-- The operations of a pool. -/
inductive Operation (κ ω : Type) where
  /-- Lend a resource of a key. -/
  | borrow (key : κ)
  /-- Take a lent resource back. -/
  | giveBack (key : κ) (object : ω)
  /-- Destroy a lent resource. -/
  | invalidate (key : κ) (object : ω)
  /-- Add so many idle resources to a key. -/
  | prefill (key : κ) (count : Nat)
  /-- Destroy the idle resources of a key. -/
  | clearKey (key : κ)
  /-- Destroy all idle resources. -/
  | clear
  /-- Seal the pool and destroy all idle resources. -/
  | close
  deriving DecidableEq, Repr

/-- Adds one idle resource. -/
abbrev Operation.add {κ ω : Type} (key : κ) : Operation κ ω := .prefill key 1

namespace Pool

variable {κ ω ε : Type} [DecidableEq κ]

/-- A pool together with where an operation on it stands. -/
abbrev Turn (κ ω ε : Type) := Pool κ ω ε × Progress κ ω ε

/-- The operation is over. -/
def finish (pool : Pool κ ω ε) (result : Result ω ε) : Turn κ ω ε := (pool, .finished result)

/-- The operation did not succeed. -/
def fail (pool : Pool κ ω ε) (error : PoolError ε) : Turn κ ω ε := pool.finish (.failed error)

/-- The operation waits for the factory. -/
def await (pool : Pool κ ω ε) (stage : Stage κ ω ε) : Turn κ ω ε := (pool, .waiting stage)

/-- Gives a resource to the factory to destroy. -/
def destroy (pool : Pool κ ω ε) (key : κ) (object : ω) (aftermath : Aftermath κ ω ε) :
    Turn κ ω ε :=
  (pool.count .destroyed).await (.destroying key object aftermath)

/-- Gives a resource to the factory to destroy, and goes on whether or not that succeeds. -/
def destroyQuietly (pool : Pool κ ω ε) (key : κ) (object : ω) (sequel : Sequel κ ω ε) :
    Turn κ ω ε :=
  pool.destroy key object (.quietly sequel)

/-! ## Borrowing -/

/-- Gives the reservation of a borrow up, and unlinks what has become vacant. -/
def abandon (pool : Pool κ ω ε) (checkout : Checkout κ) : Pool κ ω ε :=
  { pool with store := ((pool.store.cancel checkout.slot).prune checkout.key).2 }

/-- Creates the fresh candidate of the given attempt, unless the attempts are used up. -/
def tryFresh (pool : Pool κ ω ε) (checkout : Checkout κ) (attempt : Nat) : Turn κ ω ε :=
  if attempt ≤ pool.config.attempts then pool.await (.creating checkout attempt)
  else (pool.abandon checkout).fail .exhausted

/-- Activates the next idle candidate, or turns to fresh ones when none is left. -/
def tryIdle (pool : Pool κ ω ε) (checkout : Checkout κ) : Turn κ ω ε :=
  match pool.store.take checkout.slot with
  | (some object, store) => { pool with store := store }.await (.activating checkout .idle object)
  | (none, _) => pool.tryFresh checkout 1

/-- Goes on after a candidate of the given origin has been discarded. -/
def tryNext (pool : Pool κ ω ε) (checkout : Checkout κ) : Origin → Turn κ ω ε
  | .idle => pool.tryIdle checkout
  | .fresh attempt => pool.tryFresh checkout (attempt + 1)

/-- Discards a candidate that could not be prepared. -/
def discard (pool : Pool κ ω ε) (checkout : Checkout κ) (origin : Origin) (object : ω) :
    Turn κ ω ε :=
  let noted :=
    match origin with
    | .idle => pool
    | .fresh attempt => pool.note (.preparationFailed checkout.key attempt)
  noted.destroyQuietly checkout.key object (.nextCandidate checkout origin)

/-- Turns the reservation into a loan and lends the candidate. A borrow without a candidate gives
the reservation up; it would come here only if it had prepared none. -/
def handOut (pool : Pool κ ω ε) (checkout : Checkout κ) : Option ω → Turn κ ω ε
  | some object =>
    ({ pool with store := pool.store.commit checkout.slot }.count .borrowed).finish (.lent object)
  | none => (pool.abandon checkout).fail .exhausted

/-- Starts a borrow. Nothing is asked of the factory when the pool is closed or the key is at
capacity. -/
def borrow (pool : Pool κ ω ε) (key : κ) : Turn κ ω ε :=
  if pool.isClosed then pool.fail .closed
  else
    match pool.store.reserve key pool.config.activeLimit with
    | (none, store) => ({ pool with store := store }.count .refusals).fail .atCapacity
    | (some slot, store) => { pool with store := store }.tryIdle ⟨key, slot⟩

/-! ## Taking back -/

/-- Destroys a resource that came back under a key with nothing on loan. -/
def rejectUnborrowed (pool : Pool κ ω ε) (key : κ) (object : ω) : Turn κ ω ε :=
  (pool.note (.returnedUnborrowed key)).destroyQuietly key object (.conclude (.failed .notBorrowed))

/-- Gives the loan up and destroys the resource. If that fails, the failure is the result. -/
def scrap (pool : Pool κ ω ε) (key : κ) (slot : SlotId) (object : ω) : Turn κ ω ε :=
  (pool.endLoan key slot).destroy key object .surface

/-- Ends the loan of a resource that is ready to be kept. -/
def settle (pool : Pool κ ω ε) (key : κ) (slot : SlotId) (object : ω) : Turn κ ω ε :=
  match pool.store.checkIn slot object with
  | (.accepted, store) => ({ pool with store := store }.count .returned).finish .done
  | (.rejected .unborrowed object, store) =>
    { pool with store := store }.rejectUnborrowed key object
  | (.rejected _ object, store) =>
    { pool with store := (store.prune key).2 }.destroyQuietly key object (.conclude .done)

/-- Starts a return. On a closed pool the resource is destroyed, whatever comes of it. -/
def giveBack (pool : Pool κ ω ε) (key : κ) (object : ω) : Turn κ ω ε :=
  match pool.store.find? key with
  | none => pool.rejectUnborrowed key object
  | some slot =>
    if (pool.store.slot slot).active = 0 then pool.rejectUnborrowed key object
    else if pool.isClosed then (pool.endLoan key slot).destroyQuietly key object (.conclude .done)
    else if pool.config.testOnReturn then pool.await (.inspecting key slot object)
    else pool.await (.passivating key slot object)

/-- Starts an invalidation. The loan, if there is one, is given up before the resource is
destroyed. -/
def invalidate (pool : Pool κ ω ε) (key : κ) (object : ω) : Turn κ ω ε :=
  let released :=
    match pool.store.find? key with
    | some slot => pool.endLoan key slot
    | none => pool
  released.destroy key object .surfaceIfOpen

/-! ## Adding -/

/-- Adds so many more idle resources, one after another, up to the first failure. -/
def addMore (pool : Pool κ ω ε) (key : κ) : Nat → Turn κ ω ε
  | 0 => pool.finish .done
  | left + 1 => if pool.isClosed then pool.fail .closed else pool.await (.making key left)

/-- Keeps an added resource that is ready, or destroys it when there is no room. -/
def park (pool : Pool κ ω ε) (key : κ) (left : Nat) (object : ω) : Turn κ ω ε :=
  match pool.store.deposit key object with
  | (.accepted, store) => { pool with store := store }.addMore key left
  | (.rejected .storeSealed object, store) =>
    { pool with store := store }.destroyQuietly key object (.conclude (.failed .closed))
  | (.rejected _ object, store) =>
    ({ pool with store := store }.note (.idleFull key)).destroyQuietly key object (.addMore left)

/-! ## Clearing and closing -/

/-- Destroys resources that have been taken out, in order, and ends with the given result. -/
def sweep (pool : Pool κ ω ε) (objects : List (κ × ω)) (result : Result ω ε) : Turn κ ω ε :=
  match objects with
  | [] => pool.finish result
  | (key, object) :: rest => pool.destroyQuietly key object (.sweep rest result)

/-- Starts destroying the idle resources of a key. -/
def clearKey (pool : Pool κ ω ε) (key : κ) : Turn κ ω ε :=
  match pool.store.drain key with
  | ([], store) => { pool with store := store }.finish .done
  | (objects, store) =>
    ({ pool with store := store }.note (.clearingKey key objects.length)).sweep
      (objects.map fun object => (key, object)) .done

/-- Starts destroying all idle resources, to end with the given result. -/
def clear (pool : Pool κ ω ε) (result : Result ω ε) : Turn κ ω ε :=
  match pool.store.drainAll with
  | ([], store) => { pool with store := store }.finish result
  | (objects, store) =>
    ({ pool with store := store }.note (.clearing objects.length)).sweep objects result

/-- Starts closing the pool, to end with the given result. Only the first closing does anything. -/
def close (pool : Pool κ ω ε) (result : Result ω ε) : Turn κ ω ε :=
  match pool.store.sealUp with
  | (false, _) => pool.finish result
  | (true, store) =>
    ({ pool with store := store }.note (.closing store.totalActive)).clear result

/-! ## Going on after a factory call -/

/-- Goes on after a destroy of whose failure the caller does not hear. -/
def proceed (pool : Pool κ ω ε) (key : κ) : Sequel κ ω ε → Turn κ ω ε
  | .nextCandidate checkout origin => pool.tryNext checkout origin
  | .unwind checkout reason => (pool.abandon checkout).finish (.panicked reason)
  | .conclude result => pool.finish result
  | .sweep rest result => pool.sweep rest result
  | .addMore left => pool.addMore key left

/-- Goes on after a resource was destroyed. -/
def afterDestroy (pool : Pool κ ω ε) (key : κ) : Aftermath κ ω ε → Turn κ ω ε
  | .surface | .surfaceIfOpen => pool.finish .done
  | .quietly sequel => pool.proceed key sequel

/-- Goes on after a destroy that failed. The failure becomes the result of the operation or a note,
and never both. -/
def afterDestroyFailure (pool : Pool κ ω ε) (key : κ) (error : ε) : Aftermath κ ω ε → Turn κ ω ε
  | .surface => pool.fail (.factory error)
  | .surfaceIfOpen =>
    if pool.isClosed then (pool.note (.destroyFailedClosed key error)).finish .done
    else pool.fail (.factory error)
  | .quietly sequel => (pool.note (.destroyFailed key error)).proceed key sequel

/-- Ends an operation whose destroy panicked. A borrow still gives its reservation up; resources
that were waiting to be destroyed are lost. -/
def afterDestroyPanic (pool : Pool κ ω ε) (reason : String) : Aftermath κ ω ε → Turn κ ω ε
  | .quietly (.nextCandidate checkout _) | .quietly (.unwind checkout _) =>
    (pool.abandon checkout).finish (.panicked reason)
  | _ => pool.finish (.panicked reason)

/-- Lends an activated candidate, after validation if that is configured. -/
def afterActivation (pool : Pool κ ω ε) (checkout : Checkout κ) (origin : Origin) (object : ω) :
    Turn κ ω ε :=
  if pool.config.testOnBorrow then pool.await (.validating checkout origin object)
  else pool.handOut checkout (some object)

/-- **Goes on with the answer to the call that an operation waits for**, up to its next call. -/
def resume (pool : Pool κ ω ε) : Stage κ ω ε → Answer ω ε → Turn κ ω ε
  | .creating checkout attempt, .done object | .creating checkout attempt, .refused object =>
    ((pool.count .created).note (.created checkout.key)).await
      (.activating checkout (.fresh attempt) object)
  | .creating checkout _, .failed error => (pool.abandon checkout).fail (.factory error)
  | .creating checkout _, .panicked reason => (pool.abandon checkout).finish (.panicked reason)
  | .activating checkout origin _, .done object | .activating checkout origin _, .refused object =>
    pool.afterActivation checkout origin object
  | .activating checkout origin object, .failed error =>
    ((pool.count .activationFailures).note (.activationFailed checkout.key error)).discard
      checkout origin object
  | .activating checkout _ object, .panicked reason =>
    pool.destroyQuietly checkout.key object (.unwind checkout reason)
  | .validating checkout _ object, .done _ => pool.handOut checkout (some object)
  | .validating checkout origin object, .refused _ =>
    ((pool.count .validationFailures).note (.validationRejected checkout.key)).discard
      checkout origin object
  | .validating checkout origin object, .failed error =>
    ((pool.count .validationFailures).note (.validationFailed checkout.key error)).discard
      checkout origin object
  | .validating checkout _ object, .panicked reason =>
    pool.destroyQuietly checkout.key object (.unwind checkout reason)
  | .inspecting key slot object, .done _ => pool.await (.passivating key slot object)
  | .inspecting key slot object, .refused _ =>
    ((pool.count .validationFailures).note (.validationRejected key)).scrap key slot object
  | .inspecting key slot object, .failed error =>
    ((pool.count .validationFailures).note (.validationFailed key error)).scrap key slot object
  | .inspecting .., .panicked reason => pool.finish (.panicked reason)
  | .passivating key slot _, .done object | .passivating key slot _, .refused object =>
    pool.settle key slot object
  | .passivating key slot object, .failed error =>
    ((pool.count .passivationFailures).note (.passivationFailed key error)).scrap key slot object
  | .passivating .., .panicked reason => pool.finish (.panicked reason)
  | .making key left, .done object | .making key left, .refused object =>
    ((pool.count .created).note (.created key)).await (.parking key left object)
  | .making .., .failed error => pool.fail (.factory error)
  | .making .., .panicked reason => pool.finish (.panicked reason)
  | .parking key left _, .done object | .parking key left _, .refused object =>
    pool.park key left object
  | .parking key _ object, .failed error =>
    (pool.count .passivationFailures).destroyQuietly key object
      (.conclude (.failed (.factory error)))
  | .parking .., .panicked reason => pool.finish (.panicked reason)
  | .destroying key _ aftermath, .done _ | .destroying key _ aftermath, .refused _ =>
    pool.afterDestroy key aftermath
  | .destroying key _ aftermath, .failed error =>
    (pool.count .destroyFailures).afterDestroyFailure key error aftermath
  | .destroying _ _ aftermath, .panicked reason => pool.afterDestroyPanic reason aftermath

/-- **Starts an operation** and runs it up to its first factory call. -/
def start (pool : Pool κ ω ε) : Operation κ ω → Turn κ ω ε
  | .borrow key => pool.borrow key
  | .giveBack key object => pool.giveBack key object
  | .invalidate key object => pool.invalidate key object
  | .prefill key count => pool.addMore key count
  | .clearKey key => pool.clearKey key
  | .clear => pool.clear .done
  | .close => pool.close .done

end Pool

end ResourcePool
