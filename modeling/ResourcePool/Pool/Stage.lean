import ResourcePool.Factory
import ResourcePool.PoolError
import ResourcePool.Store.Basic

/-!
# Operations in progress

An operation of a pool runs from one factory call to the next. Between two calls it is a `Stage`:
the call it waits for, and what it has to know in order to go on once the call is answered. An
operation therefore can be suspended while the factory, before it answers, uses the same pool.
-/

namespace ResourcePool

/-- A borrow in progress: the key, and the slot that holds its reservation. Its candidate belongs to
the stage, since there is none while one is being created and always one while it is prepared. -/
structure Checkout (κ : Type) where
  /-- The key to borrow under. -/
  key : κ
  /-- The slot with the reservation. -/
  slot : SlotId
  deriving DecidableEq, Repr

/-- Where the candidate of a borrow comes from. -/
inductive Origin where
  /-- From the idle resources. -/
  | idle
  /-- Created by the borrow, in its attempt of this number, counted from one. -/
  | fresh (attempt : Nat)
  deriving DecidableEq, Repr

/-- How an operation ends. -/
inductive Result (ω ε : Type) where
  /-- A borrow has its resource. -/
  | lent (object : ω)
  /-- Any other operation succeeded. -/
  | done
  /-- The operation did not succeed. -/
  | failed (error : PoolError ε)
  /-- A factory step panicked. -/
  | panicked (reason : String)
  deriving DecidableEq

/-- The resource that was lent, if one was. -/
def Result.lent? {ω ε : Type} : Result ω ε → Option ω
  | .lent object => some object
  | _ => none

/-- How an operation goes on after a destroy of whose failure the caller does not hear. -/
inductive Sequel (κ ω ε : Type) where
  /-- A borrow discarded a candidate of the given origin and looks for the next. -/
  | nextCandidate (checkout : Checkout κ) (origin : Origin)
  /-- A borrow got rid of its candidate because of a panic, which now ends it. -/
  | unwind (checkout : Checkout κ) (reason : String)
  /-- The operation ends with a result that is already known. -/
  | conclude (result : Result ω ε)
  /-- More resources are to be destroyed before the operation ends with the result. -/
  | sweep (rest : List (κ × ω)) (result : Result ω ε)
  /-- So many more resources are to be added under the key. -/
  | addMore (left : Nat)

/-- Who hears of a destroy that fails, and how the operation goes on. -/
inductive Aftermath (κ ω ε : Type) where
  /-- The operation ends, and a failure is its result. -/
  | surface
  /-- The operation ends, and a failure is its result if the pool is open by then. -/
  | surfaceIfOpen
  /-- A failure is noted, and the operation goes on regardless. -/
  | quietly (sequel : Sequel κ ω ε)

/-- An operation that waits for the factory. -/
inductive Stage (κ ω ε : Type) where
  /-- A borrow creates a fresh candidate. -/
  | creating (checkout : Checkout κ) (attempt : Nat)
  /-- A borrow activates a candidate. -/
  | activating (checkout : Checkout κ) (origin : Origin) (object : ω)
  /-- A borrow validates a candidate. -/
  | validating (checkout : Checkout κ) (origin : Origin) (object : ω)
  /-- A return validates the resource. -/
  | inspecting (key : κ) (slot : SlotId) (object : ω)
  /-- A return passivates the resource. -/
  | passivating (key : κ) (slot : SlotId) (object : ω)
  /-- An addition creates a resource; so many more are to follow. -/
  | making (key : κ) (left : Nat)
  /-- An addition passivates its resource; so many more are to follow. -/
  | parking (key : κ) (left : Nat) (object : ω)
  /-- A resource is being destroyed. -/
  | destroying (key : κ) (object : ω) (aftermath : Aftermath κ ω ε)

namespace Stage

variable {κ ω ε : Type}

/-- The call that the operation waits for. -/
def request : Stage κ ω ε → Request κ ω
  | creating checkout _ => .create checkout.key
  | activating checkout _ object => .activate checkout.key object
  | validating checkout _ object => .validate checkout.key object
  | inspecting key _ object => .validate key object
  | passivating key _ object => .passivate key object
  | making key _ => .create key
  | parking key _ object => .passivate key object
  | destroying key object _ => .destroy key object

end Stage

/-- Where an operation stands. -/
inductive Progress (κ ω ε : Type) where
  /-- It waits for the factory. -/
  | waiting (stage : Stage κ ω ε)
  /-- It is over. -/
  | finished (result : Result ω ε)

end ResourcePool
