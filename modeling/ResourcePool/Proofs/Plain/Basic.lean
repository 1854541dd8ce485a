import Mathlib.Logic.Function.Basic
import ResourcePool.Pool.Completion

/-!
# The plain pool

A pool as a client may think of it. It has no slots: it is a function that tells for every key what
is idle and how much is on loan, nothing for most keys, together with the closed flag and the
counters. Its operations are written from beginning to end, with the calls of the factory in
between.

* `Replies` — a factory that does not use the pool, given by what it answers to each call after the
  calls that it has had.
* `PlainPool`, `Course` — the state of a plain pool, and what runs on it. A call that panics ends a
  course there and then.
* `PlainPool.run` — an operation from beginning to end. Clearing and closing are given the order in
  which the keys are emptied.
* `PlainPool.OnlyCalled` — what a course leaves that has called the factory and done nothing else,
  with `destroy_eq` as the first of them.
-/

namespace ResourcePool

variable {κ ω ε : Type}

/-! ## Factories that only answer -/

/-- How a call ends that does not panic. -/
inductive Response (ω ε : Type) where
  /-- The step succeeded. -/
  | done (object : ω)
  /-- A validation found the resource unusable. -/
  | refused (object : ω)
  /-- The step failed. -/
  | failed (error : ε)
  deriving DecidableEq, Repr

/-- The response as an answer. -/
def Response.answer : Response ω ε → Answer ω ε
  | done object => .done object
  | refused object => .refused object
  | failed error => .failed error

/-- The response in an answer, or the reason of a panic. -/
def Answer.response : Answer ω ε → Except String (Response ω ε)
  | done object => .ok (.done object)
  | refused object => .ok (.refused object)
  | failed error => .ok (.failed error)
  | panicked reason => .error reason

/-- What a factory answers to a call after the calls that it has had, the latest first. -/
abbrev Replies (κ ω ε : Type) := List (Request κ ω) → Request κ ω → Answer ω ε

/-- The factory whose state is the calls that it has had. -/
def Replies.factory (reply : Replies κ ω ε) : Factory (List (Request κ ω)) κ ω ε :=
  fun request calls => (reply calls request, request :: calls)

/-- A result, or the reason of the panic that there was instead. -/
def Result.ofExcept : Except String (Result ω ε) → Result ω ε
  | .ok result => result
  | .error reason => .panicked reason

/-! ## States -/

/-- What a plain pool knows about one key. -/
structure Holding (ω : Type) where
  /-- The idle resources, the one that came in last at the front. -/
  idle : List ω := []
  /-- The resources that are out on loan. -/
  active : Nat := 0

/-- A pool without slots, and the calls that its factory has had. -/
structure PlainPool (κ ω : Type) where
  /-- What there is under each key. -/
  holdings : κ → Holding ω := fun _ => {}
  /-- Whether the pool is closed. -/
  isClosed : Bool := false
  /-- The events counted so far. -/
  tally : Tally := {}
  /-- The calls of the factory so far, the latest first. -/
  calls : List (Request κ ω) := []

/-- What is left when the idle resources are taken out. -/
def Holding.emptied (holding : Holding ω) : Holding ω := { holding with idle := [] }

/-- The idle resources of some keys, key by key, the one that came in first at the front. -/
def listed (holdings : κ → Holding ω) (keys : List κ) : List (κ × ω) :=
  keys.flatMap fun key => (holdings key).idle.reverse.map fun object => (key, object)

/-- Idle resources in the order in which they are taken, and back. -/
def Selection.arrange : Selection → List ω → List ω
  | .lifo, objects => objects
  | .fifo, objects => objects.reverse

namespace PlainPool

/-- What runs on a plain pool, up to a panic. -/
abbrev Course (κ ω : Type) := ExceptT String (StateM (PlainPool κ ω))

/-- The result of a course and the pool that it leaves. -/
def outcome (course : Course κ ω (Result ω ε)) (plain : PlainPool κ ω) :
    Result ω ε × PlainPool κ ω :=
  (.ofExcept (course plain).1, (course plain).2)

/-- Whether a number has reached a limit. -/
def isReached (limit : Option Nat) (number : Nat) : Bool := limit.any fun most => most ≤ number

/-! ## Single steps -/

section steps

variable [DecidableEq κ]

/-- What there is under a key, and whether the pool is closed. -/
def look (key : κ) : Course κ ω (Holding ω × Bool) := do
  let plain ← get
  return (plain.holdings key, plain.isClosed)

/-- Replaces what there is under a key. -/
def hold (key : κ) (holding : Holding ω) : Course κ ω Unit :=
  modify fun plain => { plain with holdings := Function.update plain.holdings key holding }

/-- Counts an event. -/
def count (event : Counter) : Course κ ω Unit :=
  modify fun plain => { plain with tally := plain.tally.bump event }

/-- Calls the factory. -/
def ask (reply : Replies κ ω ε) (request : Request κ ω) : Course κ ω (Response ω ε) :=
  .mk fun plain =>
    ((reply plain.calls request).response, { plain with calls := request :: plain.calls })

/-- Ends a loan. -/
def endLoan (key : κ) : Course κ ω Unit := do
  let (holding, _) ← look key
  hold key { holding with active := holding.active - 1 }

/-- Takes all idle resources out, those of one key after those of another in the given order. -/
def takeOut (order : List κ) : Course κ ω (List (κ × ω)) := do
  let plain ← get
  set { plain with holdings := fun key => (plain.holdings key).emptied }
  return listed plain.holdings order

/-- Closes the pool; tells whether it was still open. -/
def shut : Course κ ω Bool := do
  let plain ← get
  set { plain with isClosed := true }
  return !plain.isClosed

end steps

/-! ## Operations -/

section operations

variable [DecidableEq κ] (config : Config) (reply : Replies κ ω ε)

/-- Tells the error of a destroy that failed. -/
def countFailure : Response ω ε → Course κ ω (Option ε)
  | .failed error => do
    count .destroyFailures
    return some error
  | _ => return none

/-- Destroys a resource, and tells the error if that fails. -/
def destroy (key : κ) (object : ω) : Course κ ω (Option ε) := do
  count .destroyed
  countFailure (← ask reply (.destroy key object))

/-- Destroys resources one after another, whatever comes of it. -/
def destroyAll : List (κ × ω) → Course κ ω Unit
  | [] => return ()
  | (key, object) :: rest => do
    let _ ← destroy reply key object
    destroyAll rest

/-- Destroys the candidate of a borrow before a panic goes on. -/
def unwind {α : Type} (key : κ) (object : ω) (reason : String) : Course κ ω α := do
  let _ ← destroy reply key object
  throw reason

/-- Calls the factory about the candidate of a borrow. -/
def consult (key : κ) (object : ω) (request : Request κ ω) : Course κ ω (Response ω ε) :=
  tryCatch (ask reply request) (unwind reply key object)

/-- Creates a resource and goes on with it. -/
def create (key : κ) (next : ω → Course κ ω (Result ω ε)) : Course κ ω (Result ω ε) := do
  match ← ask reply (.create key) with
  | .failed error => return .failed (.factory error)
  | .done object | .refused object => do
    count .created
    next object

/-- What a validation says of a candidate. A candidate that is no good comes back as an error. -/
def judge (object : ω) : Response ω ε → Course κ ω (Except ω ω)
  | .done _ => return .ok object
  | _ => do
    count .validationFailures
    return .error object

/-- Validates an activated candidate if that is configured. -/
def inspect (key : κ) (object : ω) : Course κ ω (Except ω ω) := do
  if config.testOnBorrow then judge object (← consult reply key object (.validate key object))
  else return .ok object

/-- Activates a candidate and validates it. -/
def prepare (key : κ) (object : ω) : Course κ ω (Except ω ω) := do
  match ← consult reply key object (.activate key object) with
  | .failed _ => do
    count .activationFailures
    return .error object
  | .done object | .refused object => inspect config reply key object

/-- Lends a resource. -/
def lend (key : κ) (object : ω) : Course κ ω (Result ω ε) := do
  let (holding, _) ← look key
  hold key { holding with active := holding.active + 1 }
  count .borrowed
  return .lent object

/-- Lends a candidate that is good, and otherwise destroys it and goes on. -/
def decide (key : κ) (otherwise : Course κ ω (Result ω ε)) : Except ω ω → Course κ ω (Result ω ε)
  | .ok object => lend key object
  | .error object => do
    let _ ← destroy reply key object
    otherwise

/-- Tries one candidate, and goes on if it is no good. -/
def lendOr (key : κ) (object : ω) (otherwise : Course κ ω (Result ω ε)) :
    Course κ ω (Result ω ε) := do
  decide reply key otherwise (← prepare config reply key object)

/-- Lends a fresh resource, with so many attempts left. -/
def tryFresh (key : κ) : Nat → Course κ ω (Result ω ε)
  | 0 => return .failed .exhausted
  | left + 1 =>
    create reply key fun object => lendOr config reply key object (tryFresh key left)

/-- Lends the first good one of the idle resources, which are given in the order in which they are
taken, or a fresh one. -/
def tryIdle (key : κ) : List ω → Course κ ω (Result ω ε)
  | [] => tryFresh config reply key config.attempts
  | object :: rest => do
    let (holding, _) ← look key
    hold key { holding with idle := config.selection.arrange rest }
    lendOr config reply key object (tryIdle key rest)

/-- Lends a resource of a key, unless the pool is closed or the key is at capacity. -/
def borrow (key : κ) : Course κ ω (Result ω ε) := do
  let (holding, isClosed) ← look key
  if isClosed then return .failed .closed
  else if isReached config.activeLimit holding.active then do
    count .refusals
    return .failed .atCapacity
  else tryIdle config reply key (config.selection.arrange holding.idle)

/-- The result of an operation whose last destroy may have failed. -/
def surface : Option ε → Result ω ε
  | some error => .failed (.factory error)
  | none => .done

/-- Ends a loan with the destruction of the resource, whose failure is the result. -/
def scrap (key : κ) (object : ω) : Course κ ω (Result ω ε) := do
  endLoan key
  return surface (← destroy reply key object)

/-- Ends a loan with the resource among the idle ones, if there is room. -/
def putBack (key : κ) (object : ω) : Course κ ω (Result ω ε) := do
  let (holding, _) ← look key
  if isReached config.idleLimit holding.idle.length then do
    endLoan key
    let _ ← destroy reply key object
    return .done
  else do
    hold key { idle := object :: holding.idle, active := holding.active - 1 }
    count .returned
    return .done

/-- Ends a loan with the resource among the idle ones, if it can be passivated. -/
def keep (key : κ) (object : ω) : Course κ ω (Result ω ε) := do
  match ← ask reply (.passivate key object) with
  | .failed _ => do
    count .passivationFailures
    scrap reply key object
  | .done object | .refused object => putBack config reply key object

/-- Ends a loan with the resource among the idle ones, if it is valid. -/
def keepValid (key : κ) (object : ω) : Course κ ω (Result ω ε) := do
  match ← ask reply (.validate key object) with
  | .done _ => keep config reply key object
  | _ => do
    count .validationFailures
    scrap reply key object

/-- Takes a resource back. -/
def giveBack (key : κ) (object : ω) : Course κ ω (Result ω ε) := do
  let (holding, isClosed) ← look key
  if holding.active = 0 then do
    let _ ← destroy reply key object
    return .failed .notBorrowed
  else if isClosed then do
    endLoan key
    let _ ← destroy reply key object
    return .done
  else if config.testOnReturn then keepValid config reply key object
  else keep config reply key object

/-- The same, but in a closed pool nobody hears of a failure. -/
def surfaceIfOpen (key : κ) (error? : Option ε) : Course κ ω (Result ω ε) := do
  let (_, isClosed) ← look key
  return if isClosed then .done else surface error?

/-- Ends a loan, if there is one, and destroys the resource. -/
def invalidate (key : κ) (object : ω) : Course κ ω (Result ω ε) := do
  endLoan key
  surfaceIfOpen key (← destroy reply key object)

/-- Puts a fresh resource among the idle ones, or destroys it for lack of room. -/
def stow (key : κ) (object : ω) : Course κ ω Unit := do
  let (holding, _) ← look key
  if isReached config.idleLimit holding.idle.length then do
    let _ ← destroy reply key object
    return ()
  else hold key { holding with idle := object :: holding.idle }

/-- Adds a fresh resource if it can be passivated, and goes on then. -/
def stowOr (key : κ) (object : ω) (others : Course κ ω (Result ω ε)) :
    Course κ ω (Result ω ε) := do
  match ← ask reply (.passivate key object) with
  | .failed error => do
    count .passivationFailures
    let _ ← destroy reply key object
    return .failed (.factory error)
  | .done object | .refused object => do
    stow config reply key object
    others

/-- Adds so many idle resources, one after another, up to the first failure. -/
def prefill (key : κ) : Nat → Course κ ω (Result ω ε)
  | 0 => return .done
  | left + 1 => do
    let (_, isClosed) ← look key
    if isClosed then return .failed .closed
    else create reply key fun object => stowOr config reply key object (prefill key left)

/-- Destroys the idle resources of a key, the one that came in first at the front. -/
def clearKey (key : κ) : Course κ ω (Result ω ε) := do
  let (holding, _) ← look key
  hold key holding.emptied
  destroyAll reply (holding.idle.reverse.map fun object => (key, object))
  return .done

/-- Destroys all idle resources. -/
def clear (order : List κ) : Course κ ω (Result ω ε) := do
  let objects ← takeOut order
  destroyAll reply objects
  return .done

/-- Closes the pool and destroys all idle resources. Only the first closing does anything. -/
def close (order : List κ) : Course κ ω (Result ω ε) := do
  if ← shut then clear reply order
  else return .done

/-- **Runs an operation**; the order is that in which clearing and closing empty the keys. -/
def run (order : List κ) : Operation κ ω → Course κ ω (Result ω ε)
  | .borrow key => borrow config reply key
  | .giveBack key object => giveBack config reply key object
  | .invalidate key object => invalidate reply key object
  | .prefill key count => prefill config reply key count
  | .clearKey key => clearKey reply key
  | .clear => clear reply order
  | .close => close reply order

end operations

/-! ## What courses come to -/

section calls

variable {α β : Type} (reply : Replies κ ω ε)

/-- A course goes on with what the first part of it comes to, unless that is a panic. -/
theorem bind_eq (course : Course κ ω α) (next : α → Course κ ω β) (plain : PlainPool κ ω) :
    (course >>= next) plain = ExceptT.bindCont next (course plain).1 (course plain).2 := rfl

/-- How a course goes on with the answer to a call. -/
def answered (courses : Response ω ε → Course κ ω α) (panics : String → Course κ ω α) :
    Except String (Response ω ε) → Course κ ω α
  | .ok response => courses response
  | .error reason => panics reason

/-- A course that calls the factory, and what it comes to. -/
theorem ask_bind (request : Request κ ω) (courses : Response ω ε → Course κ ω α)
    (plain : PlainPool κ ω) :
    (ask reply request >>= courses) plain =
      answered courses throw (reply plain.calls request).response
        { plain with calls := request :: plain.calls } := by
  show ExceptT.bindCont courses (reply plain.calls request).response _ = _
  cases (reply plain.calls request).response <;> rfl

/-- A candidate is destroyed when a call about it panics. -/
theorem consult_bind (key : κ) (object : ω) (request : Request κ ω)
    (courses : Response ω ε → Course κ ω α) (plain : PlainPool κ ω) :
    (consult reply key object request >>= courses) plain =
      answered courses (unwind reply key object) (reply plain.calls request).response
        { plain with calls := request :: plain.calls } := by
  have hunwind : ∀ reason, (unwind reply key object reason >>= courses : Course κ ω α) =
      unwind reply key object reason := by
    intro reason
    unfold unwind
    rw [bind_assoc]
    rfl
  have hasked : ∀ (response : Except String (Response ω ε)) (next : PlainPool κ ω),
      ((tryCatch (.mk fun _ => (response, next)) (unwind reply key object) :
        Course κ ω (Response ω ε)) >>= courses) plain =
      answered courses (unwind reply key object) response next := by
    intro response next
    cases response with
    | ok response => rfl
    | error reason => exact congrFun (hunwind reason) next
  exact hasked (reply plain.calls request).response { plain with calls := request :: plain.calls }

end calls

end PlainPool

/-- What a destroy comes to: a failure is handed on, and a panic ends the course. -/
def Answer.afterDestroy : Answer ω ε → Except String (Option ε)
  | .panicked reason => .error reason
  | answer => .ok answer.error?

namespace PlainPool

/-- **The factory has been called, and nothing else has been done** but to count what came of it. -/
structure OnlyCalled (plain next : PlainPool κ ω) (calls : List (Request κ ω)) : Prop where
  holdings_eq : next.holdings = plain.holdings
  isClosed_eq : next.isClosed = plain.isClosed
  returned_eq : next.tally.returned = plain.tally.returned
  calls_eq : next.calls = calls

namespace OnlyCalled

variable {plain next last : PlainPool κ ω} {calls calls' : List (Request κ ω)}

/-- Nothing has been called. -/
theorem refl (plain : PlainPool κ ω) : OnlyCalled plain plain plain.calls := ⟨rfl, rfl, rfl, rfl⟩

/-- Calls after one another. -/
theorem trans (first : OnlyCalled plain next calls) (second : OnlyCalled next last calls') :
    OnlyCalled plain last calls' where
  holdings_eq := second.holdings_eq.trans first.holdings_eq
  isClosed_eq := second.isClosed_eq.trans first.isClosed_eq
  returned_eq := second.returned_eq.trans first.returned_eq
  calls_eq := second.calls_eq

end OnlyCalled

/-- Destroying a resource is a call. -/
theorem destroy_eq (reply : Replies κ ω ε) (key : κ) (object : ω) (plain : PlainPool κ ω) :
    ∃ next, OnlyCalled plain next (.destroy key object :: plain.calls) ∧
      destroy reply key object plain =
        ((reply plain.calls (.destroy key object)).afterDestroy, next) := by
  have hasked : destroy reply key object plain =
      (ask reply (.destroy key object) >>= countFailure)
        { plain with tally := plain.tally.bump .destroyed } := rfl
  rw [hasked, ask_bind]
  cases reply plain.calls (.destroy key object) <;>
    (refine ⟨_, ?_, rfl⟩
     exact ⟨rfl, rfl, rfl, rfl⟩)

end PlainPool

end ResourcePool
