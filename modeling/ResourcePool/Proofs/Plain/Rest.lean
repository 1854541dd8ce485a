import ResourcePool.Proofs.Plain.Runs
import ResourcePool.Proofs.Pool.Deeds
import ResourcePool.Proofs.Session.Order
import ResourcePool.Proofs.Session.Upkeep

/-!
# Operations from beginning to end

In whatever way a session came to a point at which nothing is running, its pool holds what a plain
pool holds. What is proved about the courses of plain pools, in which loops are recursions and calls
are made in place, is then true of the operations of every such pool.

* `agrees_of_rest` — the pool of a session at rest and its plain pool.
* `Agrees.live_congr` — a key that a course left alone has the slot that it had.
* `Replies.Calm` — a factory that does not panic.
* `destroysUnder` — how many resources of a key some calls destroy.
-/

set_option linter.unusedSectionVars false

namespace ResourcePool

variable {κ ω ε : Type} [DecidableEq κ]

/-- The plain pool that holds what a pool holds, when its factory has had some calls. -/
def Pool.plain (pool : Pool κ ω ε) (calls : List (Request κ ω)) : PlainPool κ ω where
  holdings := pool.store.holding
  isClosed := pool.isClosed
  tally := pool.tally
  calls := calls

/-- The number on loan is read off what a key holds. -/
theorem Pool.numActive_eq (pool : Pool κ ω ε) (key : κ) :
    pool.numActive key = (pool.store.holding key).active := pool.store.numActive_eq key

/-- So is the number of idle resources. -/
theorem Pool.numIdle_eq (pool : Pool κ ω ε) (key : κ) :
    pool.numIdle key = (pool.store.holding key).idle.length := pool.store.numIdle_eq key

namespace PlainPool

/-! ## Pools at rest -/

section rest

variable {config : Config} {session : Session κ ω ε}

/-- Between operations nothing is reserved. -/
theorem numInFlight_of_rest (reachable : Session.Reachable config session)
    (rest : session.running = []) (key : κ) : session.pool.store.numInFlight key = 0 := by
  rw [(Session.reachable_inOrder reachable).numInFlight_eq]
  simp [Session.borrows, rest]

/-- The pool fits that no operation is in progress. -/
theorem orderly_of_rest (reachable : Session.Reachable config session)
    (rest : session.running = []) : Pool.Orderly session.pool [] := by
  have horderly := (Session.reachable_inOrder reachable).orderly
  have hstages : session.stages = [] := by simp [Session.stages, rest]
  rwa [hstages] at horderly

/-- **A pool at rest** holds what its plain pool holds. -/
theorem agrees_of_rest (reachable : Session.Reachable config session)
    (rest : session.running = []) (calls : List (Request κ ω)) :
    Agrees config session.pool (session.pool.plain calls) where
  config_eq := (Session.reachable_inOrder reachable).config_eq
  mirrors := {
    sound := (Session.reachable_inOrder reachable).orderly.sound
    rules_eq := by
      unfold Store.rules
      rw [Session.selection_of_reachable reachable, Session.idleLimit_of_reachable reachable]
      rfl
    live_eq := by
      intro key
      have hflight : (session.pool.store.live key).inFlight = 0 :=
        numInFlight_of_rest reachable rest key
      have hcurrent := (Session.reachable_inOrder reachable).orderly.sound.live_current key
      have hplain : (session.pool.plain calls).holdings key =
          (session.pool.store.live key).holding := rfl
      rw [hplain]
      generalize session.pool.store.live key = slot at hflight hcurrent
      obtain ⟨idle, active, inFlight, retired⟩ := slot
      cases hflight
      cases hcurrent
      rfl
    holds := Store.holds_of_none _ }
  tally_eq := rfl

end rest

section agreement

variable {config : Config} {pool last : Pool κ ω ε} {plain next : PlainPool κ ω}
  (agrees : Agrees config pool plain)
include agrees

/-- The slot of a key holds what the plain pool has, and no reservation. -/
theorem Agrees.live_eq (key : κ) : pool.store.live key = (plain.holdings key).slot 0 :=
  agrees.mirrors.live_eq key

/-- The key holds what the plain pool has. -/
theorem Agrees.holding_eq (key : κ) : pool.store.holding key = plain.holdings key := by
  unfold Store.holding
  rw [agrees.live_eq]
  rfl

/-- Nothing is reserved. -/
theorem Agrees.numInFlight_eq (key : κ) : pool.store.numInFlight key = 0 := by
  unfold Store.numInFlight
  rw [agrees.live_eq]
  rfl

/-- A key that a course has left alone has the slot that it had. -/
theorem Agrees.live_congr (after : Agrees config last next) {key : κ}
    (same : next.holdings key = plain.holdings key) :
    last.store.live key = pool.store.live key := by
  rw [agrees.live_eq, after.live_eq, same]

end agreement

end PlainPool

/-! ## Answers -/

/-- The resource that a step leaves when it succeeds; a validation succeeds only as
`Answer.done`. -/
def Answer.success? : Answer ω ε → Option ω
  | .done object | .refused object => some object
  | _ => none

/-- A factory that does not panic, whatever it is asked and when. -/
def Replies.Calm (reply : Replies κ ω ε) : Prop :=
  ∀ calls request reason, reply calls request ≠ .panicked reason

/-! ## Calls -/

/-- How many resources of a key were given to the factory to destroy in some calls. -/
def destroysUnder (key : κ) (calls : List (Request κ ω)) : Nat :=
  calls.countP fun request => request.step = .destroy ∧ request.key = key

/-- A destroy is one more under its key. -/
@[simp] theorem destroysUnder_cons_destroy (place key : κ) (object : ω)
    (calls : List (Request κ ω)) : destroysUnder place (.destroy key object :: calls) =
      destroysUnder place calls + if key = place then 1 else 0 := by
  simp [destroysUnder, List.countP_cons, Request.step, Request.key]

/-- Creating destroys nothing. -/
@[simp] theorem destroysUnder_cons_create (place key : κ) (calls : List (Request κ ω)) :
    destroysUnder place (.create key :: calls) = destroysUnder place calls := by
  simp [destroysUnder, Request.step]

/-- Neither does passivating. -/
@[simp] theorem destroysUnder_cons_passivate (place key : κ) (object : ω)
    (calls : List (Request κ ω)) :
    destroysUnder place (.passivate key object :: calls) = destroysUnder place calls := by
  simp [destroysUnder, Request.step]

/-- Nor does validating. -/
@[simp] theorem destroysUnder_cons_validate (place key : κ) (object : ω)
    (calls : List (Request κ ω)) :
    destroysUnder place (.validate key object :: calls) = destroysUnder place calls := by
  simp [destroysUnder, Request.step]

namespace PlainPool

/-! ## Courses that only call -/

/-- With a factory that does not panic a course goes on after a destroy. -/
theorem destroy_bind {reply : Replies κ ω ε} (calm : reply.Calm) (key : κ) (object : ω)
    {α : Type} (rest : Option ε → Course κ ω α) (plain : PlainPool κ ω) :
    ∃ next, OnlyCalled plain next (.destroy key object :: plain.calls) ∧
      (destroy reply key object >>= rest) plain =
        rest (reply plain.calls (.destroy key object)).error? next := by
  obtain ⟨next, hcalled, heq⟩ := destroy_eq reply key object plain
  refine ⟨next, hcalled, ?_⟩
  rw [bind_eq, heq]
  cases hanswer : reply plain.calls (.destroy key object) with
  | panicked reason => exact absurd hanswer (calm _ _ reason)
  | _ => rfl

end PlainPool

end ResourcePool
