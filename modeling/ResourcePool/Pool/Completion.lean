import ResourcePool.Pool.Operation

/-!
# Running an operation to its end

A factory that does not use the pool from inside its calls can be written as a function of its own
state, and then an operation can be run to its end in one go. It always gets there: every answer
leaves less work, where the work of a borrow is bounded by the idle resources and the attempts that
are left.

* `Stage.work` — how many calls an operation can still make, bounded from above.
* `Pool.resume_work_lt` — an answer leaves less work.
* `Pool.complete` and `Pool.run` — the end of an operation.
-/

set_option linter.unusedSectionVars false

namespace ResourcePool

variable {κ ω ε : Type}

/-! ## Bounded work -/

section work

/-- How many calls a borrow can still make after an idle candidate is done with, bounded from
above. -/
def Pool.borrowWork (pool : Pool κ ω ε) (checkout : Checkout κ) : Nat :=
  4 * ((pool.store.slot checkout.slot).idle.length + pool.config.attempts) + 4

/-- A bound on the calls that a discarded candidate leaves to make. -/
def Origin.work (pool : Pool κ ω ε) (checkout : Checkout κ) : Origin → Nat
  | .idle => pool.borrowWork checkout
  | .fresh attempt => 4 * (pool.config.attempts - attempt)

/-- A bound on the calls that follow a destroy. -/
def Aftermath.work (pool : Pool κ ω ε) : Aftermath κ ω ε → Nat
  | .quietly (.nextCandidate checkout origin) => origin.work pool checkout + 1
  | .quietly (.sweep rest _) => rest.length
  | .quietly (.addMore left) => 3 * left + 1
  | _ => 0

/-- A bound on the calls that an operation can still make after the one it waits for. -/
def Stage.work (pool : Pool κ ω ε) : Stage κ ω ε → Nat
  | .creating _ attempt => 4 * (pool.config.attempts - attempt) + 4
  | .activating checkout origin _ => origin.work pool checkout + 3
  | .validating checkout origin _ => origin.work pool checkout + 2
  | .inspecting .. => 2
  | .passivating .. => 1
  | .making _ left => 3 * left + 3
  | .parking _ left _ => 3 * left + 2
  | .destroying _ _ aftermath => aftermath.work pool

/-- A bound on the calls that an operation can still make. -/
def Progress.work (pool : Pool κ ω ε) : Progress κ ω ε → Nat
  | .waiting stage => stage.work pool + 1
  | .finished _ => 0

end work

namespace Pool

variable [DecidableEq κ]

/-! ## Every answer leaves less work -/

/-- A bound on the calls that a turn leaves to make. -/
def Turn.work (turn : Turn κ ω ε) : Nat := turn.2.work turn.1

section steps

variable (pool : Pool κ ω ε)

/-- An operation that is over has nothing left to do. -/
@[simp] theorem work_finish (result : Result ω ε) : Turn.work (pool.finish result) = 0 := rfl

/-- Neither has one that failed. -/
@[simp] theorem work_fail (error : PoolError ε) : Turn.work (pool.fail error) = 0 := rfl

/-- An operation that waits has one call more to make than its stage still leads to. -/
@[simp] theorem work_await (stage : Stage κ ω ε) :
    Turn.work (pool.await stage) = stage.work pool + 1 := rfl

/-- Destroying changes neither the store nor the configuration, so it leaves the work of what
follows. -/
@[simp] theorem work_destroy (key : κ) (object : ω) (aftermath : Aftermath κ ω ε) :
    Turn.work (pool.destroy key object aftermath) = aftermath.work pool + 1 := by
  cases aftermath with
  | quietly sequel =>
    cases sequel with
    | nextCandidate checkout origin => cases origin <;> rfl
    | _ => rfl
  | _ => rfl

/-- What the attempts to create a candidate cost: at most four calls each, namely to create,
activate, validate and destroy. -/
theorem work_tryFresh_le (checkout : Checkout κ) (attempt : Nat) :
    Turn.work (pool.tryFresh checkout attempt) ≤ 4 * (pool.config.attempts + 1 - attempt) + 1 := by
  unfold tryFresh
  split
  · simp only [work_await, Stage.work]
    omega
  · simp

/-- Taking an idle resource leaves one fewer in the slot. -/
theorem length_idle_take {store store' : Store κ ω} {slot : SlotId} {object : ω}
    (h : store.take slot = (some object, store')) :
    (store'.slot slot).idle.length + 1 = (store.slot slot).idle.length := by
  unfold Store.take at h
  cases hs : store.slots[slot]? with
  | none =>
    simp only [Store.slot, hs, Option.getD_none, Slot.take?] at h
    cases hsel : store.selection <;> simp [hsel] at h
  | some found =>
    simp only [Store.slot, hs, Option.getD_some] at h ⊢
    cases hsel : store.selection with
    | lifo =>
      simp only [hsel, Slot.take?] at h
      cases hl : found.idle with
      | nil => simp [hl] at h
      | cons first rest =>
        simp only [hl, List.head?_cons, Option.map_some, Prod.mk.injEq] at h
        obtain ⟨-, rfl⟩ := h
        simp [Store.update, hs]
    | fifo =>
      simp only [hsel, Slot.take?] at h
      cases hl : found.idle.getLast? with
      | none => simp [hl] at h
      | some last =>
        simp only [hl, Option.map_some, Prod.mk.injEq] at h
        obtain ⟨-, rfl⟩ := h
        have hne : found.idle ≠ [] := by rintro he; simp [he] at hl
        have hpos := List.length_pos_iff.mpr hne
        simp only [Store.update, List.getElem?_modify_eq, hs, Option.map_eq_map, Option.map_some,
          Option.getD_some, List.length_dropLast]
        omega

/-- What the search among the idle resources costs, with the attempts that may follow it. -/
theorem work_tryIdle_le (checkout : Checkout κ) :
    Turn.work (pool.tryIdle checkout) ≤ pool.borrowWork checkout + 1 := by
  unfold tryIdle
  split
  · rename_i object store h
    have := length_idle_take h
    simp only [work_await, Stage.work, Origin.work, borrowWork]
    omega
  · have := pool.work_tryFresh_le checkout 1
    simp only [borrowWork]
    omega

/-- Looking for the next candidate costs what is left for a candidate of that origin. -/
theorem work_tryNext_le (checkout : Checkout κ) (origin : Origin) :
    Turn.work (pool.tryNext checkout origin) ≤ origin.work pool checkout + 1 := by
  cases origin with
  | idle => exact pool.work_tryIdle_le checkout
  | fresh attempt =>
    have := pool.work_tryFresh_le checkout (attempt + 1)
    simp only [tryNext, Origin.work]
    omega

/-- Discarding a candidate costs one destroy more than looking for the next. -/
theorem work_discard_le (checkout : Checkout κ) (origin : Origin) (object : ω) :
    Turn.work (pool.discard checkout origin object) ≤ origin.work pool checkout + 2 := by
  cases origin <;> simp [discard, destroyQuietly, Aftermath.work, Origin.work, note, borrowWork]

/-- Counting and noting leave the work of what follows. -/
theorem work_origin_noted (checkout : Checkout κ) (origin : Origin) (event : Counter)
    (entry : Note κ ε) :
    origin.work ((pool.count event).note entry) checkout = origin.work pool checkout := by
  cases origin <;> rfl

/-- Destroying one after another is one call for each. -/
theorem work_sweep (objects : List (κ × ω)) (result : Result ω ε) :
    Turn.work (pool.sweep objects result) = objects.length := by
  cases objects with
  | nil => rfl
  | cons entry rest => exact pool.work_destroy _ _ _

/-- What is left to be added costs at most three calls each, namely to create, passivate and
destroy. -/
theorem work_addMore_le (key : κ) (left : Nat) :
    Turn.work (pool.addMore key left) ≤ 3 * left + 1 := by
  cases left with
  | zero => simp [addMore]
  | succ left =>
    simp only [addMore]
    split
    · exact Nat.zero_le _
    · exact Nat.le_of_eq (by simp only [work_await, Stage.work]; omega)

/-- Keeping a fresh resource costs a destroy at most, and then what is left to be added. -/
theorem work_park_le (key : κ) (left : Nat) (object : ω) :
    Turn.work (pool.park key left object) ≤ 3 * left + 2 := by
  unfold park
  split
  · rename_i store _
    have := ({ pool with store := store } : Pool κ ω ε).work_addMore_le key left
    omega
  · simp [destroyQuietly, Aftermath.work]
  · simp [destroyQuietly, Aftermath.work]

/-- Ending a loan costs a destroy at most. -/
theorem work_settle_le (key : κ) (slot : SlotId) (object : ω) :
    Turn.work (pool.settle key slot object) ≤ 1 := by
  unfold settle
  split <;> simp [rejectUnborrowed, destroyQuietly, Aftermath.work]

/-- What follows a destroy is bounded by the work of its sequel. -/
theorem work_proceed_le (key : κ) (sequel : Sequel κ ω ε) :
    Turn.work (pool.proceed key sequel) ≤ (Aftermath.quietly sequel).work pool := by
  cases sequel with
  | nextCandidate checkout origin => exact pool.work_tryNext_le checkout origin
  | unwind checkout reason => simp [proceed]
  | conclude result => simp [proceed]
  | sweep rest result => exact Nat.le_of_eq (pool.work_sweep rest result)
  | addMore left => exact pool.work_addMore_le key left

end steps

/-- **An answer leaves less work**, whatever the answer. -/
theorem resume_work_lt (pool : Pool κ ω ε) (stage : Stage κ ω ε) (answer : Answer ω ε) :
    Turn.work (pool.resume stage answer) < stage.work pool + 1 := by
  cases stage with
  | creating checkout attempt =>
    cases answer <;> simp [resume, Stage.work, Origin.work, count, note]
  | activating checkout origin object =>
    have discarded := fun event entry => by
      simpa only [work_origin_noted] using
        ((pool.count event).note entry).work_discard_le checkout origin object
    cases answer with
    | done object =>
      simp only [resume, afterActivation]
      split <;> simp [Stage.work, handOut]
    | refused object =>
      simp only [resume, afterActivation]
      split <;> simp [Stage.work, handOut]
    | failed error =>
      exact Nat.lt_of_le_of_lt (discarded _ _) (by simp [Stage.work])
    | panicked reason => simp [resume, destroyQuietly, Stage.work, Aftermath.work]
  | validating checkout origin object =>
    have discarded := fun event entry => by
      simpa only [work_origin_noted] using
        ((pool.count event).note entry).work_discard_le checkout origin object
    cases answer with
    | done _ => simp [resume, handOut]
    | refused _ =>
      exact Nat.lt_of_le_of_lt (discarded _ _) (by simp [Stage.work])
    | failed error =>
      exact Nat.lt_of_le_of_lt (discarded _ _) (by simp [Stage.work])
    | panicked reason => simp [resume, destroyQuietly, Stage.work, Aftermath.work]
  | inspecting key slot object =>
    cases answer <;> simp [resume, scrap, Stage.work, Aftermath.work]
  | passivating key slot object =>
    cases answer with
    | done object =>
      exact Nat.lt_of_le_of_lt (pool.work_settle_le key slot object) (by simp [Stage.work])
    | refused object =>
      exact Nat.lt_of_le_of_lt (pool.work_settle_le key slot object) (by simp [Stage.work])
    | failed error => simp [resume, scrap, Stage.work, Aftermath.work]
    | panicked reason => simp [resume]
  | making key left => cases answer <;> simp [resume, Stage.work]
  | parking key left object =>
    cases answer with
    | done object =>
      exact Nat.lt_of_le_of_lt (pool.work_park_le key left object) (by simp [Stage.work])
    | refused object =>
      exact Nat.lt_of_le_of_lt (pool.work_park_le key left object) (by simp [Stage.work])
    | failed error => simp [resume, destroyQuietly, Stage.work, Aftermath.work]
    | panicked reason => simp [resume]
  | destroying key object aftermath =>
    cases aftermath with
    | surface =>
      cases answer <;> simp [resume, afterDestroy, afterDestroyFailure, afterDestroyPanic]
    | surfaceIfOpen =>
      cases answer with
      | failed error =>
        simp only [resume, afterDestroyFailure]
        split <;> simp
      | _ => simp [resume, afterDestroy, afterDestroyPanic]
    | quietly sequel =>
      have bounded := fun pool' : Pool κ ω ε => pool'.work_proceed_le key sequel
      cases answer with
      | done _ => exact Nat.lt_succ_of_le (bounded pool)
      | refused _ => exact Nat.lt_succ_of_le (bounded pool)
      | failed error =>
        have := bounded ((pool.count .destroyFailures).note (.destroyFailed key error))
        refine Nat.lt_succ_of_le (Nat.le_trans this (Nat.le_of_eq ?_))
        cases sequel with
        | nextCandidate checkout origin => cases origin <;> rfl
        | _ => rfl
      | panicked reason => cases sequel <;> simp [resume, afterDestroyPanic]

/-! ## The end of an operation -/

/-- Answers the calls of an operation until it is over. -/
def complete {σ : Type} (factory : Factory σ κ ω ε) (turn : Turn κ ω ε) (state : σ) :
    Result ω ε × Pool κ ω ε × σ :=
  match turn with
  | (pool, .finished result) => (result, pool, state)
  | (pool, .waiting stage) =>
    let (answer, state) := factory stage.request state
    complete factory (pool.resume stage answer) state
termination_by turn.work
decreasing_by exact pool.resume_work_lt stage _

/-- An operation that is over makes no more calls. -/
theorem complete_finish {σ : Type} (factory : Factory σ κ ω ε) (pool : Pool κ ω ε)
    (result : Result ω ε) (state : σ) :
    complete factory (pool.finish result) state = (result, pool, state) := by
  rw [finish, complete]

/-- An operation that waits goes on with the answer of the factory. -/
theorem complete_await {σ : Type} (factory : Factory σ κ ω ε) (pool : Pool κ ω ε)
    (stage : Stage κ ω ε) (state : σ) :
    complete factory (pool.await stage) state =
      complete factory (pool.resume stage (factory stage.request state).1)
        (factory stage.request state).2 := by
  rw [await, complete]

/-- **Runs an operation to its end** against a factory that does not use the pool. -/
def run {σ : Type} (factory : Factory σ κ ω ε) (pool : Pool κ ω ε) (operation : Operation κ ω)
    (state : σ) : Result ω ε × Pool κ ω ε × σ :=
  complete factory (pool.start operation) state

end Pool

end ResourcePool
