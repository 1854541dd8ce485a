import ResourcePool.Proofs.Pool.Reservations

/-!
# The routes of operations

Which calls an operation comes through, and which failures of calls it ends with. No operation
turns into another one, and whether the caller hears of a failure depends on the call that failed:
of all others the operation keeps nothing.

* `Operation.Visits` — the calls that an operation waits for.
* `Stage.surfaces` — the calls whose failures become the result.
* `Progress.Pursues` — where an operation stands, and the factory's error that it is to end with.
  There is one lemma for each function of the pool, up to `Pool.pursues_start` and
  `Pool.pursues_resume`.
* `Stage.Sweeps` — a pool that is cleared or closes, with a result that is known before.
-/

set_option linter.unusedSectionVars false

namespace ResourcePool

variable {κ ω ε : Type}

/-! ## Stages -/

/-- The factory's error that a result is. -/
def Result.cause? : Result ω ε → Option ε
  | failed error => error.factoryError?
  | _ => none

namespace Stage

/-- The factory's error that is already known to be the result. -/
def cause? (stage : Stage κ ω ε) : Option ε := stage.outcome?.bind Result.cause?

/-- Idle resources that have been taken out are destroyed one by one, and then the operation ends
with the result. -/
def Sweeps (result : Result ω ε) (stage : Stage κ ω ε) : Prop :=
  ∃ key object rest, stage = .destroying key object (.quietly (.sweep rest result))

/-- Whether the failure of the call becomes the result of the operation. -/
def surfaces (isClosed : Bool) : Stage κ ω ε → Bool
  | creating .. | making .. | parking .. | destroying _ _ .surface => true
  | destroying _ _ .surfaceIfOpen => !isClosed
  | _ => false

/-- The result of a sweep is known from the beginning. -/
theorem Sweeps.outcome?_eq {result : Result ω ε} {stage : Stage κ ω ε}
    (sweeps : stage.Sweeps result) : stage.outcome? = some result := by
  obtain ⟨key, object, rest, rfl⟩ := sweeps
  rfl

end Stage

/-- The factory's error that an operation ends with, if that is known. -/
def Progress.cause? (progress : Progress κ ω ε) : Option ε := progress.outcome?.bind Result.cause?

/-- Whether an operation takes idle resources out to destroy them. -/
def Operation.clears : Operation κ ω → Bool
  | clearKey _ | clear | close => true
  | _ => false

/-- **The calls that an operation waits for**, as long as none of them panics. -/
inductive Operation.Visits : Operation κ ω → Stage κ ω ε → Prop where
  | creating {key : κ} {checkout : Checkout κ} (own : checkout.key = key) (attempt : Nat) :
      Visits (.borrow key) (.creating checkout attempt)
  | activating {key : κ} {checkout : Checkout κ} (own : checkout.key = key) (origin : Origin)
      (object : ω) : Visits (.borrow key) (.activating checkout origin object)
  | validating {key : κ} {checkout : Checkout κ} (own : checkout.key = key) (origin : Origin)
      (object : ω) : Visits (.borrow key) (.validating checkout origin object)
  | discarding {key : κ} {checkout : Checkout κ} (own : checkout.key = key) (origin : Origin)
      (object : ω) :
      Visits (.borrow key) (.destroying key object (.quietly (.nextCandidate checkout origin)))
  | inspecting (key : κ) (slot : SlotId) (object : ω) :
      Visits (.giveBack key object) (.inspecting key slot object)
  | passivating (key : κ) (slot : SlotId) (object : ω) :
      Visits (.giveBack key object) (.passivating key slot object)
  | scrapping (key : κ) (object : ω) :
      Visits (.giveBack key object) (.destroying key object .surface)
  /-- The resource may have changed its state when it was passivated. -/
  | rejecting (key : κ) (object resource : ω) {result : Result ω ε}
      (causeless : result.cause? = none) :
      Visits (.giveBack key object) (.destroying key resource (.quietly (.conclude result)))
  | invalidating (key : κ) (object : ω) :
      Visits (.invalidate key object) (.destroying key object .surfaceIfOpen)
  | making (key : κ) (count left : Nat) : Visits (.prefill key count) (.making key left)
  | parking (key : κ) (count left : Nat) (object : ω) :
      Visits (.prefill key count) (.parking key left object)
  | overflowing (key : κ) (count left : Nat) (object : ω) :
      Visits (.prefill key count) (.destroying key object (.quietly (.addMore left)))
  | failing (key : κ) (count : Nat) (object : ω) (error : PoolError ε) :
      Visits (.prefill key count) (.destroying key object (.quietly (.conclude (.failed error))))
  | sweeping {operation : Operation κ ω} {stage : Stage κ ω ε} (clears : operation.clears = true)
      (sweeps : stage.Sweeps .done) : Visits operation stage

/-- **Where an operation stands**, and the factory's error that it is to end with, if that is
known. -/
structure Progress.Pursues (operation : Operation κ ω) (cause : Option ε)
    (progress : Progress κ ω ε) : Prop where
  visits : ∀ stage, progress = .waiting stage → operation.Visits stage
  cause_eq : progress.cause? = cause

/-- An operation that waits for one of its calls stands where it should. -/
theorem Operation.Visits.pursues {operation : Operation κ ω} {stage : Stage κ ω ε}
    (visits : operation.Visits stage) {cause : Option ε} (cause_eq : stage.cause? = cause) :
    (Progress.waiting stage).Pursues operation cause := by
  refine ⟨?_, cause_eq⟩
  rintro _ ⟨⟩
  exact visits

/-- So does an operation that is over. -/
theorem Progress.pursues_finished (operation : Operation κ ω) {result : Result ω ε}
    {cause : Option ε} (cause_eq : result.cause? = cause) :
    (Progress.finished result : Progress κ ω ε).Pursues operation cause := ⟨nofun, cause_eq⟩

/-! ## Turns -/

namespace Pool

variable [DecidableEq κ]

section turns

variable (pool : Pool κ ω ε)

/-! ### Borrowing -/

/-- A borrow creates a candidate, or is exhausted. -/
theorem pursues_tryFresh (checkout : Checkout κ) (attempt : Nat) :
    (pool.tryFresh checkout attempt).2.Pursues (.borrow checkout.key) none := by
  unfold tryFresh
  split
  · exact Operation.Visits.pursues (.creating rfl attempt) rfl
  · exact Progress.pursues_finished _ rfl

/-- A borrow activates an idle candidate, or turns to fresh ones. -/
theorem pursues_tryIdle (checkout : Checkout κ) :
    (pool.tryIdle checkout).2.Pursues (.borrow checkout.key) none := by
  unfold tryIdle
  split
  · next object store _ => exact Operation.Visits.pursues (.activating rfl .idle object) rfl
  · exact pool.pursues_tryFresh checkout 1

/-- A borrow goes on with the next candidate. -/
theorem pursues_tryNext (checkout : Checkout κ) (origin : Origin) :
    (pool.tryNext checkout origin).2.Pursues (.borrow checkout.key) none := by
  cases origin with
  | idle => exact pool.pursues_tryIdle checkout
  | fresh attempt => exact pool.pursues_tryFresh checkout (attempt + 1)

/-- A borrow destroys a candidate and forgets how it failed. -/
theorem pursues_discard (checkout : Checkout κ) (origin : Origin) (object : ω) :
    (pool.discard checkout origin object).2.Pursues (.borrow checkout.key) none :=
  Operation.Visits.pursues (.discarding rfl origin object) rfl

/-- A borrow starts with a candidate, unless it is refused. -/
theorem pursues_borrow (key : κ) : (pool.borrow key).2.Pursues (.borrow key) none := by
  unfold borrow
  split
  · exact Progress.pursues_finished _ rfl
  · split
    · exact Progress.pursues_finished _ rfl
    · next slot store _ => exact pursues_tryIdle _ ⟨key, slot⟩

/-- A borrow validates an activated candidate, or ends. -/
theorem pursues_afterActivation (checkout : Checkout κ) (origin : Origin) (object : ω) :
    (pool.afterActivation checkout origin object).2.Pursues (.borrow checkout.key) none := by
  unfold afterActivation
  split
  · exact Operation.Visits.pursues (.validating rfl origin object) rfl
  · exact Progress.pursues_finished _ rfl

/-! ### Taking back -/

/-- A return with nothing on loan destroys the resource, and its result is known. -/
theorem pursues_rejectUnborrowed (key : κ) (object resource : ω) :
    (pool.rejectUnborrowed key resource).2.Pursues (.giveBack key object) none :=
  Operation.Visits.pursues (.rejecting key object resource rfl) rfl

/-- A return that has been passivated ends, or destroys the resource for lack of room. -/
theorem pursues_settle (key : κ) (slot : SlotId) (object resource : ω) :
    (pool.settle key slot resource).2.Pursues (.giveBack key object) none := by
  unfold settle
  split
  · exact Progress.pursues_finished _ rfl
  · exact pursues_rejectUnborrowed _ key object _
  · exact Operation.Visits.pursues (.rejecting key object _ rfl) rfl

/-- A return validates, passivates or destroys. -/
theorem pursues_giveBack (key : κ) (object : ω) :
    (pool.giveBack key object).2.Pursues (.giveBack key object) none := by
  unfold giveBack
  split
  · exact pool.pursues_rejectUnborrowed key object object
  · next slot _ =>
    split
    · exact pool.pursues_rejectUnborrowed key object object
    split
    · exact Operation.Visits.pursues (.rejecting key object object rfl) rfl
    split
    · exact Operation.Visits.pursues (.inspecting key slot object) rfl
    · exact Operation.Visits.pursues (.passivating key slot object) rfl

/-! ### Adding -/

/-- An addition creates the next resource, unless it is over. -/
theorem pursues_addMore (key : κ) (count left : Nat) :
    (pool.addMore key left).2.Pursues (.prefill key count) none := by
  cases left with
  | zero => exact Progress.pursues_finished _ rfl
  | succ left =>
    simp only [addMore]
    split
    · exact Progress.pursues_finished _ rfl
    · exact Operation.Visits.pursues (.making key count left) rfl

/-- An addition goes on when a resource is kept, and destroys it otherwise. -/
theorem pursues_park (key : κ) (count left : Nat) (object : ω) :
    (pool.park key left object).2.Pursues (.prefill key count) none := by
  unfold park
  split
  · exact pursues_addMore _ key count left
  · exact Operation.Visits.pursues (.failing key count _ .closed) rfl
  · exact Operation.Visits.pursues (.overflowing key count left _) rfl

/-! ### Clearing and closing -/

/-- What is left of a sweep. -/
theorem sweep_cases (objects : List (κ × ω)) (result : Result ω ε) :
    (pool.sweep objects result).2 = .finished result ∨
      ∃ stage, (pool.sweep objects result).2 = .waiting stage ∧ stage.Sweeps result := by
  cases objects with
  | nil => exact .inl rfl
  | cons entry rest => exact .inr ⟨_, rfl, entry.1, entry.2, rest, rfl⟩

/-- A closing waits in a sweep for its result, or it is over. -/
theorem close_sweeps (result : Result ω ε) : (pool.close result).2 = .finished result ∨
    ∃ stage, (pool.close result).2 = .waiting stage ∧ stage.Sweeps result := by
  unfold close
  split
  · exact .inl rfl
  · next store _ =>
    obtain ⟨notes, heq⟩ := clear_eq (({ pool with store := store } : Pool κ ω ε).note _) result
    rw [heq]
    exact sweep_cases _ _ result

/-- The factory's error that is known before a closing is known after it. -/
theorem cause?_close (result : Result ω ε) : (pool.close result).2.cause? = result.cause? := by
  rcases pool.close_sweeps result with hover | ⟨stage, hwaits, hsweeps⟩
  · rw [hover]
    rfl
  · rw [hwaits]
    exact congrArg (Option.bind · Result.cause?) hsweeps.outcome?_eq

/-- A sweep goes on, whether or not the destroy has failed. -/
theorem resume_of_sweeps {stage : Stage κ ω ε} {result : Result ω ε} (sweeps : stage.Sweeps result)
    {answer : Answer ω ε} (calm : ∀ reason, answer ≠ .panicked reason) :
    (pool.resume stage answer).2 = .finished result ∨
      ∃ next, (pool.resume stage answer).2 = .waiting next ∧ next.Sweeps result := by
  obtain ⟨key, object, rest, rfl⟩ := sweeps
  cases answer with
  | panicked reason => exact absurd rfl (calm reason)
  | _ => exact sweep_cases _ rest result

/-- Clearing destroys one resource after another. -/
theorem pursues_sweep {operation : Operation κ ω} (clears : operation.clears = true)
    (objects : List (κ × ω)) : (pool.sweep objects .done).2.Pursues operation none := by
  rcases pool.sweep_cases objects .done with hover | ⟨stage, hwaits, hsweeps⟩
  · rw [hover]
    exact Progress.pursues_finished _ rfl
  · rw [hwaits]
    have hcause : stage.cause? = none :=
      congrArg (Option.bind · Result.cause?) hsweeps.outcome?_eq
    rw [← hcause]
    exact Operation.Visits.pursues (.sweeping clears hsweeps) rfl

/-- Clearing all keys does. -/
theorem pursues_clear {operation : Operation κ ω} (clears : operation.clears = true) :
    (pool.clear .done).2.Pursues operation none := by
  obtain ⟨notes, heq⟩ := pool.clear_eq .done
  rw [heq]
  exact pursues_sweep _ clears _

/-! ### Operations -/

/-- **An operation starts**, and no failure is known yet. -/
theorem pursues_start (operation : Operation κ ω) :
    (pool.start operation).2.Pursues operation none := by
  cases operation with
  | borrow key => exact pool.pursues_borrow key
  | giveBack key object => exact pool.pursues_giveBack key object
  | invalidate key object => exact Operation.Visits.pursues (.invalidating key object) rfl
  | prefill key count => exact pool.pursues_addMore key count count
  | clearKey key =>
    obtain ⟨notes, heq⟩ := pool.clearKey_eq key
    show (pool.clearKey key).2.Pursues (.clearKey key) none
    rw [heq]
    exact pursues_sweep _ rfl _
  | clear => exact pool.pursues_clear rfl
  | close =>
    show (pool.close .done).2.Pursues .close none
    unfold close
    split
    · exact Progress.pursues_finished _ rfl
    · exact pursues_clear _ rfl

/-- **An operation goes on as it began**, and it ends with the failure of a call if that is one
whose failures become the result. -/
theorem pursues_resume {operation : Operation κ ω} {stage : Stage κ ω ε}
    (visits : operation.Visits stage) {answer : Answer ω ε}
    (calm : ∀ reason, answer ≠ .panicked reason) :
    (pool.resume stage answer).2.Pursues operation
      (if stage.surfaces pool.isClosed then answer.error? else stage.cause?) := by
  cases visits with
  | @creating key checkout own attempt =>
    subst own
    cases answer with
    | panicked reason => exact absurd rfl (calm reason)
    | failed error => exact Progress.pursues_finished _ rfl
    | _ => exact Operation.Visits.pursues (.activating rfl _ _) rfl
  | @activating key checkout own origin object =>
    subst own
    cases answer with
    | panicked reason => exact absurd rfl (calm reason)
    | failed error => exact pursues_discard _ checkout origin object
    | _ => exact pool.pursues_afterActivation checkout origin _
  | @validating key checkout own origin object =>
    subst own
    cases answer with
    | panicked reason => exact absurd rfl (calm reason)
    | done _ => exact Progress.pursues_finished _ rfl
    | _ => exact pursues_discard _ checkout origin object
  | @discarding key checkout own origin object =>
    subst own
    cases answer with
    | panicked reason => exact absurd rfl (calm reason)
    | _ => exact pursues_tryNext _ checkout origin
  | inspecting key slot object =>
    cases answer with
    | panicked reason => exact absurd rfl (calm reason)
    | done _ => exact Operation.Visits.pursues (.passivating key slot object) rfl
    | _ => exact Operation.Visits.pursues (.scrapping key object) rfl
  | passivating key slot object =>
    cases answer with
    | panicked reason => exact absurd rfl (calm reason)
    | failed error => exact Operation.Visits.pursues (.scrapping key object) rfl
    | _ => exact pool.pursues_settle key slot object _
  | scrapping key object =>
    cases answer with
    | panicked reason => exact absurd rfl (calm reason)
    | _ => exact Progress.pursues_finished _ rfl
  | @rejecting key object resource result causeless =>
    have hover : (Stage.destroying key resource (.quietly (.conclude result))).cause? =
        result.cause? := rfl
    cases answer with
    | panicked reason => exact absurd rfl (calm reason)
    | _ => exact Progress.pursues_finished _ rfl
  | invalidating key object =>
    cases answer with
    | panicked reason => exact absurd rfl (calm reason)
    | failed error =>
      have hcounted : (pool.count .destroyFailures).isClosed = pool.isClosed := rfl
      simp only [resume, afterDestroyFailure, hcounted, Stage.surfaces]
      cases pool.isClosed with
      | true => exact Progress.pursues_finished _ rfl
      | false => exact Progress.pursues_finished _ rfl
    | _ =>
      simp only [Answer.error?, Stage.surfaces]
      cases pool.isClosed <;> exact Progress.pursues_finished _ rfl
  | making key count left =>
    cases answer with
    | panicked reason => exact absurd rfl (calm reason)
    | failed error => exact Progress.pursues_finished _ rfl
    | _ => exact Operation.Visits.pursues (.parking key count left _) rfl
  | parking key count left object =>
    cases answer with
    | panicked reason => exact absurd rfl (calm reason)
    | failed error =>
      exact Operation.Visits.pursues (.failing key count object (.factory error)) rfl
    | _ => exact pool.pursues_park key count left _
  | overflowing key count left object =>
    cases answer with
    | panicked reason => exact absurd rfl (calm reason)
    | _ => exact pursues_addMore _ key count left
  | failing key count object error =>
    cases answer with
    | panicked reason => exact absurd rfl (calm reason)
    | _ => exact Progress.pursues_finished _ rfl
  | sweeping clears sweeps =>
    obtain ⟨key, object, rest, rfl⟩ := sweeps
    cases answer with
    | panicked reason => exact absurd rfl (calm reason)
    | _ => exact pursues_sweep _ clears rest

end turns

end Pool

end ResourcePool
