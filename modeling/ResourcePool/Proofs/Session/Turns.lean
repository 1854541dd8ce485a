import ResourcePool.Proofs.Session.Capacity

/-!
# The turns of a session

Every step of a session has two halves. It opens with a turn of the pool, the first of an operation
or a later one, or with nothing but a change of the handles and guards; and then the turn is taken
over: the operation waits, or its result is told, or nothing keeps the pool alive any more and it
closes. What holds of whole runs is shown for the two halves.

* `Session.Opens` — the first half, with `opens_of_step?`.
* `Session.Ends` — the second half, with `ends_advance`.
* `Session.holds_of_reachable` — both together, for what is true of a pool and its operations.
-/

set_option linter.unusedSectionVars false

namespace ResourcePool.Session

variable {κ ω ε : Type} [DecidableEq κ]

/-! ## The first half -/

/-- The session that an action opens with: a guard that is used up is gone already, and so is a
handle that is dropped. -/
def prepare (session : Session κ ω ε) : Action κ ω → Session κ ω ε
  | .release id | .invalidate id | .dropGuard id => session.removeGuard id
  | .touch id object => session.setGuard id object
  | .cloneHandle => { session with handles := session.handles + 1 }
  | .dropHandle => { session with handles := session.handles - 1 }
  | .call _ | .get _ => session

/-- What becomes of the result of an action. -/
def purposeOf (session : Session κ ω ε) : Action κ ω → Purpose κ
  | .get key => .guarding key
  | .dropGuard id => (session.guard? id).elim .plain fun guard => .dropping guard.key
  | _ => .plain

section prepare

variable (session : Session κ ω ε) (action : Action κ ω)

/-- Preparing an action leaves the pool alone. -/
@[simp] theorem pool_prepare : (session.prepare action).pool = session.pool := by
  cases action <;> rfl

/-- It leaves the operations in progress alone. -/
@[simp] theorem running_prepare : (session.prepare action).running = session.running := by
  cases action <;> rfl

/-- It leaves their stages alone. -/
@[simp] theorem stages_prepare : (session.prepare action).stages = session.stages := by
  simp [stages]

end prepare

/-- **What a step opens with.** -/
inductive Opens (session : Session κ ω ε) :
    Event κ ω ε → Session κ ω ε → Purpose κ → Pool.Turn κ ω ε → Prop where
  /-- An operation starts. -/
  | start {action : Action κ ω} {operation : Operation κ ω}
      (starts : session.operation? action = some operation) :
      Opens session (.act action) (session.prepare action) (session.purposeOf action)
        (session.pool.start operation)
  /-- Only the handles or the guards change. -/
  | aside {action : Action κ ω} (other : session.operation? action = none)
      (allowed : ∃ outcome, session.act? action = some outcome) :
      Opens session (.act action) (session.prepare action) .plain (session.pool.finish .done)
  /-- The call of the innermost operation is answered. -/
  | resume {answer : Answer ω ε} {activity : Activity κ ω ε} {rest : List (Activity κ ω ε)}
      (running_eq : session.running = activity :: rest) :
      Opens session (.answer answer) { session with running := rest } activity.purpose
        (session.pool.resume activity.stage answer)

/-- A guard that is there keeps the pool alive. -/
theorem guards_ne_nil {session : Session κ ω ε} {id : GuardId} {guard : Guard κ ω}
    (h : session.guard? id = some guard) : session.guards ≠ [] := by
  intro hnil
  simp [guard?, hnil] at h

/-- With a handle or a guard left, a result goes straight to the client. -/
theorem depart_of_referenced {session : Session κ ω ε} (referenced : session.isReferenced = true)
    (result : Result ω ε) : session.depart result = (session, some (.result result)) := by
  unfold depart
  rw [if_pos referenced]

/-- What an action opens with that uses up a guard. -/
theorem starts_of_spending {session : Session κ ω ε} {id : GuardId} {guard : Guard κ ω}
    {action : Action κ ω} {purpose : Purpose κ} {operation : Operation κ ω}
    (there : session.guard? id = some guard)
    (spends : spending? guard action = some (id, purpose, operation)) :
    session.operation? action = some operation ∧ session.purposeOf action = purpose ∧
      session.prepare action = session.removeGuard id := by
  cases action with
  | release other =>
    cases spends
    exact ⟨by simp [operation?, there], rfl, rfl⟩
  | invalidate other =>
    cases spends
    exact ⟨by simp [operation?, there], rfl, rfl⟩
  | dropGuard other =>
    cases spends
    exact ⟨by simp [operation?, there], by simp [purposeOf, there], rfl⟩
  | _ => cases spends

/-- **Every step opens with a turn** and takes it over. -/
theorem opens_of_step? {session : Session κ ω ε} {event : Event κ ω ε}
    {outcome : Session κ ω ε × Option (Reply ω ε)} (h : session.step? event = some outcome) :
    ∃ base purpose turn, session.Opens event base purpose turn ∧
      outcome = base.advance purpose turn := by
  cases event with
  | answer answer =>
    obtain ⟨activity, rest, hrunning, heq⟩ := answer?_cases h
    exact ⟨_, _, _, .resume hrunning, heq⟩
  | act action =>
    have hallowed : ∃ outcome, session.act? action = some outcome := ⟨outcome, h⟩
    -- an action without an operation tells its success at once
    have haside : session.operation? action = none →
        outcome = (session.prepare action).depart .done →
        ∃ base purpose turn, session.Opens (.act action) base purpose turn ∧
          outcome = base.advance purpose turn := by
      intro hnone heq
      refine ⟨_, _, _, .aside hnone hallowed, ?_⟩
      rw [heq, Pool.finish, advance_finished, ← pool_prepare session action]
      rfl
    cases acts_of_act? h with
    | @call operation handled =>
      have hstarts : session.operation? (.call operation) = some operation := if_neg handled
      exact ⟨_, _, _, .start hstarts, rfl⟩
    | @get key handled =>
      have hstarts : session.operation? (.get key) = some (.borrow key) := if_neg handled
      exact ⟨_, _, _, .start hstarts, rfl⟩
    | @spend action id guard purpose operation there spends =>
      obtain ⟨hstarts, hpurpose, hprepare⟩ := starts_of_spending there spends
      refine ⟨_, _, _, .start hstarts, ?_⟩
      rw [hpurpose, hprepare]
    | @touch id object guard there =>
      apply haside rfl
      have hkept : (session.setGuard id object).isReferenced = true := by
        have hguards := guards_ne_nil there
        simp [isReferenced, setGuard, hguards]
      exact (depart_of_referenced hkept _).symm
    | cloneHandle =>
      apply haside rfl
      have hkept : ({ session with handles := session.handles + 1 } :
          Session κ ω ε).isReferenced = true := by simp [isReferenced]
      exact (depart_of_referenced hkept _).symm
    | dropHandle => exact haside rfl rfl

/-- The pool fits the operations in progress after the first half of a step. -/
theorem Opens.orderly {config : Config} {session base : Session κ ω ε} {event : Event κ ω ε}
    {purpose : Purpose κ} {turn : Pool.Turn κ ω ε}
    (opens : session.Opens event base purpose turn) (inOrder : InOrder config session) :
    Pool.Orderly turn.1 (turn.2.stages ++ base.stages) := by
  have horderly := inOrder.orderly
  cases opens with
  | start starts =>
    rw [stages_prepare]
    exact horderly.start _
  | aside other =>
    rw [stages_prepare]
    exact horderly
  | @resume answer activity rest running_eq =>
    have hstages : session.stages = activity.stage :: rest.map fun activity => activity.stage := by
      simp [stages, running_eq]
    rw [hstages] at horderly
    exact horderly.resume answer

/-! ## The second half -/

/-- The pool and the result as they are told when an operation is over: the failure of a return by
a guard that goes away is only noted. -/
def conclusion (purpose : Purpose κ) (pool : Pool κ ω ε) (result : Result ω ε) :
    Pool κ ω ε × Result ω ε :=
  match purpose, result with
  | .dropping key, .failed error => (pool.note (.returnFailed key error), .done)
  | _, result => (pool, result)

/-- A conclusion leaves a pool as it is, or it notes that a return failed. -/
theorem conclusion_cases (purpose : Purpose κ) (pool : Pool κ ω ε) (result : Result ω ε) :
    conclusion purpose pool result = (pool, result) ∨
    ∃ key error, purpose = .dropping key ∧ result = .failed error ∧
      conclusion purpose pool result = (pool.note (.returnFailed key error), .done) := by
  unfold conclusion
  split
  · next key error => exact .inr ⟨key, error, rfl, rfl, rfl⟩
  · exact .inl rfl

/-- **How a turn is taken over.** -/
inductive Ends (base : Session κ ω ε) (purpose : Purpose κ) :
    Pool.Turn κ ω ε → Session κ ω ε × Option (Reply ω ε) → Prop where
  /-- The operation waits on top of the others. -/
  | waits {pool : Pool κ ω ε} {stage : Stage κ ω ε} :
      Ends base purpose (pool, .waiting stage)
        ({ base with pool := pool, running := ⟨stage, purpose⟩ :: base.running }, none)
  /-- What was lent goes into a guard. -/
  | guarded {pool : Pool κ ω ε} {key : κ} {object : ω} (purpose_eq : purpose = .guarding key) :
      Ends base purpose (pool, .finished (.lent object))
        (({ base with pool := pool } : Session κ ω ε).addGuard key object)
  /-- The client is told. -/
  | told {pool : Pool κ ω ε} {result : Result ω ε} (referenced : base.isReferenced = true) :
      Ends base purpose (pool, .finished result)
        ({ base with pool := (conclusion purpose pool result).1 },
          some (.result (conclusion purpose pool result).2))
  /-- Nothing keeps the pool alive, and it closes before the client is told. -/
  | closes {pool : Pool κ ω ε} {result : Result ω ε} (handles : base.handles = 0)
      (guards : base.guards = []) (running : base.running = []) :
      Ends base purpose (pool, .finished result)
        (({ base with pool := (conclusion purpose pool result).1 } : Session κ ω ε).closing
          ((conclusion purpose pool result).1.close (conclusion purpose pool result).2))

/-- What a session makes of a turn is one of the cases of `Ends`. -/
theorem ends_advance (base : Session κ ω ε) (purpose : Purpose κ) (turn : Pool.Turn κ ω ε) :
    base.Ends purpose turn (base.advance purpose turn) := by
  obtain ⟨pool, progress⟩ := turn
  cases progress with
  | waiting stage => exact .waits
  | finished result =>
    rw [advance_finished]
    -- a result that goes into no guard is told, unless the pool closes first
    have hdepart : ({ base with pool := pool } : Session κ ω ε).conclude purpose result =
        ({ base with pool := (conclusion purpose pool result).1 } : Session κ ω ε).depart
          (conclusion purpose pool result).2 →
        base.Ends purpose (pool, .finished result)
          (({ base with pool := pool } : Session κ ω ε).conclude purpose result) := by
      intro heq
      rw [heq]
      rcases depart_cases { base with pool := (conclusion purpose pool result).1 }
        (conclusion purpose pool result).2 with
        ⟨href, htold⟩ | ⟨hhandles, hguards, hrunning, hclose⟩
      · rw [htold]
        exact .told href
      · rw [hclose]
        exact .closes hhandles hguards hrunning
    cases purpose with
    | guarding key =>
      cases result with
      | lent object => exact .guarded rfl
      | _ => exact hdepart rfl
    | dropping key => cases result <;> exact hdepart rfl
    | plain => cases result <;> exact hdepart rfl

section closing

variable (session : Session κ ω ε) (turn : Pool.Turn κ ω ε)

/-- A conclusion is nothing to the store. -/
@[simp] theorem store_conclusion (purpose : Purpose κ) (pool : Pool κ ω ε) (result : Result ω ε) :
    (conclusion purpose pool result).1.store = pool.store := by
  unfold conclusion
  split <;> rfl

/-- The pool of a session that closes is what the closing has left. -/
@[simp] theorem pool_closing : (session.closing turn).1.pool = turn.1 := by
  obtain ⟨pool, progress⟩ := turn
  cases progress <;> rfl

/-- Its only operation is the closing, if that waits. -/
theorem stages_closing (running : session.running = []) :
    (session.closing turn).1.stages = turn.2.stages := by
  obtain ⟨pool, progress⟩ := turn
  cases progress with
  | waiting stage => rfl
  | finished result => simp [closing, stages, Progress.stages, running]

end closing

/-! ## Pools and operations -/

section invariants

variable {config : Config} (holds : Pool κ ω ε → List (Stage κ ω ε) → Prop)

/-- **What turns preserve holds of every reachable session**, along with the order of the pool: the
turns of operations, the notes of returns that failed, and the closing of a pool that nothing keeps
alive. -/
theorem holds_of_reachable (create : ∀ walk, holds (.empty config walk) [])
    (start : ∀ pool stages operation, Pool.Orderly pool stages → holds pool stages →
      holds (pool.start operation).1 ((pool.start operation).2.stages ++ stages))
    (resume : ∀ pool stage stages answer, Pool.Orderly pool (stage :: stages) →
      holds pool (stage :: stages) →
      holds (pool.resume stage answer).1 ((pool.resume stage answer).2.stages ++ stages))
    (note : ∀ pool stages key error, holds pool stages →
      holds (pool.note (.returnFailed key error)) stages)
    (close : ∀ pool result, Pool.Orderly pool [] → holds pool [] →
      holds (pool.close result).1 (pool.close result).2.stages)
    {session : Session κ ω ε} (reachable : Reachable config session) :
    holds session.pool session.stages := by
  induction reachable with
  | create walk => exact create walk
  | @step session next event reply past hstep ih =>
    have horderly := (reachable_inOrder past).orderly
    obtain ⟨base, purpose, turn, hopens, heq⟩ := opens_of_step? hstep
    -- the first half
    have hbefore := hopens.orderly (reachable_inOrder past)
    have hturn : holds turn.1 (turn.2.stages ++ base.stages) := by
      cases hopens with
      | start starts =>
        rw [stages_prepare]
        exact start _ _ _ horderly ih
      | aside other =>
        rw [stages_prepare]
        exact ih
      | @resume answer activity rest running_eq =>
        have hstages : session.stages = activity.stage :: rest.map fun activity => activity.stage :=
          by simp [stages, running_eq]
        rw [hstages] at ih horderly
        exact resume _ _ _ _ horderly ih
    -- the second half
    have hconcluded : ∀ pool result, holds pool base.stages → Pool.Orderly pool base.stages →
        holds (conclusion purpose pool result).1 base.stages ∧
          Pool.Orderly (conclusion purpose pool result).1 base.stages := by
      intro pool result hpool hordered
      rcases conclusion_cases purpose pool result with hsame | ⟨key, error, -, -, hnoted⟩
      · rw [hsame]
        exact ⟨hpool, hordered⟩
      · rw [hnoted]
        exact ⟨note _ _ _ _ hpool, ⟨hordered.sound, hordered.inFlight_eq, hordered.linked,
          hordered.stands, hordered.capacity⟩⟩
    have hafter : ∀ outcome, base.Ends purpose turn outcome →
        holds outcome.1.pool outcome.1.stages := by
      intro outcome hends
      cases hends with
      | waits => exact hturn
      | guarded => exact hturn
      | told referenced => exact (hconcluded _ _ hturn hbefore).1
      | @closes pool result handles guards running =>
        have hnone : base.stages = [] := by simp [stages, running]
        obtain ⟨hpool, hordered⟩ := hconcluded pool result hturn hbefore
        rw [hnone] at hpool hordered
        have hstages := stages_closing
          { base with pool := (conclusion purpose pool result).1 }
          ((conclusion purpose pool result).1.close (conclusion purpose pool result).2) running
        rw [pool_closing, hstages]
        exact close _ _ hordered hpool
    have hends := base.ends_advance purpose turn
    rw [← heq] at hends
    exact hafter _ hends

end invariants

end ResourcePool.Session
