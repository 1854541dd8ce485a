import Mathlib.Logic.Relation
import ResourcePool.Proofs.Session.Upkeep

/-!
# Closed pools

A pool is closed in one turn: the store is sealed and emptied before anything is destroyed. From
then on nothing is idle, and nothing becomes idle again, not even through operations that were in
progress when the pool closed.

* `Session.Leads` — the sessions that events lead to from a given one.
* `Session.Disposes` — an operation has come down to one destroy and ends well after it, whatever
  happens meanwhile and whether or not the destroy fails.
* `Session.Shut` — what a closed pool still does: it refuses, it destroys what comes back, and it
  does not close twice.
* `closed_for_good` — a closed pool is shut, now and ever after.
-/

set_option linter.unusedSectionVars false

namespace ResourcePool

variable {κ ω ε : Type} [DecidableEq κ]

/-! ## Turns of a closed pool -/

namespace Pool

variable {pool : Pool κ ω ε}

/-- An operation that ends well after its destroy. -/
def Disposal (key : κ) (object : ω) (stage : Stage κ ω ε) : Prop :=
  stage = .destroying key object (.quietly (.conclude .done)) ∨
    stage = .destroying key object .surfaceIfOpen

/-- On a closed pool a destroy that fails is as good as one that succeeds. -/
theorem resume_of_disposal (closed : pool.isClosed = true) {key : κ} {object : ω}
    {stage : Stage κ ω ε} (disposal : Disposal key object stage) {answer : Answer ω ε}
    (calm : ∀ reason, answer ≠ .panicked reason) :
    ∃ next : Pool κ ω ε, pool.resume stage answer = next.finish .done ∧
      next.store = pool.store := by
  cases answer with
  | panicked reason => exact absurd rfl (calm reason)
  | failed error =>
    have hcounted : (pool.count .destroyFailures).isClosed = true := closed
    rcases disposal with rfl | rfl
    · exact ⟨_, rfl, rfl⟩
    · simp only [resume, afterDestroyFailure, hcounted, if_true]
      exact ⟨_, rfl, rfl⟩
  | _ => rcases disposal with rfl | rfl <;> exact ⟨_, rfl, rfl⟩

end Pool

namespace Session

/-- One event leads from one session to the other. -/
def Steps (session next : Session κ ω ε) : Prop :=
  ∃ event reply, session.step? event = some (next, reply)

/-- Events lead from one session to the other. -/
def Leads : Session κ ω ε → Session κ ω ε → Prop := Relation.ReflTransGen Steps

section closing

variable {config : Config} {session next later : Session κ ω ε}

/-- What a session that can be reached leads to can be reached. -/
theorem Reachable.leads (reachable : Reachable config session) (leads : session.Leads later) :
    Reachable config later := by
  induction leads with
  | refl => exact reachable
  | tail _ hstep ih =>
    obtain ⟨event, reply, hevent⟩ := hstep
    exact ih.step hevent

/-- A pool that is closed is never open again. -/
theorem closed_of_leads (reachable : Reachable config session)
    (closed : session.pool.isClosed = true) (leads : session.Leads later) :
    later.pool.isClosed = true := by
  induction leads with
  | refl => exact closed
  | tail past hstep ih =>
    obtain ⟨event, reply, hevent⟩ := hstep
    exact (tended_step (reachable_inOrder (reachable.leads past)) hevent).isSealed ih

/-- The store of every reachable session is empty if it is sealed. -/
theorem spent_of_reachable (reachable : Reachable config session) :
    session.pool.store.Spent := by
  induction reachable with
  | create => exact fun hsealed => (nomatch hsealed)
  | step past hstep ih => exact (tended_step (reachable_inOrder past) hstep).spent ih

/-! ## Ends on a closed pool -/

/-- With the pool closed, a result goes straight to the client. -/
theorem depart_of_closed (closed : session.pool.isClosed = true) (result : Result ω ε) :
    session.depart result = (session, some (.result result)) := by
  rcases session.depart_cases result with ⟨-, heq⟩ | ⟨-, -, -, heq⟩
  · exact heq
  · rw [heq, session.pool.close_of_closed closed]
    rfl

/-- A success without a resource is told to the client as it is. -/
theorem conclude_done_of_closed (closed : session.pool.isClosed = true) (purpose : Purpose κ) :
    session.conclude purpose .done = (session, some (.result .done)) := by
  rcases session.conclude_cases purpose .done with
    ⟨_, _, -, h, -⟩ | ⟨_, _, -, h, -⟩ | ⟨-, heq⟩
  · cases h
  · cases h
  · rw [heq, depart_of_closed closed]

/-- A failure is told to the client as it is, unless the operation is the end of a guard. -/
theorem conclude_failed_of_closed (closed : session.pool.isClosed = true) {purpose : Purpose κ}
    (other : ∀ key, purpose ≠ .dropping key) (error : PoolError ε) :
    session.conclude purpose (.failed error) = (session, some (.result (.failed error))) := by
  rcases session.conclude_cases purpose (.failed error) with
    ⟨_, _, -, h, -⟩ | ⟨key, _, h, -, -⟩ | ⟨-, heq⟩
  · cases h
  · exact absurd h (other key)
  · rw [heq, depart_of_closed closed]

/-! ## Disposal -/

/-- **An operation has come down to one destroy.** It waits on top of what was in progress, and
whenever its call is answered without a panic, it ends well with that: it makes no further call,
and no count of the pool changes. -/
structure Disposes (session next : Session κ ω ε) (key : κ) (object : ω) : Prop where
  request : next.request? = some (.destroy key object)
  running : ∃ activity, next.running = activity :: session.running
  ends : ∀ later, next.Leads later → later.running = next.running →
    ∀ answer, (∀ reason, answer ≠ .panicked reason) → ∃ final,
      later.answer? answer = some (final, some (.result .done)) ∧
      final.running = session.running ∧
      ∀ place, final.pool.numActive place = later.pool.numActive place ∧
        final.pool.numIdle place = later.pool.numIdle place

/-- An operation that begins with a disposal on a closed pool. -/
theorem disposes_of_disposal (reachable : Reachable config session)
    (closed : session.pool.isClosed = true) {base : Session κ ω ε}
    (running_eq : base.running = session.running) {action : Action κ ω} {purpose : Purpose κ}
    {pool : Pool κ ω ε} {stage : Stage κ ω ε} {key : κ} {object : ω}
    (disposal : Pool.Disposal key object stage)
    (h : session.act? action = some (base.advance purpose (pool.await stage))) :
    session.Disposes (base.advance purpose (pool.await stage)).1 key object := by
  have hstep : session.Steps (base.advance purpose (pool.await stage)).1 := ⟨.act action, _, h⟩
  refine ⟨?_, ⟨⟨stage, purpose⟩, ?_⟩, ?_⟩
  · rcases disposal with rfl | rfl <;> rfl
  · exact congrArg (List.cons _) running_eq
  · intro later hleads hrunning answer hcalm
    have hclosed := closed_of_leads reachable closed (.head hstep hleads)
    obtain ⟨next, hresume, hstore⟩ := Pool.resume_of_disposal hclosed disposal hcalm
    have hstack : later.running = ⟨stage, purpose⟩ :: session.running :=
      hrunning.trans (congrArg (List.cons _) running_eq)
    have hnext : next.isClosed = true := by
      unfold Pool.isClosed
      rw [hstore]
      exact hclosed
    refine ⟨{ later with running := session.running, pool := next }, ?_, rfl, ?_⟩
    · simp only [answer?, hstack, hresume]
      exact congrArg some (conclude_done_of_closed hnext purpose)
    · intro place
      simp only [Pool.numActive, Pool.numIdle, hstore, and_self]

/-! ## Shut pools -/

/-- **What a closed pool still does.** -/
structure Shut (session : Session κ ω ε) : Prop where
  isClosed : session.pool.isClosed = true
  /-- Nothing is idle. -/
  idle : ∀ key, session.pool.numIdle key = 0
  /-- Borrows and additions are refused at once, and nothing changes. -/
  refuses : ∀ action operation, session.operation? action = some operation →
    (∃ key, operation = .borrow key ∨ ∃ more, operation = .prefill key (more + 1)) →
    ∃ next, session.act? action = some (next, some (.result (.failed .closed))) ∧
      next.pool = session.pool ∧ next.running = session.running
  /-- Closing once more does nothing. -/
  closes : ∀ action, session.operation? action = some .close →
    ∃ next, session.act? action = some (next, some (.result .done)) ∧
      next.pool = session.pool ∧ next.running = session.running
  /-- What comes back from loan ends its loan at once and is only destroyed. -/
  returns : ∀ action key object, session.operation? action = some (.giveBack key object) →
    0 < session.pool.numActive key → ∃ next, session.act? action = some (next, none) ∧
      next.pool.numActive key + 1 = session.pool.numActive key ∧
      (∀ other, other ≠ key → next.pool.numActive other = session.pool.numActive other) ∧
      session.Disposes next key object
  /-- What is given up is only destroyed. -/
  invalidates : ∀ action key object, session.operation? action = some (.invalidate key object) →
    ∃ next, session.act? action = some (next, none) ∧ session.Disposes next key object

/-- An operation that fails because the pool is closed has done nothing. -/
theorem refused_of_closed (closed : session.pool.isClosed = true) {action : Action κ ω}
    {operation : Operation κ ω} (h : session.operation? action = some operation)
    (other : ∀ key object, operation ≠ .giveBack key object)
    (fails : session.pool.start operation = session.pool.fail .closed) :
    ∃ next, session.act? action = some (next, some (.result (.failed .closed))) ∧
      next.pool = session.pool ∧ next.running = session.running := by
  obtain ⟨base, purpose, hpool, hrunning, hpurpose, hact⟩ := act?_of_operation? h
  have hplain : ∀ key, purpose ≠ .dropping key := by
    intro key hdropping
    obtain ⟨object, hreturn⟩ := hpurpose key hdropping
    exact other key object hreturn
  rw [fails, ← hpool] at hact
  have hclosed : base.pool.isClosed = true := by
    rw [hpool]
    exact closed
  refine ⟨base, ?_, hpool, hrunning⟩
  rw [hact]
  exact congrArg some (conclude_failed_of_closed hclosed hplain .closed)

/-- Closing a pool that is closed does nothing. -/
theorem closes_of_closed (closed : session.pool.isClosed = true) {action : Action κ ω}
    (h : session.operation? action = some .close) :
    ∃ next, session.act? action = some (next, some (.result .done)) ∧
      next.pool = session.pool ∧ next.running = session.running := by
  obtain ⟨base, purpose, hpool, hrunning, -, hact⟩ := act?_of_operation? h
  have hstart : session.pool.start .close = base.pool.finish .done := by
    rw [hpool]
    exact session.pool.close_of_closed closed .done
  have hclosed : base.pool.isClosed = true := by
    rw [hpool]
    exact closed
  refine ⟨base, ?_, hpool, hrunning⟩
  rw [hact, hstart]
  exact congrArg some (conclude_done_of_closed hclosed purpose)

/-- A return to a closed pool. -/
theorem returns_of_closed (reachable : Reachable config session)
    (closed : session.pool.isClosed = true) {action : Action κ ω} {key : κ} {object : ω}
    (h : session.operation? action = some (.giveBack key object))
    (loaned : 0 < session.pool.numActive key) :
    ∃ next, session.act? action = some (next, none) ∧
      next.pool.numActive key + 1 = session.pool.numActive key ∧
      (∀ other, other ≠ key → next.pool.numActive other = session.pool.numActive other) ∧
      session.Disposes next key object := by
  have hsound := (reachable_inOrder reachable).orderly.sound
  obtain ⟨base, purpose, -, hrunning, -, hact⟩ := act?_of_operation? h
  obtain ⟨slot, hslot, hgiveBack⟩ :=
    session.pool.giveBack_of_loaned (Nat.ne_of_gt loaned) object
  have hactive : ∀ place, (session.pool.endLoan key slot).numActive place =
      (Function.update session.pool.store.live key (session.pool.store.live key).release
        place).active := by
    intro place
    have hbecomes := (Store.becomes_update hsound hslot Slot.release
      (hsound.live_current _)).prune key
    rw [← hbecomes.live_eq]
    exact Store.numActive_eq _ _
  have hloaned := loaned
  unfold Pool.numActive at hloaned
  rw [Store.numActive_eq] at hloaned
  have hturn : session.pool.start (.giveBack key object) =
      ((session.pool.endLoan key slot).count .destroyed).await
        (.destroying key object (.quietly (.conclude .done))) := by
    rw [closed, if_pos rfl] at hgiveBack
    exact hgiveBack
  rw [hturn] at hact
  refine ⟨_, hact, ?_, ?_, disposes_of_disposal reachable closed hrunning (.inl rfl) hact⟩
  · show (session.pool.endLoan key slot).numActive key + 1 = session.pool.store.numActive key
    rw [hactive, Function.update_self, Store.numActive_eq]
    exact Nat.succ_pred_eq_of_pos hloaned
  · intro other hother
    show (session.pool.endLoan key slot).numActive other = session.pool.store.numActive other
    rw [hactive, Function.update_of_ne hother, Store.numActive_eq]

/-- An invalidation on a closed pool. -/
theorem invalidates_of_closed (reachable : Reachable config session)
    (closed : session.pool.isClosed = true) {action : Action κ ω} {key : κ} {object : ω}
    (h : session.operation? action = some (.invalidate key object)) :
    ∃ next, session.act? action = some (next, none) ∧ session.Disposes next key object := by
  obtain ⟨base, purpose, -, hrunning, -, hact⟩ := act?_of_operation? h
  exact ⟨_, hact, disposes_of_disposal reachable closed hrunning (.inr rfl) hact⟩

/-- A closed pool is shut. -/
theorem shut_of_closed (reachable : Reachable config session)
    (closed : session.pool.isClosed = true) : session.Shut where
  isClosed := closed
  idle key := by
    have hspent := spent_of_reachable reachable closed key
    unfold Pool.numIdle
    rw [Store.numIdle_eq, hspent]
    rfl
  refuses action operation h hrefused := by
    obtain ⟨key, rfl | ⟨more, rfl⟩⟩ := hrefused
    · exact refused_of_closed closed h nofun (session.pool.borrow_of_closed closed key)
    · exact refused_of_closed closed h nofun (session.pool.addMore_of_closed closed key more)
  closes _ h := closes_of_closed closed h
  returns _ _ _ h loaned := returns_of_closed reachable closed h loaned
  invalidates _ _ _ h := invalidates_of_closed reachable closed h

/-- **A closed pool is closed for good**: from the moment it is closed, and in the middle of any
operations, it holds nothing idle, lends and adds nothing, destroys what comes back, and stays
so. -/
theorem closed_for_good (reachable : Reachable config session)
    (closed : session.pool.isClosed = true) (leads : session.Leads later) : later.Shut :=
  shut_of_closed (reachable.leads leads) (closed_of_leads reachable closed leads)

/-- The events of a short run: while the resource 7 is on loan, the pool is closed from inside the
addition of 8. -/
def closedInside : List (Event Nat Nat String) :=
  [.act (.call (.borrow 0)), .answer (.done 7), .answer (.done 7),
    .act (.call (.add 0)), .answer (.done 8), .act (.call .close)]

/-- When the addition goes on it finds the pool closed, and then the loan can still be ended. -/
theorem shut_inside_addition : ∃ session later : Session Nat Nat String,
    Reachable Config.standard session ∧ session.Leads later ∧ later.Shut ∧
    ∃ next, later.act? (.call (.giveBack 0 7)) = some (next, none) ∧
      next.pool.numActive 0 = 0 ∧ later.Disposes next 0 7 := by
  have hfits : ∀ past ∈ replay Config.standard closedInside, past.2.pool.isClosed = true ∧
      (past.2.step? (.answer (.done 8))).isSome = true ∧
      ∀ outcome ∈ past.2.step? (.answer (.done 8)),
        outcome.1.operation? (.call (.giveBack 0 7)) = some (.giveBack 0 7) ∧
        outcome.1.pool.numActive 0 = 1 := by
    decide +kernel
  have hplays : (replay Config.standard closedInside).isSome = true := by
    decide +kernel
  obtain ⟨⟨log, session⟩, hpast⟩ := Option.isSome_iff_exists.mp hplays
  obtain ⟨hclosed, hgoes, hrest⟩ := hfits _ hpast
  obtain ⟨⟨later, reply⟩, hstep⟩ := Option.isSome_iff_exists.mp hgoes
  obtain ⟨hstarts, hone⟩ := hrest _ hstep
  have hreachable := (history_of_replay hpast).reachable
  have hleads : session.Leads later := .single ⟨.answer (.done 8), reply, hstep⟩
  have hshut := closed_for_good hreachable hclosed hleads
  have hloaned : 0 < later.pool.numActive 0 := Nat.lt_of_lt_of_eq Nat.one_pos hone.symm
  obtain ⟨next, hact, hactive, -, hdisposes⟩ := hshut.returns _ 0 7 hstarts hloaned
  exact ⟨session, later, hreachable, hleads, hshut, next, hact,
    Nat.succ.inj (hactive.trans hone), hdisposes⟩

end closing

end Session

end ResourcePool
