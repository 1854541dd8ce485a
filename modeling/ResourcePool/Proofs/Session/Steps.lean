import ResourcePool.Session

/-!
# The steps of a session

What a step can be, stated once. A step either runs a turn of an operation, which then waits or
comes to its end, or it does nothing to the pool but close it when its last handle is gone.

* `Session.Acts` and `acts_of_act?` — what an action can do.
* `Session.operation?` and `act?_of_operation?` — the operation that an action starts.
* `answer?_cases` — what an answer can do.
* `advance_waiting`, `advance_finished`, `conclude_cases`, `depart_cases` — how a turn is taken over
  and how an operation comes to its end.
-/

set_option linter.unusedSectionVars false

namespace ResourcePool.Session

variable {κ ω ε : Type} [DecidableEq κ]

/-! ## Actions -/

/-- The guard that an action uses up, the operation that it starts with the resource of that guard,
and what becomes of the result. -/
def spending? (guard : Guard κ ω) : Action κ ω → Option (GuardId × Purpose κ × Operation κ ω)
  | .release id => some (id, .plain, .giveBack guard.key guard.object)
  | .invalidate id => some (id, .plain, .invalidate guard.key guard.object)
  | .dropGuard id => some (id, .dropping guard.key, .giveBack guard.key guard.object)
  | _ => none

/-- **What an action can do.** -/
inductive Acts (session : Session κ ω ε) :
    Action κ ω → Session κ ω ε × Option (Reply ω ε) → Prop where
  /-- It starts an operation through a handle. -/
  | call {operation : Operation κ ω} (handled : session.handles ≠ 0) :
      Acts session (.call operation) (session.advance .plain (session.pool.start operation))
  /-- It starts a borrow whose resource goes into a guard. -/
  | get {key : κ} (handled : session.handles ≠ 0) :
      Acts session (.get key) (session.advance (.guarding key) (session.pool.start (.borrow key)))
  /-- It uses up a guard. -/
  | spend {action : Action κ ω} {id : GuardId} {guard : Guard κ ω} {purpose : Purpose κ}
      {operation : Operation κ ω} (there : session.guard? id = some guard)
      (spends : spending? guard action = some (id, purpose, operation)) :
      Acts session action
        ((session.removeGuard id).advance purpose (session.pool.start operation))
  /-- It changes the resource of a guard. -/
  | touch {id : GuardId} {object : ω} {guard : Guard κ ω} (there : session.guard? id = some guard) :
      Acts session (.touch id object) (session.setGuard id object, some (.result .done))
  /-- It clones a handle. -/
  | cloneHandle :
      Acts session .cloneHandle
        ({ session with handles := session.handles + 1 }, some (.result .done))
  /-- It drops a handle. -/
  | dropHandle :
      Acts session .dropHandle ({ session with handles := session.handles - 1 }.depart .done)

/-- What an action does is one of the cases of `Acts`. -/
theorem acts_of_act? {session : Session κ ω ε} {action : Action κ ω}
    {outcome : Session κ ω ε × Option (Reply ω ε)} (h : session.act? action = some outcome) :
    session.Acts action outcome := by
  -- an action through a handle needs one
  have hhandled : ∀ value, (if session.handles = 0 then none else some value) = some outcome →
      session.handles ≠ 0 ∧ value = outcome := by
    intro value hact
    split at hact
    · cases hact
    · next hhandles => exact ⟨hhandles, Option.some.inj hact⟩
  cases action with
  | call operation =>
    obtain ⟨hhandles, rfl⟩ := hhandled _ h
    exact .call hhandles
  | get key =>
    obtain ⟨hhandles, rfl⟩ := hhandled _ h
    exact .get hhandles
  | release id =>
    obtain ⟨guard, hguard, rfl⟩ := Option.map_eq_some_iff.mp h
    have hspends : spending? guard (.release id) =
        some (id, .plain, .giveBack guard.key guard.object) := rfl
    exact .spend hguard hspends
  | invalidate id =>
    obtain ⟨guard, hguard, rfl⟩ := Option.map_eq_some_iff.mp h
    have hspends : spending? guard (.invalidate id) =
        some (id, .plain, .invalidate guard.key guard.object) := rfl
    exact .spend hguard hspends
  | dropGuard id =>
    obtain ⟨guard, hguard, rfl⟩ := Option.map_eq_some_iff.mp h
    have hspends : spending? guard (.dropGuard id) =
        some (id, .dropping guard.key, .giveBack guard.key guard.object) := rfl
    exact .spend hguard hspends
  | touch id object =>
    obtain ⟨guard, hguard, rfl⟩ := Option.map_eq_some_iff.mp h
    exact .touch hguard
  | cloneHandle =>
    obtain ⟨-, rfl⟩ := hhandled _ h
    exact .cloneHandle
  | dropHandle =>
    obtain ⟨-, rfl⟩ := hhandled _ h
    exact .dropHandle

/-- The operation that an action starts, if it starts one. -/
def operation? (session : Session κ ω ε) : Action κ ω → Option (Operation κ ω)
  | .call operation => if session.handles = 0 then none else some operation
  | .get key => if session.handles = 0 then none else some (.borrow key)
  | .release id | .dropGuard id =>
    (session.guard? id).map fun guard => .giveBack guard.key guard.object
  | .invalidate id => (session.guard? id).map fun guard => .invalidate guard.key guard.object
  | .touch .. | .cloneHandle | .dropHandle => none

/-- An action that starts an operation runs its first turn, and only the failure of a return is
kept from the client. -/
theorem act?_of_operation? {session : Session κ ω ε} {action : Action κ ω}
    {operation : Operation κ ω} (h : session.operation? action = some operation) :
    ∃ (base : Session κ ω ε) (purpose : Purpose κ),
      base.pool = session.pool ∧ base.running = session.running ∧
      (∀ key, purpose = .dropping key → ∃ object, operation = .giveBack key object) ∧
      session.act? action = some (base.advance purpose (session.pool.start operation)) := by
  cases action with
  | call operation =>
    obtain ⟨hhandles, hoperation⟩ := Option.ite_none_left_eq_some.mp h
    cases hoperation
    refine ⟨session, .plain, rfl, rfl, nofun, ?_⟩
    simp [act?, hhandles]
  | get key =>
    obtain ⟨hhandles, hoperation⟩ := Option.ite_none_left_eq_some.mp h
    cases hoperation
    refine ⟨session, .guarding key, rfl, rfl, nofun, ?_⟩
    simp [act?, hhandles, Pool.start]
  | release id =>
    obtain ⟨guard, hguard, rfl⟩ := Option.map_eq_some_iff.mp h
    refine ⟨session.removeGuard id, .plain, rfl, rfl, nofun, ?_⟩
    simp [act?, hguard, Pool.start]
  | dropGuard id =>
    obtain ⟨guard, hguard, rfl⟩ := Option.map_eq_some_iff.mp h
    refine ⟨session.removeGuard id, .dropping guard.key, rfl, rfl, ?_, ?_⟩
    · rintro key ⟨⟩
      exact ⟨guard.object, rfl⟩
    · simp [act?, hguard, Pool.start]
  | invalidate id =>
    obtain ⟨guard, hguard, rfl⟩ := Option.map_eq_some_iff.mp h
    refine ⟨session.removeGuard id, .plain, rfl, rfl, nofun, ?_⟩
    simp [act?, hguard, Pool.start]
  | touch id object => cases h
  | cloneHandle => cases h
  | dropHandle => cases h

/-! ## Answers -/

/-- An answer resumes the innermost operation. -/
theorem answer?_cases {session : Session κ ω ε} {answer : Answer ω ε}
    {outcome : Session κ ω ε × Option (Reply ω ε)} (h : session.answer? answer = some outcome) :
    ∃ activity rest, session.running = activity :: rest ∧
      outcome = { session with running := rest }.advance activity.purpose
        (session.pool.resume activity.stage answer) := by
  unfold answer? at h
  split at h
  · cases h
  · next activity rest hrunning =>
    cases h
    exact ⟨activity, rest, hrunning, rfl⟩

/-! ## Ends of operations -/

section

variable (session : Session κ ω ε)

/-- An operation that waits is put on top of those in progress. -/
theorem advance_waiting (purpose : Purpose κ) (pool : Pool κ ω ε) (stage : Stage κ ω ε) :
    session.advance purpose (pool, .waiting stage) =
      ({ session with pool := pool, running := ⟨stage, purpose⟩ :: session.running }, none) := rfl

/-- An operation that is over hands its reply over. -/
theorem advance_finished (purpose : Purpose κ) (pool : Pool κ ω ε) (result : Result ω ε) :
    session.advance purpose (pool, .finished result) =
      { session with pool := pool }.conclude purpose result := rfl

/-- A result goes into a guard, or into a note, or to the client. -/
theorem conclude_cases (purpose : Purpose κ) (result : Result ω ε) :
    (∃ key object, purpose = .guarding key ∧ result = .lent object ∧
      session.conclude purpose result = session.addGuard key object) ∨
    (∃ key error, purpose = .dropping key ∧ result = .failed error ∧
      session.conclude purpose result =
        { session with pool := session.pool.note (.returnFailed key error) }.depart .done) ∨
    ((∀ key, purpose = .guarding key → result.lent? = none) ∧
      session.conclude purpose result = session.depart result) := by
  cases purpose with
  | plain => exact .inr (.inr ⟨fun _ h => (nomatch h), rfl⟩)
  | guarding key =>
    cases result with
    | lent object => exact .inl ⟨key, object, rfl, rfl, rfl⟩
    | _ => exact .inr (.inr ⟨fun _ _ => rfl, rfl⟩)
  | dropping key =>
    cases result with
    | failed error => exact .inr (.inl ⟨key, error, rfl, rfl, rfl⟩)
    | _ => exact .inr (.inr ⟨fun _ h => (nomatch h), rfl⟩)

/-- Takes over a turn of the pool closing itself, with nothing else left in the session. -/
def closing (turn : Pool.Turn κ ω ε) : Session κ ω ε × Option (Reply ω ε) :=
  match turn with
  | (pool, .waiting stage) => ({ session with pool := pool, running := [⟨stage, .plain⟩] }, none)
  | (pool, .finished result) => ({ session with pool := pool }, some (.result result))

/-- The client is told the result, unless nothing keeps the pool alive: then the pool closes
first. -/
theorem depart_cases (result : Result ω ε) :
    (session.isReferenced = true ∧ session.depart result = (session, some (.result result))) ∨
    (session.handles = 0 ∧ session.guards = [] ∧ session.running = [] ∧
      session.depart result = session.closing (session.pool.close result)) := by
  unfold depart
  cases href : session.isReferenced with
  | true => exact .inl ⟨rfl, rfl⟩
  | false =>
    have hnone : (session.handles = 0 ∧ session.guards = []) ∧ session.running = [] := by
      simpa [isReferenced] using href
    exact .inr ⟨hnone.1.1, hnone.1.2, hnone.2, rfl⟩

/-- With a handle left, a result goes straight to the client. -/
theorem depart_of_handles (handles : session.handles ≠ 0) (result : Result ω ε) :
    session.depart result = (session, some (.result result)) := by
  rcases session.depart_cases result with ⟨-, h⟩ | ⟨hzero, -⟩
  · exact h
  · exact absurd hzero handles

end

end ResourcePool.Session
