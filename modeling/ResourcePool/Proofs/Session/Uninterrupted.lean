import ResourcePool.Pool.Completion
import ResourcePool.Proofs.Session.Steps

/-!
# Operations without interruption

A session stops at every call, so that the factory can use the pool before it answers. With a
factory that only answers, an action comes to its end as if its operation had been run in one go:
what holds of `Pool.run` holds of sessions.

* `Session.Answers` — the calls of a session are answered by a factory, one after another.
* `answers_run` — that leads from the start of an action to what its operation comes to in one go.
* `call_run` — an operation that a client calls.
* `get_run` — a borrow into a guard is a borrow, and `giveBack_run` — the return of a guard is a
  return.
-/

set_option linter.unusedSectionVars false

namespace ResourcePool.Session

variable {κ ω ε σ : Type} [DecidableEq κ]

/-- **A factory answers the calls of a session**, which is between two events and may have given a
reply, until it has come to another point. -/
inductive Answers (factory : Factory σ κ ω ε) : Session κ ω ε × Option (Reply ω ε) → σ →
    Session κ ω ε × Option (Reply ω ε) → σ → Prop where
  | done (outcome : Session κ ω ε × Option (Reply ω ε)) (state : σ) :
      Answers factory outcome state outcome state
  | call {session : Session κ ω ε} {next last : Session κ ω ε × Option (Reply ω ε)}
      {request : Request κ ω} {state final : σ} (asks : session.request? = some request)
      (goes : session.answer? (factory request state).1 = some next)
      (rest : Answers factory next (factory request state).2 last final) :
      Answers factory (session, none) state last final

section

variable (factory : Factory σ κ ω ε)

/-- A turn that is taken over is answered up to the end of its operation. -/
theorem answers_complete (session : Session κ ω ε) (purpose : Purpose κ)
    (turn : Pool.Turn κ ω ε) (state : σ) :
    Answers factory (session.advance purpose turn) state
      ({ session with pool := (Pool.complete factory turn state).2.1 }.conclude purpose
        (Pool.complete factory turn state).1)
      (Pool.complete factory turn state).2.2 := by
  induction turn, state using Pool.complete.induct factory with
  | case1 state pool result =>
    have hfinish := Pool.complete_finish factory pool result state
    unfold Pool.finish at hfinish
    rw [hfinish]
    exact .done _ _
  | case2 state pool stage answer next hanswer ih =>
    have hawait := Pool.complete_await factory pool stage state
    unfold Pool.await at hawait
    obtain ⟨rfl, rfl⟩ := Prod.mk.inj hanswer
    rw [hawait, advance_waiting]
    -- the operation waits on top of the others, and the answer takes it off again
    have hgoes : ({ session with
        pool := pool, running := ⟨stage, purpose⟩ :: session.running } : Session κ ω ε).answer?
          (factory stage.request state).1 =
        some (session.advance purpose (pool.resume stage (factory stage.request state).1)) := by
      unfold answer?
      cases hturn : pool.resume stage (factory stage.request state).1 with
      | mk last progress => cases progress <;> simp [hturn, advance]
    exact .call rfl hgoes ih

/-- **An action comes to what its operation comes to in one go**: its calls are answered, and then
the result is concluded as the action has it. -/
theorem answers_run {session : Session κ ω ε} {action : Action κ ω} {operation : Operation κ ω}
    (starts : session.operation? action = some operation) (state : σ) :
    ∃ (base : Session κ ω ε) (purpose : Purpose κ)
      (outcome : Session κ ω ε × Option (Reply ω ε)),
      base.running = session.running ∧ session.act? action = some outcome ∧
      Answers factory outcome state
        ({ base with pool := (session.pool.run factory operation state).2.1 }.conclude purpose
          (session.pool.run factory operation state).1)
        (session.pool.run factory operation state).2.2 := by
  obtain ⟨base, purpose, -, hrunning, -, hact⟩ := act?_of_operation? starts
  refine ⟨base, purpose, _, hrunning, hact, ?_⟩
  exact answers_complete factory base purpose (session.pool.start operation) state

/-- **An operation that a client calls** leaves the session with the pool that it leaves. -/
theorem call_run {session : Session κ ω ε} {operation : Operation κ ω} {result : Result ω ε}
    {pool : Pool κ ω ε} {state final : σ} (handled : session.handles ≠ 0)
    (runs : session.pool.run factory operation state = (result, pool, final)) :
    ∃ outcome, session.act? (.call operation) = some outcome ∧
      Answers factory outcome state ({ session with pool := pool }, some (.result result))
        final := by
  have hanswers :=
    answers_complete factory session .plain (session.pool.start operation) state
  have hcomplete : Pool.complete factory (session.pool.start operation) state =
      (result, pool, final) := runs
  have hhandled : ({ session with pool := pool } : Session κ ω ε).handles ≠ 0 := handled
  have hconclude : ({ session with pool := pool } : Session κ ω ε).conclude .plain result =
      ({ session with pool := pool }, some (.result result)) := depart_of_handles _ hhandled result
  rw [hcomplete] at hanswers
  simp only [hconclude] at hanswers
  exact ⟨_, by simp [act?, handled], hanswers⟩

/-- **A borrow into a guard is a borrow**: it makes the same calls, leaves the pool in the same
state and has the same result, with a resource that is lent in a guard. -/
theorem get_run {session : Session κ ω ε} {key : κ} {result : Result ω ε} {pool : Pool κ ω ε}
    {state final : σ} (handled : session.handles ≠ 0)
    (runs : session.pool.run factory (.borrow key) state = (result, pool, final)) :
    ∃ outcome last, session.act? (.get key) = some outcome ∧
      Answers factory outcome state last final ∧ last.1.pool = pool ∧
      last.2 = some (result.lent?.elim (.result result) (.guarded session.nextGuard)) := by
  have hanswers := answers_complete factory session (.guarding key) (session.pool.borrow key) state
  have hcomplete : Pool.complete factory (session.pool.borrow key) state =
      (result, pool, final) := runs
  rw [hcomplete] at hanswers
  have hact : session.act? (.get key) =
      some (session.advance (.guarding key) (session.pool.borrow key)) := by
    simp [act?, handled]
  refine ⟨_, _, hact, hanswers, ?_⟩
  have hhandled : ({ session with pool := pool } : Session κ ω ε).handles ≠ 0 := handled
  rcases ({ session with pool := pool } : Session κ ω ε).conclude_cases (.guarding key) result with
    ⟨_, object, -, rfl, heq⟩ | ⟨_, _, h, -, -⟩ | ⟨hlent, heq⟩
  · rw [heq]
    exact ⟨rfl, rfl⟩
  · cases h
  · rw [heq, depart_of_handles _ hhandled, hlent key rfl]
    exact ⟨rfl, rfl⟩

/-- **A return is a return, also that of a guard** that is released or dropped: with a handle left,
the client gets a reply and finds in the store what the return leaves. -/
theorem giveBack_run {session : Session κ ω ε} {action : Action κ ω} {key : κ} {object : ω}
    (starts : session.operation? action = some (.giveBack key object))
    (handled : session.handles ≠ 0) (state : σ) :
    ∃ outcome last told, session.act? action = some outcome ∧
      Answers factory outcome state (last, some told)
        (session.pool.run factory (.giveBack key object) state).2.2 ∧
      last.pool.store = (session.pool.run factory (.giveBack key object) state).2.1.store := by
  have hends : ∀ (base : Session κ ω ε) (purpose : Purpose κ), base.handles ≠ 0 →
      (∀ place, purpose ≠ .guarding place) → ∃ last told,
        Answers factory (base.advance purpose (session.pool.giveBack key object)) state
          (last, some told) (session.pool.run factory (.giveBack key object) state).2.2 ∧
        last.pool.store = (session.pool.run factory (.giveBack key object) state).2.1.store := by
    intro base purpose hhandles hpurpose
    have hdepart : ∀ next : Session κ ω ε, next.handles = base.handles → ∀ result,
        next.depart result = (next, some (.result result)) := fun next heq result =>
      depart_of_handles next (heq ▸ hhandles) result
    have hanswers := answers_complete factory base purpose (session.pool.giveBack key object) state
    generalize hruns : Pool.complete factory (session.pool.giveBack key object) state = ends
      at hanswers
    have hrun : session.pool.run factory (.giveBack key object) state = ends := hruns
    obtain ⟨result, pool, final⟩ := ends
    rw [hrun]
    rcases ({ base with pool := pool } : Session κ ω ε).conclude_cases purpose result with
      ⟨place, _, h, -, -⟩ | ⟨place, error, -, -, heq⟩ | ⟨-, heq⟩
    · exact absurd h (hpurpose place)
    · rw [heq.trans (hdepart _ (by rfl) _)] at hanswers
      exact ⟨_, _, hanswers, rfl⟩
    · rw [heq.trans (hdepart _ (by rfl) _)] at hanswers
      exact ⟨_, _, hanswers, rfl⟩
  cases action with
  | call operation =>
    obtain ⟨-, hoperation⟩ := Option.ite_none_left_eq_some.mp starts
    cases hoperation
    obtain ⟨last, told, hanswers, hstore⟩ := hends session .plain handled (by simp)
    refine ⟨_, last, told, ?_, hanswers, hstore⟩
    simp [act?, handled, Pool.start]
  | get place =>
    obtain ⟨-, hoperation⟩ := Option.ite_none_left_eq_some.mp starts
    cases hoperation
  | release id =>
    obtain ⟨guard, hguard, hoperation⟩ := Option.map_eq_some_iff.mp starts
    cases hoperation
    obtain ⟨last, told, hanswers, hstore⟩ := hends (session.removeGuard id) .plain handled (by simp)
    refine ⟨_, last, told, ?_, hanswers, hstore⟩
    simp [act?, hguard]
  | dropGuard id =>
    obtain ⟨guard, hguard, hoperation⟩ := Option.map_eq_some_iff.mp starts
    cases hoperation
    obtain ⟨last, told, hanswers, hstore⟩ :=
      hends (session.removeGuard id) (.dropping guard.key) handled (by simp)
    refine ⟨_, last, told, ?_, hanswers, hstore⟩
    simp [act?, hguard]
  | invalidate id =>
    obtain ⟨guard, hguard, hoperation⟩ := Option.map_eq_some_iff.mp starts
    cases hoperation
  | touch id object => cases starts
  | cloneHandle => cases starts
  | dropHandle => cases starts

end

end ResourcePool.Session
