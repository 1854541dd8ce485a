import ResourcePool.Proofs.Plain.Agreement

/-!
# Runs of a pool

Operations one after another, against a factory that only answers. That slots are opened, unlinked
and replaced is not seen in a run: whatever the clients do, and whatever they hand back, all that is
seen of the pool is seen of the plain pool.

* `Factory.replies` and `run_replies` — a factory with a state of its own is given by its replies.
* `Sight`, `Pool.runAll` — what is seen of a pool after an operation, and a run.
* `PlainPool.Shows` — what is seen of a plain pool in a run.
* `slots_unseen` — in every run a pool shows what the plain pool shows.
-/

set_option linter.unusedSectionVars false

namespace ResourcePool

variable {κ ω ε : Type} [DecidableEq κ]

/-! ## Factories with a state -/

section states

variable {σ : Type} (factory : Factory σ κ ω ε)

/-- The state of a factory after some calls, the latest first. -/
def Factory.after (start : σ) : List (Request κ ω) → σ
  | [] => start
  | request :: calls => (factory request (after start calls)).2

/-- What a factory replies that starts in a given state. -/
def Factory.replies (start : σ) : Replies κ ω ε :=
  fun calls request => (factory request (after factory start calls)).1

/-- An operation that is in progress goes on in the same way with the replies, by induction on its
calls. -/
theorem complete_replies (start : σ) (turn : Pool.Turn κ ω ε) (calls : List (Request κ ω)) :
    Pool.complete factory turn (factory.after start calls) =
      ((Pool.complete (factory.replies start).factory turn calls).1,
        (Pool.complete (factory.replies start).factory turn calls).2.1,
        factory.after start (Pool.complete (factory.replies start).factory turn calls).2.2) := by
  induction turn, calls using Pool.complete.induct (factory.replies start).factory with
  | case1 calls pool result =>
    have hfinish := fun {σ : Type} (factory : Factory σ κ ω ε) =>
      Pool.complete_finish factory pool result
    unfold Pool.finish at hfinish
    rw [hfinish, hfinish]
  | case2 calls pool stage answer next hanswer ih =>
    have hawait := fun {σ : Type} (factory : Factory σ κ ω ε) =>
      Pool.complete_await factory pool stage
    unfold Pool.await at hawait
    obtain ⟨rfl, rfl⟩ := Prod.mk.inj hanswer
    rw [hawait, hawait]
    exact ih

/-- **Replies are enough**: a factory with a state does in every operation what its replies say,
whatever it was called for before. -/
theorem run_replies (start : σ) (pool : Pool κ ω ε) (operation : Operation κ ω)
    (calls : List (Request κ ω)) :
    pool.run factory operation (factory.after start calls) =
      ((pool.run (factory.replies start).factory operation calls).1,
        (pool.run (factory.replies start).factory operation calls).2.1,
        factory.after start (pool.run (factory.replies start).factory operation calls).2.2) :=
  complete_replies factory start (pool.start operation) calls

end states

/-! ## Runs -/

/-- What is seen of a pool after an operation. -/
structure Sight (κ ω ε : Type) where
  /-- The result of the operation. -/
  result : Result ω ε
  /-- The calls of the factory so far, the latest first. -/
  calls : List (Request κ ω)
  /-- How many resources of each key are on loan. -/
  active : κ → Nat
  /-- How many resources of each key are idle. -/
  idle : κ → Nat
  /-- Whether the pool is closed. -/
  isClosed : Bool
  /-- The events counted so far. -/
  tally : Tally

namespace Pool

/-- What is seen of a pool. -/
def sight (pool : Pool κ ω ε) (result : Result ω ε) (calls : List (Request κ ω)) :
    Sight κ ω ε :=
  ⟨result, calls, pool.numActive, pool.numIdle, pool.isClosed, pool.tally⟩

/-- **Runs operations one after another** on a pool whose factory has had some calls: what is seen
after each of them, and the pool and the calls in the end. -/
def runAll (reply : Replies κ ω ε) : List (Operation κ ω) → Pool κ ω ε × List (Request κ ω) →
    List (Sight κ ω ε) × Pool κ ω ε × List (Request κ ω)
  | [], state => ([], state)
  | operation :: operations, (pool, calls) =>
    let (result, pool, calls) := pool.run reply.factory operation calls
    let (sights, last) := runAll reply operations (pool, calls)
    (pool.sight result calls :: sights, last)

/-- The first operation of a run. -/
theorem runAll_cons {reply : Replies κ ω ε} {pool last : Pool κ ω ε}
    {calls calls' : List (Request κ ω)} {operation : Operation κ ω} {result : Result ω ε}
    (runs : pool.run reply.factory operation calls = (result, last, calls'))
    (operations : List (Operation κ ω)) :
    runAll reply (operation :: operations) (pool, calls) =
      (last.sight result calls' :: (runAll reply operations (last, calls')).1,
        (runAll reply operations (last, calls')).2) := by
  rw [runAll, runs]

/-- Runs operations one after another on a new pool, whose store goes through its keys in a given
order. -/
def runNew (config : Config) (walk : Walk κ) (reply : Replies κ ω ε)
    (operations : List (Operation κ ω)) :
    List (Sight κ ω ε) × Pool κ ω ε × List (Request κ ω) :=
  runAll reply operations (.empty config walk, [])

end Pool

namespace PlainPool

/-- What is seen of a plain pool. -/
def sight (plain : PlainPool κ ω) (result : Result ω ε) : Sight κ ω ε :=
  ⟨result, plain.calls, fun key => (plain.holdings key).active,
    fun key => (plain.holdings key).idle.length, plain.isClosed, plain.tally⟩

/-- **What a plain pool shows in a run.** Clearing and closing empty the keys that have anything
idle, in any order. -/
inductive Shows (config : Config) (reply : Replies κ ω ε) :
    PlainPool κ ω → List (Operation κ ω) → List (Sight κ ω ε) → Prop where
  | nil (plain : PlainPool κ ω) : Shows config reply plain [] []
  | cons {plain next : PlainPool κ ω} {operation : Operation κ ω} {result : Result ω ε}
      {operations : List (Operation κ ω)} {sights : List (Sight κ ω ε)} {order : List κ}
      (lists : Lists plain.holdings order)
      (runs : outcome (run config reply order operation) plain = (result, next))
      (rest : Shows config reply next operations sights) :
      Shows config reply plain (operation :: operations) (next.sight result :: sights)

section agreement

variable {config : Config} {reply : Replies κ ω ε} {pool : Pool κ ω ε} {plain : PlainPool κ ω}

/-- A new pool agrees with a plain pool in which there is nothing. -/
theorem agrees_empty (config : Config) (walk : Walk κ) :
    Agrees config (.empty config walk : Pool κ ω ε) ({} : PlainPool κ ω) where
  config_eq := rfl
  mirrors := Store.mirrors_empty config walk
  tally_eq := rfl

/-- Pools that agree show the same. -/
theorem Agrees.sight_eq (agrees : Agrees config pool plain) (result : Result ω ε) :
    pool.sight result plain.calls = plain.sight result := by
  have hactive : pool.numActive = fun key => (plain.holdings key).active :=
    funext agrees.mirrors.numActive_eq
  have hidle : pool.numIdle = fun key => (plain.holdings key).idle.length :=
    funext agrees.mirrors.numIdle_eq
  have hclosed : pool.isClosed = plain.isClosed := agrees.mirrors.isSealed_eq
  unfold Pool.sight sight
  rw [hactive, hidle, hclosed, agrees.tally_eq]

/-- **Pools that agree do so after every operation**, which has the same result on both and makes
the same calls. -/
theorem Agrees.run (reply : Replies κ ω ε) (agrees : Agrees config pool plain)
    (operation : Operation κ ω) :
    ∃ order result next last, Lists plain.holdings order ∧
      outcome (PlainPool.run config reply order operation) plain = (result, next) ∧
      pool.run reply.factory operation plain.calls = (result, last, next.calls) ∧
      Agrees config last next := by
  obtain ⟨order, hlists, hfollows⟩ : ∃ order, Lists plain.holdings order ∧
      Follows config reply pool.store plain.holdings plain.isClosed
        (fun pool => pool.start operation) (PlainPool.run config reply order operation) :=
    follows_run agrees.mirrors operation
  obtain ⟨last, hcomplete, hagrees⟩ :=
    hfollows pool plain ⟨agrees.config_eq, rfl, agrees.tally_eq, rfl, rfl⟩
  exact ⟨order, _, _, last, hlists, rfl, hcomplete, hagrees⟩

/-- A run from pools that agree. -/
theorem Agrees.shows (agrees : Agrees config pool plain) (operations : List (Operation κ ω)) :
    Shows config reply plain operations (Pool.runAll reply operations (pool, plain.calls)).1 := by
  induction operations generalizing pool plain with
  | nil => exact .nil plain
  | cons operation operations ih =>
    obtain ⟨order, result, next, last, hlists, hplain, hpool, hagrees⟩ :=
      agrees.run reply operation
    rw [Pool.runAll_cons hpool, hagrees.sight_eq]
    exact .cons hlists hplain (ih hagrees)

/-- **Slots are not seen.** In every run a pool shows what the plain pool shows: the same results,
the same calls, the same counts under every key, the same counters, and it is closed at the same
time. The factory may fail and panic, and the operations are arbitrary: what is handed back need not
have been lent, or not under that key, or may come back twice. The pool may go through its keys in
any order. -/
theorem slots_unseen (config : Config) (walk : Walk κ) (reply : Replies κ ω ε)
    (operations : List (Operation κ ω)) :
    Shows config reply {} operations (Pool.runNew config walk reply operations).1 :=
  (agrees_empty config walk).shows operations

end agreement

end PlainPool

end ResourcePool
