import ResourcePool.Proofs.Pool.Solvency
import ResourcePool.Proofs.Session.History
import ResourcePool.Proofs.Session.Turns

/-!
# Counters

What the counters of a pool say about its loans and its idle resources, at every point of a session
that a factory step can look at it from, and whatever the clients hand in.

* `heldBy`, `destroysBy` — what the operations in progress have in hand and are destroying.
* `reachable_solvent` — the pool of every reachable session is solvent.
* `counters_in_order` — the loans are no more than what is borrowed and not returned, and that is no
  more than what was created and is not idle.
-/

set_option linter.unusedSectionVars false

namespace ResourcePool

variable {κ ω ε : Type} [DecidableEq κ]

/-! ## Sums over operations -/

/-- How many resources of the pool are in the hands of operations. -/
def heldBy (stages : List (Stage κ ω ε)) : Nat := (stages.map fun stage => stage.hand.size).sum

/-- How many operations wait for a destroy. -/
def destroysBy (stages : List (Stage κ ω ε)) : Nat :=
  (stages.map fun stage => (Progress.waiting stage).tells .destroyed).sum

section sums

variable (progress : Progress κ ω ε) (rest : List (Stage κ ω ε))

/-- A turn adds what it has in hand. -/
theorem heldBy_append : heldBy (progress.stages ++ rest) = progress.hand.size + heldBy rest := by
  cases progress with
  | waiting stage => rfl
  | finished result => exact (Nat.zero_add _).symm

/-- It adds the destroy that it waits for. -/
theorem destroysBy_append :
    destroysBy (progress.stages ++ rest) = progress.tells .destroyed + destroysBy rest := by
  cases progress with
  | waiting stage => rfl
  | finished result => exact (Nat.zero_add _).symm

end sums

/-! ## Turns -/

namespace Pool

variable {pool : Pool κ ω ε} {held destroys : Nat}

/-- Closing keeps a pool solvent. -/
theorem Solvent.close (solvent : Solvent pool held destroys 0) (sound : pool.store.Sound)
    (result : Result ω ε) :
    Solvent (pool.close result).1 ((pool.close result).2.hand.size + held)
      ((pool.close result).2.tells .destroyed + destroys) 0 := by
  cases hclosed : pool.isClosed with
  | true =>
    rw [pool.close_of_closed hclosed]
    simpa [finish, Progress.hand, Hand.size, Progress.tells, Progress.destroys] using solvent
  | false =>
    have hdoes := pool.does_close sound .free hclosed result
    have hsound := (pool.steady_close sound result).becomes.sound
    have hshut : Solvent pool.shut ((Hand.free : Hand κ ω).size + held) destroys 0 := by
      rw [Hand.size_free, Nat.zero_add]
      exact ⟨solvent.loans, solvent.stock, solvent.failures, solvent.covered⟩
    exact hshut.turn hdoes (Store.sound_sealUp sound) hsound (Nat.zero_le _)

/-- So does the start of an operation. -/
theorem Solvent.start (solvent : Solvent pool held destroys 0) (sound : pool.store.Sound)
    (operation : Operation κ ω) :
    Solvent (pool.start operation).1 ((pool.start operation).2.hand.size + held)
      ((pool.start operation).2.tells .destroyed + destroys) 0 := by
  by_cases hclose : operation = .close
  · subst hclose
    exact solvent.close sound .done
  · obtain ⟨deed, hdoes⟩ := pool.does_start sound hclose
    have hsound := (pool.steady_start sound operation).becomes.sound
    have hbefore : Solvent pool ((Hand.free : Hand κ ω).size + held) destroys 0 := by
      rw [Hand.size_free, Nat.zero_add]
      exact solvent
    exact hbefore.turn hdoes sound hsound (Nat.zero_le _)

/-- So does an answer to one that waits. -/
theorem Solvent.resume {stage : Stage κ ω ε} {stages : List (Stage κ ω ε)}
    (solvent : Solvent pool (heldBy (stage :: stages)) (destroysBy (stage :: stages)) 0)
    (orderly : Orderly pool (stage :: stages)) (answer : Answer ω ε) :
    Solvent (pool.resume stage answer).1 ((pool.resume stage answer).2.hand.size + heldBy stages)
      ((pool.resume stage answer).2.tells .destroyed + destroysBy stages) 0 := by
  have hmem : stage ∈ stage :: stages := List.mem_cons_self
  have hholds := orderly.holds hmem
  have hstands := orderly.stands stage hmem
  obtain ⟨deed, hdoes⟩ := pool.does_resume orderly.sound stage hholds hstands answer
  have hsound := (pool.steady_resume orderly.sound stage hholds hstands answer).becomes.sound
  have hheard : Solvent (pool.hear stage answer) ((stage.handAfter answer).size + heldBy stages)
      (destroysBy stages) _ := Solvent.hear solvent answer
  exact hheard.turn hdoes orderly.sound hsound (Nat.le_refl _)

end Pool

/-! ## Sessions -/

namespace Session

variable {config : Config} {session : Session κ ω ε}

/-- **The pool of every reachable session is solvent**, with the operations in progress. -/
theorem reachable_solvent (reachable : Reachable config session) :
    Pool.Solvent session.pool (heldBy session.stages) (destroysBy session.stages) 0 := by
  refine holds_of_reachable
    (fun pool stages => pool.Solvent (heldBy stages) (destroysBy stages) 0)
    ?_ ?_ ?_ ?_ ?_ reachable
  · exact fun _ => ⟨Nat.le_refl _, Nat.le_refl _, Nat.le_refl _, Nat.le_refl _⟩
  · intro pool stages operation horderly hsolvent
    rw [heldBy_append, destroysBy_append]
    exact hsolvent.start horderly.sound operation
  · intro pool stage stages answer horderly hsolvent
    rw [heldBy_append, destroysBy_append]
    exact hsolvent.resume horderly answer
  · intro pool stages key error hsolvent
    exact ⟨hsolvent.loans, hsolvent.stock, hsolvent.failures, hsolvent.covered⟩
  · intro pool result horderly hsolvent
    have hclosed := hsolvent.close horderly.sound result
    rw [← heldBy_append, ← destroysBy_append, List.append_nil] at hclosed
    exact hclosed

/-- **The counters are in order**, for any clients and any factory and in the middle of any
operations. What is on loan is no more than what was borrowed and not returned; that is no more than
what was created and is not idle; and whatever failed to be destroyed, activated, validated or
passivated was given to the factory to destroy. No key has more on loan or idle than all keys
together. -/
theorem counters_in_order (reachable : Reachable config session) :
    session.pool.tally.get .returned ≤ session.pool.tally.get .borrowed ∧
    session.pool.store.totalIdle ≤ session.pool.tally.get .created ∧
    session.pool.store.totalActive ≤
      session.pool.tally.get .borrowed - session.pool.tally.get .returned ∧
    session.pool.tally.get .borrowed - session.pool.tally.get .returned ≤
      session.pool.tally.get .created - session.pool.store.totalIdle ∧
    session.pool.store.totalActive + session.pool.store.totalIdle ≤
      session.pool.tally.get .created ∧
    session.pool.tally.get .destroyFailures ≤ session.pool.tally.get .destroyed ∧
    session.pool.tally.get .activationFailures + session.pool.tally.get .validationFailures +
      session.pool.tally.get .passivationFailures ≤ session.pool.tally.get .destroyed ∧
    ∀ key, session.pool.numActive key ≤ session.pool.store.totalActive ∧
      session.pool.numIdle key ≤ session.pool.store.totalIdle := by
  have hsound := (reachable_inOrder reachable).orderly.sound
  obtain ⟨hloans, hstock, hfailures, hcovered⟩ := reachable_solvent reachable
  refine ⟨?_, ?_, ?_, ?_, ?_, ?_, ?_, ?_⟩
  · omega
  · omega
  · omega
  · omega
  · omega
  · omega
  · omega
  · intro key
    exact ⟨Store.numActive_le_totalActive hsound key, Store.numIdle_le_totalIdle hsound key⟩

/-- The events of a short run. The resource 7 is returned under a key that it was not lent under,
then under its own and once more; while that last return destroys it, one that was never lent is
invalidated, and its destroy fails. -/
def mishandling : List (Event Nat Nat String) :=
  [.act (.call (.borrow 0)), .answer (.done 7), .answer (.done 7),
    .act (.call (.giveBack 1 7)), .answer (.done 7),
    .act (.call (.giveBack 0 7)), .answer (.done 7),
    .act (.call (.giveBack 0 7)), .act (.call (.invalidate 0 9)), .answer (.failed "stuck"),
    .act (.call (.borrow 0))]

/-- From inside the second borrow: one resource has been borrowed and returned, and the pool counts
no loan and nothing idle, because that resource is about to be activated again. -/
theorem counters_of_mishandling : ∃ log session,
    replay Config.standard mishandling = some (log, session) ∧ session.running.length = 2 ∧
    session.pool.store.totalActive ≤ 1 - 1 ∧ 1 - 1 ≤ 1 - session.pool.store.totalIdle ∧
    session.pool.tally.get .destroyFailures ≤ 3 := by
  have hfits : ∀ past ∈ replay Config.standard mishandling, past.2.running.length = 2 ∧
      past.2.pool.tally.get .borrowed = 1 ∧ past.2.pool.tally.get .returned = 1 ∧
      past.2.pool.tally.get .created = 1 ∧ past.2.pool.tally.get .destroyed = 3 := by
    decide +kernel
  have hplays : (replay Config.standard mishandling).isSome = true := by
    decide +kernel
  obtain ⟨⟨log, session⟩, hpast⟩ := Option.isSome_iff_exists.mp hplays
  obtain ⟨hrunning, hborrowed, hreturned, hcreated, hdestroyed⟩ := hfits _ hpast
  obtain ⟨-, -, hactive, hcovered, -, hfailures, -, -⟩ :=
    counters_in_order (history_of_replay hpast).reachable
  rw [hborrowed, hreturned] at hactive hcovered
  rw [hcreated] at hcovered
  rw [hdestroyed] at hfailures
  exact ⟨log, session, hpast, hrunning, hactive, hcovered, hfailures⟩

end Session

end ResourcePool
