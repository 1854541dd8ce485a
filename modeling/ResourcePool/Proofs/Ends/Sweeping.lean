import ResourcePool.Proofs.Ends.Basic
import ResourcePool.Proofs.Store.Draining

/-!
# Clearing in any order

All keys are cleared by emptying their slots, in whatever order the slots come up, and then
destroying what was in them one after another. If what comes of a destroy depends on the key and the
resource alone, then the order makes no difference in the end, neither to the store nor to the
counters, and clearing the keys one by one comes to the same.

* `Replies.Judges` — what comes of a destroy depends on the key and the resource alone.
* `Tally.swept`, `Tally.swept_eq` — what is counted of some destroys, which is the same for the same
  resources under each key.
* `Pool.Sweeps` — what some destroys leave.
* `Pool.clearBy` — clearing with the slots in a given order; `Pool.sweeps_clearBy` — what it does.
* `Pool.sweeps_clearKeys`, `Pool.sweeps_allKeys` — what clearing key by key does.
-/

set_option linter.unusedSectionVars false

namespace ResourcePool

variable {κ ω ε : Type} [DecidableEq κ]

/-- **The answer to a destroy** depends on the key and the resource alone. -/
def Replies.Judges (reply : Replies κ ω ε) (verdict : κ → ω → Answer ω ε) : Prop :=
  ∀ calls key object, reply calls (.destroy key object) = verdict key object

/-! ## Entries in any order -/

/-- Entries in two orders that agree under each key. -/
theorem perm_of_listedUnder {α : Type} {entries others : List (κ × α)}
    (same : ∀ key, listedUnder key entries = listedUnder key others) : entries.Perm others := by
  classical
  have hcount : ∀ (list : List (κ × α)) (entry : κ × α),
      list.count entry = (listedUnder entry.1 list).count entry.2 := by
    intro list entry
    unfold listedUnder List.count
    rw [List.countP_map, List.countP_filter]
    apply List.countP_congr
    intro other _
    simp [Prod.ext_iff, and_comm]
  rw [List.perm_iff_count]
  intro entry
  rw [hcount, hcount, same]

/-! ## Counters -/

namespace Tally

/-- Events can be counted in any order. -/
theorem bump_comm (tally : Tally) (first second : Counter) :
    (tally.bump first).bump second = (tally.bump second).bump first := by
  cases first <;> cases second <;> rfl

/-- And so can destroys. -/
theorem disposed_comm (tally : Tally) (first second : Answer ω ε) :
    (tally.disposed first).disposed second = (tally.disposed second).disposed first := by
  cases first <;> cases second <;> simp only [disposed, bump_comm _ .destroyFailures .destroyed]

/-- What is counted of some destroys, one after another. -/
def swept (verdict : κ → ω → Answer ω ε) (tally : Tally) (entries : List (κ × ω)) : Tally :=
  entries.foldl (fun tally entry => tally.disposed (verdict entry.1 entry.2)) tally

variable (verdict : κ → ω → Answer ω ε) (tally : Tally)

/-- Some destroys and then others are counted one after another. -/
theorem swept_append (entries others : List (κ × ω)) :
    tally.swept verdict (entries ++ others) = (tally.swept verdict entries).swept verdict others :=
  List.foldl_append

/-- **The same resources under each key** are counted alike. -/
theorem swept_eq {entries others : List (κ × ω)}
    (same : ∀ key, listedUnder key entries = listedUnder key others) :
    tally.swept verdict entries = tally.swept verdict others :=
  (perm_of_listedUnder same).foldl_eq' (fun _ _ _ _ _ => disposed_comm _ _ _) tally

end Tally

/-! ## Sweeps -/

namespace Pool

/-- The calls that destroy some resources one after another, the latest first. -/
def destroys (entries : List (κ × ω)) : List (Request κ ω) :=
  (entries.map fun entry => .destroy entry.1 entry.2).reverse

/-- The later calls come before the earlier ones. -/
theorem destroys_append (entries others : List (κ × ω)) :
    destroys (entries ++ others) = destroys others ++ destroys entries := by
  simp [destroys]

/-- **What some destroys leave**: the calls are made after those before, and they are counted. -/
structure Sweeps (verdict : κ → ω → Answer ω ε) (drained : List (κ × ω)) (pool : Pool κ ω ε)
    (calls : List (Request κ ω)) (last : Pool κ ω ε) (calls' : List (Request κ ω)) : Prop where
  config_eq : last.config = pool.config
  tally_eq : last.tally = pool.tally.swept verdict drained
  calls_eq : calls' = destroys drained ++ calls

section sweeps

variable {reply : Replies κ ω ε} {verdict : κ → ω → Answer ω ε}

/-- No destroys leave everything as it is. -/
theorem Sweeps.refl (pool : Pool κ ω ε) (calls : List (Request κ ω)) :
    Sweeps verdict [] pool calls pool calls := ⟨rfl, rfl, rfl⟩

/-- Some destroys and then others. -/
theorem Sweeps.trans {drained others : List (κ × ω)} {pool next last : Pool κ ω ε}
    {calls calls' calls'' : List (Request κ ω)}
    (first : Sweeps verdict drained pool calls next calls')
    (second : Sweeps verdict others next calls' last calls'') :
    Sweeps verdict (drained ++ others) pool calls last calls'' where
  config_eq := second.config_eq.trans first.config_eq
  tally_eq := by rw [second.tally_eq, first.tally_eq, Tally.swept_append]
  calls_eq := by rw [second.calls_eq, first.calls_eq, destroys_append, List.append_assoc]

/-- Destroys of the same resources under each key are counted alike. -/
theorem Sweeps.tally_congr {drained others : List (κ × ω)} {pool next last : Pool κ ω ε}
    {calls calls' calls'' : List (Request κ ω)}
    (first : Sweeps verdict drained pool calls next calls')
    (second : Sweeps verdict others pool calls last calls'')
    (same : ∀ key, listedUnder key drained = listedUnder key others) : next.tally = last.tally := by
  rw [first.tally_eq, second.tally_eq, Tally.swept_eq verdict _ same]

/-- **Destroying one after another**, by induction on what is still to come. -/
theorem sweeps_sweep (calm : reply.Calm) (judges : reply.Judges verdict) (drained : List (κ × ω))
    (pool : Pool κ ω ε) (result : Result ω ε) (calls : List (Request κ ω)) :
    ∃ last calls',
      complete reply.factory (pool.sweep drained result) calls = (result, last, calls') ∧
      last.store = pool.store ∧ Sweeps verdict drained pool calls last calls' := by
  induction drained generalizing pool calls with
  | nil => exact ⟨pool, calls, complete_finish _ _ _ _, rfl, .refl pool calls⟩
  | cons entry drained ih =>
    obtain ⟨key, object⟩ := entry
    obtain ⟨next, hnoted, htally, hgoes⟩ := pool.complete_disposed reply calls key object
      (.sweep drained result) (calm _ _)
    obtain ⟨last, calls', hends, hstore, hsweeps⟩ := ih next (.destroy key object :: calls)
    have hfirst :
        Sweeps verdict [(key, object)] pool calls next (.destroy key object :: calls) := by
      refine ⟨hnoted.config_eq, ?_, rfl⟩
      rw [htally, judges]
      rfl
    exact ⟨last, calls', hgoes.trans hends, hstore.trans hnoted.store_eq, hfirst.trans hsweeps⟩

end sweeps

/-! ## Clearing -/

/-- **Clearing all keys, with their slots in a given order.** -/
def clearBy (pool : Pool κ ω ε) (order : List (κ × SlotId)) (result : Result ω ε) : Turn κ ω ε :=
  match pool.store.drainLinks order with
  | ([], store) => { pool with store := store }.finish result
  | (objects, store) =>
    ({ pool with store := store }.note (.clearing objects.length)).sweep objects result

/-- A pool takes the slots in the order in which its store goes through them. -/
theorem clear_eq_clearBy (pool : Pool κ ω ε) (result : Result ω ε) :
    pool.clear result = pool.clearBy pool.store.walked result := rfl

/-- Clearing empties the slots, and then destroys what was in them. -/
theorem clearBy_eq (pool : Pool κ ω ε) (order : List (κ × SlotId)) (result : Result ω ε) :
    ∃ notes, pool.clearBy order result =
      ({ pool with store := (pool.store.drainLinks order).2, notes := notes } : Pool κ ω ε).sweep
        (pool.store.drainLinks order).1 result := by
  unfold clearBy
  generalize pool.store.drainLinks order = drained
  obtain ⟨objects, store⟩ := drained
  cases objects with
  | nil => exact ⟨_, rfl⟩
  | cons object rest => exact ⟨_, rfl⟩

section clears

variable {reply : Replies κ ω ε} {verdict : κ → ω → Answer ω ε} (calm : reply.Calm)
  (judges : reply.Judges verdict) {pool : Pool κ ω ε} (sound : pool.store.Sound)
include calm judges sound

/-- **Clearing all keys in any order** destroys what is idle under each of them, what came in first
before the rest, and leaves what emptying the keys one by one leaves. -/
theorem sweeps_clearBy {order : List (κ × SlotId)} (perm : order.Perm pool.store.links)
    (result : Result ω ε) (calls : List (Request κ ω)) :
    ∃ drained last calls',
      complete reply.factory (pool.clearBy order result) calls = (result, last, calls') ∧
      Sweeps verdict drained pool calls last calls' ∧
      (∀ key, listedUnder key drained = (pool.store.live key).idle.reverse) ∧
      ∀ keys, (∀ key, pool.store.find? key ≠ none → key ∈ keys) →
        last.store = pool.store.drains keys := by
  have hnodup : (order.map Prod.fst).Nodup := (perm.map Prod.fst).nodup_iff.mpr sound.keys_nodup
  have hlinked : ∀ link ∈ order, pool.store.find? link.1 = some link.2 := fun link hlink =>
    sound.find?_of_mem (perm.mem_iff.mp hlink)
  obtain ⟨notes, hclear⟩ := pool.clearBy_eq order result
  obtain ⟨last, calls', hends, hstore, hsweeps⟩ := sweeps_sweep calm judges
    (pool.store.drainLinks order).1
    { pool with store := (pool.store.drainLinks order).2, notes := notes } result calls
  rw [← hclear] at hends
  refine ⟨_, last, calls', hends, ⟨hsweeps.config_eq, hsweeps.tally_eq, hsweeps.calls_eq⟩, ?_, ?_⟩
  · intro key
    rw [(Store.drainLinks_spec sound order hnodup hlinked).1]
    unfold listedUnder
    rw [Store.filter_heldUnder order hnodup]
    by_cases hkey : key ∈ order.map Prod.fst
    · simp [hkey]
    · have hunlinked : key ∉ pool.store.links.map Prod.fst := fun h =>
        hkey ((perm.map Prod.fst).mem_iff.mpr h)
      rw [if_neg hkey, Store.live_of_not_mem_links hunlinked]
      rfl
  · intro keys hall
    exact hstore.trans (Store.drainLinks_perm sound perm hall)

/-- Clearing a key. -/
theorem sweeps_clearKey (key : κ) (calls : List (Request κ ω)) :
    ∃ last calls', pool.run reply.factory (.clearKey key) calls = (.done, last, calls') ∧
      last.store = (pool.store.drain key).2 ∧
      Sweeps verdict ((pool.store.live key).idle.reverse.map fun object => (key, object)) pool calls
        last calls' := by
  obtain ⟨notes, hclear⟩ := pool.clearKey_eq key
  obtain ⟨last, calls', hends, hstore, hsweeps⟩ := sweeps_sweep calm judges
    ((pool.store.drain key).1.map fun object => (key, object))
    { pool with store := (pool.store.drain key).2, notes := notes } .done calls
  rw [← hclear] at hends
  rw [Store.drain_eq] at hsweeps
  exact ⟨last, calls', hends, hstore, hsweeps.config_eq, hsweeps.tally_eq, hsweeps.calls_eq⟩

/-- **Clearing some keys one after another**, by induction on the keys. -/
theorem sweeps_clearKeys (keys : List κ) (calls : List (Request κ ω)) :
    ∃ sights drained last calls',
      runAll reply (keys.map Operation.clearKey) (pool, calls) = (sights, last, calls') ∧
      (∀ sight ∈ sights, sight.result = .done) ∧ Sweeps verdict drained pool calls last calls' ∧
      (∀ key, listedUnder key drained =
        if key ∈ keys then (pool.store.live key).idle.reverse else []) ∧
      last.store = pool.store.drains keys := by
  induction keys generalizing pool calls with
  | nil =>
    exact ⟨[], [], pool, calls, rfl, fun _ h => absurd h List.not_mem_nil, .refl pool calls,
      fun _ => rfl, rfl⟩
  | cons key keys ih =>
    obtain ⟨next, between, hruns, hstore, hfirst⟩ := sweeps_clearKey calm judges sound key calls
    have hbecomes := Store.becomes_drain sound key
    rw [← hstore] at hbecomes
    obtain ⟨sights, drained, last, calls', hrest, hdone, hsweeps, hlisted, hlast⟩ :=
      ih hbecomes.sound between
    refine ⟨next.sight .done between :: sights, _, last, calls', ?_, ?_, hfirst.trans hsweeps, ?_,
      ?_⟩
    · rw [List.map_cons, runAll_cons hruns, hrest]
    · intro sight hsight
      rcases List.mem_cons.mp hsight with rfl | hlater
      · rfl
      · exact hdone sight hlater
    · intro other
      rw [listedUnder_append, PlainPool.listedUnder_tagged, hlisted, hbecomes.live_eq]
      by_cases hkey : key = other
      · subst hkey
        rw [if_pos rfl, if_pos List.mem_cons_self, Function.update_self]
        simp [Slot.emptied]
      · rw [if_neg hkey, Function.update_of_ne (Ne.symm hkey), List.nil_append]
        simp only [List.mem_cons, Ne.symm hkey, false_or]
    · rw [hlast, hstore]
      rfl

/-- When all keys in use are among them, all that is idle is destroyed. -/
theorem sweeps_allKeys {keys : List κ} (all : ∀ key, pool.store.find? key ≠ none → key ∈ keys)
    (calls : List (Request κ ω)) :
    ∃ sights drained last calls',
      runAll reply (keys.map Operation.clearKey) (pool, calls) = (sights, last, calls') ∧
      (∀ sight ∈ sights, sight.result = .done) ∧ Sweeps verdict drained pool calls last calls' ∧
      (∀ key, listedUnder key drained = (pool.store.live key).idle.reverse) ∧
      last.store = pool.store.drains keys := by
  obtain ⟨sights, drained, last, calls', hruns, hdone, hsweeps, hlisted, hstore⟩ :=
    sweeps_clearKeys calm judges sound keys calls
  refine ⟨sights, drained, last, calls', hruns, hdone, hsweeps, fun key => ?_, hstore⟩
  rw [hlisted]
  by_cases hkey : key ∈ keys
  · rw [if_pos hkey]
  · have hunlinked := not_not.mp (mt (all key) hkey)
    rw [if_neg hkey, Store.live_of_find?_none hunlinked]
    rfl

end clears

end Pool

end ResourcePool
