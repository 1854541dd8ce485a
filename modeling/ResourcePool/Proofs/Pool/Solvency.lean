import Mathlib.Algebra.BigOperators.Group.Finset.Basic
import Mathlib.Algebra.GroupWithZero.Nat
import Mathlib.Algebra.Order.BigOperators.Group.Finset
import ResourcePool.Proofs.Pool.Deeds

/-!
# Solvency

A pool never lends more than it has. What it counts as borrowed and not yet returned covers the
loans that it keeps, and what it counts as created covers that together with the idle resources and
those in the hands of operations. Nothing is asked of the clients for this: a resource that was
never lent can be handed in, and one that was lent can be handed in twice.

* `Store.total` — what all keys hold together; `totalActive_eq`, `totalIdle_eq` read it off the
  links.
* `Turn.Does.loans_le`, `Turn.Does.stock_le` — what a deed makes of the totals.
* `Pool.Solvent` — the counters cover what they should; `Solvent.start`, `Solvent.resume` and
  `Solvent.close` are the turns.
-/

set_option linter.unusedSectionVars false

namespace ResourcePool

variable {κ ω ε : Type} [DecidableEq κ]

/-! ## Totals -/

namespace Store

/-- The sum of a measure over what some keys hold. -/
def total (store : Store κ ω) (measure : Holding ω → Nat) (keys : Finset κ) : Nat :=
  ∑ key ∈ keys, measure (store.holding key)

section totals

variable {store : Store κ ω}

/-- Adding up one after another is a sum. -/
theorem foldl_add {α : Type} (measure : α → Nat) (entries : List α) (start : Nat) :
    entries.foldl (fun total entry => total + measure entry) start =
      start + (entries.map measure).sum := by
  induction entries generalizing start with
  | nil => rfl
  | cons entry rest ih =>
    rw [List.foldl_cons, ih, List.map_cons, List.sum_cons, Nat.add_assoc]

/-- A sum over the slots that are linked is the sum over any keys that include those linked. -/
theorem sum_links (sound : store.Sound) {measure : Holding ω → Nat}
    (vacant : measure (Slot.holding {}) = 0) {keys : Finset κ} (all : store.keys ⊆ keys) :
    (store.links.map fun link => measure (store.slot link.2).holding).sum =
      store.total measure keys :=
  sum_slots sound (fun slot => measure slot.holding) vacant all

/-- The loans of a store, summed over any keys that include those in use. -/
theorem totalActive_eq (sound : store.Sound) {keys : Finset κ} (all : store.keys ⊆ keys) :
    store.totalActive = store.total Holding.active keys := by
  have hvacant : Holding.active (Slot.holding ({} : Slot ω)) = 0 := rfl
  rw [totalActive, foldl_add, Nat.zero_add]
  exact sum_links sound hvacant all

/-- Its idle resources, summed in the same way. -/
theorem totalIdle_eq (sound : store.Sound) {keys : Finset κ} (all : store.keys ⊆ keys) :
    store.totalIdle = store.total (fun holding => holding.idle.length) keys := by
  let measure : Holding ω → Nat := fun holding => holding.idle.length
  have hvacant : measure (Slot.holding {}) = 0 := rfl
  rw [totalIdle, foldl_add, Nat.zero_add]
  exact sum_links sound hvacant all

/-- No key has more than all keys together. -/
theorem numActive_le_totalActive (sound : store.Sound) (key : κ) :
    store.numActive key ≤ store.totalActive := by
  rw [totalActive_eq sound (Finset.subset_insert key _), numActive_eq]
  exact Finset.single_le_sum (f := fun key => (store.holding key).active)
    (fun _ _ => Nat.zero_le _) (Finset.mem_insert_self key _)

/-- No key has more idle resources than all keys together. -/
theorem numIdle_le_totalIdle (sound : store.Sound) (key : κ) :
    store.numIdle key ≤ store.totalIdle := by
  rw [totalIdle_eq sound (Finset.subset_insert key _), numIdle_eq]
  exact Finset.single_le_sum (f := fun key => (store.holding key).idle.length)
    (fun _ _ => Nat.zero_le _) (Finset.mem_insert_self key _)

end totals

end Store

/-! ## What a deed makes of the totals -/

namespace Deed

/-- How many resources a deed takes out for the operation. -/
def taken : Deed κ ω → Nat
  | take .. => 1
  | _ => 0

/-- How many resources a deed keeps. -/
def kept (deed : Deed κ ω) : Nat := if deed.keeps = true then 1 else 0

/-- Where a deed is about one key, a bound on what it makes of that key bounds what it makes of
all. -/
theorem total_le {store next : Store κ ω} {measure : Holding ω → Nat} {deed : Deed κ ω}
    (holding_eq : ∀ key, next.holding key = deed.on store.selection key (store.holding key))
    {less more : Nat}
    (one : ∀ key, deed.key? = some key →
      measure (deed.change store.selection (store.holding key)) + less ≤
        measure (store.holding key) + more)
    (all : deed.key? = none → less = 0 ∧
      ∀ holding, measure (deed.change store.selection holding) ≤ measure holding)
    {keys : Finset κ} (about : ∀ key, deed.key? = some key → key ∈ keys) :
    next.total measure keys + less ≤ store.total measure keys + more := by
  unfold Store.total
  cases hkey : deed.key? with
  | none =>
    obtain ⟨rfl, hall⟩ := all hkey
    have hsum : ∑ key ∈ keys, measure (next.holding key) ≤
        ∑ key ∈ keys, measure (store.holding key) := by
      apply Finset.sum_le_sum
      intro key _
      rw [holding_eq, on, if_pos (.inl hkey)]
      exact hall _
    omega
  | some key =>
    have hmem := about key hkey
    have hrest : ∑ other ∈ keys.erase key, measure (next.holding other) =
        ∑ other ∈ keys.erase key, measure (store.holding other) := by
      apply Finset.sum_congr rfl
      intro other hother
      rw [holding_eq, on_of_ne _ (Finset.ne_of_mem_erase hother) hkey]
    have hone := one key hkey
    rw [← on_self _ hkey, ← holding_eq] at hone
    have hnext := Finset.add_sum_erase keys (fun key => measure (next.holding key)) hmem
    have hstore := Finset.add_sum_erase keys (fun key => measure (store.holding key)) hmem
    omega

end Deed

namespace Pool

section deeds

variable {pool : Pool κ ω ε} {hand : Hand κ ω} {turn : Turn κ ω ε} {deed : Deed κ ω}

/-- Some keys that include all that a deed has to do with. -/
theorem exists_keys (deed : Deed κ ω) (store next : Store κ ω) :
    ∃ keys : Finset κ, store.keys ⊆ keys ∧ next.keys ⊆ keys ∧
      ∀ key, deed.key? = some key → key ∈ keys := by
  refine ⟨deed.key?.toFinset ∪ (store.keys ∪ next.keys), ?_, ?_, ?_⟩
  · exact Finset.subset_union_left.trans Finset.subset_union_right
  · exact Finset.subset_union_right.trans Finset.subset_union_right
  · intro key hkey
    exact Finset.mem_union_left _ (Option.mem_toFinset.mpr hkey)

/-- **The loans of all keys**: a deed begins a loan only if it counts it, and counts the end of a
loan only if it ends one. -/
theorem Turn.Does.loans_le (does : Turn.Does pool hand turn deed) (sound : pool.store.Sound)
    (sound' : turn.1.store.Sound) :
    turn.1.store.totalActive + deed.tells .returned ≤
      pool.store.totalActive + deed.tells .borrowed := by
  obtain ⟨keys, hbefore, hafter, habout⟩ := exists_keys deed pool.store turn.1.store
  rw [Store.totalActive_eq sound hbefore, Store.totalActive_eq sound' hafter]
  apply Deed.total_le does.holding_eq ?_ ?_ habout
  · intro key hkey
    have hfits := does.fits
    cases deed with
    | putBack place object =>
      cases hkey
      have hloaned : 0 < (pool.store.holding key).active := hfits.1
      simp only [Deed.change, Deed.tells]
      omega
    | _ => simp [Deed.change, Deed.tells, Holding.emptied]
  · intro hkey
    cases deed <;> first | exact ⟨rfl, fun _ => Nat.le_refl _⟩ | cases hkey

/-- **The idle resources of all keys**: a deed that takes one leaves one fewer, and only a deed that
keeps one adds one. -/
theorem Turn.Does.stock_le (does : Turn.Does pool hand turn deed) (sound : pool.store.Sound)
    (sound' : turn.1.store.Sound) :
    turn.1.store.totalIdle + deed.taken ≤ pool.store.totalIdle + deed.kept := by
  obtain ⟨keys, hbefore, hafter, habout⟩ := exists_keys deed pool.store turn.1.store
  rw [Store.totalIdle_eq sound hbefore, Store.totalIdle_eq sound' hafter]
  apply Deed.total_le does.holding_eq ?_ ?_ habout
  · intro key hkey
    have hfits := does.fits
    cases deed with
    | take place object =>
      cases hkey
      have hlength := Selection.length_others hfits
      exact Nat.le_of_eq hlength
    | _ => simp [Deed.change, Deed.taken, Deed.kept, Deed.keeps, Holding.emptied]
  · intro hkey
    cases deed <;> simp_all [Deed.key?, Deed.change, Deed.taken, Holding.emptied]

/-- **What an operation has in hand** is in hand still, or was lent or kept and counted so. -/
theorem Turn.Does.hand_le (does : Turn.Does pool hand turn deed) :
    turn.2.hand.size + deed.tells .borrowed + deed.kept ≤
      hand.size + deed.taken + deed.tells .returned := by
  have hsize : turn.2.hand.size ≤ hand.size + deed.taken ∧
      (deed ≠ .nothing → deed.taken = 0 → turn.2.hand.size = 0) := by
    rcases does.hand_cases with hfree | ⟨hsame, rfl⟩ | ⟨key, object, htaken, rfl⟩
    · rw [hfree]
      exact ⟨Nat.zero_le _, fun _ _ => rfl⟩
    · rw [hsame]
      exact ⟨Nat.le_refl _, fun h => absurd rfl h⟩
    · rw [htaken]
      exact ⟨Nat.le_add_left _ _, nofun⟩
  obtain ⟨hle, hzero⟩ := hsize
  have hfits := does.fits
  cases deed with
  | lend key =>
    obtain ⟨object, rfl⟩ := hfits
    rw [hzero nofun rfl]
    exact Nat.le_refl _
  | stow key object =>
    cases hfits
    rw [hzero nofun rfl]
    exact Nat.le_refl _
  | putBack key object =>
    rw [hzero nofun rfl]
    exact Nat.le_add_left _ _
  | _ => exact hle

end deeds

/-! ## Solvent pools -/

/-- **The counters cover what they should**, with so many resources in the hands of operations, so
many destroys in progress and so many faults that are still to lead to one. The loans are borrowed
and not returned; those, the idle resources and the ones in hand were created; and every destroy
that failed and every resource that failed a step was given to the factory to destroy. -/
structure Solvent (pool : Pool κ ω ε) (held destroys faults : Nat) : Prop where
  loans : pool.store.totalActive + pool.tally.get .returned ≤ pool.tally.get .borrowed
  stock : pool.tally.get .borrowed + pool.store.totalIdle + held ≤
    pool.tally.get .created + pool.tally.get .returned
  failures : pool.tally.get .destroyFailures + destroys ≤ pool.tally.get .destroyed
  covered : pool.tally.get .activationFailures + pool.tally.get .validationFailures +
    pool.tally.get .passivationFailures ≤ pool.tally.get .destroyed + faults

section solvency

variable {pool : Pool κ ω ε} {held destroys faults : Nat}

/-- **A turn keeps a pool solvent**, if a fault that has just been counted leads to a destroy. -/
theorem Solvent.turn {hand : Hand κ ω}
    (solvent : Solvent pool (hand.size + held) destroys faults) {turn : Turn κ ω ε}
    {deed : Deed κ ω} (does : Turn.Does pool hand turn deed) (sound : pool.store.Sound)
    (sound' : turn.1.store.Sound) (leads : faults ≤ turn.2.tells .destroyed) :
    Solvent turn.1 (turn.2.hand.size + held) (turn.2.tells .destroyed + destroys) 0 := by
  have hactive := does.loans_le sound sound'
  have hidle := does.stock_le sound sound'
  have hhand := does.hand_le
  obtain ⟨hloans, hstock, hfailures, hcovered⟩ := solvent
  refine ⟨?_, ?_, ?_, ?_⟩
  · rw [does.get_borrowed, does.get_returned]
    omega
  · rw [does.get_borrowed, does.get_returned, does.get_other (by simp)]
    omega
  · rw [does.get_destroyed, does.get_other (by simp)]
    omega
  · rw [does.get_destroyed, does.get_other (by simp), does.get_other (by simp),
      does.get_other (by simp)]
    omega

/-- An operation gets something into its hands only by a creation. -/
theorem size_handAfter_le (stage : Stage κ ω ε) (answer : Answer ω ε) :
    (stage.handAfter answer).size ≤
      stage.hand.size + (if stage.event? answer = some .created then 1 else 0) := by
  cases stage <;> cases answer <;> simp [Stage.handAfter, Stage.hand, Stage.event?, Hand.size]

/-- Only a destroy can fail as one. -/
theorem tells_of_failure {stage : Stage κ ω ε} {answer : Answer ω ε}
    (h : stage.event? answer = some .destroyFailures) :
    (Progress.waiting stage).tells .destroyed = 1 := by
  cases stage <;> cases answer <;> first | rfl | cases h

/-- **A resource that fails a step is destroyed next.** -/
theorem tells_of_fault (pool : Pool κ ω ε) {stage : Stage κ ω ε} {answer : Answer ω ε}
    {fault : Counter} (h : stage.event? answer = some fault)
    (faults : fault = .activationFailures ∨ fault = .validationFailures ∨
      fault = .passivationFailures) :
    (pool.resume stage answer).2.tells .destroyed = 1 := by
  cases stage <;> cases answer <;> cases h <;> first | rfl | simp at faults

/-- The events that an answer can be. -/
theorem event?_ne (stage : Stage κ ω ε) (answer : Answer ω ε) {event : Counter}
    (other : event = .borrowed ∨ event = .returned ∨ event = .destroyed) :
    stage.event? answer ≠ some event := by
  rcases other with rfl | rfl | rfl <;> cases stage <;> cases answer <;> exact nofun

/-- Once an answer has been heard, what is in hand is covered, and a destroy that failed is not in
progress any more. -/
theorem Solvent.hear {stage : Stage κ ω ε}
    (solvent : Solvent pool (stage.hand.size + held)
      ((Progress.waiting stage).tells .destroyed + destroys) 0) (answer : Answer ω ε) :
    Solvent (pool.hear stage answer) ((stage.handAfter answer).size + held) destroys
      ((pool.resume stage answer).2.tells .destroyed) := by
  obtain ⟨hloans, hstock, hfailures, hcovered⟩ := solvent
  have hhand := size_handAfter_le stage answer
  have hsilent : ∀ event, event = .borrowed ∨ event = .returned ∨ event = .destroyed →
      (pool.hear stage answer).tally.get event = pool.tally.get event := by
    intro event hother
    rw [get_hear, if_neg (event?_ne stage answer hother), Nat.add_zero]
  refine ⟨?_, ?_, ?_, ?_⟩
  · rw [hsilent .borrowed (by simp), hsilent .returned (by simp)]
    exact hloans
  · rw [hsilent .borrowed (by simp), hsilent .returned (by simp), get_hear, store_hear]
    omega
  · rw [hsilent .destroyed (by simp), get_hear]
    by_cases hevent : stage.event? answer = some .destroyFailures
    · rw [tells_of_failure hevent] at hfailures
      rw [if_pos hevent]
      omega
    · rw [if_neg hevent]
      omega
  · rw [hsilent .destroyed (by simp), get_hear, get_hear, get_hear]
    cases hevent : stage.event? answer with
    | none =>
      simp only [reduceCtorEq, if_false]
      omega
    | some event =>
      have hleads := tells_of_fault pool hevent
      cases event <;> simp at hleads ⊢ <;> omega

end solvency

end Pool

end ResourcePool
