import ResourcePool.Proofs.Pool.Custody
import ResourcePool.Proofs.Pool.Deeds

/-!
# Loans that are backed

A resource that a client holds, or that is on its way back, is counted as a loan of its key until
the operation that takes it back gives the loan up, whatever the answers of the factory, panics
included. This module follows the loans alone, so nothing is asked of the factory. It also shows how
a loan is given up: before the resource is destroyed, and with nothing else changed.

* `Pool.Turn.Backs` — the loans that somebody answers for are counted after a turn, with
  `backs_start` and `backs_resume`.
* `Pool.Turn.Surrenders` — a turn that gives a loan up and then destroys the resource.
-/

set_option linter.unusedSectionVars false

namespace ResourcePool.Pool

variable {κ ω ε : Type} [DecidableEq κ]

/-! ## Backed loans -/

/-- **What one turn of an operation makes of the loans that somebody answers for.** The operation
answered for the loan of a key `loan` when the turn began. There are at least as many loans as
before, but for that one; it is there still if the operation goes on with the slot of it, and there
is one more if the operation has lent a resource. -/
structure Turn.Backs (pool : Pool κ ω ε) (own : Option (Checkout κ)) (loan : Option κ)
    (turn : Turn κ ω ε) : Prop where
  loans : ∀ key, (pool.store.live key).active + owing key (turn.2.foothold?.map Prod.fst) +
    owing key (turn.2.lentUnder own) ≤ (turn.1.store.live key).active + owing key loan
  linked : ∀ key slot, turn.2.foothold? = some (key, slot) →
    turn.1.store.find? key = some slot
  unlent : own = none → turn.2.lent? = none

section backing

variable {pool : Pool κ ω ε} {own : Option (Checkout κ)} {loan : Option κ} {turn : Turn κ ω ε}

/-- A balanced turn backs the loans. -/
theorem Turn.Balanced.backs {given : List (κ × ω × Phase)}
    (balanced : Turn.Balanced pool own loan given none turn) : Turn.Backs pool own loan turn :=
  ⟨fun key => Nat.le_of_eq (balanced.loans key).symm, balanced.linked, balanced.owes⟩

/-- Nothing is lent under any key by an operation that lends nothing. -/
theorem lentUnder_of_unlent {progress : Progress κ ω ε} (unlent : progress.lent? = none) :
    progress.lentUnder own = none := by
  unfold Progress.lentUnder
  split
  · cases unlent
  · rfl

/-- A turn that leaves all loans, and goes on with none. -/
theorem Turn.Backs.of_active
    (same : ∀ key, (turn.1.store.live key).active = (pool.store.live key).active)
    (free : turn.2.foothold? = none) (unlent : turn.2.lent? = none) :
    Turn.Backs pool own loan turn := by
  refine ⟨?_, ?_, fun _ => unlent⟩
  · intro key
    rw [free, lentUnder_of_unlent unlent, same]
    exact Nat.le_add_right _ _
  · intro key slot h
    rw [free] at h
    cases h

/-- A borrow that gives its reservation up leaves all loans. -/
theorem backs_abandon (sound : pool.store.Sound) {checkout : Checkout κ}
    (hid : pool.store.find? checkout.key = some checkout.slot) {result : Result ω ε}
    (unlent : result.lent? = none) :
    Turn.Backs pool own loan ((pool.abandon checkout).finish result) := by
  refine .of_active (fun key => ?_) rfl unlent
  exact congrArg Holding.active (holding_of_reserved (pool.becomes_abandon sound hid) rfl key)

/-- After a destroy an operation goes on with no loan. -/
theorem backs_proceed (pool : Pool κ ω ε) (sound : pool.store.Sound) (key : κ)
    {sequel : Sequel κ ω ε} (holds : pool.store.Holds sequel.checkout?)
    (unlent : sequel.outcome?.bind Result.lent? = none) :
    Turn.Backs pool sequel.checkout? none (pool.proceed key sequel) := by
  cases sequel with
  | nextCandidate checkout origin =>
    exact (balanced_tryNext pool sound _ (holds checkout rfl).1 origin).backs
  | unwind checkout reason => exact backs_abandon sound (holds checkout rfl).1 rfl
  | conclude result => exact .of_active (fun _ => rfl) rfl unlent
  | sweep rest result =>
    cases rest with
    | nil => exact .of_active (fun _ => rfl) rfl unlent
    | cons entry rest => exact .of_active (fun _ => rfl) rfl unlent
  | addMore left => exact (balanced_addMore pool key left).backs

/-- **The first turn of an operation backs the loans**, if a resource that comes back is one of
those on loan under its key. -/
theorem backs_start (sound : pool.store.Sound) (operation : Operation κ ω)
    (loaned : ∀ key, operation.loan? = some key → 0 < (pool.store.live key).active) :
    Turn.Backs pool none operation.loan? (pool.start operation) :=
  (balanced_start pool sound operation loaned).backs

/-- **Every later turn of an operation backs the loans**, whatever the answer, if a return in
progress still has the slot of its loan. -/
theorem backs_resume (sound : pool.store.Sound) {stage : Stage κ ω ε}
    (holds : pool.store.Holds stage.checkout?)
    (loaned : ∀ key slot, stage.foothold? = some (key, slot) →
      pool.store.find? key = some slot ∧ 0 < (pool.store.live key).active)
    (unlent : stage.lent? = none) (answer : Answer ω ε) :
    Turn.Backs pool stage.checkout? (stage.foothold?.map Prod.fst) (pool.resume stage answer) := by
  cases stage with
  | creating checkout attempt =>
    have hid := (holds checkout rfl).1
    cases answer with
    | failed error => exact backs_abandon sound hid rfl
    | panicked reason => exact backs_abandon sound hid rfl
    | _ => exact .of_active (fun _ => rfl) rfl rfl
  | activating checkout origin object =>
    have hid := (holds checkout rfl).1
    cases answer with
    | done object => exact (balanced_afterActivation pool sound hid origin object).backs
    | refused object => exact (balanced_afterActivation pool sound hid origin object).backs
    | failed error => cases origin <;> exact .of_active (fun _ => rfl) rfl rfl
    | panicked reason => exact .of_active (fun _ => rfl) rfl rfl
  | validating checkout origin object =>
    have hid := (holds checkout rfl).1
    cases answer with
    | done _ => exact (balanced_handOut pool sound hid object).backs
    | panicked reason => exact .of_active (fun _ => rfl) rfl rfl
    | _ => cases origin <;> exact .of_active (fun _ => rfl) rfl rfl
  | inspecting key slot object =>
    obtain ⟨hid, hloaned⟩ := loaned key slot rfl
    have hscrap := fun event entry => (balanced_scrap ((pool.count event).note entry) sound hid
      hloaned object).backs
    cases answer with
    | done _ =>
      refine ⟨fun _ => Nat.le_refl _, ?_, fun _ => rfl⟩
      rintro _ _ ⟨⟩
      exact hid
    | panicked reason => exact .of_active (fun _ => rfl) rfl rfl
    | refused _ =>
      obtain ⟨hloans, hlinked, hunlent⟩ := hscrap .validationFailures (.validationRejected key)
      exact ⟨hloans, hlinked, hunlent⟩
    | failed error =>
      obtain ⟨hloans, hlinked, hunlent⟩ := hscrap .validationFailures (.validationFailed key error)
      exact ⟨hloans, hlinked, hunlent⟩
  | passivating key slot object =>
    obtain ⟨hid, hloaned⟩ := loaned key slot rfl
    cases answer with
    | done object => exact (balanced_settle pool sound hid hloaned object).backs
    | refused object => exact (balanced_settle pool sound hid hloaned object).backs
    | failed error =>
      obtain ⟨hloans, hlinked, hunlent⟩ := (balanced_scrap
        ((pool.count .passivationFailures).note (.passivationFailed key error)) sound hid hloaned
        object).backs
      exact ⟨hloans, hlinked, hunlent⟩
    | panicked reason => exact .of_active (fun _ => rfl) rfl rfl
  | making key left => cases answer <;> exact .of_active (fun _ => rfl) rfl rfl
  | parking key left object =>
    cases answer with
    | done object => exact (balanced_park pool sound key left object).backs
    | refused object => exact (balanced_park pool sound key left object).backs
    | _ => exact .of_active (fun _ => rfl) rfl rfl
  | destroying key object aftermath =>
    cases aftermath with
    | surface => cases answer <;> exact .of_active (fun _ => rfl) rfl rfl
    | surfaceIfOpen =>
      cases answer with
      | failed error =>
        show Turn.Backs pool none none ((pool.count .destroyFailures).afterDestroyFailure key error
          .surfaceIfOpen)
        simp only [afterDestroyFailure]
        split
        · exact .of_active (fun _ => rfl) rfl rfl
        · exact .of_active (fun _ => rfl) rfl rfl
      | _ => exact .of_active (fun _ => rfl) rfl rfl
    | quietly sequel =>
      cases answer with
      | done _ => exact backs_proceed pool sound key holds unlent
      | refused _ => exact backs_proceed pool sound key holds unlent
      | failed error =>
        have hnoted := backs_proceed
          ((pool.count .destroyFailures).note (.destroyFailed key error)) sound key holds unlent
        exact ⟨hnoted.loans, hnoted.linked, hnoted.unlent⟩
      | panicked reason =>
        cases sequel with
        | nextCandidate checkout origin => exact backs_abandon sound (holds checkout rfl).1 rfl
        | unwind checkout first => exact backs_abandon sound (holds checkout rfl).1 rfl
        | _ => exact .of_active (fun _ => rfl) rfl rfl

end backing

/-! ## Loans that are given up -/

/-- **A turn that gives a loan up and then has the resource destroyed.** The key has one loan less
when the factory is called, and nothing else has changed in the store. -/
structure Turn.Surrenders (pool : Pool κ ω ε) (key : κ) (object : ω) (turn : Turn κ ω ε) : Prop
  where
  becomes : pool.store.Becomes turn.1.store
    (Function.update pool.store.live key (pool.store.live key).release)
  loaned : 0 < (pool.store.live key).active
  waits : ∃ aftermath, turn.2 = .waiting (.destroying key object aftermath)

section surrendering

variable {pool : Pool κ ω ε} {key : κ} {slot : SlotId}

/-- A loan is given up, and then the resource is destroyed. -/
theorem surrenders_endLoan_destroy (sound : pool.store.Sound)
    (hid : pool.store.find? key = some slot) (loaned : 0 < (pool.store.live key).active)
    (object : ω) (aftermath : Aftermath κ ω ε) :
    Turn.Surrenders pool key object ((pool.endLoan key slot).destroy key object aftermath) :=
  ⟨(Store.becomes_update sound hid Slot.release (sound.live_current _)).prune key, loaned, _, rfl⟩

/-- A resource that does not pass validation, or that cannot be passivated. What is counted and
noted of that is nothing to the loans. -/
theorem surrenders_scrap (sound : pool.store.Sound) (hid : pool.store.find? key = some slot)
    (loaned : 0 < (pool.store.live key).active) (event : Counter) (entry : Note κ ε) (object : ω) :
    Turn.Surrenders pool key object (((pool.count event).note entry).scrap key slot object) := by
  have hsound : ((pool.count event).note entry).store.Sound := sound
  have hnoted := surrenders_endLoan_destroy hsound hid loaned object .surface
  exact ⟨hnoted.becomes, hnoted.loaned, hnoted.waits⟩

/-- A resource that comes back to a closed pool. -/
theorem surrenders_giveBack (sound : pool.store.Sound) (loaned : 0 < (pool.store.live key).active)
    (closed : pool.isClosed = true) (object : ω) :
    Turn.Surrenders pool key object (pool.giveBack key object) := by
  have hcounted : pool.numActive key ≠ 0 := by
    unfold numActive
    rw [Store.numActive_eq]
    exact Nat.ne_of_gt loaned
  obtain ⟨slot, hid, heq⟩ := pool.giveBack_of_loaned hcounted object
  rw [heq, if_pos closed]
  exact surrenders_endLoan_destroy sound hid loaned object _

/-- An invalidation gives a loan up first, if its key has one. -/
theorem surrenders_invalidate (sound : pool.store.Sound)
    (loaned : 0 < (pool.store.live key).active) (object : ω) :
    (pool.invalidate key object).2 = .waiting (.destroying key object .surfaceIfOpen) ∧
      Turn.Surrenders pool key object (pool.invalidate key object) := by
  obtain ⟨slot, hid⟩ := pool.find?_of_loaned loaned
  unfold invalidate
  rw [hid]
  exact ⟨rfl, surrenders_endLoan_destroy sound hid loaned object .surfaceIfOpen⟩

/-- A resource that finds no room: the pool has been closed, or the key has as many idle resources
as it may. -/
theorem surrenders_settle (sound : pool.store.Sound) (hid : pool.store.find? key = some slot)
    (loaned : 0 < (pool.store.live key).active) (object : ω)
    (surplus : pool.isClosed = true ∨
      ∃ most, pool.store.idleLimit = some most ∧ most ≤ (pool.store.live key).idle.length) :
    Turn.Surrenders pool key object (pool.settle key slot object) := by
  have hrelease := Store.becomes_update sound hid Slot.release (sound.live_current key)
  have hlinked : (pool.store.release slot).find? key = some slot := hid
  have hfull : (pool.store.release slot).isSealed = true ∨
      (pool.store.release slot).isFull slot = true := by
    refine surplus.imp id ?_
    rintro ⟨most, hlimit, hmost⟩
    have hidle : ((pool.store.release slot).live key).idle = (pool.store.live key).idle := by
      unfold Store.release
      rw [hrelease.live_eq, Function.update_self]
      rfl
    have hsame : (pool.store.release slot).idleLimit = some most := hlimit
    rw [Store.isFull_eq hlinked, hidle, hsame]
    exact decide_eq_true hmost
  have hactive : (pool.store.slot slot).active ≠ 0 := by
    rw [← Store.live_of_find? hid]
    exact Nat.ne_of_gt loaned
  unfold settle
  rcases Store.checkIn_cases sound hid object with ⟨hnone, -⟩ | ⟨-, hback | hkept⟩
  · rw [hnone] at loaned
    exact absurd loaned (Nat.lt_irrefl 0)
  · obtain ⟨reason, next, hreason, heq, hbecomes⟩ := hback
    rw [heq]
    cases reason with
    | unborrowed => exact absurd rfl hreason
    | _ => exact ⟨hbecomes.prune key, loaned, _, rfl⟩
  · obtain ⟨next, heq, -⟩ := hkept
    obtain ⟨reason, hrejects⟩ := Store.offer_of_full object hfull
    unfold Store.checkIn at heq
    rw [if_neg hactive, hrejects] at heq
    cases heq

end surrendering

end ResourcePool.Pool
