import ResourcePool.Proofs.Pool.Reservations
import ResourcePool.Proofs.Store.Upkeep

/-!
# Upkeep

What every turn of an operation leaves behind in the store, for any client and any answer: whether
a closed pool stays closed and empty, and which keys keep a slot with nothing in it.

* `Operation.strays`, `Stage.strays` — the keys for which an operation opens a slot to no end: a
  borrow under a limit of zero, and an addition where not a single resource may be kept.
* `Pool.borrow_of_closed`, `Pool.addMore_of_closed`, … — what the operations come to on a closed
  pool.
* `Pool.tended_start`, `Pool.tended_resume` — no other key becomes spare, a closed pool stays closed
  and nothing becomes idle in it. There is one lemma for each function of the pool that changes the
  store.
-/

set_option linter.unusedSectionVars false

namespace ResourcePool

variable {κ ω ε : Type} [DecidableEq κ]

/-- The keys that the start of an operation leaves spare. -/
def Operation.strays (pool : Pool κ ω ε) : Operation κ ω → List κ
  | borrow key => if pool.isClosed then [] else Store.straysOfReserve key pool.config.activeLimit
  | _ => []

/-- The keys that an operation leaves spare when it goes on with an answer. -/
def Stage.strays (pool : Pool κ ω ε) : Stage κ ω ε → Answer ω ε → List κ
  | parking key _ _, .done _ | parking key _ _, .refused _ => pool.store.straysOfDeposit key
  | _, _ => []

namespace Pool

section turns

variable (pool : Pool κ ω ε)

/-! ## Borrowing -/

/-- A borrow that gives up prunes its key. -/
theorem tended_abandon (sound : pool.store.Sound) {checkout : Checkout κ}
    (holds : pool.store.Holds (some checkout)) :
    Store.Tended [] pool.store (pool.abandon checkout).store := by
  obtain ⟨hid, -⟩ := holds checkout rfl
  apply Store.tended_update_prune sound hid
  · exact sound.live_current _
  · exact id

/-- A borrow whose attempts are used up does, too. -/
theorem tended_tryFresh (sound : pool.store.Sound) {checkout : Checkout κ}
    (holds : pool.store.Holds (some checkout)) (attempt : Nat) :
    Store.Tended [] pool.store (pool.tryFresh checkout attempt).1.store := by
  unfold tryFresh
  split
  · exact .refl _ _
  · exact pool.tended_abandon sound holds

/-- Taking a candidate out strands no key, since the reservation is there. -/
theorem tended_tryIdle (sound : pool.store.Sound) {checkout : Checkout κ}
    (holds : pool.store.Holds (some checkout)) :
    Store.Tended [] pool.store (pool.tryIdle checkout).1.store := by
  obtain ⟨hid, hheld⟩ := holds checkout rfl
  have htake := Store.tended_take sound hid hheld
  unfold tryIdle
  split
  · next object store heq =>
    rw [heq] at htake
    exact htake
  · exact pool.tended_tryFresh sound holds 1

/-- Neither does going on to the next candidate. -/
theorem tended_tryNext (sound : pool.store.Sound) {checkout : Checkout κ}
    (holds : pool.store.Holds (some checkout)) (origin : Origin) :
    Store.Tended [] pool.store (pool.tryNext checkout origin).1.store := by
  cases origin with
  | idle => exact pool.tended_tryIdle sound holds
  | fresh attempt => exact pool.tended_tryFresh sound holds _

/-- A candidate is discarded without the store. -/
@[simp] theorem store_discard (checkout : Checkout κ) (origin : Origin) (object : ω) :
    (pool.discard checkout origin object).1.store = pool.store := by
  cases origin <;> rfl

/-- A loan that begins keeps its key in use. -/
theorem tended_handOut (sound : pool.store.Sound) {checkout : Checkout κ}
    (holds : pool.store.Holds (some checkout)) (object : ω) :
    Store.Tended [] pool.store (pool.handOut checkout (some object)).1.store := by
  obtain ⟨hid, -⟩ := holds checkout rfl
  apply Store.tended_update sound hid
  · exact sound.live_current _
  · exact id
  · exact Store.not_vacant (.inr (.inl (Nat.succ_pos _)))

/-- An activated candidate strands no key. -/
theorem tended_afterActivation (sound : pool.store.Sound) {checkout : Checkout κ}
    (holds : pool.store.Holds (some checkout)) (origin : Origin) (object : ω) :
    Store.Tended [] pool.store (pool.afterActivation checkout origin object).1.store := by
  unfold afterActivation
  split
  · exact .refl _ _
  · exact pool.tended_handOut sound holds object

/-- A borrow that starts strands its key at most, and only if it is refused there. -/
theorem tended_borrow (sound : pool.store.Sound) (key : κ) :
    Store.Tended ((Operation.borrow key : Operation κ ω).strays pool) pool.store
      (pool.borrow key).1.store := by
  simp only [borrow, Operation.strays]
  cases pool.isClosed with
  | true => exact .refl _ _
  | false =>
    have hreserve := Store.tended_reserve sound key pool.config.activeLimit
    simp only [Bool.false_eq_true, if_false]
    rcases Store.reserve_cases sound key pool.config.activeLimit with
      ⟨-, hnone, -⟩ | ⟨-, id, hsome, hid, hbecomes⟩
    · generalize pool.store.reserve key pool.config.activeLimit = pass at *
      obtain ⟨found, next⟩ := pass
      cases hnone
      exact hreserve
    · generalize pool.store.reserve key pool.config.activeLimit = pass at *
      obtain ⟨found, next⟩ := pass
      cases hsome
      refine hreserve.trans (.of_nil (tended_tryIdle { pool with store := next } hbecomes.sound ?_))
      rintro checkout ⟨⟩
      refine ⟨hid, ?_⟩
      rw [hbecomes.live_eq, Function.update_self]
      exact Nat.succ_pos _

/-! ## Taking back -/

/-- Ending a loan prunes the key. -/
theorem tended_endLoan (sound : pool.store.Sound) {key : κ} {slot : SlotId}
    (stands : pool.store.Stands key slot) :
    Store.Tended [] pool.store (pool.endLoan key slot).store := by
  rcases stands with hid | hstale
  · apply Store.tended_update_prune sound hid
    · exact sound.live_current _
    · exact id
  · unfold endLoan
    rw [Store.release_of_stale sound hstale]
    exact Store.tended_prune sound key

/-- Settling a loan prunes the key or keeps something there. -/
theorem tended_settle (sound : pool.store.Sound) {key : κ} {slot : SlotId}
    (stands : pool.store.Stands key slot) (object : ω) :
    Store.Tended [] pool.store (pool.settle key slot object).1.store := by
  have hcases : pool.store.checkIn slot object = (.rejected .unborrowed object, pool.store) ∨
      (∃ next, pool.store.checkIn slot object = (.accepted, next) ∧
        Store.Tended [] pool.store next) ∨
      ∃ reason next, reason ≠ .unborrowed ∧
        pool.store.checkIn slot object = (.rejected reason object, next) ∧
          Store.Tended [] pool.store (next.prune key).2 := by
    rcases stands with hid | hstale
    · exact Store.tended_checkIn sound hid object
    · exact .inl (Store.checkIn_of_stale sound hstale object)
  unfold settle
  rcases hcases with heq | ⟨next, heq, htended⟩ | ⟨reason, next, hreason, heq, htended⟩
  · rw [heq]
    exact .refl _ _
  · rw [heq]
    exact htended
  · rw [heq]
    cases reason with
    | unborrowed => exact absurd rfl hreason
    | _ => exact htended

/-- A return that starts strands no key. -/
theorem tended_giveBack (sound : pool.store.Sound) (key : κ) (object : ω) :
    Store.Tended [] pool.store (pool.giveBack key object).1.store := by
  unfold giveBack
  split
  · exact .refl _ _
  · next slot hid =>
    split
    · exact .refl _ _
    split
    · exact pool.tended_endLoan sound (.inl hid)
    split <;> exact .refl _ _

/-- Neither does an invalidation. -/
theorem tended_invalidate (sound : pool.store.Sound) (key : κ) (object : ω) :
    Store.Tended [] pool.store (pool.invalidate key object).1.store := by
  unfold invalidate
  split
  · next slot hid => exact pool.tended_endLoan sound (.inl hid)
  · exact .refl _ _

/-- A resource that comes back under a key with nothing on loan. -/
theorem giveBack_of_unloaned {key : κ} (unloaned : pool.numActive key = 0) (object : ω) :
    pool.giveBack key object = pool.rejectUnborrowed key object := by
  unfold numActive Store.numActive at unloaned
  cases hfind : pool.store.find? key with
  | none => simp [giveBack, hfind]
  | some slot =>
    rw [hfind] at unloaned
    simp only at unloaned
    simp [giveBack, hfind, unloaned]

/-- A resource that comes back from loan comes back to the slot of its key. -/
theorem giveBack_of_loaned {key : κ} (loaned : pool.numActive key ≠ 0) (object : ω) :
    ∃ slot, pool.store.find? key = some slot ∧ pool.giveBack key object =
      if pool.isClosed then (pool.endLoan key slot).destroyQuietly key object (.conclude .done)
      else if pool.config.testOnReturn then pool.await (.inspecting key slot object)
      else pool.await (.passivating key slot object) := by
  unfold numActive Store.numActive at loaned
  cases hfind : pool.store.find? key with
  | none => simp [hfind] at loaned
  | some slot =>
    rw [hfind] at loaned
    simp only at loaned
    refine ⟨slot, rfl, ?_⟩
    simp [giveBack, hfind, loaned]

/-! ## Adding -/

/-- A fresh resource strands its key at most, and only if it is not kept. -/
theorem tended_park (sound : pool.store.Sound) (key : κ) (left : Nat) (object : ω) :
    Store.Tended (pool.store.straysOfDeposit key) pool.store
      (pool.park key left object).1.store := by
  have hdeposit := Store.tended_deposit sound key object
  unfold park
  split
  · next store heq =>
    rw [heq] at hdeposit
    rw [addMore_fst]
    exact hdeposit
  · next heq =>
    rw [heq] at hdeposit
    exact hdeposit
  · next heq =>
    rw [heq] at hdeposit
    exact hdeposit

/-- An addition that leaves its key spare goes on to destroy its resource. -/
theorem park_of_strays (sound : pool.store.Sound) {key other : κ}
    (stray : other ∈ pool.store.straysOfDeposit key) (left : Nat) (object : ω) :
    other = key ∧ ∃ stage, (pool.park key left object).2 = .waiting stage ∧
      (pool.park key left object).1.store = (pool.store.openSlot key).2 := by
  obtain ⟨hkey, reason, heq⟩ := Store.deposit_of_strays sound stray object
  refine ⟨hkey, ?_⟩
  unfold park
  rw [heq]
  cases reason <;> exact ⟨_, rfl, rfl⟩

/-- A borrow under a limit of zero is refused, and the slot that was opened for it stays. -/
theorem borrow_of_strays (sound : pool.store.Sound) {key other : κ}
    (stray : other ∈ (Operation.borrow key : Operation κ ω).strays pool) :
    other = key ∧ ∃ next : Pool κ ω ε, pool.borrow key = next.fail .atCapacity ∧
      next.store = (pool.store.openSlot key).2 := by
  obtain ⟨hopen, hlimit, hkey⟩ : pool.isClosed = false ∧ pool.config.activeLimit = some 0 ∧
      other = key := by
    simpa [Operation.strays, Store.straysOfReserve] using stray
  have hfull : Store.isAtLimit pool.config.activeLimit (pool.store.live key) = true := by
    rw [hlimit]
    simp [Store.isAtLimit]
  refine ⟨hkey, ({ pool with store := (pool.store.openSlot key).2 } : Pool κ ω ε).count .refusals,
    ?_, rfl⟩
  simp [borrow, hopen, Store.reserve_refused sound hfull]

/-! ## Closed pools -/

/-- Closing a pool that is closed does nothing. -/
theorem close_of_closed (closed : pool.isClosed = true) (result : Result ω ε) :
    pool.close result = pool.finish result := by
  have hsealed : pool.store.isSealed = true := closed
  simp [close, Store.sealUp, hsealed]

/-- A closed pool lends nothing. -/
theorem borrow_of_closed (closed : pool.isClosed = true) (key : κ) :
    pool.borrow key = pool.fail .closed := by
  simp [borrow, closed]

/-- To a closed pool nothing is added. -/
theorem addMore_of_closed (closed : pool.isClosed = true) (key : κ) (left : Nat) :
    pool.addMore key (left + 1) = pool.fail .closed := by
  simp [addMore, closed]

/-! ## Clearing and closing -/

/-- Clearing a key prunes it. -/
theorem tended_clearKey (sound : pool.store.Sound) (key : κ) :
    Store.Tended [] pool.store (pool.clearKey key).1.store := by
  obtain ⟨notes, heq⟩ := clearKey_eq pool key
  rw [heq, store_sweep]
  exact Store.tended_drain sound key

/-- Clearing all keys prunes them all. -/
theorem tended_clear (sound : pool.store.Sound) (result : Result ω ε) :
    Store.Tended [] pool.store (pool.clear result).1.store := by
  obtain ⟨notes, heq⟩ := clear_eq pool result
  rw [heq, store_sweep]
  exact (Store.tended_drainAll sound).1

/-- Closing an open pool seals the store and then empties it. -/
theorem store_close_of_open (isOpen : pool.isClosed = false) (result : Result ω ε) :
    (pool.close result).1.store = pool.store.sealUp.2.drainAll.2 := by
  have hsealed : pool.store.isSealed = false := isOpen
  unfold close
  simp only [Store.sealUp, hsealed, Bool.not_false]
  obtain ⟨notes, heq⟩ := clear_eq
    (({ pool with store := { pool.store with isSealed := true } } : Pool κ ω ε).note _) result
  rw [heq, store_sweep]
  rfl

/-- Closing strands no key. -/
theorem tended_close (sound : pool.store.Sound) (result : Result ω ε) :
    Store.Tended [] pool.store (pool.close result).1.store := by
  cases hclosed : pool.isClosed with
  | true =>
    rw [pool.close_of_closed hclosed]
    exact .refl _ _
  | false =>
    rw [pool.store_close_of_open hclosed]
    obtain ⟨htended, hempty, hnone⟩ := Store.tended_drainAll (Store.sound_sealUp sound)
    refine ⟨htended.idleLimit_eq, fun _ => htended.isSealed rfl, fun _ _ => hempty, ?_⟩
    intro key hspare
    exact absurd hspare (hnone key)

/-! ## Going on -/

/-- Going on after a destroy strands no key. -/
theorem tended_proceed (sound : pool.store.Sound) (key : κ) {sequel : Sequel κ ω ε}
    (holds : pool.store.Holds sequel.checkout?) :
    Store.Tended [] pool.store (pool.proceed key sequel).1.store := by
  cases sequel with
  | nextCandidate checkout origin => exact pool.tended_tryNext sound holds origin
  | unwind checkout reason => exact pool.tended_abandon sound holds
  | conclude result => exact .refl _ _
  | sweep rest result =>
    show Store.Tended [] pool.store (pool.sweep rest result).1.store
    rw [store_sweep]
    exact .refl _ _
  | addMore left =>
    show Store.Tended [] pool.store (pool.addMore key left).1.store
    rw [addMore_fst]
    exact .refl _ _

/-- The end of a destroy, whatever its answer. -/
theorem tended_destroyed (sound : pool.store.Sound) (key : κ) (object : ω)
    {aftermath : Aftermath κ ω ε}
    (holds : pool.store.Holds (Stage.destroying key object aftermath).checkout?)
    (answer : Answer ω ε) :
    Store.Tended [] pool.store (pool.resume (.destroying key object aftermath) answer).1.store := by
  cases aftermath with
  | quietly sequel =>
    cases answer with
    | done _ => exact pool.tended_proceed sound key holds
    | refused _ => exact pool.tended_proceed sound key holds
    | failed error => exact tended_proceed ((pool.count _).note _) sound key holds
    | panicked reason =>
      cases sequel with
      | nextCandidate checkout origin => exact pool.tended_abandon sound holds
      | unwind checkout first => exact pool.tended_abandon sound holds
      | _ => exact .refl _ _
  | surface => cases answer <;> exact .refl _ _
  | surfaceIfOpen =>
    cases answer with
    | failed error =>
      simp only [resume, afterDestroyFailure]
      split <;> exact .refl _ _
    | _ => exact .refl _ _

/-- **The first turn of an operation.** -/
theorem tended_start (sound : pool.store.Sound) (operation : Operation κ ω) :
    Store.Tended (operation.strays pool) pool.store (pool.start operation).1.store := by
  cases operation with
  | borrow key => exact pool.tended_borrow sound key
  | giveBack key object => exact pool.tended_giveBack sound key object
  | invalidate key object => exact pool.tended_invalidate sound key object
  | prefill key count =>
    show Store.Tended [] pool.store (pool.addMore key count).1.store
    rw [addMore_fst]
    exact .refl _ _
  | clearKey key => exact pool.tended_clearKey sound key
  | clear => exact pool.tended_clear sound .done
  | close => exact pool.tended_close sound .done

/-- **Every later turn of an operation**, whatever the answer to the call it waited for. -/
theorem tended_resume (sound : pool.store.Sound) (stage : Stage κ ω ε)
    (holds : pool.store.Holds stage.checkout?)
    (stands : ∀ key slot, stage.foothold? = some (key, slot) → pool.store.Stands key slot)
    (answer : Answer ω ε) :
    Store.Tended (stage.strays pool answer) pool.store (pool.resume stage answer).1.store := by
  cases stage with
  | creating checkout attempt =>
    cases answer with
    | failed error => exact pool.tended_abandon sound holds
    | panicked reason => exact pool.tended_abandon sound holds
    | _ => exact .refl _ _
  | activating checkout origin object =>
    cases answer with
    | failed error =>
      simp only [resume, store_discard]
      exact .refl _ _
    | panicked reason => exact .refl _ _
    | _ => exact pool.tended_afterActivation sound holds origin _
  | validating checkout origin object =>
    cases answer with
    | done _ => exact pool.tended_handOut sound holds object
    | panicked reason => exact .refl _ _
    | _ =>
      simp only [resume, store_discard]
      exact .refl _ _
  | inspecting key slot object =>
    cases answer with
    | done _ => exact .refl _ _
    | panicked reason => exact .refl _ _
    | _ => exact tended_endLoan ((pool.count _).note _) sound (stands key slot rfl)
  | passivating key slot object =>
    cases answer with
    | failed error => exact tended_endLoan ((pool.count _).note _) sound (stands key slot rfl)
    | panicked reason => exact .refl _ _
    | _ => exact pool.tended_settle sound (stands key slot rfl) _
  | making key left => cases answer <;> exact .refl _ _
  | parking key left object =>
    cases answer with
    | done object => exact pool.tended_park sound key left object
    | refused object => exact pool.tended_park sound key left object
    | _ => exact .refl _ _
  | destroying key object aftermath => exact pool.tended_destroyed sound key object holds answer

end turns

end Pool

end ResourcePool
