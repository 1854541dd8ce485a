import Mathlib.Logic.Function.Basic
import ResourcePool.Pool.Operation
import ResourcePool.Proofs.Store.Effects

/-!
# Reservations

A borrow reserves room under its key before it asks the factory for anything, and holds that
reservation until it ends: as a loan, with an error or in a panic. This module follows the
reservation through every turn of an operation, for any client and any answer.

* `Stage.checkout?`, `Stage.foothold?`, `Stage.outcome?` — what an operation that waits has to go
  on with: a reservation, the slot of a return, a result that is already known.
* `Pool.Turn.Steady` — what one turn of an operation makes of the store: the reservations it gives
  or takes, and the limit it keeps to. There is one lemma for each function of the pool, up to
  `Pool.steady_start` and `Pool.steady_resume`.
* `Pool.Orderly` — a pool and the operations in progress on it fit together; `Orderly.turn` shows
  that every steady turn leaves them so.
-/

set_option linter.unusedSectionVars false

namespace ResourcePool

variable {κ ω ε : Type}

/-! ## What an operation in progress holds on to -/

namespace Sequel

/-- The borrow that goes on after a destroy. -/
def checkout? : Sequel κ ω ε → Option (Checkout κ)
  | nextCandidate checkout _ | unwind checkout _ => some checkout
  | _ => none

/-- The result that is known before a destroy is over. -/
def outcome? : Sequel κ ω ε → Option (Result ω ε)
  | conclude result | sweep _ result => some result
  | _ => none

end Sequel

namespace Stage

/-- The borrow that waits, if the operation is a borrow. -/
def checkout? : Stage κ ω ε → Option (Checkout κ)
  | creating checkout _ | activating checkout _ _ | validating checkout _ _ => some checkout
  | destroying _ _ (.quietly sequel) => sequel.checkout?
  | _ => none

/-- The key and the slot of a return that waits. -/
def foothold? : Stage κ ω ε → Option (κ × SlotId)
  | inspecting key slot _ | passivating key slot _ => some (key, slot)
  | _ => none

/-- The result, if it is already known. -/
def outcome? : Stage κ ω ε → Option (Result ω ε)
  | destroying _ _ (.quietly sequel) => sequel.outcome?
  | _ => none

end Stage

namespace Progress

/-- The borrow that waits. -/
def checkout? : Progress κ ω ε → Option (Checkout κ)
  | waiting stage => stage.checkout?
  | finished _ => none

/-- The key and the slot of a return that waits. -/
def foothold? : Progress κ ω ε → Option (κ × SlotId)
  | waiting stage => stage.foothold?
  | finished _ => none

/-- The result, if it is already known. -/
def outcome? : Progress κ ω ε → Option (Result ω ε)
  | waiting stage => stage.outcome?
  | finished result => some result

end Progress

variable [DecidableEq κ]

/-- How many reservations of a key a borrow has. -/
def reserved (key : κ) (own : Option (Checkout κ)) : Nat :=
  if own.any fun checkout => checkout.key = key then 1 else 0

/-- What is not a borrow has no reservation. -/
@[simp] theorem reserved_none (key : κ) : reserved key none = 0 := rfl

/-- A borrow has one reservation under its key. -/
theorem reserved_self (checkout : Checkout κ) : reserved checkout.key (some checkout) = 1 := by
  simp [reserved]

/-- A borrow has no reservation under other keys. -/
theorem reserved_of_ne {key : κ} {checkout : Checkout κ} (ne : checkout.key ≠ key) :
    reserved key (some checkout) = 0 := by
  simp [reserved, ne]

/-- The store has the reservation of a borrow, under the slot that the borrow knows. -/
def Store.Holds (store : Store κ ω) (own : Option (Checkout κ)) : Prop :=
  ∀ checkout, own = some checkout →
    store.find? checkout.key = some checkout.slot ∧ 0 < (store.live checkout.key).inFlight

/-- Without a borrow there is no reservation to look for. -/
theorem Store.holds_none (store : Store κ ω) : store.Holds none := by
  intro checkout h
  cases h

namespace Pool

/-! ## Steady turns -/

/-- **What one turn of an operation makes of the reservations.** The operation had the reservation
`own` when the turn began; what it gives up is gone from the store, and what it takes is new there.
A key within its limit stays within it. -/
structure Turn.Steady (store : Store κ ω) (config : Config) (own : Option (Checkout κ))
    (turn : Turn κ ω ε) : Prop where
  becomes : store.Becomes turn.1.store turn.1.store.live
  config_eq : turn.1.config = config
  reservations : ∀ key, (turn.1.store.live key).inFlight + reserved key own =
    (store.live key).inFlight + reserved key turn.2.checkout?
  linked : ∀ checkout, turn.2.checkout? = some checkout →
    turn.1.store.find? checkout.key = some checkout.slot
  stands : ∀ key slot, turn.2.foothold? = some (key, slot) → turn.1.store.Stands key slot
  capacity : ∀ key limit, config.activeLimit = some limit →
    (store.live key).active + (store.live key).inFlight ≤ limit →
    (turn.1.store.live key).active + (turn.1.store.live key).inFlight ≤ limit

section composition

variable {store next : Store κ ω} {view : κ → Slot ω} {config : Config}
  {own own' : Option (Checkout κ)} {turn : Turn κ ω ε}

/-- A change of the store before a turn that opens no slot. -/
theorem Turn.Steady.after (second : Turn.Steady next config own' turn)
    (first : store.Becomes next view)
    (reservations : ∀ key, (view key).inFlight + reserved key own =
      (store.live key).inFlight + reserved key own')
    (capacity : ∀ key limit, config.activeLimit = some limit →
      (store.live key).active + (store.live key).inFlight ≤ limit →
      (view key).active + (view key).inFlight ≤ limit)
    (closed : ∀ key, next.find? key = none → turn.1.store.find? key = none) :
    Turn.Steady store config own turn where
  becomes := first.trans second.becomes closed
  config_eq := second.config_eq
  reservations key := by
    have hfirst := reservations key
    have hsecond := second.reservations key
    rw [first.live_eq] at hsecond
    omega
  linked := second.linked
  stands := second.stands
  capacity key limit hlimit hwithin := by
    apply second.capacity key limit hlimit
    rw [first.live_eq]
    exact capacity key limit hlimit hwithin

/-- The case of a change under one key that leaves its reservations alone and adds no loans. -/
theorem Turn.Steady.after_update (second : Turn.Steady next config own turn) {key : κ}
    {slot : Slot ω} (first : store.Becomes next (Function.update store.live key slot))
    (inFlight : slot.inFlight = (store.live key).inFlight)
    (active : slot.active ≤ (store.live key).active)
    (closed : ∀ key, next.find? key = none → turn.1.store.find? key = none) :
    Turn.Steady store config own turn := by
  refine second.after first ?_ ?_ closed
  · intro other
    by_cases hkey : other = key
    · rw [hkey, Function.update_self, inFlight]
    · rw [Function.update_of_ne hkey]
  · intro other limit _ hwithin
    by_cases hkey : other = key
    · subst hkey
      rw [Function.update_self, inFlight]
      exact Nat.le_trans (Nat.add_le_add_right active _) hwithin
    · rw [Function.update_of_ne hkey]
      exact hwithin

/-- The case of a borrow that pays its reservation back and ends. -/
theorem Turn.Steady.after_paid (second : Turn.Steady next config none turn)
    {checkout : Checkout κ} {slot : Slot ω}
    (first : store.Becomes next (Function.update store.live checkout.key slot))
    (inFlight : slot.inFlight + 1 = (store.live checkout.key).inFlight)
    (active : slot.active ≤ (store.live checkout.key).active + 1)
    (closed : ∀ key, next.find? key = none → turn.1.store.find? key = none) :
    Turn.Steady store config (some checkout) turn := by
  refine second.after first ?_ ?_ closed
  · intro other
    by_cases hkey : other = checkout.key
    · rw [hkey, Function.update_self, reserved_self, reserved_none]
      exact inFlight
    · rw [Function.update_of_ne hkey, reserved_of_ne (Ne.symm hkey), reserved_none]
  · intro other limit _ hwithin
    by_cases hkey : other = checkout.key
    · rw [hkey] at hwithin ⊢
      rw [Function.update_self]
      omega
    · rw [Function.update_of_ne hkey]
      exact hwithin

end composition

section turns

variable (pool : Pool κ ω ε)

/-- An operation that ends without a reservation is steady. -/
theorem steady_finish (sound : pool.store.Sound) (result : Result ω ε) :
    Turn.Steady pool.store pool.config none (pool.finish result) where
  becomes := .refl sound
  config_eq := rfl
  reservations _ := rfl
  linked _ h := by cases h
  stands _ _ h := by cases h
  capacity _ _ _ h := h

/-- An operation that waits keeps the reservation and the slot that it goes on with. -/
theorem steady_await (sound : pool.store.Sound) (stage : Stage κ ω ε)
    (holds : pool.store.Holds stage.checkout?)
    (stands : ∀ key slot, stage.foothold? = some (key, slot) → pool.store.Stands key slot) :
    Turn.Steady pool.store pool.config stage.checkout? (pool.await stage) where
  becomes := .refl sound
  config_eq := rfl
  reservations _ := rfl
  linked checkout h := (holds checkout h).1
  stands := stands
  capacity _ _ _ h := h

/-- Giving a resource to be destroyed leaves the store alone. -/
theorem steady_destroy (sound : pool.store.Sound) (key : κ) (object : ω)
    (aftermath : Aftermath κ ω ε)
    (holds : pool.store.Holds (Stage.destroying key object aftermath).checkout?) :
    Turn.Steady pool.store pool.config (Stage.destroying key object aftermath).checkout?
      (pool.destroy key object aftermath) :=
  steady_await (pool.count .destroyed) sound (.destroying key object aftermath) holds
    fun _ _ h => nomatch h

/-! ### Borrowing -/

/-- Giving a reservation up takes one from the key. -/
theorem becomes_abandon (sound : pool.store.Sound) {checkout : Checkout κ}
    (hid : pool.store.find? checkout.key = some checkout.slot) :
    pool.store.Becomes (pool.abandon checkout).store
      (Function.update pool.store.live checkout.key (pool.store.live checkout.key).cancel) :=
  (Store.becomes_update sound hid Slot.cancel (sound.live_current _)).prune checkout.key

/-- A borrow that fails gives its reservation up. -/
theorem steady_abandon (sound : pool.store.Sound) {checkout : Checkout κ}
    (holds : pool.store.Holds (some checkout)) (result : Result ω ε) :
    Turn.Steady pool.store pool.config (some checkout)
      ((pool.abandon checkout).finish result) := by
  obtain ⟨hid, hheld⟩ := holds checkout rfl
  have hfirst := becomes_abandon pool sound hid
  have hsecond := steady_finish (pool.abandon checkout) hfirst.sound result
  exact hsecond.after_paid hfirst (Nat.sub_add_cancel hheld) (Nat.le_succ _) fun _ h => h

/-- A borrow keeps its reservation while it creates, and gives it up when its attempts are used up.
-/
theorem steady_tryFresh (sound : pool.store.Sound) {checkout : Checkout κ}
    (holds : pool.store.Holds (some checkout)) (attempt : Nat) :
    Turn.Steady pool.store pool.config (some checkout) (pool.tryFresh checkout attempt) := by
  unfold tryFresh
  split
  · exact steady_await pool sound (.creating checkout attempt) holds fun _ _ h => nomatch h
  · exact steady_abandon pool sound holds _

/-- Taking an idle candidate leaves the reservation alone. -/
theorem steady_tryIdle (sound : pool.store.Sound) {checkout : Checkout κ}
    (holds : pool.store.Holds (some checkout)) :
    Turn.Steady pool.store pool.config (some checkout) (pool.tryIdle checkout) := by
  obtain ⟨hid, hheld⟩ := holds checkout rfl
  unfold tryIdle
  rcases Store.take_cases sound hid with
    ⟨-, htake⟩ | ⟨object, rest, next, htake, heq, hnext, hbecomes⟩
  · rw [htake]
    exact steady_tryFresh pool sound holds 1
  · rw [heq]
    have hrest := (Slot.take?_eq_some htake).2
    have hflight : rest.inFlight = (pool.store.live checkout.key).inFlight := by rw [hrest]
    have hactive : rest.active = (pool.store.live checkout.key).active := by rw [hrest]
    have hholds : next.Holds (some checkout) := by
      intro other hother
      cases hother
      refine ⟨hnext, ?_⟩
      rw [hbecomes.live_eq, Function.update_self, hflight]
      exact hheld
    have hawait := steady_await { pool with store := next } hbecomes.sound
      (.activating checkout .idle object) hholds fun _ _ h => nomatch h
    exact hawait.after_update hbecomes hflight (Nat.le_of_eq hactive) fun _ h => h

/-- A borrow that looks for a candidate opens no slot. -/
theorem find?_tryIdle_of_none (sound : pool.store.Sound) {checkout : Checkout κ}
    (hid : pool.store.find? checkout.key = some checkout.slot) {key : κ}
    (h : pool.store.find? key = none) : (pool.tryIdle checkout).1.store.find? key = none := by
  unfold tryIdle Store.take
  cases (pool.store.slot checkout.slot).take? pool.store.selection with
  | some taken => exact h
  | none =>
    show (pool.tryFresh checkout 1).1.store.find? key = none
    unfold tryFresh
    split
    · exact h
    · have hcancel := Store.becomes_update sound hid Slot.cancel (sound.live_current _)
      show ((pool.store.update checkout.slot Slot.cancel).prune checkout.key).2.find? key = none
      rw [Store.find?_prune hcancel.sound, Store.find?_update, h, ite_self]

/-- Going on to the next candidate is steady. -/
theorem steady_tryNext (sound : pool.store.Sound) {checkout : Checkout κ}
    (holds : pool.store.Holds (some checkout)) (origin : Origin) :
    Turn.Steady pool.store pool.config (some checkout) (pool.tryNext checkout origin) := by
  cases origin with
  | idle => exact steady_tryIdle pool sound holds
  | fresh attempt => exact steady_tryFresh pool sound holds _

/-- A borrow keeps its reservation while a candidate is destroyed. -/
theorem steady_discard (sound : pool.store.Sound) {checkout : Checkout κ}
    (holds : pool.store.Holds (some checkout)) (origin : Origin) (object : ω) :
    Turn.Steady pool.store pool.config (some checkout)
      (pool.discard checkout origin object) := by
  have hdestroy := fun pool' : Pool κ ω ε => fun sound' holds' =>
    steady_destroy pool' sound' checkout.key object (.quietly (.nextCandidate checkout origin))
      holds'
  cases origin with
  | idle => exact hdestroy pool sound holds
  | fresh attempt => exact hdestroy (pool.note _) sound holds

/-- Handing out makes a loan of the reservation. -/
theorem steady_handOut (sound : pool.store.Sound) {checkout : Checkout κ}
    (holds : pool.store.Holds (some checkout)) (object : ω) :
    Turn.Steady pool.store pool.config (some checkout) (pool.handOut checkout (some object)) := by
  obtain ⟨hid, hheld⟩ := holds checkout rfl
  have hfirst := Store.becomes_update sound hid Slot.commit (sound.live_current _)
  have hsecond := steady_finish
    (({ pool with store := pool.store.commit checkout.slot } : Pool κ ω ε).count .borrowed)
    hfirst.sound (.lent object)
  exact hsecond.after_paid hfirst (Nat.sub_add_cancel hheld) (Nat.le_refl _) fun _ h => h

/-- A borrow that is not refused begins with a reservation. -/
theorem steady_borrow (sound : pool.store.Sound) (key : κ) :
    Turn.Steady pool.store pool.config none (pool.borrow key) := by
  unfold borrow
  split
  · exact steady_finish pool sound _
  · rcases Store.reserve_cases sound key pool.config.activeLimit with
      ⟨-, hnone, hbecomes⟩ | ⟨hlimit, id, hsome, hid, hbecomes⟩
    · generalize pool.store.reserve key pool.config.activeLimit = pass at hnone hbecomes
      obtain ⟨found, next⟩ := pass
      cases hnone
      have hsecond := steady_finish (({ pool with store := next } : Pool κ ω ε).count .refusals)
        hbecomes.sound (.failed .atCapacity)
      exact hsecond.after hbecomes (fun _ => rfl) (fun _ _ _ h => h) fun _ h => h
    · generalize pool.store.reserve key pool.config.activeLimit = pass at hsome hid hbecomes
      obtain ⟨found, next⟩ := pass
      cases hsome
      have hholds : next.Holds (some ⟨key, id⟩) := by
        intro checkout hcheckout
        cases hcheckout
        refine ⟨hid, ?_⟩
        rw [hbecomes.live_eq, Function.update_self]
        exact Nat.succ_pos _
      have hsecond := steady_tryIdle { pool with store := next } hbecomes.sound hholds
      refine hsecond.after hbecomes (fun other => ?_) (fun other limit hconfig hwithin => ?_)
        fun other h => find?_tryIdle_of_none { pool with store := next } hbecomes.sound hid h
      · by_cases hkey : other = key
        · subst hkey
          rw [Function.update_self, reserved_none, reserved_self ⟨other, id⟩]
          rfl
        · have hne : (⟨key, id⟩ : Checkout κ).key ≠ other := Ne.symm hkey
          rw [Function.update_of_ne hkey, reserved_none, reserved_of_ne hne]
      · by_cases hkey : other = key
        · subst hkey
          rw [hconfig] at hlimit
          have hroom : ¬limit ≤ (pool.store.live other).active + (pool.store.live other).inFlight :=
            of_decide_eq_false hlimit
          rw [Function.update_self]
          exact Nat.lt_of_not_le hroom
        · rw [Function.update_of_ne hkey]
          exact hwithin

/-! ### Taking back -/

/-- A return with nothing on loan leaves the store alone. -/
theorem steady_rejectUnborrowed (sound : pool.store.Sound) (key : κ) (object : ω) :
    Turn.Steady pool.store pool.config none (pool.rejectUnborrowed key object) :=
  steady_destroy (pool.note _) sound key object (.quietly (.conclude _)) (Store.holds_none _)

/-- Ending a loan takes one from the key, unless the slot of the loan is no longer that of the
key. -/
theorem endLoan_cases (sound : pool.store.Sound) {key : κ} {slot : SlotId}
    (stands : pool.store.Stands key slot) :
    (pool.store.find? key = some slot ∧ pool.store.Becomes (pool.endLoan key slot).store
      (Function.update pool.store.live key (pool.store.live key).release)) ∨
    ((pool.store.slot slot).retired = true ∧
      pool.store.Becomes (pool.endLoan key slot).store pool.store.live) := by
  rcases stands with hid | hstale
  · exact .inl ⟨hid, (Store.becomes_update sound hid Slot.release (sound.live_current _)).prune key⟩
  · refine .inr ⟨hstale, ?_⟩
    unfold endLoan
    rw [Store.release_of_stale sound hstale]
    exact Store.becomes_prune sound key

/-- A turn that destroys the resource of a loan that has just been ended. -/
theorem steady_endLoan_destroy (sound : pool.store.Sound) {key : κ} {slot : SlotId}
    (stands : pool.store.Stands key slot) (object : ω) (aftermath : Aftermath κ ω ε)
    (free : (Stage.destroying key object aftermath).checkout? = none) :
    Turn.Steady pool.store pool.config none
      ((pool.endLoan key slot).destroy key object aftermath) := by
  have hdestroy := fun sound' => steady_destroy (pool.endLoan key slot) sound' key object aftermath
    (by rw [free]; exact Store.holds_none _)
  rw [free] at hdestroy
  rcases endLoan_cases pool sound stands with ⟨-, hbecomes⟩ | ⟨-, hbecomes⟩
  · exact (hdestroy hbecomes.sound).after_update hbecomes rfl (Nat.sub_le _ _) fun _ h => h
  · exact (hdestroy hbecomes.sound).after hbecomes (fun _ => rfl) (fun _ _ _ h => h) fun _ h => h

/-- Ending a loan touches no reservation. -/
theorem steady_scrap (sound : pool.store.Sound) {key : κ} {slot : SlotId}
    (stands : pool.store.Stands key slot) (object : ω) :
    Turn.Steady pool.store pool.config none (pool.scrap key slot object) :=
  steady_endLoan_destroy pool sound stands object .surface rfl

/-- Settling a loan touches no reservation, whether or not the resource is kept. -/
theorem steady_settle (sound : pool.store.Sound) {key : κ} {slot : SlotId}
    (stands : pool.store.Stands key slot) (object : ω) :
    Turn.Steady pool.store pool.config none (pool.settle key slot object) := by
  have hreject := steady_rejectUnborrowed pool sound key object
  unfold settle
  rcases stands with hid | hstale
  · rcases Store.checkIn_cases sound hid object with ⟨-, heq⟩ | ⟨-, hback | hkept⟩
    · rw [heq]
      exact hreject
    · obtain ⟨reason, next, hreason, heq, hbecomes⟩ := hback
      have hpruned := hbecomes.prune key
      have hdestroy := steady_destroy { pool with store := (next.prune key).2 } hpruned.sound key
        object (.quietly (.conclude .done)) (Store.holds_none _)
      have hturn := hdestroy.after_update hpruned rfl (Nat.sub_le _ _) fun _ h => h
      rw [heq]
      cases reason with
      | unborrowed => exact absurd rfl hreason
      | _ => exact hturn
    · obtain ⟨next, heq, hbecomes⟩ := hkept
      have hfinish := steady_finish (({ pool with store := next } : Pool κ ω ε).count .returned)
        hbecomes.sound .done
      rw [heq]
      exact hfinish.after_update hbecomes rfl (Nat.sub_le _ _) fun _ h => h
  · rw [Store.checkIn_of_stale sound hstale]
    exact hreject

/-- Starting a return touches no reservation, and finds the slot that it goes on with. -/
theorem steady_giveBack (sound : pool.store.Sound) (key : κ) (object : ω) :
    Turn.Steady pool.store pool.config none (pool.giveBack key object) := by
  unfold giveBack
  split
  · exact steady_rejectUnborrowed pool sound key object
  · next slot hid =>
    have hstands : pool.store.Stands key slot := .inl hid
    split
    · exact steady_rejectUnborrowed pool sound key object
    split
    · exact steady_endLoan_destroy pool sound hstands object (.quietly (.conclude .done)) rfl
    split
    · apply steady_await pool sound (.inspecting key slot object) (Store.holds_none _)
      rintro _ _ ⟨⟩
      exact hstands
    · apply steady_await pool sound (.passivating key slot object) (Store.holds_none _)
      rintro _ _ ⟨⟩
      exact hstands

/-- Neither does starting an invalidation. -/
theorem steady_invalidate (sound : pool.store.Sound) (key : κ) (object : ω) :
    Turn.Steady pool.store pool.config none (pool.invalidate key object) := by
  unfold invalidate
  split
  · next slot hid => exact steady_endLoan_destroy pool sound (.inl hid) object .surfaceIfOpen rfl
  · exact steady_destroy pool sound key object .surfaceIfOpen (Store.holds_none _)

/-! ### Adding -/

/-- Going on with an addition changes nothing in the pool. -/
theorem addMore_fst (key : κ) (left : Nat) : (pool.addMore key left).1 = pool := by
  cases left with
  | zero => rfl
  | succ left =>
    simp only [addMore]
    split <;> rfl

/-- An addition holds no reservation. -/
theorem steady_addMore (sound : pool.store.Sound) (key : κ) (left : Nat) :
    Turn.Steady pool.store pool.config none (pool.addMore key left) := by
  cases left with
  | zero => exact steady_finish pool sound _
  | succ left =>
    simp only [addMore]
    split
    · exact steady_finish pool sound _
    · exact steady_await pool sound (.making key left) (Store.holds_none _) fun _ _ h => nomatch h

/-- Keeping a fresh resource touches no reservation. -/
theorem steady_park (sound : pool.store.Sound) (key : κ) (left : Nat) (object : ω) :
    Turn.Steady pool.store pool.config none (pool.park key left object) := by
  unfold park
  rcases Store.deposit_cases sound key object with hback | hkept
  · obtain ⟨reason, next, -, heq, hbecomes⟩ := hback
    have hdestroy := fun notes sequel => steady_destroy
      ({ pool with store := next, notes := notes } : Pool κ ω ε) hbecomes.sound key object
      (.quietly sequel)
    rw [heq]
    cases reason with
    | storeSealed =>
      exact (hdestroy _ (.conclude (.failed .closed)) (Store.holds_none _)).after hbecomes
        (fun _ => rfl) (fun _ _ _ h => h) fun _ h => h
    | _ =>
      exact (hdestroy _ (.addMore left) (Store.holds_none _)).after hbecomes
        (fun _ => rfl) (fun _ _ _ h => h) fun _ h => h
  · obtain ⟨next, heq, hbecomes⟩ := hkept
    rw [heq]
    refine (steady_addMore { pool with store := next } hbecomes.sound key left).after_update
      hbecomes rfl (Nat.le_refl _) ?_
    intro _ h
    rw [addMore_fst]
    exact h

/-! ### Clearing and closing -/

/-- Destroying one after another leaves the store alone. -/
theorem store_sweep (objects : List (κ × ω)) (result : Result ω ε) :
    (pool.sweep objects result).1.store = pool.store := by
  cases objects <;> rfl

/-- It holds no reservation. -/
theorem steady_sweep (sound : pool.store.Sound) (objects : List (κ × ω)) (result : Result ω ε) :
    Turn.Steady pool.store pool.config none (pool.sweep objects result) := by
  cases objects with
  | nil => exact steady_finish pool sound result
  | cons entry rest =>
    exact steady_destroy pool sound entry.1 entry.2 (.quietly (.sweep rest result))
      (Store.holds_none _)

/-- Taking out what a key has idle is a sweep of those resources. -/
theorem clearKey_eq (key : κ) : ∃ notes, pool.clearKey key =
    ({ pool with store := (pool.store.drain key).2, notes := notes } : Pool κ ω ε).sweep
      ((pool.store.drain key).1.map fun object => (key, object)) .done := by
  unfold clearKey
  generalize pool.store.drain key = drained
  obtain ⟨objects, store⟩ := drained
  cases objects with
  | nil => exact ⟨_, rfl⟩
  | cons object rest => exact ⟨_, rfl⟩

/-- Clearing empties all keys, and then destroys what was idle. -/
theorem clear_eq (result : Result ω ε) : ∃ notes, pool.clear result =
    ({ pool with store := pool.store.drainAll.2, notes := notes } : Pool κ ω ε).sweep
      pool.store.drainAll.1 result := by
  unfold clear
  generalize pool.store.drainAll = drained
  obtain ⟨objects, store⟩ := drained
  cases objects with
  | nil => exact ⟨_, rfl⟩
  | cons object rest => exact ⟨_, rfl⟩

/-- What is swept when the pool closes is no borrow. -/
theorem checkout?_sweep (objects : List (κ × ω)) (result : Result ω ε) :
    (pool.sweep objects result).2.checkout? = none := by
  cases objects <;> rfl

/-- Closing is not a borrow. -/
theorem checkout?_close (result : Result ω ε) : (pool.close result).2.checkout? = none := by
  unfold close
  split
  · rfl
  · obtain ⟨notes, heq⟩ := clear_eq (({ pool with store := _ } : Pool κ ω ε).note _) result
    rw [heq]
    exact checkout?_sweep _ _ _

/-- Clearing a key touches no reservation. -/
theorem steady_clearKey (sound : pool.store.Sound) (key : κ) :
    Turn.Steady pool.store pool.config none (pool.clearKey key) := by
  obtain ⟨notes, heq⟩ := clearKey_eq pool key
  have hbecomes := Store.becomes_drain sound key
  rw [heq]
  refine (steady_sweep { pool with store := (pool.store.drain key).2, notes := notes }
    hbecomes.sound _ _).after_update hbecomes rfl (Nat.le_refl _) ?_
  intro _ h
  rw [store_sweep]
  exact h

/-- Neither does clearing all keys. -/
theorem steady_clear (sound : pool.store.Sound) (result : Result ω ε) :
    Turn.Steady pool.store pool.config none (pool.clear result) := by
  obtain ⟨notes, heq⟩ := clear_eq pool result
  have hbecomes := Store.becomes_drainAll sound
  rw [heq]
  refine (steady_sweep { pool with store := pool.store.drainAll.2, notes := notes }
    hbecomes.sound _ _).after hbecomes (fun _ => rfl) (fun _ _ _ h => h) ?_
  intro _ h
  rw [store_sweep]
  exact h

/-- Nor does closing. -/
theorem steady_close (sound : pool.store.Sound) (result : Result ω ε) :
    Turn.Steady pool.store pool.config none (pool.close result) := by
  unfold close
  cases hsealed : pool.store.isSealed with
  | true =>
    have heq : pool.store.sealUp = (false, { pool.store with isSealed := true }) := by
      simp [Store.sealUp, hsealed]
    rw [heq]
    exact steady_finish pool sound result
  | false =>
    have heq : pool.store.sealUp = (true, pool.store.sealUp.2) := by
      simp [Store.sealUp, hsealed]
    rw [heq]
    have hsealed := Store.becomes_sealUp sound
    have hclear := fun notes =>
      steady_clear { pool with store := pool.store.sealUp.2, notes := notes } hsealed.sound result
    -- sealing comes before all else and changes neither slots nor links
    obtain ⟨hbecomes, hconfig, hreservations, hlinked, hstands, hcapacity⟩ := hclear _
    exact ⟨⟨hbecomes.sound, hbecomes.live_eq, hbecomes.relinks, hbecomes.stands⟩, hconfig,
      hreservations, hlinked, hstands, hcapacity⟩

/-! ### Going on -/

/-- After a destroy a borrow goes on with its reservation, or ends and gives it up. -/
theorem steady_proceed (sound : pool.store.Sound) (key : κ) {sequel : Sequel κ ω ε}
    (holds : pool.store.Holds sequel.checkout?) :
    Turn.Steady pool.store pool.config sequel.checkout? (pool.proceed key sequel) := by
  cases sequel with
  | nextCandidate checkout origin => exact steady_tryNext pool sound holds origin
  | unwind checkout reason => exact steady_abandon pool sound holds _
  | conclude result => exact steady_finish pool sound result
  | sweep rest result => exact steady_sweep pool sound rest result
  | addMore left => exact steady_addMore pool sound key left

/-- The same when the destroy succeeds. -/
theorem steady_afterDestroy (sound : pool.store.Sound) (key : κ) (object : ω)
    {aftermath : Aftermath κ ω ε}
    (holds : pool.store.Holds (Stage.destroying key object aftermath).checkout?) :
    Turn.Steady pool.store pool.config (Stage.destroying key object aftermath).checkout?
      (pool.afterDestroy key aftermath) := by
  cases aftermath with
  | quietly sequel => exact steady_proceed pool sound key holds
  | _ => exact steady_finish pool sound _

/-- The same when the destroy fails. -/
theorem steady_afterDestroyFailure (sound : pool.store.Sound) (key : κ) (object : ω) (error : ε)
    {aftermath : Aftermath κ ω ε}
    (holds : pool.store.Holds (Stage.destroying key object aftermath).checkout?) :
    Turn.Steady pool.store pool.config (Stage.destroying key object aftermath).checkout?
      (pool.afterDestroyFailure key error aftermath) := by
  cases aftermath with
  | surface => exact steady_finish pool sound _
  | surfaceIfOpen =>
    simp only [afterDestroyFailure]
    split
    · exact steady_finish (pool.note _) sound _
    · exact steady_finish pool sound _
  | quietly sequel => exact steady_proceed (pool.note _) sound key holds

/-- The same when the destroy panics: a borrow gives its reservation up. -/
theorem steady_afterDestroyPanic (sound : pool.store.Sound) (key : κ) (object : ω)
    (reason : String) {aftermath : Aftermath κ ω ε}
    (holds : pool.store.Holds (Stage.destroying key object aftermath).checkout?) :
    Turn.Steady pool.store pool.config (Stage.destroying key object aftermath).checkout?
      (pool.afterDestroyPanic reason aftermath) := by
  cases aftermath with
  | quietly sequel =>
    cases sequel with
    | nextCandidate checkout origin => exact steady_abandon pool sound holds _
    | unwind checkout first => exact steady_abandon pool sound holds _
    | _ => exact steady_finish pool sound _
  | _ => exact steady_finish pool sound _

/-- A borrow with an activated candidate keeps its reservation or makes a loan of it. -/
theorem steady_afterActivation (sound : pool.store.Sound) {checkout : Checkout κ}
    (holds : pool.store.Holds (some checkout)) (origin : Origin) (object : ω) :
    Turn.Steady pool.store pool.config (some checkout)
      (pool.afterActivation checkout origin object) := by
  unfold afterActivation
  split
  · exact steady_await pool sound (.validating checkout origin object) holds
      fun _ _ h => nomatch h
  · exact steady_handOut pool sound holds object

/-- **The first turn of an operation.** It has no reservation to begin with. -/
theorem steady_start (sound : pool.store.Sound) (operation : Operation κ ω) :
    Turn.Steady pool.store pool.config none (pool.start operation) := by
  cases operation with
  | borrow key => exact steady_borrow pool sound key
  | giveBack key object => exact steady_giveBack pool sound key object
  | invalidate key object => exact steady_invalidate pool sound key object
  | prefill key count => exact steady_addMore pool sound key count
  | clearKey key => exact steady_clearKey pool sound key
  | clear => exact steady_clear pool sound .done
  | close => exact steady_close pool sound .done

/-- **Every later turn of an operation**, whatever the answer to the call it waited for. -/
theorem steady_resume (sound : pool.store.Sound) (stage : Stage κ ω ε)
    (holds : pool.store.Holds stage.checkout?)
    (stands : ∀ key slot, stage.foothold? = some (key, slot) → pool.store.Stands key slot)
    (answer : Answer ω ε) :
    Turn.Steady pool.store pool.config stage.checkout? (pool.resume stage answer) := by
  cases stage with
  | creating checkout attempt =>
    have hfresh := fun object => steady_await ((pool.count .created).note (.created checkout.key))
      sound (.activating checkout (.fresh attempt) object) holds fun _ _ h => nomatch h
    cases answer with
    | done object => exact hfresh object
    | refused object => exact hfresh object
    | failed error => exact steady_abandon pool sound holds _
    | panicked reason => exact steady_abandon pool sound holds _
  | activating checkout origin object =>
    cases answer with
    | done object => exact steady_afterActivation pool sound holds origin object
    | refused object => exact steady_afterActivation pool sound holds origin object
    | failed error =>
      exact steady_discard ((pool.count _).note _) sound holds origin object
    | panicked reason =>
      exact steady_destroy pool sound checkout.key object (.quietly (.unwind checkout reason)) holds
  | validating checkout origin object =>
    cases answer with
    | done _ => exact steady_handOut pool sound holds object
    | refused _ => exact steady_discard ((pool.count _).note _) sound holds origin object
    | failed error => exact steady_discard ((pool.count _).note _) sound holds origin object
    | panicked reason =>
      exact steady_destroy pool sound checkout.key object (.quietly (.unwind checkout reason)) holds
  | inspecting key slot object =>
    have hstands := stands key slot rfl
    cases answer with
    | done _ => exact steady_await pool sound (.passivating key slot object) holds stands
    | refused _ => exact steady_scrap ((pool.count _).note _) sound hstands object
    | failed error => exact steady_scrap ((pool.count _).note _) sound hstands object
    | panicked reason => exact steady_finish pool sound _
  | passivating key slot object =>
    have hstands := stands key slot rfl
    cases answer with
    | done object => exact steady_settle pool sound hstands object
    | refused object => exact steady_settle pool sound hstands object
    | failed error =>
      exact steady_scrap ((pool.count _).note _) sound hstands object
    | panicked reason => exact steady_finish pool sound _
  | making key left =>
    have hmade := fun object => steady_await ((pool.count .created).note (.created key)) sound
      (.parking key left object) holds stands
    cases answer with
    | done object => exact hmade object
    | refused object => exact hmade object
    | failed error => exact steady_finish pool sound _
    | panicked reason => exact steady_finish pool sound _
  | parking key left object =>
    cases answer with
    | done object => exact steady_park pool sound key left object
    | refused object => exact steady_park pool sound key left object
    | failed error =>
      exact steady_destroy (pool.count _) sound key object (.quietly (.conclude _))
        (Store.holds_none _)
    | panicked reason => exact steady_finish pool sound _
  | destroying key object aftermath =>
    cases answer with
    | done _ => exact steady_afterDestroy pool sound key object holds
    | refused _ => exact steady_afterDestroy pool sound key object holds
    | failed error =>
      exact steady_afterDestroyFailure (pool.count _) sound key object error holds
    | panicked reason => exact steady_afterDestroyPanic pool sound key object reason holds

end turns

end Pool

/-! ## Pools and the operations in progress on them -/

/-- Whether an operation that waits is a borrow of a key. -/
def Stage.borrows (key : κ) (stage : Stage κ ω ε) : Bool :=
  stage.checkout?.any fun checkout => checkout.key = key

/-- The stage of an operation that is not over. -/
def Progress.stages : Progress κ ω ε → List (Stage κ ω ε)
  | waiting stage => [stage]
  | finished _ => []

/-- An operation borrows under a key just if it has a reservation there. -/
theorem Progress.countP_stages (progress : Progress κ ω ε) (key : κ) :
    progress.stages.countP (Stage.borrows key) = reserved key progress.checkout? := by
  cases progress with
  | waiting stage => rw [stages, List.countP_singleton]; rfl
  | finished result => rfl

/-- A borrow that waits has a slot that it knows. -/
theorem Stage.borrows_of_checkout? {stage : Stage κ ω ε} {checkout : Checkout κ}
    (h : stage.checkout? = some checkout) : stage.borrows checkout.key = true := by
  unfold borrows
  rw [h]
  exact decide_eq_true rfl

namespace Pool

/-- **A pool and the operations in progress on it fit together.** The store has exactly the
reservations of the borrows in progress, every borrow knows the slot of its key, every return knows
a slot that its key or nobody stands for, and no key is over its limit. -/
structure Orderly (pool : Pool κ ω ε) (stages : List (Stage κ ω ε)) : Prop where
  sound : pool.store.Sound
  inFlight_eq : ∀ key, (pool.store.live key).inFlight = stages.countP (Stage.borrows key)
  linked : ∀ stage ∈ stages, ∀ checkout, stage.checkout? = some checkout →
    pool.store.find? checkout.key = some checkout.slot
  stands : ∀ stage ∈ stages, ∀ key slot, stage.foothold? = some (key, slot) →
    pool.store.Stands key slot
  capacity : ∀ key limit, pool.config.activeLimit = some limit →
    (pool.store.live key).active + (pool.store.live key).inFlight ≤ limit

/-- A new pool is in order, with no operation in progress. -/
theorem orderly_empty (config : Config) (walk : Walk κ) :
    Orderly (Pool.empty config walk : Pool κ ω ε) [] where
  sound := Store.sound_empty config.selection config.idleLimit walk
  inFlight_eq _ := rfl
  linked _ h := by cases h
  stands _ h := by cases h
  capacity _ _ _ := Nat.zero_le _

section

variable {pool : Pool κ ω ε} {rest : List (Stage κ ω ε)}

/-- A turn leaves the other operations what they hold: their reservations are still counted, so
their keys keep the slots that they know. -/
theorem Orderly.turn (own : List (Stage κ ω ε)) {checkout : Option (Checkout κ)}
    (orderly : Orderly pool (own ++ rest))
    (hown : ∀ key, own.countP (Stage.borrows key) = reserved key checkout) {turn : Turn κ ω ε}
    (steady : Turn.Steady pool.store pool.config checkout turn) :
    Orderly turn.1 (turn.2.stages ++ rest) := by
  have hflight : ∀ key, (turn.1.store.live key).inFlight =
      (turn.2.stages ++ rest).countP (Stage.borrows key) := by
    intro key
    have hturn := steady.reservations key
    have hbefore := orderly.inFlight_eq key
    rw [List.countP_append, hown] at hbefore
    rw [List.countP_append, Progress.countP_stages]
    omega
  refine ⟨steady.becomes.sound, hflight, ?_, ?_, ?_⟩
  · intro stage hstage borrow hborrow
    rcases List.mem_append.mp hstage with hnew | hrest
    · cases hprogress : turn.2 with
      | finished result => rw [hprogress] at hnew; cases hnew
      | waiting waiting =>
        rw [hprogress, Progress.stages, List.mem_singleton] at hnew
        subst hnew
        exact steady.linked borrow (by rw [hprogress]; exact hborrow)
    · have hlinked := orderly.linked stage (List.mem_append_right _ hrest) borrow hborrow
      refine steady.becomes.keeps hlinked (Bool.eq_false_iff.mpr ?_)
      intro hvacant
      have hnone := (Slot.isVacant_iff.mp hvacant).2.2
      have hpos : 0 < (turn.2.stages ++ rest).countP (Stage.borrows borrow.key) :=
        List.countP_pos_iff.mpr ⟨stage, hstage, Stage.borrows_of_checkout? hborrow⟩
      rw [hflight] at hnone
      omega
  · intro stage hstage key slot hfoothold
    rcases List.mem_append.mp hstage with hnew | hrest
    · cases hprogress : turn.2 with
      | finished result => rw [hprogress] at hnew; cases hnew
      | waiting waiting =>
        rw [hprogress, Progress.stages, List.mem_singleton] at hnew
        subst hnew
        exact steady.stands key slot (by rw [hprogress]; exact hfoothold)
    · exact steady.becomes.stands key slot
        (orderly.stands stage (List.mem_append_right _ hrest) key slot hfoothold)
  · intro key limit hlimit
    rw [steady.config_eq] at hlimit
    exact steady.capacity key limit hlimit (orderly.capacity key limit hlimit)

/-- A pool fits its operations after one more has started. -/
theorem Orderly.start (orderly : Orderly pool rest) (operation : Operation κ ω) :
    Orderly (pool.start operation).1 ((pool.start operation).2.stages ++ rest) :=
  Orderly.turn [] orderly (fun _ => rfl) (steady_start pool orderly.sound operation)

/-- The reservation of a borrow in progress is there. -/
theorem Orderly.holds {stages : List (Stage κ ω ε)} (orderly : Orderly pool stages)
    {stage : Stage κ ω ε} (hstage : stage ∈ stages) : pool.store.Holds stage.checkout? := by
  intro checkout hcheckout
  refine ⟨orderly.linked stage hstage checkout hcheckout, ?_⟩
  rw [orderly.inFlight_eq]
  exact List.countP_pos_iff.mpr ⟨stage, hstage, Stage.borrows_of_checkout? hcheckout⟩

/-- A pool fits its operations after one of them has gone on. -/
theorem Orderly.resume {stage : Stage κ ω ε} (orderly : Orderly pool (stage :: rest))
    (answer : Answer ω ε) :
    Orderly (pool.resume stage answer).1 ((pool.resume stage answer).2.stages ++ rest) := by
  have hmem : stage ∈ stage :: rest := List.mem_cons_self
  refine Orderly.turn [stage] orderly ?_
    (steady_resume pool orderly.sound stage (orderly.holds hmem) (orderly.stands stage hmem) answer)
  intro key
  exact (Progress.waiting stage).countP_stages key

end

end Pool

end ResourcePool
