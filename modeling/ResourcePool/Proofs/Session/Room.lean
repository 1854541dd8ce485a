import ResourcePool.Proofs.Pool.Possession
import ResourcePool.Proofs.Session.Turns
import ResourcePool.Proofs.Session.Upkeep

/-!
# Room for idle resources

A key may be allowed so many idle resources and no more. A resource is offered to a key in two
places, when it comes back and when it is added, and both look for room first.

* `Store.IdleWithin` — no key has more idle resources than it may.
* `Store.idleWithin_offer` — an offer keeps to that; `Pool.idleWithin_settle` and
  `Pool.idleWithin_park` are the turns that make one.
* `Pool.Turn.Does.idle_le` — no other turn puts anything among the idle resources.
* `Session.idle_within` — so it is in every state that can be reached.
-/

set_option linter.unusedSectionVars false

namespace ResourcePool

variable {κ ω ε : Type} [DecidableEq κ]

/-! ## Stores -/

namespace Store

/-- No key has more idle resources than it may. -/
def IdleWithin (store : Store κ ω) : Prop :=
  ∀ key limit, store.idleLimit = some limit → (store.live key).idle.length ≤ limit

section offers

variable {store next : Store κ ω}

/-- An operation that makes no key have more. -/
theorem IdleWithin.of_le (within : store.IdleWithin)
    (idleLimit_eq : next.idleLimit = store.idleLimit)
    (le : ∀ key, (next.live key).idle.length ≤ (store.live key).idle.length) : next.IdleWithin := by
  intro key limit hlimit
  rw [idleLimit_eq] at hlimit
  exact Nat.le_trans (le key) (within key limit hlimit)

/-- An operation that leaves every key what it has. -/
theorem IdleWithin.of_becomes (within : store.IdleWithin)
    (becomes : store.Becomes next store.live) (rules_eq : next.rules = store.rules) :
    next.IdleWithin := by
  apply within.of_le (congrArg (fun rules => rules.2.1) rules_eq)
  intro key
  rw [becomes.live_eq]

/-- **What is offered is kept only where there is room.** -/
theorem idleWithin_offer (sound : store.Sound) (within : store.IdleWithin) {key : κ} {id : SlotId}
    (hid : store.find? key = some id) (object : ω) : (store.offer id object).2.IdleWithin := by
  unfold offer
  split
  · exact within
  split
  · exact within
  · next hroom =>
    have hpush := becomes_update sound hid (fun slot => slot.push object) (sound.live_current key)
    intro other limit hlimit
    have hbound : store.idleLimit = some limit := hlimit
    rw [hpush.live_eq]
    by_cases hkey : other = key
    · rw [isFull_eq hid, hbound] at hroom
      rw [hkey, Function.update_self]
      have hlt : (store.live key).idle.length < limit := by simpa using hroom
      exact hlt
    · rw [Function.update_of_ne hkey]
      exact within other limit hbound

/-- Checking a resource in keeps every key within its limit. -/
theorem idleWithin_checkIn (sound : store.Sound) (within : store.IdleWithin) {key : κ} {id : SlotId}
    (stands : store.Stands key id) (object : ω) : (store.checkIn id object).2.IdleWithin := by
  rcases stands with hid | hstale
  · have hrelease := becomes_update sound hid Slot.release (sound.live_current key)
    unfold checkIn
    split
    · exact within
    · have hreleased : (store.update id Slot.release).IdleWithin := by
        intro other limit hlimit
        refine Nat.le_trans ?_ (within other limit hlimit)
        rw [hrelease.live_eq]
        by_cases hkey : other = key
        · rw [hkey, Function.update_self]
          exact Nat.le_refl _
        · rw [Function.update_of_ne hkey]
      exact idleWithin_offer hrelease.sound hreleased hid object
  · rw [checkIn_of_stale sound hstale]
    exact within

/-- So does depositing one. -/
theorem idleWithin_deposit (sound : store.Sound) (within : store.IdleWithin) (key : κ)
    (object : ω) : (store.deposit key object).2.IdleWithin := by
  have hopen := becomes_openSlot sound key
  rw [deposit_eq sound]
  apply idleWithin_offer hopen.sound (within.of_becomes hopen (rules_openSlot _ _))
  rw [find?_openSlot, if_pos rfl]

end offers

end Store

/-! ## Turns -/

/-- Only a deed that keeps a resource makes a key have more. -/
theorem Deed.length_on_le {deed : Deed κ ω} (keeps : deed.keeps = false) (selection : Selection)
    (key : κ) (holding : Holding ω) :
    (deed.on selection key holding).idle.length ≤ holding.idle.length := by
  unfold on
  split
  · cases deed with
    | take place object => exact (selection.others_sublist holding.idle).length_le
    | emptyKey place => exact Nat.zero_le _
    | emptyAll => exact Nat.zero_le _
    | putBack place object => cases keeps
    | stow place object => cases keeps
    | _ => exact Nat.le_refl _
  · exact Nat.le_refl _

namespace Pool

variable {pool : Pool κ ω ε}

/-- **A turn with nothing in hand that is ready to be kept** makes no key have more. -/
theorem Turn.Does.idle_le {hand : Hand κ ω} {turn : Turn κ ω ε} {deed : Deed κ ω}
    (does : Turn.Does pool hand turn deed)
    (unready : ∀ key object, hand ≠ .back key object ∧ hand ≠ .reset key object) (key : κ) :
    (turn.1.store.live key).idle.length ≤ (pool.store.live key).idle.length := by
  have hkeeps : deed.keeps = false := by
    have hfits := does.fits
    cases deed with
    | putBack place object => exact absurd hfits.2 (unready place object).1
    | stow place object => exact absurd hfits (unready place object).2
    | _ => rfl
  have hholding : (turn.1.store.live key).idle =
      (deed.on pool.store.selection key (pool.store.holding key)).idle :=
    congrArg Holding.idle (does.holding_eq key)
  rw [hholding]
  exact Deed.length_on_le hkeeps _ _ _

/-- Such a turn keeps every key within its limit. -/
theorem idleWithin_of_does {hand : Hand κ ω} {turn : Turn κ ω ε} {deed : Deed κ ω}
    (does : Turn.Does pool hand turn deed)
    (unready : ∀ key object, hand ≠ .back key object ∧ hand ≠ .reset key object)
    (within : pool.store.IdleWithin) : turn.1.store.IdleWithin :=
  within.of_le (congrArg (fun rules => rules.2.1) does.rules_eq) (does.idle_le unready)

/-- A resource that comes back. -/
theorem idleWithin_settle (sound : pool.store.Sound) (within : pool.store.IdleWithin) {key : κ}
    {slot : SlotId} (stands : pool.store.Stands key slot) (object : ω) :
    (pool.settle key slot object).1.store.IdleWithin := by
  have hchecked := Store.idleWithin_checkIn sound within stands object
  have hsound : (pool.store.checkIn slot object).2.Sound := by
    rcases stands with hid | hstale
    · rcases Store.checkIn_cases sound hid object with
        ⟨-, heq⟩ | ⟨-, ⟨_, next, -, heq, hnext⟩ | ⟨next, heq, hnext⟩⟩
      · rw [heq]; exact sound
      · rw [heq]; exact hnext.sound
      · rw [heq]; exact hnext.sound
    · rw [Store.checkIn_of_stale sound hstale]
      exact sound
  have hpruned : ((pool.store.checkIn slot object).2.prune key).2.IdleWithin :=
    hchecked.of_becomes (Store.becomes_prune hsound key) (Store.rules_prune _ _)
  unfold settle
  generalize pool.store.checkIn slot object = checked at hchecked hpruned
  obtain ⟨admission, store⟩ := checked
  cases admission with
  | accepted => exact hchecked
  | rejected reason object =>
    cases reason with
    | unborrowed => exact hchecked
    | _ => exact hpruned

/-- A resource that is added. -/
theorem idleWithin_park (sound : pool.store.Sound) (within : pool.store.IdleWithin) (key : κ)
    (left : Nat) (object : ω) : (pool.park key left object).1.store.IdleWithin := by
  have hdeposited := Store.idleWithin_deposit sound within key object
  unfold park
  generalize pool.store.deposit key object = deposited at hdeposited
  obtain ⟨admission, store⟩ := deposited
  cases admission with
  | accepted =>
    show (addMore { pool with store := store } key left).1.store.IdleWithin
    rw [addMore_fst]
    exact hdeposited
  | rejected reason object =>
    cases reason with
    | storeSealed => exact hdeposited
    | _ => exact hdeposited

/-- Closing keeps every key within its limit. -/
theorem idleWithin_close (sound : pool.store.Sound) (within : pool.store.IdleWithin)
    (result : Result ω ε) : (pool.close result).1.store.IdleWithin := by
  cases hclosed : pool.isClosed with
  | true =>
    rw [pool.close_of_closed hclosed]
    exact within
  | false =>
    have hshut : pool.shut.store.IdleWithin := within
    exact idleWithin_of_does (pool.does_close sound .free hclosed result) (by simp) hshut

/-- So does the start of an operation. -/
theorem idleWithin_start (sound : pool.store.Sound) (within : pool.store.IdleWithin)
    (operation : Operation κ ω) : (pool.start operation).1.store.IdleWithin := by
  by_cases hclose : operation = .close
  · subst hclose
    exact idleWithin_close sound within .done
  · obtain ⟨deed, hdoes⟩ := pool.does_start sound hclose
    exact idleWithin_of_does hdoes (by simp) within

/-- **An answer lets no key have more idle resources than it may**, whatever the answer. -/
theorem idleWithin_resume (sound : pool.store.Sound) (within : pool.store.IdleWithin)
    (stage : Stage κ ω ε) (holds : pool.store.Holds stage.checkout?)
    (stands : ∀ key slot, stage.foothold? = some (key, slot) → pool.store.Stands key slot)
    (answer : Answer ω ε) : (pool.resume stage answer).1.store.IdleWithin := by
  by_cases hready : ∃ key object,
      stage.handAfter answer = .back key object ∨ stage.handAfter answer = .reset key object
  · -- a resource has been passivated and is offered to its key
    obtain ⟨key, object, hhand⟩ := hready
    cases stage with
    | passivating place slot resource =>
      have hstands := stands place slot rfl
      cases answer with
      | done object => exact idleWithin_settle sound within hstands object
      | refused object => exact idleWithin_settle sound within hstands object
      | _ => simp [Stage.handAfter] at hhand
    | parking place left resource =>
      cases answer with
      | done object => exact idleWithin_park sound within place left object
      | refused object => exact idleWithin_park sound within place left object
      | _ => simp [Stage.handAfter] at hhand
    | _ => cases answer <;> simp [Stage.handAfter] at hhand
  · obtain ⟨deed, hdoes⟩ := pool.does_resume sound stage holds stands answer
    have hunready : ∀ key object, stage.handAfter answer ≠ .back key object ∧
        stage.handAfter answer ≠ .reset key object :=
      fun key object => ⟨fun h => hready ⟨key, object, .inl h⟩,
        fun h => hready ⟨key, object, .inr h⟩⟩
    exact idleWithin_of_does hdoes hunready within

end Pool

/-! ## Sessions -/

namespace Session

variable {config : Config} {session : Session κ ω ε}

/-- **No key ever has more idle resources than it may**, for any clients and any factory and in the
middle of any operations. -/
theorem idle_within (reachable : Reachable config session) (key : κ) {limit : Nat}
    (idleLimit : config.idleLimit = some limit) : session.pool.numIdle key ≤ limit := by
  have hwithin : session.pool.store.IdleWithin := by
    refine holds_of_reachable (fun pool _ => pool.store.IdleWithin) ?_ ?_ ?_ ?_ ?_ reachable
    · intro walk key limit _
      exact Nat.zero_le _
    · intro pool stages operation horderly hwithin
      exact Pool.idleWithin_start horderly.sound hwithin operation
    · intro pool stage stages answer horderly hwithin
      have hmem : stage ∈ stage :: stages := List.mem_cons_self
      exact Pool.idleWithin_resume horderly.sound hwithin stage (horderly.holds hmem)
        (horderly.stands stage hmem) answer
    · intro pool stages key error hwithin
      exact hwithin
    · intro pool result horderly hwithin
      exact Pool.idleWithin_close horderly.sound hwithin result
  rw [← idleLimit_of_reachable reachable] at idleLimit
  show session.pool.store.numIdle key ≤ limit
  rw [Store.numIdle_eq]
  exact hwithin key limit idleLimit

end Session

end ResourcePool
