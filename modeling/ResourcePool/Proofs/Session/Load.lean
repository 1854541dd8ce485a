import ResourcePool.Proofs.Pool.Deeds
import ResourcePool.Proofs.Session.Absence
import ResourcePool.Proofs.Session.Upkeep

/-!
# The load of a key

What a key bears is its loans and the reservations of the borrows in progress. Only a borrow of that
key that starts adds to it: a reservation becomes a loan or is given up, and everything else leaves
the key as it is or relieves it. So room that has been made under a key stays until a borrow of the
key takes it.

* `Store.load` — the loans and reservations of a key.
* `Pool.load_resume_le`, `Pool.load_start_le`, `Pool.load_close_le` — no turn adds to it, but for
  the start of a borrow.
* `Session.load_of_later` — neither does any run without such a start.
* `Session.admitted_of_room` — with room under its key, a borrow is not refused.
-/

set_option linter.unusedSectionVars false

namespace ResourcePool

variable {κ ω ε : Type} [DecidableEq κ]

/-- The loans and the reservations of a key. -/
def Store.load (store : Store κ ω) (key : κ) : Nat :=
  (store.live key).active + (store.live key).inFlight

namespace Pool

/-! ## Turns -/

section turns

variable {pool : Pool κ ω ε} {hand : Hand κ ω} {turn : Turn κ ω ε} {deed : Deed κ ω}

/-- **Only what an operation has prepared is lent**, and nothing else is one loan more. -/
theorem Turn.Does.active_le (does : Turn.Does pool hand turn deed)
    (unprepared : ∀ key object, hand ≠ .own key object) (key : κ) :
    (turn.1.store.live key).active ≤ (pool.store.live key).active := by
  have hle : (deed.on pool.store.selection key (pool.store.holding key)).active ≤
      (pool.store.holding key).active := by
    have hfits := does.fits
    unfold Deed.on
    split
    · cases deed with
      | lend place =>
        obtain ⟨object, hhand⟩ := hfits
        exact absurd hhand (unprepared place object)
      | release place => exact Nat.sub_le _ _
      | putBack place object => exact Nat.sub_le _ _
      | _ => exact Nat.le_refl _
    · exact Nat.le_refl _
  rw [← does.holding_eq key] at hle
  exact hle

/-- A turn that takes no reservation and begins no loan. -/
theorem Turn.Steady.load_le {own : Option (Checkout κ)}
    (steady : Turn.Steady pool.store pool.config own turn) {key : κ}
    (active_le : (turn.1.store.live key).active ≤ (pool.store.live key).active)
    (reserved_le : reserved key turn.2.checkout? ≤ reserved key own) :
    turn.1.store.load key ≤ pool.store.load key := by
  have hreservations := steady.reservations key
  unfold Store.load
  omega

/-- A borrow turns its reservation into a loan. -/
theorem load_handOut (sound : pool.store.Sound) {checkout : Checkout κ}
    (holds : pool.store.Holds (some checkout)) (object : ω) (key : κ) :
    (pool.handOut checkout (some object)).1.store.load key = pool.store.load key := by
  obtain ⟨hid, hreserved⟩ := holds checkout rfl
  have hcommit : pool.store.Becomes (pool.store.commit checkout.slot) _ :=
    Store.becomes_update sound hid Slot.commit (sound.live_current _)
  show (pool.store.commit checkout.slot).load key = _
  unfold Store.load
  rw [hcommit.live_eq]
  by_cases hkey : key = checkout.key
  · rw [hkey, Function.update_self]
    simp only [Slot.commit]
    omega
  · rw [Function.update_of_ne hkey]

/-- An activated candidate changes nothing in the load of a key. -/
theorem load_afterActivation (sound : pool.store.Sound) {checkout : Checkout κ}
    (holds : pool.store.Holds (some checkout)) (origin : Origin) (object : ω) (key : κ) :
    (pool.afterActivation checkout origin object).1.store.load key = pool.store.load key := by
  unfold afterActivation
  split
  · rfl
  · exact load_handOut sound holds object key

/-- **No turn of an operation in progress** adds to the load of a key. -/
theorem load_resume_le (sound : pool.store.Sound) {stage : Stage κ ω ε}
    (holds : pool.store.Holds stage.checkout?)
    (stands : ∀ key slot, stage.foothold? = some (key, slot) → pool.store.Stands key slot)
    (admitted : stage.outcome? ≠ some (.failed .atCapacity)) (answer : Answer ω ε) (key : κ) :
    (pool.resume stage answer).1.store.load key ≤ pool.store.load key := by
  have hother : (∀ place object, stage.handAfter answer ≠ .own place object) →
      (pool.resume stage answer).1.store.load key ≤ pool.store.load key := by
    intro hunprepared
    obtain ⟨deed, hdoes⟩ := pool.does_resume sound stage holds stands answer
    refine (steady_resume pool sound stage holds stands answer).load_le
      (hdoes.active_le hunprepared key) ?_
    have hcontinues := pool.continues_resume admitted answer
    cases hprogress : (pool.resume stage answer).2 with
    | finished result => exact Nat.zero_le _
    | waiting next =>
      rw [hprogress] at hcontinues
      exact Nat.le_of_eq (congrArg (reserved key) hcontinues.1)
  cases stage with
  | activating checkout origin object =>
    cases answer with
    | done changed => exact Nat.le_of_eq (load_afterActivation sound holds origin changed key)
    | refused changed => exact Nat.le_of_eq (load_afterActivation sound holds origin changed key)
    | _ => exact hother nofun
  | validating checkout origin object =>
    cases answer with
    | done changed => exact Nat.le_of_eq (load_handOut sound holds object key)
    | _ => exact hother nofun
  | making place left =>
    cases answer with
    | done object => exact Nat.le_refl _
    | refused object => exact Nat.le_refl _
    | _ => exact hother nofun
  | _ => cases answer <;> exact hother nofun

/-- Closing adds to the load of no key. -/
theorem load_close_le (sound : pool.store.Sound) (result : Result ω ε) (key : κ) :
    (pool.close result).1.store.load key ≤ pool.store.load key := by
  cases hclosed : pool.isClosed with
  | true =>
    rw [pool.close_of_closed hclosed]
    exact Nat.le_refl _
  | false =>
    have hdoes := pool.does_close sound .free hclosed result
    refine (steady_close pool sound result).load_le (hdoes.active_le nofun key) ?_
    rw [checkout?_close]

/-- **No operation that starts** adds to the load of a key, unless it is a borrow of that key. -/
theorem load_start_le (sound : pool.store.Sound) {operation : Operation κ ω} {key : κ}
    (other : operation ≠ .borrow key) :
    (pool.start operation).1.store.load key ≤ pool.store.load key := by
  by_cases hclose : operation = .close
  · rw [hclose]
    exact load_close_le sound .done key
  · obtain ⟨deed, hdoes⟩ := pool.does_start sound hclose
    refine (steady_start pool sound operation).load_le (hdoes.active_le nofun key) ?_
    cases hborrow : (pool.start operation).2.checkout? with
    | none => exact Nat.le_refl _
    | some checkout =>
      rcases pool.start_cases sound operation with ⟨own, hown, hcontinues⟩ | ⟨_, _, -, hfail⟩
      · cases hprogress : (pool.start operation).2 with
        | finished result =>
          rw [hprogress] at hborrow
          cases hborrow
        | waiting stage =>
          rw [hprogress] at hborrow hcontinues
          have hasked := hown checkout (hcontinues.1.symm.trans hborrow)
          have hne : checkout.key ≠ key := by
            rintro rfl
            exact other hasked
          exact Nat.le_of_eq (reserved_of_ne hne)
      · rw [hfail] at hborrow
        cases hborrow

end turns

end Pool

/-! ## Sessions -/

namespace Session

/-- A client asks for a resource of a key, itself or in a guard. -/
def Move.Borrows (key : κ) (move : Move κ ω ε) : Prop :=
  ∃ action, move.event = .act action ∧ (action = .call (.borrow key) ∨ action = .get key)

section load

variable {config : Config} {session base next final : Session κ ω ε} {event : Event κ ω ε}
  {reply : Option (Reply ω ε)} {key : κ}

/-- What comes after the end of an operation adds to the load of no key. -/
theorem load_of_ends {purpose : Purpose κ} {turn : Pool.Turn κ ω ε}
    {outcome : Session κ ω ε × Option (Reply ω ε)} (ends : base.Ends purpose turn outcome)
    (sound : turn.1.store.Sound) (key : κ) :
    outcome.1.pool.store.load key ≤ turn.1.store.load key := by
  cases ends with
  | waits => exact Nat.le_refl _
  | guarded => exact Nat.le_refl _
  | told => exact Nat.le_of_eq (congrArg (Store.load · key) (store_conclusion ..))
  | @closes pool result =>
    have hstore := store_conclusion purpose pool result
    have hsound : (conclusion purpose pool result).1.store.Sound := by
      rw [hstore]
      exact sound
    rw [pool_closing]
    have hclose := Pool.load_close_le hsound (conclusion purpose pool result).2 key
    rw [hstore] at hclose
    exact hclose

/-- **One step adds nothing to the load of a key**, unless a borrow of that key starts. -/
theorem load_step_le (inOrder : InOrder config session)
    (step : session.step? event = some (next, reply))
    (other : ¬(Move.mk session event next reply).Borrows key) :
    next.pool.store.load key ≤ session.pool.store.load key := by
  obtain ⟨base, purpose, turn, hopens, heq⟩ := opens_of_step? step
  have hends := base.ends_advance purpose turn
  rw [← heq] at hends
  have hsound := (hopens.orderly inOrder).sound
  have hordered := inOrder.orderly
  refine Nat.le_trans (load_of_ends hends hsound key) ?_
  cases hopens with
  | @start action operation starts =>
    apply Pool.load_start_le hordered.sound
    rintro rfl
    exact other ⟨action, rfl, (asks_of_operation? starts).2⟩
  | aside => exact Nat.le_refl _
  | @resume answer activity rest running_eq =>
    have hmem : activity.stage ∈ session.stages := by simp [stages, running_eq]
    exact Pool.load_resume_le hordered.sound (hordered.holds hmem) (hordered.stands _ hmem)
      (inOrder.admitted _ hmem) answer key

/-- A session in order stays so in any moves. -/
theorem Later.inOrder {log : List (Move κ ω ε)} (later : Later session log final)
    (inOrder : InOrder config session) : InOrder config final := by
  induction later with
  | now => exact inOrder
  | step _ hstep ih => exact ih.step hstep

/-- **Room stays** until a borrow of the key takes it, by induction on the moves. -/
theorem load_of_later (inOrder : InOrder config session) {log : List (Move κ ω ε)}
    (later : Later session log final) (other : ∀ move ∈ log, ¬move.Borrows key) :
    final.pool.store.load key ≤ session.pool.store.load key := by
  induction later with
  | now => exact Nat.le_refl _
  | step past hstep ih =>
    have hbefore := ih fun move hmove => other move (List.mem_cons_of_mem _ hmove)
    exact Nat.le_trans (load_step_le (past.inOrder inOrder) hstep (other _ List.mem_cons_self))
      hbefore

/-- **With room under its key, a borrow on the open pool is not refused.** -/
theorem admitted_of_room (inOrder : InOrder config session)
    (isOpen : session.pool.isClosed = false) (handled : session.handles ≠ 0)
    (room : ∀ limit, config.activeLimit = some limit → session.pool.store.load key < limit)
    {action : Action κ ω} (asks : action = .call (.borrow key) ∨ action = .get key) :
    ∃ next reply, session.act? action = some (next, reply) ∧ Unrefused reply := by
  obtain ⟨purpose, -, hact⟩ := act?_borrow handled asks
  have hsound := inOrder.orderly.sound
  rcases session.pool.borrow_cases hsound key isOpen with ⟨hfull, -⟩ | ⟨-, slot, hcontinues⟩
  · rw [inOrder.config_eq] at hfull
    cases hlimit : config.activeLimit with
    | none =>
      rw [hlimit] at hfull
      cases hfull
    | some limit =>
      rw [hlimit] at hfull
      exact absurd (of_decide_eq_true hfull) (Nat.not_le_of_lt (room limit hlimit))
  · have hsteady := Pool.steady_borrow session.pool hsound key
    exact ⟨_, _, hact, (InOrder.advance session purpose
      (hsteady.config_eq.trans inOrder.config_eq) (inOrder.orderly.start (.borrow key))
      inOrder.admitted hcontinues).2⟩

end load

end Session

end ResourcePool
