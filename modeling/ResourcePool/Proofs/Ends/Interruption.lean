import ResourcePool.Proofs.Ends.Basic
import ResourcePool.Proofs.Plain.Returning
import ResourcePool.Proofs.Session.Uninterrupted

/-!
# Returns that a panic interrupts

A return gives the loan up before it destroys a resource, but after it has validated and passivated
one. A destroy that panics therefore finds the loan ended; a validation or a passivation that panics
ends the return with the loan as it was and with nobody in possession of the resource.

* `Interrupts` — a panic before the resource is kept or destroyed.
* `ComesBack` — the ways in which a return of a loaned resource ends, also in a panic.
* `complete_scrap`, `returns_settle`, `returns_keep`, `returns_run` — a return, from its end to its
  beginning.
* `freed_unless_interrupted` — when a loan is over and what has become of its resource, for returns
  and for guards that are released or dropped; `held_after_interruption` — the loans that are not.
-/

set_option linter.unusedSectionVars false

namespace ResourcePool

variable {κ ω ε : Type} [DecidableEq κ]

namespace Pool

open PlainPool (Cleared Readies Spoils surface isReached)

/-! ## How a return ends -/

section ways

variable (config : Config) (reply : Replies κ ω ε) (key : κ)

/-- **A call about a resource that comes back panics**, before the resource is kept or destroyed. -/
inductive Interrupts (calls : List (Request κ ω)) (object : ω) :
    String → List (Request κ ω) → Prop where
  | validating {reason : String} (on : config.testOnReturn = true)
      (panics : reply calls (.validate key object) = .panicked reason) :
      Interrupts calls object reason (.validate key object :: calls)
  | passivating {cleared : List (Request κ ω)} {reason : String}
      (clears : Cleared config reply key calls object cleared)
      (panics : reply cleared (.passivate key object) = .panicked reason) :
      Interrupts calls object reason (.passivate key object :: cleared)

/-- **How a return of a loaned resource ends**, with so many idle ones under its key: the result,
how many loans are over, the resource that is kept, and the calls. -/
inductive ComesBack (isClosed : Bool) (number : Nat) (calls : List (Request κ ω)) (object : ω) :
    Result ω ε → Nat → Option ω → List (Request κ ω) → Prop where
  /-- The pool is closed. -/
  | shut (closed : isClosed = true) :
      ComesBack isClosed number calls object ((reply calls (.destroy key object)).orPanic .done)
        1 none (.destroy key object :: calls)
  /-- The resource cannot be kept. -/
  | spoiled {spent : List (Request κ ω)} (isOpen : isClosed = false)
      (spoils : Spoils config reply key calls object spent)
      (calm : reply.panics spent = reply.panics calls) :
      ComesBack isClosed number calls object
        ((reply spent (.destroy key object)).orPanic
          (surface (reply spent (.destroy key object)).error?))
        1 none (.destroy key object :: spent)
  /-- The resource could be kept, but there is no room. -/
  | crowded {ready : ω} {spent : List (Request κ ω)} (isOpen : isClosed = false)
      (readies : Readies config reply key calls object ready spent)
      (full : isReached config.idleLimit number = true) :
      ComesBack isClosed number calls object ((reply spent (.destroy key ready)).orPanic .done)
        1 none (.destroy key ready :: spent)
  /-- The resource is kept. -/
  | kept {ready : ω} {last : List (Request κ ω)} (isOpen : isClosed = false)
      (readies : Readies config reply key calls object ready last)
      (room : isReached config.idleLimit number = false) :
      ComesBack isClosed number calls object .done 1 (some ready) last
  /-- The return is cut short. -/
  | interrupted {reason : String} {last : List (Request κ ω)} (isOpen : isClosed = false)
      (interrupts : Interrupts config reply key calls object reason last) :
      ComesBack isClosed number calls object (.panicked reason) 0 none last

end ways

section readings

variable {config : Config} {reply : Replies κ ω ε} {key : κ} {calls last : List (Request κ ω)}
  {object : ω} {isClosed : Bool} {number ended : Nat} {result : Result ω ε} {kept : Option ω}

/-- Nothing is destroyed before the panic. -/
theorem Interrupts.destroysUnder_eq {reason : String}
    (interrupts : Interrupts config reply key calls object reason last) (place : κ) :
    destroysUnder place last = destroysUnder place calls := by
  cases interrupts with
  | validating on panics => exact destroysUnder_cons_validate place key object calls
  | passivating clears panics =>
    rw [destroysUnder_cons_passivate]
    cases clears with
    | untested off => rfl
    | tested on valid => exact destroysUnder_cons_validate place key object calls

/-- A loan is over unless the return is cut short. -/
theorem ComesBack.ended_cases
    (comesBack : ComesBack config reply key isClosed number calls object result ended kept last) :
    ended = 1 ∨ ended = 0 ∧ isClosed = false ∧ ∃ reason,
      result = .panicked reason ∧ Interrupts config reply key calls object reason last := by
  cases comesBack with
  | interrupted isOpen interrupts => exact .inr ⟨rfl, isOpen, _, rfl, interrupts⟩
  | _ => exact .inl rfl

/-- **A resource whose loan is over is kept or destroyed, and it is destroyed once.** -/
theorem ComesBack.destroysUnder_eq
    (comesBack : ComesBack config reply key isClosed number calls object result ended kept last) :
    destroysUnder key last + kept.toList.length = destroysUnder key calls + ended := by
  cases comesBack with
  | shut closed => rw [destroysUnder_cons_destroy, if_pos rfl]; rfl
  | spoiled isOpen spoils calm =>
    rw [destroysUnder_cons_destroy, if_pos rfl, spoils.destroysUnder_eq]
    rfl
  | crowded isOpen readies full =>
    rw [destroysUnder_cons_destroy, if_pos rfl, readies.destroysUnder_eq]
    rfl
  | kept isOpen readies room => rw [readies.destroysUnder_eq]; rfl
  | interrupted isOpen interrupts => rw [interrupts.destroysUnder_eq]; rfl

end readings

/-! ## The courses of a return -/

section courses

variable {config : Config} {reply : Replies κ ω ε} {key : κ} {slot : SlotId}
  {calls : List (Request κ ω)} {object : ω}

/-- The key of a return after so many of its loans are over and some resource is kept. -/
def settled (store : Store κ ω) (key : κ) (ended : Nat) (kept : Option ω) : Slot ω :=
  Holding.slot ⟨kept.toList ++ (store.live key).idle, (store.live key).active - ended⟩
    (store.live key).inFlight

/-- **A return ends in one of the ways that there are**, from some turn and some calls on. -/
def Returns (config : Config) (reply : Replies κ ω ε) (key : κ) (store : Store κ ω)
    (calls : List (Request κ ω)) (object : ω)
    (ends : Result ω ε × Pool κ ω ε × List (Request κ ω)) : Prop :=
  ∃ ended kept,
    ComesBack config reply key store.isSealed (store.live key).idle.length calls object ends.1 ended
      kept ends.2.2 ∧
    store.LeftWith key (settled store key ended kept) ends.2.1.store

/-- Ending a loan. -/
theorem leftWith_endLoan {pool : Pool κ ω ε} (sound : pool.store.Sound)
    (hid : pool.store.find? key = some slot) :
    pool.store.LeftWith key (settled pool.store key 1 none) (pool.endLoan key slot).store := by
  have hleft := Store.leftWith_update_prune sound hid Slot.release (sound.live_current key)
  have hslot : (pool.store.live key).release = settled pool.store key 1 none := by
    rw [Store.live_eq_slot sound]
    rfl
  rwa [hslot] at hleft

variable (reply) in
/-- **A loan is ended, and the resource is destroyed**: if that fails, the failure is the result. -/
theorem complete_scrap (pool : Pool κ ω ε) (key : κ) (slot : SlotId) (object : ω)
    (calls : List (Request κ ω)) :
    ∃ last, OnlyNoted (pool.endLoan key slot) last ∧
      complete reply.factory (pool.scrap key slot object) calls =
        ((reply calls (.destroy key object)).orPanic
          (surface (reply calls (.destroy key object)).error?), last,
          .destroy key object :: calls) := by
  unfold scrap destroy
  rw [complete_call]
  simp only [Stage.request]
  cases reply calls (.destroy key object) with
  | failed error =>
    exact ⟨((pool.endLoan key slot).count .destroyed).count .destroyFailures, ⟨rfl, rfl⟩,
      complete_finish _ _ _ _⟩
  | _ =>
    exact ⟨(pool.endLoan key slot).count .destroyed, ⟨rfl, rfl⟩, complete_finish _ _ _ _⟩

/-- A resource that cannot be kept. -/
theorem returns_scrap (pool : Pool κ ω ε) (sound : pool.store.Sound)
    (hid : pool.store.find? key = some slot) (isOpen : pool.isClosed = false)
    {spent : List (Request κ ω)} (spoils : Spoils config reply key calls object spent)
    (calm : reply.panics spent = reply.panics calls) :
    Returns config reply key pool.store calls object
      (complete reply.factory (pool.scrap key slot object) spent) := by
  obtain ⟨last, hnoted, heq⟩ := complete_scrap reply pool key slot object spent
  rw [heq]
  refine ⟨1, none, .spoiled isOpen spoils calm, ?_⟩
  rw [hnoted.store_eq]
  exact leftWith_endLoan sound hid

/-- What an open store does with a resource that comes back. -/
theorem checkIn_of_open {store : Store κ ω} (sound : store.Sound)
    (hid : store.find? key = some slot) (loaned : (store.live key).active ≠ 0)
    (isOpen : store.isSealed = false) (object : ω) :
    store.checkIn slot object =
      if isReached store.idleLimit (store.live key).idle.length = true
        then (.rejected .full object, store.release slot)
        else (.accepted, (store.release slot).update slot fun slot => slot.push object) := by
  have hrelease := Store.becomes_update sound hid Slot.release (sound.live_current key)
  have hlinked : (store.release slot).find? key = some slot := hid
  have hfull : (store.release slot).isFull slot =
      isReached store.idleLimit (store.live key).idle.length := by
    rw [Store.isFull_eq hlinked]
    unfold Store.release
    rw [hrelease.live_eq, Function.update_self]
    rfl
  have hsealed : (store.release slot).isSealed = false := isOpen
  unfold Store.checkIn Store.offer
  rw [← Store.live_of_find? hid, if_neg loaned, hsealed, hfull]
  rfl

/-- A resource that is ready is kept or, for lack of room, destroyed. -/
theorem returns_settle {pool : Pool κ ω ε} (sound : pool.store.Sound)
    (idleLimit_eq : pool.store.idleLimit = config.idleLimit)
    (hid : pool.store.find? key = some slot) (loaned : (pool.store.live key).active ≠ 0)
    (isOpen : pool.isClosed = false) {ready : ω} {spent : List (Request κ ω)}
    (readies : Readies config reply key calls object ready spent) :
    Returns config reply key pool.store calls object
      (complete reply.factory (pool.settle key slot ready) spent) := by
  have hchecked := checkIn_of_open sound hid loaned isOpen ready
  rw [idleLimit_eq] at hchecked
  cases hroom : isReached config.idleLimit (pool.store.live key).idle.length with
  | true =>
    rw [hroom, if_pos rfl] at hchecked
    have hsettle : pool.settle key slot ready =
        (pool.endLoan key slot).destroyQuietly key ready (.conclude .done) := by
      unfold settle
      rw [hchecked]
      rfl
    obtain ⟨last, hnoted, heq⟩ :=
      (pool.endLoan key slot).complete_conclude reply spent key ready .done
    rw [hsettle, heq]
    refine ⟨1, none, .crowded isOpen readies hroom, ?_⟩
    rw [hnoted.store_eq]
    exact leftWith_endLoan sound hid
  | false =>
    rw [hroom, if_neg Bool.false_ne_true] at hchecked
    have hrelease := Store.becomes_update sound hid Slot.release (sound.live_current key)
    have hpush := Store.becomes_update hrelease.sound hid (fun slot => slot.push ready)
      (hrelease.sound.live_current key)
    rw [funext hrelease.live_eq, Function.update_self, Function.update_idem] at hpush
    have hbecomes := hrelease.trans hpush fun _ h => h
    have hslot : (pool.store.live key).release.push ready =
        settled pool.store key 1 (some ready) := by
      rw [Store.live_eq_slot sound]
      rfl
    rw [hslot] at hbecomes
    have hends : complete reply.factory (pool.settle key slot ready) spent =
        (.done, ({ pool with store := (pool.store.checkIn slot ready).2 } : Pool κ ω ε).count
          .returned, spent) := by
      unfold settle
      rw [hchecked]
      exact complete_finish _ _ _ _
    rw [hends, hchecked]
    refine ⟨1, some ready, .kept isOpen readies hroom, ?_⟩
    exact Store.leftWith_of_held hbecomes (fun _ _ => rfl)
      (Store.not_vacant (.inl (List.cons_ne_nil _ _)))

/-- A return that is cut short leaves its key as it was. -/
theorem returns_interrupted {pool : Pool κ ω ε} (sound : pool.store.Sound)
    (hid : pool.store.find? key = some slot) (loaned : (pool.store.live key).active ≠ 0)
    (isOpen : pool.isClosed = false) {reason : String} {last : List (Request κ ω)}
    (interrupts : Interrupts config reply key calls object reason last) :
    Returns config reply key pool.store calls object
      (complete reply.factory (pool.finish (.panicked reason)) last) := by
  have hsame : pool.store.live key = settled pool.store key 0 none := Store.live_eq_slot sound key
  rw [complete_finish]
  refine ⟨0, none, .interrupted isOpen interrupts, hsame, ?_, .refl key pool.store⟩
  have hheld : (settled pool.store key 0 none).isVacant = false :=
    Store.not_vacant (.inr (.inl (Nat.pos_of_ne_zero loaned)))
  simp [hid, hheld]

/-- A resource with nothing found against it is passivated. -/
theorem returns_keep {pool : Pool κ ω ε} (sound : pool.store.Sound)
    (idleLimit_eq : pool.store.idleLimit = config.idleLimit)
    (hid : pool.store.find? key = some slot) (loaned : (pool.store.live key).active ≠ 0)
    (isOpen : pool.isClosed = false) {cleared : List (Request κ ω)}
    (clears : Cleared config reply key calls object cleared)
    (calm : reply.panics cleared = reply.panics calls) :
    Returns config reply key pool.store calls object
      (complete reply.factory (pool.await (.passivating key slot object)) cleared) := by
  rw [complete_call]
  simp only [Stage.request]
  cases hanswer : reply cleared (.passivate key object) with
  | done ready =>
    exact returns_settle sound idleLimit_eq hid loaned isOpen
      (.passivated clears (by rw [hanswer]; rfl))
  | refused ready =>
    exact returns_settle sound idleLimit_eq hid loaned isOpen
      (.passivated clears (by rw [hanswer]; rfl))
  | failed error =>
    have hcalm : reply.panics (.passivate key object :: cleared) = reply.panics calls := by
      rw [Replies.panics_of_survived (by simp [hanswer]), calm]
    exact returns_scrap ((pool.count .passivationFailures).note _) sound hid isOpen
      (.unready clears hanswer) hcalm
  | panicked reason =>
    exact returns_interrupted sound hid loaned isOpen (.passivating clears hanswer)

/-- A resource is validated before it is kept, if that is configured. -/
theorem returns_keepValid {pool : Pool κ ω ε} (sound : pool.store.Sound)
    (idleLimit_eq : pool.store.idleLimit = config.idleLimit)
    (hid : pool.store.find? key = some slot) (loaned : (pool.store.live key).active ≠ 0)
    (isOpen : pool.isClosed = false) (on : config.testOnReturn = true) :
    Returns config reply key pool.store calls object
      (complete reply.factory (pool.await (.inspecting key slot object)) calls) := by
  rw [complete_call]
  simp only [Stage.request]
  have hscrapped : ∀ entry, (∀ same, reply calls (.validate key object) ≠ .done same) →
      (∀ reason, reply calls (.validate key object) ≠ .panicked reason) →
      Returns config reply key pool.store calls object
        (complete reply.factory
          (((pool.count .validationFailures).note entry).scrap key slot object)
          (.validate key object :: calls)) := by
    intro entry hinvalid hsurvives
    exact returns_scrap ((pool.count .validationFailures).note entry) sound hid isOpen
      (.invalid on hinvalid) (Replies.panics_of_survived hsurvives)
  cases hanswer : reply calls (.validate key object) with
  | done same =>
    exact returns_keep sound idleLimit_eq hid loaned isOpen (.tested on hanswer)
      (Replies.panics_of_survived (by simp [hanswer]))
  | refused same => exact hscrapped _ (by simp [hanswer]) (by simp [hanswer])
  | failed error => exact hscrapped _ (by simp [hanswer]) (by simp [hanswer])
  | panicked reason =>
    exact returns_interrupted sound hid loaned isOpen (.validating on hanswer)

variable (reply) in
/-- **Every return of a loaned resource ends in one of the ways that there are.** -/
theorem returns_run {pool : Pool κ ω ε} (sound : pool.store.Sound)
    (config_eq : pool.config = config) (idleLimit_eq : pool.store.idleLimit = config.idleLimit)
    (key : κ) (loaned : (pool.store.live key).active ≠ 0) (object : ω)
    (calls : List (Request κ ω)) :
    Returns config reply key pool.store calls object
      (pool.run reply.factory (.giveBack key object) calls) := by
  have hheld : (pool.store.live key).isVacant = false :=
    Store.not_vacant (.inr (.inl (Nat.pos_of_ne_zero loaned)))
  obtain ⟨slot, hid⟩ := Store.find?_of_live hheld
  have hslot : (pool.store.slot slot).active ≠ 0 := by rwa [← Store.live_of_find? hid]
  show Returns config reply key pool.store calls object
    (complete reply.factory (pool.giveBack key object) calls)
  unfold giveBack
  rw [hid]
  simp only [if_neg hslot]
  cases hclosed : pool.isClosed with
  | true =>
    rw [if_pos rfl]
    obtain ⟨last, hnoted, heq⟩ :=
      (pool.endLoan key slot).complete_conclude reply calls key object .done
    rw [heq]
    refine ⟨1, none, .shut hclosed, ?_⟩
    rw [hnoted.store_eq]
    exact leftWith_endLoan sound hid
  | false =>
    rw [if_neg Bool.false_ne_true, config_eq]
    cases htest : config.testOnReturn with
    | true => exact returns_keepValid sound idleLimit_eq hid loaned hclosed htest
    | false => exact returns_keep sound idleLimit_eq hid loaned hclosed (.untested htest) rfl

end courses

/-! ## Returns -/

section returns

variable {config : Config} {session : Session κ ω ε}

/-- **A return ends its loan unless a panic comes first.** In any state that can be reached, also
while other operations wait, a loaned resource is returned, by its client or by a guard that is
released or dropped, with a factory that does not use the pool but may fail and panic at any call.
The return ends as `ComesBack` says. Either its loan is over, or the pool is open, the validation or
the passivation of the resource has panicked, and the loan is not over. If it is over then the
resource is idle, behind no other, or it has been given to the factory once to be destroyed, also if
that panicked, and the key is below its limit; if it is not over then the resource is neither idle
nor destroyed. Nothing else has been changed, and a client with a handle finds all that. -/
theorem freed_unless_interrupted (reachable : Session.Reachable config session)
    {action : Action κ ω} {key : κ} {object : ω}
    (starts : session.operation? action = some (.giveBack key object))
    (loaned : session.pool.numActive key ≠ 0) (reply : Replies κ ω ε)
    (calls : List (Request κ ω)) :
    ∃ result ended kept last calls',
      session.pool.run reply.factory (.giveBack key object) calls = (result, last, calls') ∧
      ComesBack config reply key session.pool.isClosed (session.pool.numIdle key) calls object
        result ended kept calls' ∧
      (ended = 1 ∨ ended = 0 ∧ session.pool.isClosed = false ∧ ∃ reason,
        result = .panicked reason ∧ Interrupts config reply key calls object reason calls') ∧
      last.numActive key + ended = session.pool.numActive key ∧
      (last.store.live key).idle = kept.toList ++ (session.pool.store.live key).idle ∧
      destroysUnder key calls' + kept.toList.length = destroysUnder key calls + ended ∧
      (ended = 1 → Store.isAtLimit config.activeLimit (last.store.live key) = false) ∧
      last.store.numInFlight key = session.pool.store.numInFlight key ∧
      (last.store.find? key = none ↔ (last.store.live key).isVacant = true) ∧
      (∀ other, other ≠ key → last.store.live other = session.pool.store.live other ∧
        last.store.find? other = session.pool.store.find? other) ∧
      (session.handles ≠ 0 → ∃ outcome after told, session.act? action = some outcome ∧
        Session.Answers reply.factory outcome calls (after, some told) calls' ∧
        after.pool.store = last.store) := by
  have hinOrder := Session.reachable_inOrder reachable
  have hactive : session.pool.numActive key = (session.pool.store.live key).active :=
    session.pool.store.numActive_eq key
  rw [hactive] at loaned
  have hreturns := returns_run reply hinOrder.orderly.sound hinOrder.config_eq
    (Session.idleLimit_of_reachable reachable) key loaned object calls
  have hanswers := fun handled => Session.giveBack_run reply.factory starts handled calls
  generalize hruns : session.pool.run reply.factory (.giveBack key object) calls = ends
    at hreturns hanswers
  obtain ⟨result, last, calls'⟩ := ends
  obtain ⟨ended, kept, hcomesBack, hleft⟩ := hreturns
  have hidle : session.pool.numIdle key = (session.pool.store.live key).idle.length :=
    session.pool.store.numIdle_eq key
  have hlast : last.numActive key = (session.pool.store.live key).active - ended := by
    show last.store.numActive key = _
    rw [Store.numActive_eq, hleft.live_eq]
    rfl
  have hcases := hcomesBack.ended_cases
  have hended : last.numActive key + ended = session.pool.numActive key := by
    rw [hlast, hactive]
    rcases hcases with rfl | ⟨rfl, -⟩ <;> omega
  have hunlinked := hleft.unlinked
  rw [← hleft.live_eq] at hunlinked
  refine ⟨result, ended, kept, last, calls', rfl, hidle ▸ hcomesBack, hcases, hended, ?_,
    hcomesBack.destroysUnder_eq, ?_, ?_, hunlinked, fun other ne => ⟨hleft.apart.live_eq other ne,
      hleft.apart.find?_eq other ne⟩, hanswers⟩
  · rw [hleft.live_eq]
    rfl
  · rintro rfl
    rw [hleft.live_eq]
    cases hlimit : config.activeLimit with
    | none => rfl
    | some limit =>
      -- the key was within its limit, and one of its loans is over
      have hwithin := hinOrder.orderly.capacity key limit (by rw [hinOrder.config_eq, hlimit])
      refine decide_eq_false ?_
      show ¬limit ≤
        (session.pool.store.live key).active - 1 + (session.pool.store.live key).inFlight
      omega
  · unfold Store.numInFlight
    rw [hleft.live_eq]
    rfl

/-- A pool with one loan under a key at most, which tests what comes back. -/
def strictly : Config := Config.standard.withTestOnReturn.withMaxActive 1

/-- The replies of a factory that finds everything usable and panics when it is to destroy. It
cannot passivate anything. -/
def clumsy : Replies Nat Nat String := fun _ request =>
  match request with
  | .create _ => .done 7
  | .activate _ object | .validate _ object => .done object
  | .passivate .. => .failed "torn"
  | .destroy .. => .panicked "boom"

/-- A guard is dropped whose resource cannot be destroyed without a panic, and its loan is over. -/
theorem freed_by_clumsy : ∃ log session result last calls,
    Session.replay strictly [.act (.get 0), .answer (.done 7), .answer (.done 7)] =
      some (log, session) ∧
    session.operation? (.dropGuard 0) = some (.giveBack 0 7) ∧ session.pool.numActive 0 = 1 ∧
    session.pool.run clumsy.factory (.giveBack 0 7) [] = (result, last, calls) ∧
    result = .panicked "boom" ∧ last.numActive 0 = 0 ∧ destroysUnder 0 calls = 1 ∧
    Store.isAtLimit strictly.activeLimit (last.store.live 0) = false := by
  have hfits : ∀ past ∈ Session.replay strictly
      ([.act (.get 0), .answer (.done 7), .answer (.done 7)] :
        List (Session.Event Nat Nat String)),
      past.2.operation? (.dropGuard 0) = some (.giveBack 0 7) ∧ past.2.pool.numActive 0 = 1 ∧
        past.2.pool.isClosed = false := by
    decide +kernel
  have hplays : (Session.replay strictly
      ([.act (.get 0), .answer (.done 7), .answer (.done 7)] :
        List (Session.Event Nat Nat String))).isSome = true := by
    decide +kernel
  obtain ⟨⟨log, session⟩, hpast⟩ := Option.isSome_iff_exists.mp hplays
  obtain ⟨hstarts, hactive, hopen⟩ := hfits _ hpast
  obtain ⟨result, ended, kept, last, calls, hruns, hcomesBack, -, hended, -, hdestroyed, hroom,
    -⟩ :=
    freed_unless_interrupted (Session.history_of_replay hpast).reachable hstarts
      (by rw [hactive]; exact Nat.one_ne_zero) clumsy []
  have hnone : destroysUnder 0 ([] : List (Request Nat Nat)) = 0 := rfl
  rw [hopen] at hcomesBack
  cases hcomesBack with
  | shut closed => cases closed
  | crowded isOpen readies full =>
    obtain ⟨-, hpassivates⟩ := readies
    cases hpassivates
  | kept isOpen readies room =>
    obtain ⟨-, hpassivates⟩ := readies
    cases hpassivates
  | interrupted isOpen interrupts =>
    cases interrupts with
    | validating on panics => cases panics
    | passivating clears panics => cases panics
  | spoiled isOpen spoils calm =>
    refine ⟨log, session, _, last, _, hpast, hstarts, hactive, hruns, rfl, ?_, ?_, hroom rfl⟩
    · exact Nat.succ.inj (hended.trans hactive)
    · rw [hnone] at hdestroyed
      exact hdestroyed

/-- A resource is on loan after some events and nothing else is there. After some more, of which one
is a panic, its return has ended; but it is still counted as on loan, it is neither idle nor
destroyed, and a borrow is refused. -/
def Holds (events last : List (Session.Event Nat Nat String)) : Prop :=
  (Session.replay strictly events).any (fun past =>
      past.2.running.isEmpty && past.2.pool.numActive 0 == 1) = true ∧
    (Session.replay strictly (events ++ last)).any (fun past =>
      past.2.running.isEmpty && past.2.pool.numActive 0 == 1 && past.2.pool.numIdle 0 == 0 &&
        past.2.pool.tally.destroyed == 0 &&
        past.1.countP (fun move => move.event.isPanic) == 1) = true ∧
    (Session.replay strictly (events ++ last ++ [.act (.call (.borrow 0))])).any (fun past =>
      past.1.head?.any fun move => move.reply = some (.result (.failed .atCapacity))) = true

/-- **Returns do keep loans**: a validation or a passivation that panics leaves the loan of its
resource counted, whether the client returns the resource or a guard is released or dropped. -/
theorem held_after_interruption :
    (∀ answers ∈ [[.answer (.panicked "boom")],
        [.answer (.done 7), .answer (.panicked "boom")]],
      Holds [.act (.call (.borrow 0)), .answer (.done 7), .answer (.done 7)]
        (.act (.call (.giveBack 0 7)) :: answers)) ∧
    ∀ action ∈ [Action.release 0, .dropGuard 0],
      Holds [.act (.get 0), .answer (.done 7), .answer (.done 7)]
        [.act action, .answer (.done 7), .answer (.panicked "boom")] := by
  unfold Holds
  decide +kernel

end returns

end Pool

end ResourcePool
