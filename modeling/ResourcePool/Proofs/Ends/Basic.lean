import ResourcePool.Proofs.Plain.Losses

/-!
# How operations end

An operation that is answered by a factory that only answers goes on until it is over, also while
other operations wait. This module looks at the ends that operations have in common, for any
answers: a destroy that is survived or panics, and what becomes of the other keys and the other
operations.

* `Answer.isPanic`, `Replies.panics` — how many of some calls panicked.
* `Tally.disposed` — what is counted of a destroy.
* `Store.Apart` — an operation on one key leaves the others alone.
* `Pool.Orderly.run` — an operation that is over leaves the operations that wait what they have.
* `Pool.OnlyNoted` — an operation has counted and noted things, and nothing else.
* `Pool.complete_disposed`, `Pool.complete_survived`, `Pool.complete_panicked` — a destroy after
  which an operation goes on, and one that ends it; `Pool.complete_conclude` — an operation that
  destroys at its end.
-/

set_option linter.unusedSectionVars false

namespace ResourcePool

variable {κ ω ε : Type} [DecidableEq κ]

/-! ## Panics -/

/-- Whether a call panicked. -/
def Answer.isPanic : Answer ω ε → Bool
  | .panicked _ => true
  | _ => false

/-- How many of some calls panicked, the latest first. -/
def Replies.panics (reply : Replies κ ω ε) : List (Request κ ω) → Nat
  | [] => 0
  | request :: calls => reply.panics calls + if (reply calls request).isPanic then 1 else 0

section panics

variable {reply : Replies κ ω ε} {calls : List (Request κ ω)} {request : Request κ ω}

/-- The last call adds its panic to those before. -/
theorem Replies.panics_cons : reply.panics (request :: calls) =
    reply.panics calls + if (reply calls request).isPanic then 1 else 0 := rfl

/-- A call that is survived. -/
theorem Replies.panics_of_survived
    (survives : ∀ reason, reply calls request ≠ .panicked reason) :
    reply.panics (request :: calls) = reply.panics calls := by
  rw [panics_cons]
  cases hanswer : reply calls request with
  | panicked reason => exact absurd hanswer (survives reason)
  | _ => rfl

/-- A call that panics. -/
theorem Replies.panics_of_panicked {reason : String}
    (panics : reply calls request = .panicked reason) :
    reply.panics (request :: calls) = reply.panics calls + 1 := by
  rw [panics_cons, panics]
  rfl

/-- Panics only become more. -/
theorem Replies.panics_le : reply.panics calls ≤ reply.panics (request :: calls) :=
  Nat.le_add_right _ _

/-- A step that succeeds has not panicked. -/
theorem Answer.not_panicked_of_success {answer : Answer ω ε} {object : ω}
    (success : answer.success? = some object) (reason : String) : answer ≠ .panicked reason := by
  rintro rfl
  cases success

/-- What comes of a destroy at the end of an operation. -/
theorem Answer.orPanic_cases (answer : Answer ω ε) (result : Result ω ε) :
    (answer.orPanic result = result ∧ ∀ reason, answer ≠ .panicked reason) ∨
      ∃ reason, answer = .panicked reason ∧ answer.orPanic result = .panicked reason := by
  cases answer with
  | panicked reason => exact .inr ⟨reason, rfl, rfl⟩
  | _ => exact .inl ⟨rfl, fun _ h => nomatch h⟩

end panics

/-- What is counted of a destroy, with its answer. -/
def Tally.disposed (tally : Tally) : Answer ω ε → Tally
  | .failed _ => (tally.bump .destroyed).bump .destroyFailures
  | _ => tally.bump .destroyed

/-! ## Other keys -/

/-- **An operation on one key leaves the others alone**: what they have, and the slots that they
have it in. -/
structure Store.Apart (key : κ) (store next : Store κ ω) : Prop where
  live_eq : ∀ other, other ≠ key → next.live other = store.live other
  find?_eq : ∀ other, other ≠ key → next.find? other = store.find? other

namespace Store

variable {key : κ} {store next last : Store κ ω}

/-- A store is the same as itself apart from any key. -/
theorem Apart.refl (key : κ) (store : Store κ ω) : Apart key store store :=
  ⟨fun _ _ => rfl, fun _ _ => rfl⟩

/-- Two changes that leave the other keys alone, one after the other. -/
theorem Apart.trans (first : Apart key store next) (second : Apart key next last) :
    Apart key store last where
  live_eq other ne := (second.live_eq other ne).trans (first.live_eq other ne)
  find?_eq other ne := (second.find?_eq other ne).trans (first.find?_eq other ne)

/-- What changes the slot of a key and no links. -/
theorem Becomes.apart {slot : Slot ω}
    (becomes : store.Becomes next (Function.update store.live key slot))
    (find?_eq : ∀ other, other ≠ key → next.find? other = store.find? other) :
    Apart key store next where
  live_eq other ne := by rw [becomes.live_eq, Function.update_of_ne ne]
  find?_eq := find?_eq

/-- Pruning a key leaves the other keys alone. -/
theorem apart_prune (sound : store.Sound) (key : κ) : Apart key store (store.prune key).2 where
  live_eq other _ := (becomes_prune sound key).live_eq other
  find?_eq other ne := by rw [find?_prune sound, if_neg fun h => ne h.1]

/-- So does opening a slot for it. -/
theorem apart_openSlot (sound : store.Sound) (key : κ) :
    Apart key store (store.openSlot key).2 where
  live_eq other _ := (becomes_openSlot sound key).live_eq other
  find?_eq other ne := by rw [find?_openSlot, if_neg ne]

/-- After it has been pruned, a key has a slot if and only if something is under it. -/
theorem find?_prune_eq_none {id : SlotId} (sound : store.Sound)
    (hid : store.find? key = some id) :
    (store.prune key).2.find? key = none ↔ (store.live key).isVacant = true := by
  rw [find?_prune sound]
  constructor
  · intro hnone
    by_contra hheld
    rw [if_neg fun h => hheld h.2, hid] at hnone
    cases hnone
  · intro hvacant
    rw [if_pos ⟨rfl, hvacant⟩]

/-- **What an operation on one key leaves**: the given slot under the key, or no slot if nothing is
in it, and the other keys as they were. -/
structure LeftWith (store : Store κ ω) (key : κ) (slot : Slot ω) (next : Store κ ω) : Prop where
  live_eq : next.live key = slot
  unlinked : next.find? key = none ↔ slot.isVacant = true
  apart : Apart key store next

/-- The key is left with the slot, and the others with what they had. -/
theorem LeftWith.live_update {slot : Slot ω} (left : LeftWith store key slot next) :
    next.live = Function.update store.live key slot := by
  funext other
  by_cases hkey : other = key
  · rw [hkey, Function.update_self]
    exact left.live_eq
  · rw [Function.update_of_ne hkey]
    exact left.apart.live_eq other hkey

/-- Changing the slot of a key and unlinking it if nothing is left there. -/
theorem leftWith_update_prune (sound : store.Sound) {id : SlotId}
    (hid : store.find? key = some id) (change : Slot ω → Slot ω)
    (current : (change (store.live key)).retired = false) :
    LeftWith store key (change (store.live key)) ((store.update id change).prune key).2 := by
  have hupdate := becomes_update sound hid change current
  have hlive : (store.update id change).live key = change (store.live key) := by
    rw [hupdate.live_eq, Function.update_self]
  refine ⟨?_, ?_, ?_⟩
  · rw [(becomes_prune hupdate.sound key).live_eq, hlive]
  · rw [← hlive]
    exact find?_prune_eq_none hupdate.sound hid
  · exact (hupdate.apart fun _ _ => rfl).trans (apart_prune hupdate.sound key)

/-- An operation that leaves something under its key, and so its slot. -/
theorem leftWith_of_held {slot : Slot ω}
    (becomes : store.Becomes next (Function.update store.live key slot))
    (find?_eq : ∀ other, other ≠ key → next.find? other = store.find? other)
    (held : slot.isVacant = false) : LeftWith store key slot next := by
  have hlive : next.live key = slot := by rw [becomes.live_eq, Function.update_self]
  obtain ⟨id, hid⟩ := find?_of_live (hlive ▸ held)
  exact ⟨hlive, by simp [hid, held], becomes.apart find?_eq⟩

/-- A slot in use is what it holds, with its reservations. -/
theorem live_eq_slot (sound : store.Sound) (key : κ) : store.live key =
    Holding.slot ⟨(store.live key).idle, (store.live key).active⟩ (store.live key).inFlight := by
  have hcurrent := sound.live_current key
  generalize store.live key = slot at hcurrent
  obtain ⟨idle, active, inFlight, retired⟩ := slot
  cases hcurrent
  rfl

end Store

/-! ## Ends -/

namespace Pool

/-! ### Other operations -/

section others

variable {σ : Type} (factory : Factory σ κ ω ε) {rest : List (Stage κ ω ε)}

/-- From any turn on, by induction on the answers: each turn keeps the order. -/
theorem Orderly.complete (turn : Turn κ ω ε) (state : σ)
    (orderly : Orderly turn.1 (turn.2.stages ++ rest)) :
    Orderly (Pool.complete factory turn state).2.1 rest ∧
      (Pool.complete factory turn state).2.1.config = turn.1.config ∧
      (Pool.complete factory turn state).2.1.store.rules = turn.1.store.rules := by
  induction turn, state using Pool.complete.induct factory with
  | case1 state pool result =>
    have hfinish := complete_finish factory pool result state
    unfold finish at hfinish
    rw [hfinish]
    exact ⟨orderly, rfl, rfl⟩
  | case2 state pool stage answer next hanswer ih =>
    have hawait := complete_await factory pool stage state
    unfold await at hawait
    obtain ⟨rfl, rfl⟩ := Prod.mk.inj hanswer
    rw [hawait]
    have horderly : Orderly pool (stage :: rest) := orderly
    have hholds := horderly.holds List.mem_cons_self
    have hstands := horderly.stands stage List.mem_cons_self
    have hsteady := steady_resume pool horderly.sound stage hholds hstands
      (factory stage.request state).1
    obtain ⟨deed, hdoes⟩ := pool.does_resume horderly.sound stage hholds hstands
      (factory stage.request state).1
    obtain ⟨hlast, hconfig, hrules⟩ := ih (horderly.resume _)
    exact ⟨hlast, hconfig.trans hsteady.config_eq, hrules.trans hdoes.rules_eq⟩

/-- **An operation that is run to its end** leaves the pool in order for the operations that wait,
and it leaves the rules as they were unless it closes the pool. -/
theorem Orderly.run {pool : Pool κ ω ε} (orderly : Orderly pool rest) {operation : Operation κ ω}
    (other : operation ≠ .close) (state : σ) :
    Orderly (pool.run factory operation state).2.1 rest ∧
      (pool.run factory operation state).2.1.config = pool.config ∧
      (pool.run factory operation state).2.1.store.rules = pool.store.rules := by
  obtain ⟨hlast, hconfig, hrules⟩ :=
    Orderly.complete factory (pool.start operation) state (orderly.start operation)
  obtain ⟨deed, hdoes⟩ := pool.does_start orderly.sound other
  exact ⟨hlast, hconfig.trans (steady_start pool orderly.sound operation).config_eq,
    hrules.trans hdoes.rules_eq⟩

end others

/-! ### Destroys -/

/-- **Something has been counted and noted**, and nothing else has been done. -/
structure OnlyNoted (pool next : Pool κ ω ε) : Prop where
  config_eq : next.config = pool.config
  store_eq : next.store = pool.store

/-- Counting and noting is all that is done. -/
theorem onlyNoted_count_note (pool : Pool κ ω ε) (event : Counter) (entry : Note κ ε) :
    OnlyNoted pool ((pool.count event).note entry) := ⟨rfl, rfl⟩

section ends

variable (pool : Pool κ ω ε) (reply : Replies κ ω ε) (calls : List (Request κ ω)) (key : κ)
  (object : ω)

/-- A call is answered, and the operation goes on. -/
theorem complete_call (stage : Stage κ ω ε) :
    complete reply.factory (pool.await stage) calls =
      complete reply.factory (pool.resume stage (reply calls stage.request))
        (stage.request :: calls) := complete_await reply.factory pool stage calls

/-- **A destroy that is survived**, also if it fails: it is counted, and the operation goes on. -/
theorem complete_disposed (sequel : Sequel κ ω ε)
    (survives : ∀ reason, reply calls (.destroy key object) ≠ .panicked reason) :
    ∃ next, OnlyNoted pool next ∧
      next.tally = pool.tally.disposed (reply calls (.destroy key object)) ∧
      complete reply.factory (pool.destroyQuietly key object sequel) calls =
        complete reply.factory (next.proceed key sequel) (.destroy key object :: calls) := by
  unfold destroyQuietly destroy
  rw [complete_call]
  simp only [Stage.request]
  cases hanswer : reply calls (.destroy key object) with
  | panicked reason => exact absurd hanswer (survives reason)
  | done same =>
    refine ⟨pool.count .destroyed, ⟨rfl, rfl⟩, rfl, ?_⟩
    rfl
  | refused same =>
    refine ⟨pool.count .destroyed, ⟨rfl, rfl⟩, rfl, ?_⟩
    rfl
  | failed error =>
    refine ⟨((pool.count .destroyed).count .destroyFailures).note (.destroyFailed key error),
      ⟨rfl, rfl⟩, rfl, ?_⟩
    rfl

/-- An operation goes on after a destroy that does not panic. -/
theorem complete_survived (sequel : Sequel κ ω ε)
    (survives : ∀ reason, reply calls (.destroy key object) ≠ .panicked reason) :
    ∃ next, OnlyNoted pool next ∧
      complete reply.factory (pool.destroyQuietly key object sequel) calls =
        complete reply.factory (next.proceed key sequel) (.destroy key object :: calls) := by
  obtain ⟨next, hnoted, -, heq⟩ := pool.complete_disposed reply calls key object sequel survives
  exact ⟨next, hnoted, heq⟩

/-- **A destroy that panics** ends the operation. -/
theorem complete_panicked (aftermath : Aftermath κ ω ε) {reason : String}
    (panics : reply calls (.destroy key object) = .panicked reason) :
    ∃ next, OnlyNoted pool next ∧
      complete reply.factory (pool.destroy key object aftermath) calls =
        complete reply.factory (next.afterDestroyPanic reason aftermath)
          (.destroy key object :: calls) := by
  refine ⟨pool.count .destroyed, ⟨rfl, rfl⟩, ?_⟩
  unfold destroy
  rw [complete_call]
  simp only [Stage.request, panics]
  rfl

/-- **An operation that ends with a destroy** of whose failure nobody hears. -/
theorem complete_conclude (result : Result ω ε) :
    ∃ next, OnlyNoted pool next ∧
      complete reply.factory (pool.destroyQuietly key object (.conclude result)) calls =
        ((reply calls (.destroy key object)).orPanic result, next,
          .destroy key object :: calls) := by
  rcases (reply calls (.destroy key object)).orPanic_cases result with
    ⟨hresult, hsurvives⟩ | ⟨reason, hpanics, hresult⟩
  · obtain ⟨next, hnoted, heq⟩ :=
      pool.complete_survived reply calls key object (.conclude result) hsurvives
    refine ⟨next, hnoted, ?_⟩
    rw [heq, hresult]
    exact complete_finish _ _ _ _
  · obtain ⟨next, hnoted, heq⟩ :=
      pool.complete_panicked reply calls key object (.quietly (.conclude result)) hpanics
    refine ⟨next, hnoted, ?_⟩
    unfold destroyQuietly
    rw [heq, hresult]
    exact complete_finish _ _ _ _

end ends

end Pool

end ResourcePool
