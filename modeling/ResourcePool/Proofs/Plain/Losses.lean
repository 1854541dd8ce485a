import ResourcePool.Proofs.Plain.Rest
import ResourcePool.Proofs.Plain.Separation
import ResourcePool.Proofs.Session.Closing

/-!
# What panics lose

An addition has a fresh resource in hand while it calls the factory, and clearing and closing have
all resources in hand that were idle. A borrow destroys what it has in hand when a call panics.
These operations do not, and this module says exactly what is lost then and what is not.

* `Replies.creations`, `destroysUnder` — the resources that were created under a key and those that
  were given to the factory to destroy.
* `Sweeps`, `Adds` — how resources that have been taken out are destroyed one after another, and how
  a resource is added, with what is lost.
* `lost_in_panics` — a key lacks afterwards exactly what these operations lose, and that is nothing
  unless a passivation panics, or a destroy that is not the last.
-/

set_option linter.unusedSectionVars false

namespace ResourcePool

variable {κ ω ε : Type} [DecidableEq κ]

/-! ## Counting calls -/

/-- How many resources a factory has created for a key in some calls, the latest first. -/
def Replies.creations (reply : Replies κ ω ε) (key : κ) : List (Request κ ω) → Nat
  | [] => 0
  | .create place :: calls =>
    reply.creations key calls +
      if place = key ∧ (reply calls (.create place)).success?.isSome then 1 else 0
  | _ :: calls => reply.creations key calls

/-- The first entry is one more under its key. -/
@[simp] theorem length_listedUnder_cons {α : Type} (place key : κ) (value : α)
    (entries : List (κ × α)) : (listedUnder place ((key, value) :: entries)).length =
      (listedUnder place entries).length + if key = place then 1 else 0 := by
  rw [listedUnder_cons]
  split <;> rfl

/-- The result of an operation that ends with the answer to a destroy. -/
def Answer.orPanic (answer : Answer ω ε) (result : Result ω ε) : Result ω ε :=
  match answer with
  | .panicked reason => .panicked reason
  | _ => result

namespace PlainPool

/-! ## What is lost -/

section losses

variable (config : Config) (reply : Replies κ ω ε) (key : κ)

/-- **Resources are destroyed one after another**, whatever the answers, up to the first destroy
that panics. The resources that were still to come are lost then. -/
inductive Sweeps : List (κ × ω) → List (Request κ ω) → Result ω ε → List (κ × ω) →
    List (Request κ ω) → Prop where
  | done (calls : List (Request κ ω)) : Sweeps [] calls .done [] calls
  | next {key : κ} {object : ω} {entries lost : List (κ × ω)} {calls last : List (Request κ ω)}
      {result : Result ω ε}
      (survives : ∀ reason, reply calls (.destroy key object) ≠ .panicked reason)
      (rest : Sweeps entries (.destroy key object :: calls) result lost last) :
      Sweeps ((key, object) :: entries) calls result lost last
  | cut {key : κ} {object : ω} {lost : List (κ × ω)} {calls : List (Request κ ω)} {reason : String}
      (panics : reply calls (.destroy key object) = .panicked reason) :
      Sweeps ((key, object) :: lost) calls (.panicked reason) lost (.destroy key object :: calls)

/-- **How a resource is added**, with what was under the key and with what is under it then, what is
lost, and the calls. -/
inductive Adds (isClosed : Bool) (holding : Holding ω) (calls : List (Request κ ω)) :
    Result ω ε → Holding ω → List (κ × ω) → List (Request κ ω) → Prop where
  | shut (closed : isClosed = true) :
      Adds isClosed holding calls (.failed .closed) holding [] calls
  | uncreated {error : ε} (isOpen : isClosed = false)
      (fails : reply calls (.create key) = .failed error) :
      Adds isClosed holding calls (.failed (.factory error)) holding [] (.create key :: calls)
  | unmade {reason : String} (isOpen : isClosed = false)
      (panics : reply calls (.create key) = .panicked reason) :
      Adds isClosed holding calls (.panicked reason) holding [] (.create key :: calls)
  /-- A resource that cannot be passivated is destroyed. -/
  | unready {object : ω} {error : ε} (isOpen : isClosed = false)
      (creates : (reply calls (.create key)).success? = some object)
      (fails : reply (.create key :: calls) (.passivate key object) = .failed error) :
      Adds isClosed holding calls
        ((reply (.passivate key object :: .create key :: calls) (.destroy key object)).orPanic
          (.failed (.factory error)))
        holding [] (.destroy key object :: .passivate key object :: .create key :: calls)
  /-- A resource whose passivation panics is lost. -/
  | lost {object : ω} {reason : String} (isOpen : isClosed = false)
      (creates : (reply calls (.create key)).success? = some object)
      (panics : reply (.create key :: calls) (.passivate key object) = .panicked reason) :
      Adds isClosed holding calls (.panicked reason) holding [(key, object)]
        (.passivate key object :: .create key :: calls)
  /-- A resource for which there is no room is destroyed. -/
  | crowded {object ready : ω} (isOpen : isClosed = false)
      (creates : (reply calls (.create key)).success? = some object)
      (passivates : (reply (.create key :: calls) (.passivate key object)).success? = some ready)
      (full : isReached config.idleLimit holding.idle.length = true) :
      Adds isClosed holding calls
        ((reply (.passivate key object :: .create key :: calls) (.destroy key ready)).orPanic .done)
        holding [] (.destroy key ready :: .passivate key object :: .create key :: calls)
  | kept {object ready : ω} (isOpen : isClosed = false)
      (creates : (reply calls (.create key)).success? = some object)
      (passivates : (reply (.create key :: calls) (.passivate key object)).success? = some ready)
      (room : isReached config.idleLimit holding.idle.length = false) :
      Adds isClosed holding calls .done { holding with idle := ready :: holding.idle } []
        (.passivate key object :: .create key :: calls)

end losses

/-! ## Balances -/

section balances

variable {config : Config} {reply : Replies κ ω ε} {key : κ} {calls last : List (Request κ ω)}
  {isClosed : Bool} {holding after : Holding ω} {result : Result ω ε} {lost drained : List (κ × ω)}

/-- Every drained resource is either given to the factory, in its turn and once, or lost. -/
theorem Sweeps.split (sweeps : Sweeps reply drained calls result lost last) :
    ∃ spent, drained = spent ++ lost ∧
      last = (spent.map fun entry => .destroy entry.1 entry.2).reverse ++ calls := by
  induction sweeps with
  | done calls => exact ⟨[], rfl, rfl⟩
  | @next key object entries lost calls last result survives rest ih =>
    obtain ⟨spent, rfl, rfl⟩ := ih
    exact ⟨(key, object) :: spent, rfl, by simp⟩
  | @cut key object lost calls reason panics => exact ⟨[(key, object)], rfl, rfl⟩

/-- Something is lost only in a panic. -/
theorem Sweeps.panicked_of_lost (sweeps : Sweeps reply drained calls result lost last)
    (loses : lost ≠ []) : ∃ reason, result = .panicked reason := by
  induction sweeps with
  | done calls => exact absurd rfl loses
  | next survives rest ih => exact ih loses
  | cut panics => exact ⟨_, rfl⟩

/-- Destroying creates nothing. -/
theorem creations_destroys (spent : List (κ × ω)) (place : κ) (calls : List (Request κ ω)) :
    reply.creations place ((spent.map fun entry => .destroy entry.1 entry.2) ++ calls) =
      reply.creations place calls := by
  induction spent with
  | nil => rfl
  | cons entry spent ih => exact ih

/-- Destroys of some entries are as many under a key as entries have it. -/
theorem destroysUnder_destroys (spent : List (κ × ω)) (place : κ) (calls : List (Request κ ω)) :
    destroysUnder place ((spent.map fun entry => .destroy entry.1 entry.2) ++ calls) =
      destroysUnder place calls + (listedUnder place spent).length := by
  induction spent with
  | nil => rfl
  | cons entry spent ih =>
    rw [List.map_cons, List.cons_append, destroysUnder_cons_destroy, ih, length_listedUnder_cons]
    omega

/-- **The balance of a sweep**: what was drained under a key has been given to the factory, but for
what is lost. -/
theorem Sweeps.balance (sweeps : Sweeps reply drained calls result lost last) (place : κ) :
    reply.creations place last = reply.creations place calls ∧
      destroysUnder place last + (listedUnder place lost).length =
        destroysUnder place calls + (listedUnder place drained).length := by
  obtain ⟨spent, rfl, rfl⟩ := sweeps.split
  rw [← List.map_reverse, creations_destroys, destroysUnder_destroys, listedUnder_append,
    List.length_append]
  refine ⟨rfl, ?_⟩
  have hreversed : (listedUnder place spent.reverse).length = (listedUnder place spent).length := by
    simp [listedUnder, List.filter_reverse]
  omega

/-- The balance of a sweep of what was idle under a key, or of nothing there. -/
theorem Sweeps.balance_of_drained (sweeps : Sweeps reply drained calls result lost last)
    (place : κ) {concerned : Bool}
    (drains : listedUnder place drained = if concerned then holding.idle.reverse else [])
    (leaves : after = if concerned then holding.emptied else holding) :
    reply.creations place last +
        (holding.active + holding.idle.length + destroysUnder place calls) =
      reply.creations place calls + (after.active + after.idle.length +
        destroysUnder place last + (listedUnder place lost).length) := by
  obtain ⟨hcreated, hdestroyed⟩ := sweeps.balance place
  rw [hcreated, leaves]
  cases concerned with
  | true =>
    rw [drains, if_pos rfl, List.length_reverse] at hdestroyed
    rw [if_pos rfl]
    simp only [Holding.emptied, List.length_nil]
    omega
  | false =>
    rw [drains, if_neg Bool.false_ne_true, List.length_nil] at hdestroyed
    rw [if_neg Bool.false_ne_true]
    omega

/-- A resource is created under the key of the call, if the factory creates one. -/
theorem creations_create (place key : κ) (calls : List (Request κ ω)) :
    reply.creations place (.create key :: calls) = reply.creations place calls +
      if key = place ∧ (reply calls (.create key)).success?.isSome then 1 else 0 := rfl

/-- Passivating creates nothing. -/
theorem creations_passivate (place key : κ) (object : ω) (calls : List (Request κ ω)) :
    reply.creations place (.passivate key object :: calls) = reply.creations place calls := rfl

/-- Neither does destroying. -/
theorem creations_destroy (place key : κ) (object : ω) (calls : List (Request κ ω)) :
    reply.creations place (.destroy key object :: calls) = reply.creations place calls := rfl

/-- A create that succeeds counts. -/
theorem creations_of_success {object : ω}
    (creates : (reply calls (.create key)).success? = some object) :
    reply.creations key (.create key :: calls) = reply.creations key calls + 1 := by
  rw [creations_create, creates, if_pos ⟨rfl, rfl⟩]

/-- A create that does not succeed does not count. -/
theorem creations_of_failure (fails : (reply calls (.create key)).success? = none) :
    reply.creations key (.create key :: calls) = reply.creations key calls := by
  rw [creations_create, fails, if_neg (fun h => Bool.false_ne_true h.2), Nat.add_zero]

/-- **The balance of an addition**: a resource that was created is idle or has been given to the
factory, unless it is lost. -/
theorem Adds.balance (adds : Adds config reply key isClosed holding calls result after lost last) :
    reply.creations key last + (holding.active + holding.idle.length + destroysUnder key calls) =
      reply.creations key calls + (after.active + after.idle.length + destroysUnder key last +
        (listedUnder key lost).length) := by
  have hnothing : (listedUnder key ([] : List (κ × ω))).length = 0 := rfl
  cases adds with
  | shut closed => rw [hnothing, Nat.add_zero]
  | @uncreated error isOpen fails =>
    have hnone : (reply calls (.create key)).success? = none := by rw [fails]; rfl
    rw [hnothing, creations_of_failure hnone, destroysUnder_cons_create, Nat.add_zero]
  | @unmade reason isOpen panics =>
    have hnone : (reply calls (.create key)).success? = none := by rw [panics]; rfl
    rw [hnothing, creations_of_failure hnone, destroysUnder_cons_create, Nat.add_zero]
  | unready isOpen creates fails =>
    rw [hnothing, creations_destroy, creations_passivate, creations_of_success creates,
      destroysUnder_cons_destroy, destroysUnder_cons_passivate, destroysUnder_cons_create,
      if_pos rfl]
    omega
  | @lost object reason isOpen creates panics =>
    rw [creations_passivate, creations_of_success creates, destroysUnder_cons_passivate,
      destroysUnder_cons_create, length_listedUnder_cons, hnothing, if_pos rfl]
    omega
  | crowded isOpen creates passivates full =>
    rw [hnothing, creations_destroy, creations_passivate, creations_of_success creates,
      destroysUnder_cons_destroy, destroysUnder_cons_passivate, destroysUnder_cons_create,
      if_pos rfl]
    omega
  | kept isOpen creates passivates room =>
    rw [hnothing, creations_passivate, creations_of_success creates,
      destroysUnder_cons_passivate, destroysUnder_cons_create, List.length_cons]
    have hactive : ∀ idle, (⟨idle, holding.active⟩ : Holding ω).active = holding.active :=
      fun _ => rfl
    rw [hactive]
    omega

/-- Under other keys an addition does nothing. -/
theorem Adds.elsewhere (adds : Adds config reply key isClosed holding calls result after lost last)
    {place : κ} (ne : place ≠ key) :
    reply.creations place last = reply.creations place calls ∧
      destroysUnder place last = destroysUnder place calls ∧ listedUnder place lost = [] := by
  have hother : key ≠ place := Ne.symm ne
  cases adds <;> simp [Replies.creations, listedUnder, hother]

/-- Something is lost only in a panic. -/
theorem Adds.panicked_of_lost
    (adds : Adds config reply key isClosed holding calls result after lost last)
    (loses : lost ≠ []) : ∃ reason, result = .panicked reason := by
  cases adds with
  | lost isOpen creates panics => exact ⟨_, rfl⟩
  | _ => exact absurd rfl loses

end balances

/-! ## Courses -/

section courses

variable (config : Config) (reply : Replies κ ω ε) (key : κ)

/-- A course that ends with a destroy. -/
theorem outcome_destroy (object : ω) (result : Result ω ε) (plain : PlainPool κ ω) :
    ∃ next, OnlyCalled plain next (.destroy key object :: plain.calls) ∧
      outcome (do let _ ← destroy reply key object; return result) plain =
        ((reply plain.calls (.destroy key object)).orPanic result, next) := by
  obtain ⟨next, hcalled, heq⟩ := destroy_eq reply key object plain
  refine ⟨next, hcalled, ?_⟩
  unfold outcome
  rw [bind_eq, heq]
  cases reply plain.calls (.destroy key object) <;> rfl

/-- **Destroying one after another**, by induction on what is still to come. -/
theorem sweeps_disposeAll (drained : List (κ × ω)) (plain : PlainPool κ ω) :
    ∃ result lost last next, Sweeps reply drained plain.calls result lost last ∧
      OnlyCalled plain next last ∧ outcome (disposeAll reply drained) plain = (result, next) := by
  induction drained generalizing plain with
  | nil => exact ⟨_, _, _, plain, .done _, .refl plain, rfl⟩
  | cons entry drained ih =>
    obtain ⟨made, hcalled, heq⟩ := destroy_eq reply entry.1 entry.2 plain
    obtain ⟨result, lost, last, next, hsweeps, hothers, hrest⟩ := ih made
    rw [hcalled.calls_eq] at hsweeps
    cases hanswer : reply plain.calls (.destroy entry.1 entry.2) with
    | panicked reason =>
      rw [hanswer] at heq
      refine ⟨_, _, _, made, .cut hanswer, hcalled, ?_⟩
      rw [disposeAll_of_panicked reply (congrArg Prod.fst heq), heq]
    | _ =>
      rw [hanswer] at heq
      have hsurvives : ∀ reason,
          reply plain.calls (.destroy entry.1 entry.2) ≠ .panicked reason := by
        simp [hanswer]
      refine ⟨result, lost, last, next, .next hsurvives hsweeps, hcalled.trans hothers, ?_⟩
      rw [disposeAll_of_destroyed reply (congrArg Prod.fst heq), heq]
      exact hrest

/-- **A course ends as an addition does.** -/
def AddsTo (plain : PlainPool κ ω) (ending : Result ω ε × PlainPool κ ω) : Prop :=
  ∃ result holding lost last next,
    Adds config reply key plain.isClosed (plain.holdings key) plain.calls result holding lost last ∧
    next.holdings = Function.update plain.holdings key holding ∧ next.calls = last ∧
    ending = (result, next)

variable {config reply key}

/-- An addition that has only called the factory leaves its key as it was. -/
theorem addsTo_of_called {plain next : PlainPool κ ω} {result : Result ω ε}
    {lost : List (κ × ω)} {last : List (Request κ ω)} {ending : Result ω ε × PlainPool κ ω}
    (adds : Adds config reply key plain.isClosed (plain.holdings key) plain.calls result
      (plain.holdings key) lost last)
    (called : OnlyCalled plain next last) (ends : ending = (result, next)) :
    AddsTo config reply key plain ending := by
  refine ⟨result, _, lost, last, next, adds, ?_, called.calls_eq, ends⟩
  rw [called.holdings_eq, Function.update_eq_self]

/-- A fresh resource that is ready is kept or, for lack of room, destroyed. -/
theorem addsTo_stow {plain made : PlainPool κ ω} (isOpen : plain.isClosed = false)
    {object ready : ω} (creates : (reply plain.calls (.create key)).success? = some object)
    (passivates :
      (reply (.create key :: plain.calls) (.passivate key object)).success? = some ready)
    (called : OnlyCalled plain made (.passivate key object :: .create key :: plain.calls)) :
    AddsTo config reply key plain
      (outcome (stow config reply key ready >>= fun _ => pure .done) made) := by
  have hlooked : (stow config reply key ready >>= fun _ =>
        (pure .done : Course κ ω (Result ω ε))) made =
      ((if isReached config.idleLimit (made.holdings key).idle.length = true
        then (do let _ ← destroy reply key ready; return ())
        else hold key { made.holdings key with idle := ready :: (made.holdings key).idle } :
          Course κ ω Unit) >>= fun _ => (pure .done : Course κ ω (Result ω ε))) made := rfl
  unfold outcome
  rw [hlooked, called.holdings_eq]
  cases hroom : isReached config.idleLimit (plain.holdings key).idle.length with
  | true =>
    rw [if_pos rfl, bind_assoc]
    obtain ⟨next, hdestroyed, heq⟩ := outcome_destroy reply key ready .done made
    rw [called.calls_eq] at hdestroyed heq
    exact addsTo_of_called (.crowded isOpen creates passivates hroom) (called.trans hdestroyed) heq
  | false =>
    refine ⟨_, _, _, _, _, .kept isOpen creates passivates hroom, ?_, ?_, rfl⟩
    · show Function.update made.holdings key _ = _
      rw [called.holdings_eq]
    · exact called.calls_eq

/-- A fresh resource is passivated. -/
theorem addsTo_stowOr {plain made : PlainPool κ ω} (isOpen : plain.isClosed = false) {object : ω}
    (creates : (reply plain.calls (.create key)).success? = some object)
    (called : OnlyCalled plain made (.create key :: plain.calls)) :
    AddsTo config reply key plain
      (outcome (stowOr config reply key object (pure .done)) made) := by
  have hpassivated : OnlyCalled plain
      { made with calls := .passivate key object :: .create key :: plain.calls }
      (.passivate key object :: .create key :: plain.calls) :=
    ⟨called.holdings_eq, called.isClosed_eq, called.returned_eq, rfl⟩
  have hcounted : OnlyCalled plain
      { made with
        calls := .passivate key object :: .create key :: plain.calls
        tally := made.tally.bump .passivationFailures }
      (.passivate key object :: .create key :: plain.calls) :=
    ⟨called.holdings_eq, called.isClosed_eq, called.returned_eq, rfl⟩
  unfold outcome stowOr
  rw [ask_bind, called.calls_eq]
  cases hanswer : reply (.create key :: plain.calls) (.passivate key object) with
  | done ready => exact addsTo_stow isOpen creates (by rw [hanswer]; rfl) hpassivated
  | refused ready => exact addsTo_stow isOpen creates (by rw [hanswer]; rfl) hpassivated
  | panicked reason => exact addsTo_of_called (.lost isOpen creates hanswer) hpassivated rfl
  | failed error =>
    obtain ⟨next, hdestroyed, heq⟩ := outcome_destroy reply key object (.failed (.factory error)) _
    rw [hcounted.calls_eq] at hdestroyed heq
    exact addsTo_of_called (.unready isOpen creates hanswer) (hcounted.trans hdestroyed) heq

/-- **Adding one resource.** -/
theorem addsTo_prefill (plain : PlainPool κ ω) :
    AddsTo config reply key plain (outcome (prefill config reply key 1) plain) := by
  have hlooked : prefill config reply key 1 plain =
      (if plain.isClosed = true then pure (.failed .closed)
        else create reply key fun object => stowOr config reply key object (pure .done)) plain := rfl
  have hcreated : OnlyCalled plain { plain with calls := .create key :: plain.calls }
      (.create key :: plain.calls) := ⟨rfl, rfl, rfl, rfl⟩
  have hcounted : OnlyCalled plain
      { plain with calls := .create key :: plain.calls, tally := plain.tally.bump .created }
      (.create key :: plain.calls) := ⟨rfl, rfl, rfl, rfl⟩
  unfold outcome
  rw [hlooked]
  cases hclosed : plain.isClosed with
  | true => exact addsTo_of_called (.shut hclosed) (.refl plain) rfl
  | false =>
    rw [if_neg Bool.false_ne_true, create, ask_bind]
    cases hanswer : reply plain.calls (.create key) with
    | done object => exact addsTo_stowOr hclosed (by rw [hanswer]; rfl) hcounted
    | refused object => exact addsTo_stowOr hclosed (by rw [hanswer]; rfl) hcounted
    | failed error => exact addsTo_of_called (.uncreated hclosed hanswer) hcreated rfl
    | panicked reason => exact addsTo_of_called (.unmade hclosed hanswer) hcreated rfl

end courses

/-! ## Clearing and closing -/

section clearing

variable (config : Config) (reply : Replies κ ω ε) {plain : PlainPool κ ω} {order : List κ}

/-- What is listed under a key is what was idle there. -/
theorem listedUnder_listed (lists : Lists plain.holdings order) (key : κ) :
    listedUnder key (listed plain.holdings order) = (plain.holdings key).idle.reverse := by
  unfold listedUnder
  rw [filter_listed lists, List.map_map]
  exact List.map_id _

/-- What is idle under one key is listed under that key alone. -/
theorem listedUnder_tagged (place key : κ) (objects : List ω) :
    listedUnder place (objects.map fun object => (key, object)) =
      if key = place then objects else [] := by
  by_cases hkey : key = place <;>
    simp [listedUnder, List.filter_map, Function.comp_def, hkey]

/-- **Clearing and closing** take out what is idle under the keys that they concern, and then they
destroy it one after another. -/
theorem sweeps_run {operation : Operation κ ω} (clears : operation.clears = true)
    (lists : Lists plain.holdings order)
    (bare : plain.isClosed = true → ∀ key, (plain.holdings key).idle = []) :
    ∃ drained result lost last next, Sweeps reply drained plain.calls result lost last ∧
      (∀ key, listedUnder key drained =
        if operation.concerns key then (plain.holdings key).idle.reverse else []) ∧
      (∀ key, next.holdings key =
        if operation.concerns key then (plain.holdings key).emptied else plain.holdings key) ∧
      next.calls = last ∧ outcome (run config reply order operation) plain = (result, next) := by
  cases operation with
  | clearKey key =>
    obtain ⟨result, lost, last, next, hsweeps, hcalled, heq⟩ := sweeps_disposeAll reply
      ((plain.holdings key).idle.reverse.map fun object => (key, object))
      { plain with holdings := Function.update plain.holdings key (plain.holdings key).emptied }
    refine ⟨_, result, lost, last, next, hsweeps, ?_, ?_, hcalled.calls_eq, heq⟩
    · intro place
      rw [listedUnder_tagged]
      by_cases hkey : key = place <;> simp [Operation.concerns, Operation.key?, hkey]
    · intro place
      rw [hcalled.holdings_eq]
      by_cases hkey : key = place
      · subst hkey
        simp [Operation.concerns, Operation.key?]
      · simp [Operation.concerns, Operation.key?, hkey, Function.update_of_ne (Ne.symm hkey)]
  | clear =>
    obtain ⟨result, lost, last, next, hsweeps, hcalled, heq⟩ :=
      sweeps_disposeAll reply (listed plain.holdings order) plain.emptied
    refine ⟨_, result, lost, last, next, hsweeps, ?_, ?_, hcalled.calls_eq, heq⟩
    · exact listedUnder_listed lists
    · exact congrFun hcalled.holdings_eq
  | close =>
    have hcloses := outcome_close reply order plain
    cases hclosed : plain.isClosed with
    | true =>
      rw [if_pos hclosed] at hcloses
      refine ⟨[], .done, [], _, { plain with isClosed := true }, .done _, ?_, ?_, rfl, hcloses⟩
      · intro key
        simp [listedUnder, bare hclosed key]
      · intro key
        have hidle := bare hclosed key
        show plain.holdings key = (plain.holdings key).emptied
        generalize plain.holdings key = holding at hidle
        obtain ⟨idle, active⟩ := holding
        cases hidle
        rfl
    | false =>
      rw [if_neg (by simp [hclosed])] at hcloses
      obtain ⟨result, lost, last, next, hsweeps, hcalled, heq⟩ := sweeps_disposeAll reply
        (listed plain.holdings order) { plain with isClosed := true }.emptied
      refine ⟨_, result, lost, last, next, hsweeps, ?_, ?_, hcalled.calls_eq,
        hcloses.trans heq⟩
      · exact listedUnder_listed lists
      · exact congrFun hcalled.holdings_eq
  | _ => cases clears

end clearing

section panics

variable {config : Config} {session : Session κ ω ε}

/-- **What panics lose.** An addition, a clearing or a closing against any factory, whose calls may
fail and panic: for every key what was created under it less what was destroyed is on loan or idle
as before, but for what is lost; and nothing is lost unless the operation ends in a panic. Of an
addition it is the fresh resource whose passivation panicked, and of the resources that a clearing
or closing has taken out those that come after the one whose destroy panicked: all others are given
to the factory to destroy, in their order and once. -/
theorem lost_in_panics (reachable : Session.Reachable config session)
    (rest : session.running = []) {operation : Operation κ ω}
    (owns : (∃ key, operation = .add key) ∨ operation.clears = true) (reply : Replies κ ω ε)
    (calls : List (Request κ ω)) :
    ∃ result last calls' lost,
      session.pool.run reply.factory operation calls = (result, last, calls') ∧
      (∀ key, reply.creations key calls' +
          (session.pool.numActive key + session.pool.numIdle key + destroysUnder key calls) =
        reply.creations key calls + (last.numActive key + last.numIdle key +
          destroysUnder key calls' + (listedUnder key lost).length)) ∧
      (lost ≠ [] → ∃ reason, result = .panicked reason) ∧
      (∀ key, operation = .add key → Adds config reply key session.pool.isClosed
        (session.pool.store.holding key) calls result (last.store.holding key) lost calls') ∧
      (operation.clears = true → ∃ drained, Sweeps reply drained calls result lost calls' ∧
        (∃ spent, drained = spent ++ lost ∧
          calls' = (spent.map fun entry => .destroy entry.1 entry.2).reverse ++ calls) ∧
        ∀ key, listedUnder key drained = if operation.concerns key
          then (session.pool.store.holding key).idle.reverse else []) := by
  have hagrees := agrees_of_rest reachable rest calls
  obtain ⟨order, result, next, last, hlists, hplain, hpool, hafter⟩ :=
    hagrees.run reply operation
  have hcounts : ∀ key, last.numActive key = (next.holdings key).active ∧
      last.numIdle key = (next.holdings key).idle.length := by
    intro key
    rw [Pool.numActive_eq, Pool.numIdle_eq, hafter.holding_eq]
    exact ⟨rfl, rfl⟩
  rcases owns with ⟨key, rfl⟩ | hclears
  · obtain ⟨ending, holding, lost, calls', final, hadds, hholdings, hcalls, hends⟩ :
        AddsTo config reply key (session.pool.plain calls)
          (outcome (prefill config reply key 1) (session.pool.plain calls)) := addsTo_prefill _
    obtain ⟨rfl, rfl⟩ := Prod.mk.inj (hends.symm.trans hplain)
    rw [hcalls] at hpool
    refine ⟨ending, last, calls', lost, hpool, ?_, hadds.panicked_of_lost, ?_, nofun⟩
    · intro place
      obtain ⟨hactive, hidle⟩ := hcounts place
      rw [hactive, hidle, Pool.numActive_eq, Pool.numIdle_eq, hholdings]
      by_cases hplace : place = key
      · subst hplace
        rw [Function.update_self]
        exact hadds.balance
      · obtain ⟨hcreated, hdestroyed, hlost⟩ := hadds.elsewhere hplace
        rw [Function.update_of_ne hplace, hcreated, hdestroyed, hlost]
        rfl
    · rintro place ⟨⟩
      rw [hafter.holding_eq, hholdings, Function.update_self]
      exact hadds
  · obtain ⟨drained, ending, lost, calls', final, hsweeps, hdrained, hholdings, hcalls, hends⟩ :=
      sweeps_run config reply hclears hlists (Session.spent_of_reachable reachable)
    obtain ⟨rfl, rfl⟩ := Prod.mk.inj (hends.symm.trans hplain)
    rw [hcalls] at hpool
    refine ⟨ending, last, calls', lost, hpool, ?_, hsweeps.panicked_of_lost, ?_, fun _ =>
      ⟨drained, hsweeps, hsweeps.split, hdrained⟩⟩
    · intro place
      obtain ⟨hactive, hidle⟩ := hcounts place
      rw [hactive, hidle, Pool.numActive_eq, Pool.numIdle_eq]
      exact hsweeps.balance_of_drained place (hdrained place) (hholdings place)
    · rintro place rfl
      cases hclears

/-- The replies of a factory that creates 7 and panics when it is to passivate. -/
def jumpy : Replies Nat Nat String := fun _ request =>
  match request with
  | .create _ => .done 7
  | .passivate .. => .panicked "boom"
  | .activate _ object | .validate _ object | .destroy _ object => .done object

/-- Then 7 is lost: it was created, and it is neither on loan nor idle nor destroyed. -/
theorem lost_by_jumpy : ∃ result last calls lost,
    (Session.create Config.standard .linking).pool.run jumpy.factory (.add 0) [] =
      (result, last, calls) ∧
    lost = [(0, 7)] ∧ jumpy.creations 0 calls = 1 ∧
    last.numActive 0 + last.numIdle 0 + destroysUnder 0 calls = 0 := by
  have hcreate : Session.Reachable Config.standard
      (Session.create Config.standard .linking : Session Nat Nat String) := .create .linking
  have howns : (∃ key, (Operation.add 0 : Operation Nat Nat) = .add key) ∨
      (Operation.add 0 : Operation Nat Nat).clears = true := .inl ⟨0, rfl⟩
  obtain ⟨result, last, calls, lost, hruns, hbalance, -, hadds, -⟩ :=
    lost_in_panics hcreate rfl howns jumpy []
  have hbalanced := hbalance 0
  have hactive :
      (Session.create Config.standard .linking : Session Nat Nat String).pool.numActive 0 = 0 := rfl
  have hidle :
      (Session.create Config.standard .linking : Session Nat Nat String).pool.numIdle 0 = 0 := rfl
  have hadded := hadds 0 rfl
  generalize last.store.holding 0 = after at hadded
  generalize (Session.create Config.standard .linking :
    Session Nat Nat String).pool.store.holding 0 = before at hadded
  cases hadded with
  | @lost object reason isOpen creates panics =>
    cases creates
    have hcreated : jumpy.creations 0 [.passivate 0 7, .create 0] = 1 := rfl
    have hlost : (listedUnder 0 [(0, 7)]).length = 1 := rfl
    refine ⟨_, last, _, _, hruns, rfl, hcreated, ?_⟩
    have hfirst : jumpy.creations 0 [] = 0 := rfl
    have hnone : destroysUnder 0 ([] : List (Request Nat Nat)) = 0 := rfl
    rw [hactive, hidle, hcreated, hlost, hfirst, hnone] at hbalanced
    omega
  | shut closed => cases closed
  | uncreated isOpen fails => cases fails
  | unmade isOpen panics => cases panics
  | unready isOpen creates fails => cases fails
  | crowded isOpen creates passivates full => cases passivates
  | kept isOpen creates passivates room => cases passivates

/-- Whether as many resources are on loan and idle as were created and not destroyed. -/
def isBalanced (session : Session Nat Nat String) : Bool :=
  session.pool.tally.created ==
    session.pool.store.totalActive + session.pool.store.totalIdle + session.pool.tally.destroyed

/-- Some events after which everything is accounted for, and an operation that ends in a panic and
leaves something unaccounted for. -/
def Loses (events last : List (Session.Event Nat Nat String)) : Prop :=
  (Session.replay Config.standard events).any (fun past =>
      past.2.running.isEmpty && isBalanced past.2) = true ∧
    (Session.replay Config.standard (events ++ last)).any (fun past =>
      past.2.running.isEmpty && !isBalanced past.2 &&
        past.1.countP (fun move => move.event.isPanic) == 1) = true

/-- **Additions, clearings and closings do lose resources**: an addition the one whose passivation
panics, and the others what comes after the one whose destroy panics. -/
theorem unbalanced_by_panics :
    Loses [] [.act (.call (.add 0)), .answer (.done 7), .answer (.panicked "boom")] ∧
    ∀ operation ∈ [Operation.clearKey 0, .clear, .close],
      Loses [.act (.call (.prefill 0 2)), .answer (.done 7), .answer (.done 7), .answer (.done 8),
        .answer (.done 8)] [.act (.call operation), .answer (.panicked "boom")] := by
  unfold Loses
  decide +kernel

end panics

end PlainPool

end ResourcePool
