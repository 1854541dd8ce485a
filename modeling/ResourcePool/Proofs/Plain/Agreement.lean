import ResourcePool.Proofs.Plain.Mirrors
import ResourcePool.Proofs.Pool.Upkeep

/-!
# Pools and plain pools

A pool does what the plain pool does. The operations of a pool stop at every call of the factory and
those of a plain pool do not, so a turn of the one is compared with the rest of the course of the
other.

* `PlainPool.Agrees` — a pool and a plain pool that hold the same, with the same counters.
* `PlainPool.Follows` — from a given store on, a turn of a pool ends as a course on a plain pool
  does: with the same result, after the same calls, and with pools that agree again.
* `follows_ask`, `follows_destroy`, `follows_store`, … — how turns and courses are put together, and
  then one lemma for each function of the pool, up to `follows_run`.
-/

set_option linter.unusedSectionVars false

namespace ResourcePool

variable {κ ω ε : Type} [DecidableEq κ]

namespace PlainPool

/-- A pool and a plain pool that hold the same, between operations. -/
structure Agrees (config : Config) (pool : Pool κ ω ε) (plain : PlainPool κ ω) : Prop where
  config_eq : pool.config = config
  mirrors : Store.Mirrors config none plain.holdings plain.isClosed pool.store
  tally_eq : pool.tally = plain.tally

/-- A pool with a given store and a plain pool that holds given things, in the middle of an
operation. -/
structure Matches (config : Config) (store : Store κ ω) (holdings : κ → Holding ω)
    (isClosed : Bool) (pool : Pool κ ω ε) (plain : PlainPool κ ω) : Prop where
  config_eq : pool.config = config
  store_eq : pool.store = store
  tally_eq : pool.tally = plain.tally
  holdings_eq : plain.holdings = holdings
  isClosed_eq : plain.isClosed = isClosed

section

variable (config : Config) (reply : Replies κ ω ε)

/-- A turn ends with the given result and as the given plain pool. -/
def Ends (turn : Pool.Turn κ ω ε) (calls : List (Request κ ω))
    (ending : Result ω ε × PlainPool κ ω) : Prop :=
  ∃ pool, Pool.complete reply.factory turn calls = (ending.1, pool, ending.2.calls) ∧
    Agrees config pool ending.2

/-- **A turn follows a course.** -/
def Follows (store : Store κ ω) (holdings : κ → Holding ω) (isClosed : Bool)
    (turn : Pool κ ω ε → Pool.Turn κ ω ε) (course : Course κ ω (Result ω ε)) : Prop :=
  ∀ pool plain, Matches config store holdings isClosed pool plain →
    Ends config reply (turn pool) plain.calls (outcome course plain)

end

/-! ## Putting turns and courses together -/

section composition

variable {config : Config} {reply : Replies κ ω ε} {store next : Store κ ω}
  {holdings holdings' : κ → Holding ω} {isClosed : Bool}
  {turn : Pool κ ω ε → Pool.Turn κ ω ε} {course : Course κ ω (Result ω ε)}

/-- An operation that ends follows a course that does. -/
theorem follows_finish (mirrors : Store.Mirrors config none holdings isClosed store)
    (result : Result ω ε) :
    Follows config reply store holdings isClosed (fun pool => pool.finish result)
      (pure result) := by
  rintro pool plain ⟨hconfig, rfl, htally, rfl, rfl⟩
  exact ⟨pool, Pool.complete_finish _ _ _ _, hconfig, mirrors, htally⟩

/-- An operation that ends in a panic. -/
theorem follows_panic (mirrors : Store.Mirrors config none holdings isClosed store)
    (reason : String) :
    Follows config reply store holdings isClosed (fun pool => pool.finish (.panicked reason))
      (throw reason) := by
  rintro pool plain ⟨hconfig, rfl, htally, rfl, rfl⟩
  exact ⟨pool, Pool.complete_finish _ _ _ _, hconfig, mirrors, htally⟩

/-- An event is counted on both sides. -/
theorem follows_count (event : Counter)
    (rest : Follows config reply store holdings isClosed turn course) :
    Follows config reply store holdings isClosed (fun pool => turn (pool.count event))
      (do count event; course) := by
  rintro pool plain ⟨hconfig, hstore, htally, hholdings, hclosed⟩
  refine rest (pool.count event) { plain with tally := plain.tally.bump event }
    ⟨hconfig, hstore, ?_, hholdings, hclosed⟩
  exact congrArg (fun tally => Tally.bump tally event) htally

/-- Notes are not seen from a plain pool. -/
theorem follows_note (note : Note κ ε)
    (rest : Follows config reply store holdings isClosed turn course) :
    Follows config reply store holdings isClosed (fun pool => turn (pool.note note)) course := by
  rintro pool plain ⟨hconfig, hstore, htally, hholdings, hclosed⟩
  exact rest (pool.note note) plain ⟨hconfig, hstore, htally, hholdings, hclosed⟩

/-- A change of the store that is not seen from a plain pool. -/
theorem follows_store (change : Store κ ω → Store κ ω)
    (rest : Follows config reply (change store) holdings isClosed turn course) :
    Follows config reply store holdings isClosed
      (fun pool => turn { pool with store := change pool.store }) course := by
  rintro pool plain ⟨hconfig, rfl, htally, hholdings, hclosed⟩
  exact rest { pool with store := change pool.store } plain
    ⟨hconfig, rfl, htally, hholdings, hclosed⟩

/-- A change of the store that is seen under one key. -/
theorem follows_hold {key : κ} {holding : Holding ω} (change : Store κ ω → Store κ ω)
    (rest : Follows config reply (change store) (Function.update holdings key holding) isClosed
      turn course) :
    Follows config reply store holdings isClosed
      (fun pool => turn { pool with store := change pool.store })
      (do hold key holding; course) := by
  rintro pool plain ⟨hconfig, rfl, htally, rfl, hclosed⟩
  exact rest { pool with store := change pool.store }
    { plain with holdings := Function.update plain.holdings key holding }
    ⟨hconfig, rfl, htally, rfl, hclosed⟩

/-- A course that looks at a key sees what there is. -/
theorem follows_look {key : κ} {courses : Holding ω × Bool → Course κ ω (Result ω ε)}
    (rest : Follows config reply store holdings isClosed turn
      (courses (holdings key, isClosed))) :
    Follows config reply store holdings isClosed turn (look key >>= courses) := by
  rintro pool plain ⟨hconfig, hstore, htally, rfl, rfl⟩
  exact rest pool plain ⟨hconfig, hstore, htally, rfl, rfl⟩

/-- **A turn that waits follows a course that calls the factory**, if it goes on as the course does
after every answer. -/
theorem follows_answer (stage : Stage κ ω ε) {courses : Response ω ε → Course κ ω (Result ω ε)}
    {handler : String → Course κ ω (Result ω ε)}
    (calls : ∀ plain, course plain =
      answered courses handler (reply plain.calls stage.request).response
        { plain with calls := stage.request :: plain.calls })
    (rest : ∀ response, Follows config reply store holdings isClosed
      (fun pool => pool.resume stage response.answer) (courses response))
    (panics : ∀ reason, Follows config reply store holdings isClosed
      (fun pool => pool.resume stage (.panicked reason)) (handler reason)) :
    Follows config reply store holdings isClosed (fun pool => pool.await stage) course := by
  rintro pool plain ⟨hconfig, hstore, htally, hholdings, hclosed⟩
  have hgoes : ∀ answer, Ends config reply (pool.resume stage answer)
      (stage.request :: plain.calls) (outcome (answered courses handler answer.response)
        { plain with calls := stage.request :: plain.calls }) := by
    intro answer
    have hmatches : Matches config store holdings isClosed pool
        { plain with calls := stage.request :: plain.calls } :=
      ⟨hconfig, hstore, htally, hholdings, hclosed⟩
    cases answer with
    | done object => exact rest (.done object) pool _ hmatches
    | refused object => exact rest (.refused object) pool _ hmatches
    | failed error => exact rest (.failed error) pool _ hmatches
    | panicked reason => exact panics reason pool _ hmatches
  obtain ⟨last, hcomplete, hagrees⟩ := hgoes (reply plain.calls stage.request)
  unfold outcome at hcomplete hagrees ⊢
  rw [calls]
  exact ⟨last, (Pool.complete_await _ _ _ _).trans hcomplete, hagrees⟩

/-- A call whose panic ends the operation. -/
theorem follows_ask (stage : Stage κ ω ε) {courses : Response ω ε → Course κ ω (Result ω ε)}
    (rest : ∀ response, Follows config reply store holdings isClosed
      (fun pool => pool.resume stage response.answer) (courses response))
    (panics : ∀ reason, Follows config reply store holdings isClosed
      (fun pool => pool.resume stage (.panicked reason)) (throw reason)) :
    Follows config reply store holdings isClosed (fun pool => pool.await stage)
      (ask reply stage.request >>= courses) :=
  follows_answer stage (ask_bind reply stage.request courses) rest panics

/-- How an operation goes on after a destroy, by the error if it failed. -/
def afterDestroy (key : κ) (aftermath : Aftermath κ ω ε) (pool : Pool κ ω ε) :
    Option ε → Pool.Turn κ ω ε
  | none => pool.afterDestroy key aftermath
  | some error => pool.afterDestroyFailure key error aftermath

/-- A turn that destroys a resource. -/
theorem follows_destroy {key : κ} {object : ω} {aftermath : Aftermath κ ω ε}
    {courses : Option ε → Course κ ω (Result ω ε)}
    (rest : ∀ error?, Follows config reply store holdings isClosed
      (fun pool => afterDestroy key aftermath pool error?) (courses error?))
    (panics : ∀ reason, Follows config reply store holdings isClosed
      (fun pool => pool.afterDestroyPanic reason aftermath) (throw reason)) :
    Follows config reply store holdings isClosed (fun pool => pool.destroy key object aftermath)
      (destroy reply key object >>= courses) := by
  have hasked : Follows config reply store holdings isClosed
      (fun pool => pool.await (.destroying key object aftermath))
      (ask reply (Stage.destroying key object aftermath).request >>= fun response =>
        countFailure response >>= courses) := by
    refine follows_ask (.destroying key object aftermath) ?_ panics
    intro response
    cases response with
    | failed error => exact follows_count .destroyFailures (rest (some error))
    | done object => exact rest none
    | refused object => exact rest none
  unfold destroy
  simp only [bind_assoc]
  exact follows_count .destroyed hasked

/-- A turn that destroys a resource whatever comes of it. -/
theorem follows_destroyQuietly {key : κ} {object : ω} {sequel : Sequel κ ω ε}
    (rest : Follows config reply store holdings isClosed (fun pool => pool.proceed key sequel)
      course)
    (panics : ∀ reason, Follows config reply store holdings isClosed
      (fun pool => pool.afterDestroyPanic reason (.quietly sequel)) (throw reason)) :
    Follows config reply store holdings isClosed
      (fun pool => pool.destroyQuietly key object sequel)
      (destroy reply key object >>= fun _ => course) := by
  refine follows_destroy ?_ panics
  intro error?
  cases error? with
  | none => exact rest
  | some error => exact follows_note (.destroyFailed key error) rest

/-- A change of the store by which the idle resources of all keys are taken out. -/
theorem follows_takeOut {order : List κ} {courses : List (κ × ω) → Course κ ω (Result ω ε)}
    (change : Store κ ω → Store κ ω)
    (rest : Follows config reply (change store) (fun key => (holdings key).emptied) isClosed turn
      (courses (listed holdings order))) :
    Follows config reply store holdings isClosed
      (fun pool => turn { pool with store := change pool.store }) (takeOut order >>= courses) := by
  rintro pool plain ⟨hconfig, rfl, htally, rfl, hclosed⟩
  exact rest { pool with store := change pool.store }
    { plain with holdings := fun key => (plain.holdings key).emptied }
    ⟨hconfig, rfl, htally, rfl, hclosed⟩

/-- A change of the store by which it is sealed. -/
theorem follows_shut {courses : Bool → Course κ ω (Result ω ε)}
    (change : Store κ ω → Store κ ω)
    (rest : Follows config reply (change store) holdings true turn (courses !isClosed)) :
    Follows config reply store holdings isClosed
      (fun pool => turn { pool with store := change pool.store }) (shut >>= courses) := by
  rintro pool plain ⟨hconfig, rfl, htally, hholdings, rfl⟩
  exact rest { pool with store := change pool.store } { plain with isClosed := true }
    ⟨hconfig, rfl, htally, hholdings, rfl⟩

/-- What a turn comes to with the given store and configuration is all that counts. -/
theorem follows_of_eq {turn' : Pool κ ω ε → Pool.Turn κ ω ε}
    (eq : ∀ pool : Pool κ ω ε, pool.config = config → pool.store = store →
      turn pool = turn' pool)
    (rest : Follows config reply store holdings isClosed turn' course) :
    Follows config reply store holdings isClosed turn course := by
  intro pool plain hmatches
  rw [eq pool hmatches.config_eq hmatches.store_eq]
  exact rest pool plain hmatches

/-- The same for turns that differ in the notes they make. -/
theorem follows_of_notes {turn' : Pool κ ω ε → Pool.Turn κ ω ε}
    (eq : ∀ pool : Pool κ ω ε, pool.config = config → pool.store = store →
      ∃ notes, turn pool = turn' { pool with notes := notes })
    (rest : Follows config reply store holdings isClosed turn' course) :
    Follows config reply store holdings isClosed turn course := by
  rintro pool plain ⟨hconfig, hstore, htally, hholdings, hclosed⟩
  obtain ⟨notes, heq⟩ := eq pool hconfig hstore
  rw [heq]
  exact rest { pool with notes := notes } plain ⟨hconfig, hstore, htally, hholdings, hclosed⟩

end composition

section operations

variable {config : Config} {reply : Replies κ ω ε} {store : Store κ ω}
  {holdings : κ → Holding ω} {isClosed : Bool}

/-! ## Borrowing -/

section borrow

variable {checkout : Checkout κ}

/-- The end of a borrow without a resource. -/
theorem follows_abandon (mirrors : Store.Mirrors config (some checkout) holdings isClosed store)
    (result : Result ω ε) :
    Follows config reply store holdings isClosed
      (fun pool => (pool.abandon checkout).finish result) (pure result) :=
  follows_store (fun store => ((store.cancel checkout.slot).prune checkout.key).2)
    (follows_finish (Store.mirrors_cancel mirrors) result)

/-- The end of a borrow in a panic. -/
theorem follows_unwound (mirrors : Store.Mirrors config (some checkout) holdings isClosed store)
    (reason : String) :
    Follows config reply store holdings isClosed
      (fun pool => (pool.abandon checkout).finish (.panicked reason)) (throw reason) :=
  follows_store (fun store => ((store.cancel checkout.slot).prune checkout.key).2)
    (follows_panic (Store.mirrors_cancel mirrors) reason)

/-- A call about a candidate, which is destroyed if that panics. -/
theorem follows_consult (mirrors : Store.Mirrors config (some checkout) holdings isClosed store)
    {object : ω} {request : Request κ ω} (stage : Stage κ ω ε) (asks : stage.request = request)
    {courses : Response ω ε → Course κ ω (Result ω ε)}
    (rest : ∀ response, Follows config reply store holdings isClosed
      (fun pool => pool.resume stage response.answer) (courses response))
    (unwinds : ∀ (pool : Pool κ ω ε) reason, pool.resume stage (.panicked reason) =
      pool.destroyQuietly checkout.key object (.unwind checkout reason)) :
    Follows config reply store holdings isClosed (fun pool => pool.await stage)
      (consult reply checkout.key object request >>= courses) := by
  subst asks
  apply follows_answer stage (consult_bind reply checkout.key object stage.request courses) rest
  intro reason
  have hdestroyed : Follows config reply store holdings isClosed
      (fun pool => pool.destroyQuietly checkout.key object (.unwind checkout reason))
      (unwind reply checkout.key object reason) :=
    follows_destroyQuietly (follows_unwound mirrors reason) (follows_unwound mirrors)
  refine follows_of_eq ?_ hdestroyed
  intro pool _ _
  exact unwinds pool reason

/-- Handing out follows lending. -/
theorem follows_handOut (mirrors : Store.Mirrors config (some checkout) holdings isClosed store)
    (object : ω) :
    Follows config reply store holdings isClosed (fun pool => pool.handOut checkout (some object))
      (lend checkout.key object) := by
  apply follows_look
  exact follows_hold (fun store => store.commit checkout.slot)
    (follows_count .borrowed (follows_finish (Store.mirrors_commit mirrors) (.lent object)))

/-- A borrow that discards a candidate and goes on. -/
theorem follows_discard (mirrors : Store.Mirrors config (some checkout) holdings isClosed store)
    {origin : Origin} {otherwise : Course κ ω (Result ω ε)}
    (rest : Follows config reply store holdings isClosed
      (fun pool => pool.tryNext checkout origin) otherwise) (object : ω) :
    Follows config reply store holdings isClosed
      (fun pool => pool.discard checkout origin object)
      (decide reply checkout.key otherwise (.error object)) := by
  have hdestroy : Follows config reply store holdings isClosed
      (fun pool => pool.destroyQuietly checkout.key object (.nextCandidate checkout origin))
      (destroy reply checkout.key object >>= fun _ => otherwise) :=
    follows_destroyQuietly rest (follows_unwound mirrors)
  cases origin with
  | idle => exact hdestroy
  | fresh attempt => exact follows_note (.preparationFailed checkout.key attempt) hdestroy

section candidate

variable (mirrors : Store.Mirrors config (some checkout) holdings isClosed store)
  {origin : Origin} {otherwise : Course κ ω (Result ω ε)}
  (rest : Follows config reply store holdings isClosed
    (fun pool => pool.tryNext checkout origin) otherwise)
include mirrors rest

/-- A candidate that has been activated. -/
theorem follows_inspect (object : ω) :
    Follows config reply store holdings isClosed
      (fun pool => pool.afterActivation checkout origin object)
      (inspect config reply checkout.key object >>= decide reply checkout.key otherwise) := by
  have hlent : Follows config reply store holdings isClosed
      (fun pool => pool.handOut checkout (some object)) (lend checkout.key object) :=
    follows_handOut mirrors object
  have hdiscarded := follows_discard mirrors rest object
  unfold inspect
  cases htest : config.testOnBorrow with
  | false =>
    refine follows_of_eq ?_ hlent
    rintro pool rfl -
    simp [Pool.afterActivation, htest]
  | true =>
    have hasked : Follows config reply store holdings isClosed
        (fun pool => pool.await (.validating checkout origin object))
        (consult reply checkout.key object (.validate checkout.key object) >>= fun response =>
          judge object response >>= decide reply checkout.key otherwise) := by
      refine follows_consult mirrors (.validating checkout origin object) rfl ?_ fun _ _ => rfl
      intro response
      cases response with
      | done _ => exact hlent
      | refused _ =>
        exact follows_count .validationFailures
          (follows_note (.validationRejected checkout.key) hdiscarded)
      | failed error =>
        exact follows_count .validationFailures
          (follows_note (.validationFailed checkout.key error) hdiscarded)
    simp only [if_true, bind_assoc]
    refine follows_of_eq ?_ hasked
    rintro pool rfl -
    simp [Pool.afterActivation, htest]

/-- A candidate is lent, or discarded and the borrow goes on. -/
theorem follows_lendOr (object : ω) :
    Follows config reply store holdings isClosed
      (fun pool => pool.await (.activating checkout origin object))
      (lendOr config reply checkout.key object otherwise) := by
  have hinspected := fun object : ω => follows_inspect mirrors rest object
  unfold lendOr prepare
  rw [bind_assoc]
  refine follows_consult mirrors (.activating checkout origin object) rfl ?_ fun _ _ => rfl
  intro response
  cases response with
  | done object => exact hinspected object
  | refused object => exact hinspected object
  | failed error =>
    exact follows_count .activationFailures
      (follows_note (.activationFailed checkout.key error) (follows_discard mirrors rest object))

end candidate

/-- A borrow tries fresh resources until its attempts are used up. -/
theorem follows_tryFresh (mirrors : Store.Mirrors config (some checkout) holdings isClosed store)
    (left attempt : Nat) (attempts : attempt + left = config.attempts + 1) :
    Follows config reply store holdings isClosed (fun pool => pool.tryFresh checkout attempt)
      (tryFresh config reply checkout.key left) := by
  induction left generalizing attempt with
  | zero =>
    refine follows_of_eq ?_ (follows_abandon mirrors (.failed .exhausted))
    rintro pool rfl -
    have hused : ¬attempt ≤ pool.config.attempts := by omega
    simp [Pool.tryFresh, hused, Pool.fail]
  | succ left ih =>
    have hasked : Follows config reply store holdings isClosed
        (fun pool => pool.await (.creating checkout attempt))
        (tryFresh config reply checkout.key (left + 1)) := by
      have hnext : Follows config reply store holdings isClosed
          (fun pool => pool.tryNext checkout (.fresh attempt))
          (tryFresh config reply checkout.key left) := ih (attempt + 1) (by omega)
      have hcandidate := fun object : ω => follows_count .created
        (follows_note (.created checkout.key) (follows_lendOr mirrors hnext object))
      refine follows_ask (.creating checkout attempt) ?_ (follows_unwound mirrors)
      intro response
      cases response with
      | done object => exact hcandidate object
      | refused object => exact hcandidate object
      | failed error => exact follows_abandon mirrors (.failed (.factory error))
    refine follows_of_eq ?_ hasked
    rintro pool rfl -
    have hleft : attempt ≤ pool.config.attempts := by omega
    simp [Pool.tryFresh, hleft]

/-- A borrow tries the idle resources in the order of the selection. -/
theorem follows_tryIdle (mirrors : Store.Mirrors config (some checkout) holdings isClosed store)
    {candidates : List ω}
    (candidates_eq : config.selection.arrange (holdings checkout.key).idle = candidates) :
    Follows config reply store holdings isClosed (fun pool => pool.tryIdle checkout)
      (tryIdle config reply checkout.key candidates) := by
  induction candidates generalizing store holdings with
  | nil =>
    have hfresh : Follows config reply store holdings isClosed
        (fun pool => pool.tryFresh checkout 1)
        (tryFresh config reply checkout.key config.attempts) :=
      follows_tryFresh mirrors config.attempts 1 (by omega)
    refine follows_of_eq ?_ hfresh
    rintro pool - rfl
    simp [Pool.tryIdle, Store.take_of_none mirrors candidates_eq]
  | cons object rest ih =>
    obtain ⟨next, htake, hnext⟩ := Store.mirrors_take mirrors candidates_eq
    have harranged : config.selection.arrange ((Function.update holdings checkout.key
        { holdings checkout.key with idle := config.selection.arrange rest })
          checkout.key).idle = rest := by
      rw [Function.update_self, Store.arrange_arrange]
    have hothers : Follows config reply next _ isClosed
        (fun pool => pool.tryNext checkout .idle) (tryIdle config reply checkout.key rest) :=
      ih hnext harranged
    have htried := follows_lendOr hnext hothers object
    apply follows_look
    refine follows_of_eq ?_ (follows_hold (fun _ => next) htried)
    rintro pool - rfl
    simp [Pool.tryIdle, htake]

/-- **A borrow.** -/
theorem follows_borrow (mirrors : Store.Mirrors config none holdings isClosed store) (key : κ) :
    Follows config reply store holdings isClosed (fun pool => pool.borrow key)
      (borrow config reply key) := by
  apply follows_look
  have hsealed := mirrors.isSealed_eq
  cases isClosed with
  | true =>
    refine follows_of_eq ?_ (follows_finish mirrors (.failed .closed))
    rintro pool - rfl
    exact pool.borrow_of_closed hsealed key
  | false =>
    rcases Store.mirrors_reserve mirrors key config.activeLimit with
      ⟨hfull, next, hreserve, hnext⟩ | ⟨hroom, slot, next, hreserve, hnext⟩
    · have hrefused : Follows config reply store holdings false
          (fun pool =>
            (({ pool with store := next } : Pool κ ω ε).count .refusals).fail .atCapacity)
          (do count .refusals; return .failed .atCapacity) :=
        follows_store (fun _ => next) (follows_count .refusals (follows_finish hnext _))
      simp only [Bool.false_eq_true, if_false, hfull, if_true]
      refine follows_of_eq ?_ hrefused
      rintro pool rfl rfl
      have hopen : pool.isClosed = false := hsealed
      simp [Pool.borrow, hopen, hreserve]
    · have htried : Follows config reply store holdings false
          (fun pool => ({ pool with store := next } : Pool κ ω ε).tryIdle ⟨key, slot⟩)
          (tryIdle config reply key (config.selection.arrange (holdings key).idle)) :=
        follows_store (fun _ => next) (follows_tryIdle hnext rfl)
      simp only [Bool.false_eq_true, if_false, hroom]
      refine follows_of_eq ?_ htried
      rintro pool rfl rfl
      have hopen : pool.isClosed = false := hsealed
      simp [Pool.borrow, hopen, hreserve]

end borrow

/-! ## Taking back -/

section back

variable (mirrors : Store.Mirrors config none holdings isClosed store) {key : κ}
include mirrors

/-- The end of a loan, with whatever follows it. -/
theorem follows_endLoan {slot : SlotId} (hslot : store.find? key = some slot)
    {turn : Pool κ ω ε → Pool.Turn κ ω ε} {course : Course κ ω (Result ω ε)}
    (rest : ∀ next holdings', Store.Mirrors config none holdings' isClosed next →
      Follows config reply next holdings' isClosed turn course) :
    Follows config reply store holdings isClosed (fun pool => turn (pool.endLoan key slot))
      (endLoan key >>= fun _ => course) := by
  have hends := follows_hold (fun store => ((store.release slot).prune key).2)
    (rest _ _ (Store.mirrors_release mirrors hslot))
  unfold endLoan
  rw [bind_assoc]
  apply follows_look
  exact hends

/-- A resource that comes back under a key with nothing on loan. -/
theorem follows_rejectUnborrowed (object : ω) :
    Follows config reply store holdings isClosed (fun pool => pool.rejectUnborrowed key object)
      (do
        let _ ← destroy reply key object
        return .failed .notBorrowed) :=
  follows_note (.returnedUnborrowed key)
    (follows_destroyQuietly (follows_finish mirrors (.failed .notBorrowed)) (follows_panic mirrors))

/-- A destroy whose failure is the result. -/
theorem follows_surface (object : ω) :
    Follows config reply store holdings isClosed (fun pool => pool.destroy key object .surface)
      (do return surface (← destroy reply key object)) := by
  refine follows_destroy ?_ (follows_panic mirrors)
  intro error?
  cases error? with
  | none => exact follows_finish mirrors .done
  | some error => exact follows_finish mirrors (.failed (.factory error))

/-- A loan ends on both sides, and the resource is destroyed. -/
theorem follows_scrap {slot : SlotId} (hslot : store.find? key = some slot) (object : ω) :
    Follows config reply store holdings isClosed (fun pool => pool.scrap key slot object)
      (scrap reply key object) :=
  follows_endLoan mirrors hslot fun _ _ hnext => follows_surface hnext object

/-- A resource that has been passivated is kept, or destroyed for lack of room. -/
theorem follows_settle (isOpen : isClosed = false) {slot : SlotId}
    (hslot : store.find? key = some slot) (loaned : (holdings key).active ≠ 0) (object : ω) :
    Follows config reply store holdings isClosed (fun pool => pool.settle key slot object)
      (putBack config reply key object) := by
  apply follows_look
  rcases Store.mirrors_checkIn mirrors isOpen hslot loaned object with
    ⟨hfull, next, hcheckIn, hnext⟩ | ⟨hroom, next, hcheckIn, hnext⟩
  · have hdestroyed : Follows config reply store holdings isClosed
        (fun pool => ({ pool with store := (next.prune key).2 } : Pool κ ω ε).destroyQuietly key
          object (.conclude .done))
        (endLoan key >>= fun _ => destroy reply key object >>= fun _ => pure .done) := by
      unfold endLoan
      rw [bind_assoc]
      apply follows_look
      exact follows_hold (fun _ => (next.prune key).2)
        (follows_destroyQuietly (follows_finish hnext .done) (follows_panic hnext))
    simp only [hfull, if_true]
    refine follows_of_eq ?_ hdestroyed
    rintro pool - rfl
    simp [Pool.settle, hcheckIn]
  · have hkept : Follows config reply store holdings isClosed
        (fun pool => (({ pool with store := next } : Pool κ ω ε).count .returned).finish .done)
        (do
          hold key ⟨object :: (holdings key).idle, (holdings key).active - 1⟩
          count .returned
          return .done) :=
      follows_hold (fun _ => next) (follows_count .returned (follows_finish hnext .done))
    simp only [hroom, Bool.false_eq_true, if_false]
    refine follows_of_eq ?_ hkept
    rintro pool - rfl
    simp [Pool.settle, hcheckIn]

/-- A return that passivates its resource. -/
theorem follows_keep (isOpen : isClosed = false) {slot : SlotId}
    (hslot : store.find? key = some slot) (loaned : (holdings key).active ≠ 0) (object : ω) :
    Follows config reply store holdings isClosed
      (fun pool => pool.await (.passivating key slot object)) (keep config reply key object) := by
  refine follows_ask (.passivating key slot object) ?_ (follows_panic mirrors)
  intro response
  cases response with
  | done object => exact follows_settle mirrors isOpen hslot loaned object
  | refused object => exact follows_settle mirrors isOpen hslot loaned object
  | failed error =>
    exact follows_count .passivationFailures
      (follows_note (.passivationFailed key error) (follows_scrap mirrors hslot object))

/-- A return that validates its resource first. -/
theorem follows_keepValid (isOpen : isClosed = false) {slot : SlotId}
    (hslot : store.find? key = some slot) (loaned : (holdings key).active ≠ 0) (object : ω) :
    Follows config reply store holdings isClosed
      (fun pool => pool.await (.inspecting key slot object))
      (keepValid config reply key object) := by
  refine follows_ask (.inspecting key slot object) ?_ (follows_panic mirrors)
  intro response
  have hscrapped : Follows config reply store holdings isClosed
      (fun pool => pool.scrap key slot object) (scrap reply key object) :=
    follows_scrap mirrors hslot object
  cases response with
  | done _ => exact follows_keep mirrors isOpen hslot loaned object
  | refused _ =>
    exact follows_count .validationFailures (follows_note (.validationRejected key) hscrapped)
  | failed error =>
    exact follows_count .validationFailures (follows_note (.validationFailed key error) hscrapped)

/-- **A return.** -/
theorem follows_giveBack (object : ω) :
    Follows config reply store holdings isClosed (fun pool => pool.giveBack key object)
      (giveBack config reply key object) := by
  apply follows_look
  by_cases hnone : (holdings key).active = 0
  · simp only [hnone, if_true]
    refine follows_of_eq ?_ (follows_rejectUnborrowed mirrors object)
    rintro pool - rfl
    exact pool.giveBack_of_unloaned ((mirrors.numActive_eq key).trans hnone) object
  · have hslot : ∃ slot, store.find? key = some slot := by
      apply Store.find?_of_live
      rw [mirrors.live_eq]
      exact Store.not_vacant (.inr (.inl (Nat.pos_of_ne_zero hnone)))
    obtain ⟨slot, hslot⟩ := hslot
    have hgiveBack : ∀ pool : Pool κ ω ε, pool.config = config → pool.store = store →
        pool.giveBack key object =
          if isClosed then (pool.endLoan key slot).destroyQuietly key object (.conclude .done)
          else if config.testOnReturn then pool.await (.inspecting key slot object)
          else pool.await (.passivating key slot object) := by
      rintro pool rfl rfl
      have hloaned : pool.numActive key ≠ 0 := by
        unfold Pool.numActive
        rwa [mirrors.numActive_eq]
      obtain ⟨found, hfound, heq⟩ := pool.giveBack_of_loaned hloaned object
      cases hslot.symm.trans hfound
      rw [heq, show pool.isClosed = isClosed from mirrors.isSealed_eq]
    refine follows_of_eq hgiveBack ?_
    cases isClosed with
    | true =>
      simp only [hnone, if_false, if_true]
      exact follows_endLoan mirrors hslot fun _ _ hnext =>
        follows_destroyQuietly (follows_finish hnext .done) (follows_panic hnext)
    | false =>
      cases htest : config.testOnReturn with
      | true =>
        simp only [hnone, if_false, if_true, Bool.false_eq_true]
        exact follows_keepValid mirrors rfl hslot hnone object
      | false =>
        simp only [hnone, if_false, Bool.false_eq_true]
        exact follows_keep mirrors rfl hslot hnone object

/-- A destroy whose failure is the result if the pool is open by then. -/
theorem follows_surfaceIfOpen (object : ω) :
    Follows config reply store holdings isClosed
      (fun pool => pool.destroy key object .surfaceIfOpen)
      (destroy reply key object >>= surfaceIfOpen key) := by
  refine follows_destroy ?_ (follows_panic mirrors)
  intro error?
  apply follows_look
  have hsealed := mirrors.isSealed_eq
  cases error? with
  | none => cases isClosed <;> exact follows_finish mirrors .done
  | some error =>
    cases isClosed with
    | true =>
      refine follows_of_eq ?_
        (follows_note (.destroyFailedClosed key error) (follows_finish mirrors .done))
      rintro pool - rfl
      have hclosed : pool.isClosed = true := hsealed
      simp [afterDestroy, Pool.afterDestroyFailure, hclosed]
    | false =>
      refine follows_of_eq ?_ (follows_finish mirrors (.failed (.factory error)))
      rintro pool - rfl
      have hopen : pool.isClosed = false := hsealed
      simp [afterDestroy, Pool.afterDestroyFailure, hopen, Pool.fail]

/-- **An invalidation.** -/
theorem follows_invalidate (object : ω) :
    Follows config reply store holdings isClosed (fun pool => pool.invalidate key object)
      (invalidate reply key object) := by
  have hdestroyed : ∀ next holdings', Store.Mirrors config none holdings' isClosed next →
      Follows config reply next holdings' isClosed
        (fun pool => pool.destroy key object .surfaceIfOpen)
        (destroy reply key object >>= surfaceIfOpen key) :=
    fun _ _ hnext => follows_surfaceIfOpen hnext object
  cases hfind : store.find? key with
  | some slot =>
    refine follows_of_eq ?_ (follows_endLoan mirrors hfind hdestroyed)
    rintro pool - rfl
    simp [Pool.invalidate, hfind]
  | none =>
    -- without a slot there is no loan to end
    have hnone : (holdings key).active - 1 = (holdings key).active := by
      rw [← mirrors.numActive_eq]
      simp [Store.numActive, hfind]
    have hsame : Store.Mirrors config none (Function.update holdings key
        { holdings key with active := (holdings key).active - 1 }) isClosed store := by
      rw [hnone, Function.update_eq_self]
      exact mirrors
    have hends := follows_hold (fun store => store) (hdestroyed store _ hsame)
    unfold invalidate endLoan
    rw [bind_assoc]
    apply follows_look
    refine follows_of_eq ?_ hends
    rintro pool - rfl
    simp [Pool.invalidate, hfind]

end back

/-! ## Adding -/

section adding

section addition

variable (mirrors : Store.Mirrors config none holdings isClosed store) (isOpen : isClosed = false)
  {key : κ} {left : Nat} {others : Course κ ω (Result ω ε)}
  (rest : ∀ next holdings', Store.Mirrors config none holdings' isClosed next →
    Follows config reply next holdings' isClosed (fun pool => pool.addMore key left) others)
include mirrors isOpen rest

/-- What is left of an addition after its resource has been passivated. -/
theorem follows_park (object : ω) :
    Follows config reply store holdings isClosed (fun pool => pool.park key left object)
      (stow config reply key object >>= fun _ => others) := by
  unfold stow
  rw [bind_assoc]
  apply follows_look
  rcases Store.mirrors_deposit mirrors isOpen key object with
    ⟨hfull, next, hdeposit, hnext⟩ | ⟨hroom, next, hdeposit, hnext⟩
  · have hdestroyed : Follows config reply store holdings isClosed
        (fun pool =>
          (({ pool with store := next } : Pool κ ω ε).note (.idleFull key)).destroyQuietly
            key object (.addMore left))
        (destroy reply key object >>= fun _ => others) :=
      follows_store (fun _ => next) (follows_note (.idleFull key)
        (follows_destroyQuietly (rest next holdings hnext) (follows_panic hnext)))
    simp only [hfull, if_true, bind_assoc]
    refine follows_of_eq ?_ hdestroyed
    rintro pool - rfl
    simp [Pool.park, hdeposit]
  · simp only [hroom, Bool.false_eq_true, if_false]
    refine follows_of_eq ?_ (follows_hold (fun _ => next) (rest next _ hnext))
    rintro pool - rfl
    simp [Pool.park, hdeposit]

/-- An addition that passivates its resource. -/
theorem follows_stowOr (object : ω) :
    Follows config reply store holdings isClosed
      (fun pool => pool.await (.parking key left object))
      (stowOr config reply key object others) := by
  have hparked := fun object : ω => follows_park mirrors isOpen rest object
  refine follows_ask (.parking key left object) ?_ (follows_panic mirrors)
  intro response
  cases response with
  | done object => exact hparked object
  | refused object => exact hparked object
  | failed error =>
    exact follows_count .passivationFailures
      (follows_destroyQuietly (follows_finish mirrors (.failed (.factory error)))
        (follows_panic mirrors))

end addition

/-- **An addition of any number of resources.** -/
theorem follows_prefill (mirrors : Store.Mirrors config none holdings isClosed store) (key : κ)
    (left : Nat) :
    Follows config reply store holdings isClosed (fun pool => pool.addMore key left)
      (prefill config reply key left) := by
  induction left generalizing store holdings with
  | zero => exact follows_finish mirrors .done
  | succ left ih =>
    apply follows_look
    have hsealed := mirrors.isSealed_eq
    cases isClosed with
    | true =>
      refine follows_of_eq ?_ (follows_finish mirrors (.failed .closed))
      rintro pool - rfl
      exact pool.addMore_of_closed hsealed key left
    | false =>
      have hstowed := fun object : ω => follows_count .created (follows_note (.created key)
        (follows_stowOr mirrors rfl (fun next holdings' hnext => ih hnext) object))
      have hmade : Follows config reply store holdings false
          (fun pool => pool.await (.making key left))
          (create reply key fun object =>
            stowOr config reply key object (prefill config reply key left)) := by
        refine follows_ask (.making key left) ?_ (follows_panic mirrors)
        intro response
        cases response with
        | done object => exact hstowed object
        | refused object => exact hstowed object
        | failed error => exact follows_finish mirrors (.failed (.factory error))
      refine follows_of_eq ?_ hmade
      rintro pool - rfl
      have hopen : pool.isClosed = false := hsealed
      simp [Pool.addMore, hopen]

end adding

/-! ## Clearing and closing -/

/-- Destroying one after another follows the recursion, by induction on the resources. -/
theorem follows_sweep (mirrors : Store.Mirrors config none holdings isClosed store)
    (objects : List (κ × ω)) (result : Result ω ε) :
    Follows config reply store holdings isClosed (fun pool => pool.sweep objects result)
      (destroyAll reply objects >>= fun _ => return result) := by
  induction objects with
  | nil => exact follows_finish mirrors result
  | cons entry rest ih =>
    unfold destroyAll
    rw [bind_assoc]
    exact follows_destroyQuietly ih (follows_panic mirrors)

/-- **Clearing one key.** -/
theorem follows_clearKey (mirrors : Store.Mirrors config none holdings isClosed store) (key : κ) :
    Follows config reply store holdings isClosed (fun pool => pool.clearKey key)
      (clearKey reply key) := by
  obtain ⟨hobjects, hnext⟩ := Store.mirrors_drain mirrors key
  apply follows_look
  refine follows_of_notes ?_ (follows_hold (fun store => (store.drain key).2)
    (follows_sweep hnext ((holdings key).idle.reverse.map fun object => (key, object)) .done))
  rintro pool - rfl
  rw [← hobjects]
  exact pool.clearKey_eq key

/-- An order in which all keys with idle resources can be emptied. -/
def Lists (holdings : κ → Holding ω) (order : List κ) : Prop :=
  order.Nodup ∧ ∀ key, key ∈ order ↔ (holdings key).idle ≠ []

/-- **Clearing all keys**, in the order of the store. -/
theorem follows_clear (mirrors : Store.Mirrors config none holdings isClosed store) :
    ∃ order, Lists holdings order ∧
      Follows config reply store holdings isClosed (fun pool => pool.clear .done)
        (clear reply order) := by
  obtain ⟨order, hnodup, hlists, hobjects, hnext⟩ := Store.mirrors_drainAll mirrors
  refine ⟨order, ⟨hnodup, hlists⟩, ?_⟩
  unfold clear
  refine follows_of_notes ?_ (follows_takeOut (fun store => store.drainAll.2)
    (follows_sweep hnext (listed holdings order) .done))
  rintro pool - rfl
  rw [← hobjects]
  exact pool.clear_eq .done

/-- **Closing.** -/
theorem follows_close (mirrors : Store.Mirrors config none holdings isClosed store) :
    ∃ order, Lists holdings order ∧
      Follows config reply store holdings isClosed (fun pool => pool.close .done)
        (close reply order) := by
  obtain ⟨order, hlists, hcleared⟩ : ∃ order, Lists holdings order ∧
      Follows config reply store.sealUp.2 holdings true (fun pool => pool.clear .done)
        (clear reply order) := follows_clear (Store.mirrors_sealUp mirrors)
  refine ⟨order, hlists, ?_⟩
  have hsealed := mirrors.isSealed_eq
  cases isClosed with
  | true =>
    refine follows_of_eq ?_ (follows_shut (fun store => store) (follows_finish mirrors .done))
    rintro pool - rfl
    exact pool.close_of_closed hsealed .done
  | false =>
    have hnoted := follows_note (.closing store.sealUp.2.totalActive) hcleared
    refine follows_of_eq ?_ (follows_shut (fun store => store.sealUp.2) hnoted)
    rintro pool - rfl
    simp [Pool.close, Store.sealUp, hsealed]

/-- **Every operation of a pool is one of the plain pool**, with the keys emptied in the same
order. -/
theorem follows_run (mirrors : Store.Mirrors config none holdings isClosed store)
    (operation : Operation κ ω) :
    ∃ order, Lists holdings order ∧
      Follows config reply store holdings isClosed (fun pool => pool.start operation)
        (run config reply order operation) := by
  have hsome : ∃ order : List κ, Lists holdings order := by
    obtain ⟨order, hnodup, hlists, -, -⟩ := Store.mirrors_drainAll mirrors
    exact ⟨order, hnodup, hlists⟩
  obtain ⟨order, hlists⟩ := hsome
  cases operation with
  | borrow key => exact ⟨order, hlists, follows_borrow mirrors key⟩
  | giveBack key object => exact ⟨order, hlists, follows_giveBack mirrors object⟩
  | invalidate key object => exact ⟨order, hlists, follows_invalidate mirrors object⟩
  | prefill key count => exact ⟨order, hlists, follows_prefill mirrors key count⟩
  | clearKey key => exact ⟨order, hlists, follows_clearKey mirrors key⟩
  | clear => exact follows_clear mirrors
  | close => exact follows_close mirrors

end operations

end PlainPool

end ResourcePool
